import Locator.Yaml.Scalar

/-!
# Nodes of a document

A YAML document as a tree of nodes, read by recursive descent: blocks by their indentation, flow
collections by their brackets. Anchors are replaced by what they name.

* `Node.ofString?` reads a document; it is `none` for a text that is not one YAML document.

A node that can be a key begins and ends on one line, before a colon, and no further than 1024
characters away from it. It can only begin where the line, or an indicator before it, allows a key.
-/

namespace Locator.Yaml

/-- A node of a document. -/
inductive Node where
  /-- A text, and whether it was written without quotes. -/
  | scalar (tag? : Option String) (isPlain : Bool) (text : String)
  /-- A list of nodes. -/
  | list (tag? : Option String) (items : List Node)
  /-- Nodes under nodes, in their order. -/
  | map (tag? : Option String) (entries : List (Node × Node))
deriving Inhabited

namespace Node

/-- What stands where nothing is written. -/
def empty : Node := .scalar none true ""

/-- The node with a tag. -/
def withTag (tag? : Option String) : Node → Node
  | .scalar old isPlain text => .scalar (tag?.or old) isPlain text
  | .list old items => .list (tag?.or old) items
  | .map old entries => .map (tag?.or old) entries

end Node

/-! ## Reading -/

/-- What is left of a document, and what is known about it. -/
structure Feed where
  /-- What is left. -/
  marks : List Mark
  /-- A key may begin here. -/
  keyAllowed : Bool
  /-- The nodes that have names. -/
  anchors : List (String × Node)

/-- A way to read a part of a document. -/
abbrev Read (α : Type) : Type := StateT Feed Option α

namespace Read

/-- What is left of the document. -/
def rest : Read (List Mark) := do pure (← get).marks

/-- Give up. -/
def malformed {α : Type} : Read α := failure

/-- Go on only if something holds. -/
def require (holds : Bool) : Read Unit := if holds then pure () else malformed

/-- Go on elsewhere. -/
def continueAt (ms : List Mark) : Read Unit := modify fun f => { f with marks := ms }

/-- Pass over a number of characters. -/
def skip (n : Nat) : Read Unit := modify fun f => { f with marks := f.marks.drop n }

/-- Say whether a key may begin here. -/
def allowKey (allowed : Bool) : Read Unit := modify fun f => { f with keyAllowed := allowed }

/-- Pass over blanks, breaks and comments. In a block, a tab is a blank only where no key may begin,
and a key may begin after a break. -/
def toToken (flow : Bool) : Bool → Bool → List Mark → Bool × List Mark
  | _, allowed, [] => (allowed, [])
  | comment, allowed, m :: r =>
    if isBreak m.char then toToken flow false (allowed || !flow) r
    else if comment then toToken flow true allowed r
    else if m.char = ' ' || (m.char = '\t' && (flow || !allowed)) then toToken flow false allowed r
    else if m.char = '#' then toToken flow true allowed r
    else (allowed, m :: r)

/-- Go on to the next token and look at it. -/
def token (flow : Bool) : Read (List Mark) := do
  let f ← get
  let (allowed, ms) := toToken flow false f.keyAllowed f.marks
  set { f with marks := ms, keyAllowed := allowed }
  pure ms

/-- Go on to the next token of a block; nothing is left where the document ends. -/
def blockToken : Read (List Mark) := do
  let ms ← token false
  pure (if atSeparator ms then [] else ms)

/-- Use what a scalar reader has taken. -/
def take (t : Option Taken) : Read (List Char) := do
  match t with
  | some (text, ms) =>
    continueAt ms
    pure text
  | none => malformed

/-! ### Properties -/

/-- A character of an anchor's name. -/
def isAnchorChar (c : Char) : Bool := c.isAlphanum || c = '_' || c = '-'

/-- The name after `&` or `*`. -/
def anchorName : Read String := do
  skip 1
  let ms ← rest
  let name := (chars ms).takeWhile isAnchorChar
  let after := ms.drop name.length
  let ends := match after with
    | m :: _ => blankFollows after || ['?', ':', ',', ']', '\x7d', '%', '@', '`'].contains m.char
    | [] => true
  require (!name.isEmpty && ends)
  continueAt after
  pure (String.ofList name)

/-- A character of a tag. -/
def isTagChar (flow : Bool) (c : Char) : Bool :=
  !(isSpace c || isBreak c || c = '\x7b' || c = '\x7d'
    || (flow && (c = ',' || c = '[' || c = ']')))

/-- A tag, with the common beginning of core tags written out. -/
def tagName (flow : Bool) : Read String := do
  let ms ← rest
  let raw := (chars ms).takeWhile (isTagChar flow)
  let after := ms.drop raw.length
  require (blankFollows after || flow)
  continueAt after
  match raw with
  | '!' :: '<' :: r =>
    require (r.getLast? = some '>')
    pure (String.ofList r.dropLast)
  | '!' :: '!' :: r =>
    require (!r.isEmpty)
    pure ("tag:yaml.org,2002:" ++ String.ofList r)
  | _ => pure (String.ofList raw)

/-- What can stand in front of a node. -/
structure Properties where
  /-- The name that the node is given. -/
  anchor? : Option String
  /-- The tag of the node. -/
  tag? : Option String

/-- There are no properties. -/
def Properties.isEmpty (p : Properties) : Bool := p.anchor?.isNone && p.tag?.isNone

/-- An anchor, a tag, or both in any order, on one line. -/
def properties (flow : Bool) : Nat → Properties → Read Properties
  | 0, p => pure p
  | count + 1, p => do
    let ms ← rest
    match ms with
    | m :: _ =>
      if m.char = '&' && p.anchor?.isNone then
        let name ← anchorName
        allowKey false
        continueAt ((← rest).dropWhile (isSpace ·.char))
        properties flow count { p with anchor? := some name }
      else if m.char = '!' && p.tag?.isNone then
        let tag ← tagName flow
        allowKey false
        continueAt ((← rest).dropWhile (isSpace ·.char))
        properties flow count { p with tag? := some tag }
      else pure p
    | [] => pure p

/-- Give a node its properties. -/
def finish (p : Properties) (n : Node) : Read Node := do
  let n := n.withTag p.tag?
  match p.anchor? with
  | some name => modify fun f => { f with anchors := (name, n) :: f.anchors }
  | none => pure ()
  pure n

/-- The node that an alias stands for. -/
def aliased : Read Node := do
  let name ← anchorName
  match (← get).anchors.find? (·.1 = name) with
  | some x => pure x.2
  | none => malformed

/-! ### Scalars -/

/-- A scalar on the way, as a node. -/
def scalarNode (isPlain : Bool) (cs : List Char) : Node := .scalar none isPlain (String.ofList cs)

/-- A scalar that is not a block, inside something that is indented by `indent`. -/
def inlineScalar (flow : Bool) (indent : Int) : Read Node := do
  let ms ← rest
  match ms with
  | [] => malformed
  | m :: r =>
    allowKey false
    if m.char = '"' then scalarNode false <$> take (doubleQuoted? 0 .none r)
    else if m.char = '\'' then scalarNode false <$> take (singleQuoted? .none r)
    else
      require (beginsPlain flow ms)
      match plain? flow (indent + 1) .none ms with
      | some (t, crossed) =>
        allowKey crossed
        scalarNode true <$> take (some t)
      | none => malformed

/-- A node that begins at one mark is a key before the colon at another. -/
def isKeyBefore (start colon : Mark) : Bool :=
  start.line = colon.line && colon.index ≤ start.index + 1024

/-! ### Flow collections -/

/-- A separator of flow collections comes next, or the end of one. -/
def atFlowEnd : List Mark → Bool
  | m :: _ => m.char = ',' || m.char = ']' || m.char = '\x7d'
  | [] => true

/-- Nothing is written in a flow collection before the next separator. -/
def nothingInFlow (ms : List Mark) : Bool :=
  atFlowEnd ms || (match ms with | m :: _ => m.char = ':' | [] => true)

mutual

/-- A node in a flow collection. -/
def flowNode : Nat → Read Node
  | 0 => malformed
  | fuel + 1 => do
    let _ ← token true
    let p ← properties true 2 ⟨none, none⟩
    let ms ← token true
    require (!atSeparator ms)
    match ms with
    | [] => malformed
    | m :: _ =>
      if m.char = '[' then
        skip 1
        finish p (.list none (← flowItems fuel true))
      else if m.char = '\x7b' then
        skip 1
        finish p (.map none (← flowEntries fuel true))
      else if m.char = '*' then
        require p.isEmpty
        aliased
      else if !p.isEmpty && nothingInFlow ms then finish p .empty
      else finish p (← inlineScalar true 0)

/-- The value after a key in a flow collection, if there is a colon. -/
def flowValue : Nat → Read Node
  | 0 => malformed
  | fuel + 1 => do
    let ms ← token true
    match ms with
    | m :: _ =>
      if m.char = ':' then
        skip 1
        let after ← token true
        if atFlowEnd after then pure .empty else flowNode fuel
      else pure .empty
    | [] => malformed

/-- A key in a flow collection: marked by a question mark, or any node. -/
def flowKey : Nat → Read (Node × Bool)
  | 0 => malformed
  | fuel + 1 => do
    let ms ← token true
    match ms with
    | [] => malformed
    | start :: _ =>
      if start.char = '?' then
        skip 1
        let after ← token true
        let key ← if nothingInFlow after then pure .empty else flowNode fuel
        pure (key, true)
      else
        let key ← flowNode fuel
        let after ← token true
        match after with
        | m :: _ => pure (key, m.char = ':' && isKeyBefore start m)
        | [] => malformed

/-- The items of a flow list up to its bracket. -/
def flowItems : Nat → Bool → Read (List Node)
  | 0, _ => malformed
  | fuel + 1, isFirst => do
    let ms ← token true
    match ms with
    | [] => malformed
    | m :: _ =>
      if m.char = ']' then
        skip 1
        pure []
      else
        if !isFirst then
          require (m.char = ',')
          skip 1
        let next ← token true
        match next with
        | n :: _ =>
          if !isFirst && n.char = ']' then
            skip 1
            pure []
          else
            let (key, isPair) ← flowKey fuel
            let item ← if isPair then do
                let value ← flowValue fuel
                pure (.map none [(key, value)])
              else pure key
            let others ← flowItems fuel false
            pure (item :: others)
        | [] => malformed

/-- The entries of a flow map up to its brace. -/
def flowEntries : Nat → Bool → Read (List (Node × Node))
  | 0, _ => malformed
  | fuel + 1, isFirst => do
    let ms ← token true
    match ms with
    | [] => malformed
    | m :: _ =>
      if m.char = '\x7d' then
        skip 1
        pure []
      else
        if !isFirst then
          require (m.char = ',')
          skip 1
        let next ← token true
        match next with
        | n :: _ =>
          if !isFirst && n.char = '\x7d' then
            skip 1
            pure []
          else
            let (key, isPair) ← flowKey fuel
            let value ← if isPair then flowValue fuel else pure .empty
            let others ← flowEntries fuel false
            pure ((key, value) :: others)
        | [] => malformed

end

/-! ### Blocks -/

/-- A node on one line: a flow collection, an alias, or a scalar that is not a block. -/
def inlineNode (fuel : Nat) (indent : Int) : Read Node := do
  let ms ← rest
  match ms with
  | [] => malformed
  | m :: _ =>
    if m.char = '[' || m.char = '\x7b' then
      let n ← flowNode fuel
      allowKey false
      pure n
    else if m.char = '*' then
      let n ← aliased
      allowKey false
      pure n
    else inlineScalar false indent

/-- The colon after a key that begins at a mark comes next. -/
def atColonAfter (start : Mark) (ms : List Mark) : Bool :=
  match ms with
  | m :: _ => atIndicator ':' ms && isKeyBefore start m
  | [] => false

mutual

/-- The node inside something that is indented by `indent`; `indentless` lists may stand at the
same column. -/
def blockNode : Nat → Int → Bool → Read Node
  | 0, _, _ => malformed
  | fuel + 1, indent, indentless => do
    let ms ← blockToken
    match ms with
    | [] => pure .empty
    | m :: _ =>
      let column : Int := m.column
      if atIndicator '-' ms then
        if column > indent then do
          require (← get).keyAllowed
          .list none <$> blockItems fuel m.column false
        else if indentless && column = indent then do
          require (← get).keyAllowed
          .list none <$> blockItems fuel m.column true
        else pure .empty
      else if column ≤ indent then pure .empty
      else if atIndicator '?' ms then do
        require (← get).keyAllowed
        .map none <$> blockEntries fuel m.column
      else blockContent fuel indent indentless m

/-- A node that begins at a mark and is neither a list nor a map with a marked key. -/
def blockContent : Nat → Int → Bool → Mark → Read Node
  | 0, _, _, _ => malformed
  | fuel + 1, indent, indentless, start => do
    let allowed := (← get).keyAllowed
    let p ← properties false 2 ⟨none, none⟩
    let ms ← blockToken
    let onStartLine := match ms with
      | m :: _ => m.line = start.line
      | [] => false
    if !p.isEmpty && !onStartLine then finish p (← blockNode fuel indent indentless)
    else
      match ms with
      | [] => malformed
      | m :: r =>
        if m.char = '|' || m.char = '>' then
          let text ← take (block? (m.char = '|') indent r)
          allowKey true
          finish p (scalarNode false text)
        else
          let isEmptyKey := !p.isEmpty && atIndicator ':' ms
          let inner ← if isEmptyKey then pure .empty else inlineNode fuel indent
          require (!(m.char = '*' && !p.isEmpty))
          let node ← if m.char = '*' then pure inner else finish p inner
          let after ← blockToken
          if atColonAfter start after then
            require allowed
            let value ← blockValue fuel start.column
            let others ← blockEntries fuel start.column
            pure (.map none ((node, value) :: others))
          else pure node

/-- The value after the colon of a key in a map at a column. -/
def blockValue : Nat → Nat → Read Node
  | 0, _ => malformed
  | fuel + 1, column => do
    skip 1
    allowKey false
    blockNode fuel column true

/-- The entries of a map at a column, as far as they are left. -/
def blockEntries : Nat → Nat → Read (List (Node × Node))
  | 0, _ => malformed
  | fuel + 1, column => do
    let ms ← blockToken
    match ms with
    | [] => pure []
    | start :: _ =>
      if start.column < column then pure []
      else
        require (start.column = column && !atIndicator '-' ms)
        require (← get).keyAllowed
        let entry ← if atIndicator '?' ms then do
            skip 1
            allowKey true
            let key ← blockNode fuel column true
            let after ← blockToken
            match after with
            | m :: _ =>
              if atIndicator ':' after && m.column = column then
                skip 1
                allowKey true
                pure (key, ← blockNode fuel column true)
              else pure (key, .empty)
            | [] => pure (key, .empty)
          else do
            let p ← properties false 2 ⟨none, none⟩
            let ms ← blockToken
            let inner ←
              if !p.isEmpty && atIndicator ':' ms then pure .empty else inlineNode fuel column
            let key ← finish p inner
            let after ← blockToken
            require (atColonAfter start after)
            pure (key, ← blockValue fuel column)
        let others ← blockEntries fuel column
        pure (entry :: others)

/-- The items of a list at a column, as far as they are left. -/
def blockItems : Nat → Nat → Bool → Read (List Node)
  | 0, _, _ => malformed
  | fuel + 1, column, indentless => do
    let ms ← blockToken
    match ms with
    | [] => pure []
    | m :: _ =>
      if m.column < column then pure []
      else if m.column = column && atIndicator '-' ms then do
        require (← get).keyAllowed
        skip 1
        allowKey true
        let item ← blockNode fuel column false
        let others ← blockItems fuel column indentless
        pure (item :: others)
      else
        require (indentless && m.column = column)
        pure []

end

/-! ### Documents -/

/-- A directive in front of a document says which version of the language it is written in. -/
def isVersionLine (line : List Char) : Bool :=
  let words := (line.splitOnP fun c => isSpace c || isBreak c).filter (!·.isEmpty)
  match words.map String.ofList with
  | "%YAML" :: version :: more =>
    version.toList.take 2 = ['1', '.'] && (more.isEmpty || more.head? = some "#")
  | _ => false

/-- Pass over the directives in front of a document; says whether there are any. -/
def directives : Nat → Read Bool
  | 0 => pure false
  | fuel + 1 => do
    let ms ← token false
    match ms with
    | m :: _ =>
      if m.char = '%' && m.column = 0 then
        require (isVersionLine ((chars ms).takeWhile (!isBreak ·)))
        continueAt (ms.dropWhile fun x => !isBreak x.char)
        let _ ← directives fuel
        pure true
      else pure false
    | [] => pure false

/-- The one document of a text. -/
def document : Read Node := do
  let fuel := 8 * (← rest).length + 8
  let directed ← directives fuel
  let ms ← token false
  if atMarker "---" ms then
    skip 3
    allowKey false
  else require (!directed && !atMarker "..." ms)
  let node ← blockNode fuel (-1) false
  let after ← token false
  if atMarker "..." after then skip 3
  let left ← token false
  require left.isEmpty
  pure node

end Read

/-- The one document that a text holds. -/
def Node.ofString? (s : String) : Option Node := do
  let ms ← marks? s
  let (node, _) ← Read.document.run ⟨ms, true, []⟩
  pure node

end Locator.Yaml
