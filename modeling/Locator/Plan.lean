import Locator.Environment

/-!
# Bootstrap plans

A plan says what a bootstrap needs to know: where the repository is, which adapter factory wraps it,
under which attribute it is to be published, and the environment to connect with. `Plan.ofSource`
reads a plan from a parameter source. It asks once for each listed name, in order; of the answers for
a name the last one counts that is a value, and a name that never gets a value is absent.
-/

namespace Locator

/-- The capability that remote repositories provide, by its full name. -/
def remoteRepositoryTypeName : String := "repository_locator_sdk::RemoteRepository"

/-- The capability that local repositories provide, by its full name. -/
def repositoryTypeName : String := "repository_locator_sdk::Repository"

/-- The adapter factory that is used unless another one is named. -/
def defaultFactory : String := "repository_locator::ClientAdapterFactory"

/-- A full name with path separators in place of its double colons. -/
def pathOfTypeName : List Char → List Char
  | ':' :: ':' :: r => '/' :: pathOfTypeName r
  | c :: r => c :: pathOfTypeName r
  | [] => []

/-- The location that is looked up unless another one is named. -/
def defaultLocation : String :=
  "//localhost/" ++ String.ofList (pathOfTypeName remoteRepositoryTypeName.toList)

/-- The attribute that is published unless another one is named. -/
def defaultAttribute : String := repositoryTypeName

/-- What a bootstrap needs to know. -/
structure Plan where
  /-- Where the repository is found. -/
  location : String
  /-- The adapter factory that wraps it. -/
  factory : String
  /-- The attribute to publish it under, if one is named. -/
  attribute? : Option String
  /-- What the naming service gets to see. -/
  environment : Environment
deriving DecidableEq

/-- The parameters read so far, by where they belong. -/
structure Gathered where
  /-- The location, if one was given. -/
  location? : Option String
  /-- The adapter factory, if one was given. -/
  factory? : Option String
  /-- The attribute, if one was given. -/
  attribute? : Option String
  /-- The entries under all other names. -/
  environment : Environment

namespace Gathered

/-- Nothing read yet. -/
def none : Gathered := ⟨.none, .none, .none, .empty⟩

/-- Take in one parameter. -/
def add (g : Gathered) (name value : String) : Gathered :=
  if name = locationKey then { g with location? := some value }
  else if name = factoryKey then { g with factory? := some value }
  else if name = attributeKey then { g with attribute? := some value }
  else { g with environment := (g.environment.insert name value).2 }

/-- Take in the answer for a name, if there is one. -/
def addAnswer (g : Gathered) (name : String) : Option String → Gathered
  | .none => g
  | some value => g.add name value

/-- Fill what was not given with its default. -/
def toPlan (g : Gathered) : Plan where
  location := g.location?.getD defaultLocation
  factory := g.factory?.getD defaultFactory
  attribute? := g.attribute?
  environment := g.environment

end Gathered

namespace Plan

/-- Ask for names in order and take in the answers. -/
def gather {σ : Type} (ask : String → StateM σ (Option String)) :
    List String → Gathered → StateM σ Gathered
  | [], g => pure g
  | name :: rest, g => do
    let answer ← ask name
    gather ask rest (g.addAnswer name answer)

/-- The plan that a parameter source describes. -/
def ofSource {σ : Type} (source : ParameterSource σ) : StateM σ Plan := do
  let names ← source.listed
  let g ← gather source.ask names .none
  pure g.toPlan

/-- The plan that a set of parameters describes. -/
def ofParameters (p : Parameters) : Plan := (ofSource (.ofParameters p) : StateM Unit Plan).run () |>.1

/-- Asking for one more name: the rest is asked in the state that the answer leaves. -/
theorem gather_cons {σ : Type} (ask : String → StateM σ (Option String)) (name : String)
    (rest : List String) (g : Gathered) (s : σ) :
    gather ask (name :: rest) g s = gather ask rest (g.addAnswer name (ask name s).1) (ask name s).2 :=
  rfl

/-- A plan is what was gathered from the listed names, with defaults for the rest. -/
theorem ofSource_apply {σ : Type} (source : ParameterSource σ) (s : σ) :
    ofSource source s =
      ((gather source.ask (source.listed s).1 .none (source.listed s).2).1.toPlan,
        (gather source.ask (source.listed s).1 .none (source.listed s).2).2) :=
  rfl

/-- The attribute to publish under. -/
def attributeName (plan : Plan) : String := plan.attribute?.getD defaultAttribute

instance : Display Plan := ⟨fun plan =>
  .record "LocatorConfig"
    [("location", .text plan.location), ("factory_class_name", .text plan.factory),
      ("repository_attribute", .optionText plan.attribute?),
      ("environment", shown plan.environment)] false⟩

end Plan

end Locator
