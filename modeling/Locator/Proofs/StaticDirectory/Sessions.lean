import Locator.Proofs.StaticDirectory.Refinement

/-!
# Histories of a static service

What clients and the owner of a directory do in any order: connecting, working on the directory, and
looking up through the contexts obtained so far.

* `Session`, `ServiceOp`, `ServiceOp.perform`: a service with the contexts that are open, and what
  can be done to it;
* `DirectoryContext.IsLive`: a context that shows the directory as it is at the moment of asking;
* `ServiceOp.Faithful`, `Session.Proceeds`: what each operation has to answer and to leave behind,
  and histories all of whose operations do so; `ServiceOp.exists_faithful` is one operation;
* `Session.Proceeds.environments`, `Proceeds.verdicts`, `Proceeds.directory`, `Proceeds.contexts`:
  the record, the verdicts, the directory and the contexts do not interfere with one another;
* `StaticConnector.sessions_stay_live`: all of it, for every history.
-/

namespace Locator

variable {ρ : Type}

/-- A static service, and the contexts that clients obtained so far. -/
structure Session (ρ : Type) where
  /-- The service. -/
  service : StaticService ρ
  /-- The contexts, in the order in which they were obtained. -/
  contexts : List (DirectoryContext (StaticService ρ) ρ)

namespace Session

/-- Nobody has connected to the directory yet. -/
def start (d : StaticDirectory ρ) : Session ρ := ⟨.ofDirectory d, []⟩

/-- The service as a part of the session. -/
def servicePart : Part (Session ρ) (StaticService ρ) :=
  ⟨(·.service), fun service s => { s with service := service }⟩

/-- Keep a context that was obtained. -/
def keep (context : DirectoryContext (StaticService ρ) ρ) (s : Session ρ) : Session ρ :=
  { s with contexts := s.contexts ++ [context] }

end Session

/-! ## Operations -/

/-- What can be done to a static service. -/
inductive ServiceOp (ρ : Type) where
  /-- Connect with an environment. -/
  | connect (env : Environment)
  /-- Work on the directory. -/
  | onDirectory (op : DirectoryOp ρ)
  /-- Look a name up through the context at a position. -/
  | lookup (position : Nat) (name : String)

/-- What an operation answers. -/
inductive ServiceAnswer (ρ : Type) where
  /-- The client is connected, or why it is not. -/
  | connected (verdict : Except NamingError Unit)
  /-- The answer of the directory. -/
  | ofDirectory (answer : DirectoryAnswer ρ)
  /-- The handle that was found through a context, or why none was. -/
  | found (result : Except NamingError (Handle ρ))
  /-- There is no context at the position. -/
  | noContext

/-- The verdict on a client that connected. -/
def ServiceAnswer.verdict? : ServiceAnswer ρ → Option (Except NamingError Unit)
  | connected verdict => some verdict
  | ofDirectory _ | found _ | noContext => none

/-- The answer of the directory to work on it. -/
def ServiceAnswer.directoryAnswer? : ServiceAnswer ρ → Option (DirectoryAnswer ρ)
  | ofDirectory answer => some answer
  | connected _ | found _ | noContext => none

namespace ServiceOp

/-- The environment of a client that connects. -/
def environment? : ServiceOp ρ → Option Environment
  | connect env => some env
  | onDirectory _ | lookup _ _ => none

/-- The work on the directory. -/
def directoryOp? : ServiceOp ρ → Option (DirectoryOp ρ)
  | onDirectory op => some op
  | connect _ | lookup _ _ => none

/-- Perform an operation; gives its answer. A context that a client obtains is kept. -/
def perform (c : StaticConnector) : ServiceOp ρ → Act (Session ρ) Empty (ServiceAnswer ρ)
  | connect env => do
    match ← ((c.connector.connect env).within Session.servicePart).attempt with
    | .ok context => do
      Act.modify (Session.keep context)
      pure (.connected (.ok ()))
    | .error e => pure (.connected (.error e))
  | onDirectory op =>
    .ofDirectory <$> op.perform.within (Session.servicePart.andThen StaticService.directoryPart)
  | lookup position name => do
    let s ← Act.get
    match s.contexts[position]? with
    | some context => .found <$> ((context.lookup name).within Session.servicePart).attempt
    | none => pure .noContext

/-- Performed in a session `s`, an operation may give the answer and lead to the session `t`.

Whoever connects is put on record and judged by the environment alone; who is refused obtains no
context. Work on the directory has the answer and the effect that it has without any clients. A
context finds what the directory holds at that moment, whichever context it is. -/
def Faithful (c : StaticConnector) (s : Session ρ) (answer : ServiceAnswer ρ) (t : Session ρ) :
    ServiceOp ρ → Prop
  | connect env =>
    answer = .connected (c.checkAccess env) ∧
    t.service.environments = s.service.environments ++ [env] ∧
    t.service.directory = s.service.directory ∧
    match c.checkAccess env with
    | .ok _ => ∃ context, t.contexts = s.contexts ++ [context]
    | .error _ => t.contexts = s.contexts
  | onDirectory op =>
    t.service.environments = s.service.environments ∧ t.contexts = s.contexts ∧
    ∃ directoryAnswer events, answer = .ofDirectory directoryAnswer ∧
      op.perform.run s.service.directory = ⟨.ok directoryAnswer, t.service.directory, events⟩
  | lookup position name =>
    t = s ∧ answer =
      if position < s.contexts.length then
        .found ((StaticDirectory.lookup name).run s.service.directory).value
      else .noContext

end ServiceOp

/-! ## Contexts -/

/-- Looking up reports nothing and leaves the directory as it is. -/
theorem StaticDirectory.run_lookup (name : String) (d : StaticDirectory ρ) :
    (lookup name).run d = ⟨((lookup name).run d).value, d, []⟩ := by
  cases hname : checkName name with
  | error e => rw [run_lookup_of_refused hname]
  | ok _ =>
    cases hbound : d.table.get? name with
    | none => rw [run_lookup_of_missing hname hbound]
    | some handle => rw [run_lookup_of_bound hname hbound]

/-- The context finds what the directory holds at the moment of asking, and nothing changes. -/
def DirectoryContext.IsLive (context : DirectoryContext (StaticService ρ) ρ) : Prop :=
  ∀ name w, (context.lookup name).run w =
    ⟨((StaticDirectory.lookup name).run w.directory).value, w, []⟩

theorem StaticConnector.isLive_context : (context (ρ := ρ)).IsLive := by
  intro name w
  have hlookup : (StaticDirectory.lookup name).run (StaticService.directoryPart.read w) =
      ⟨((StaticDirectory.lookup name).run w.directory).value, w.directory, []⟩ :=
    StaticDirectory.run_lookup name w.directory
  exact Act.run_within_of hlookup

namespace Session

/-- All contexts that are open are live. -/
def AllLive (s : Session ρ) : Prop := ∀ context ∈ s.contexts, context.IsLive

theorem allLive_start (d : StaticDirectory ρ) : (start d).AllLive := by
  intro context hmem
  cases hmem

/-- Keeping a live context keeps all contexts live. -/
theorem AllLive.keep {s : Session ρ} (h : s.AllLive)
    {context : DirectoryContext (StaticService ρ) ρ} (hlive : context.IsLive) :
    (s.keep context).AllLive := by
  intro other hmem
  obtain hold | rfl := List.mem_append.1 hmem |>.imp_right List.mem_singleton.1
  · exact h other hold
  · exact hlive

end Session

/-! ## One operation -/

namespace ServiceOp

variable {c : StaticConnector}

/-- Who is accepted is put on record and obtains a context. -/
theorem run_connect_of_accepted {env : Environment} (h : c.checkAccess env = .ok ())
    (s : Session ρ) :
    (perform c (connect env)).run s = ⟨.ok (.connected (.ok ())),
      Session.keep StaticConnector.context ⟨s.service.record env, s.contexts⟩,
      [StaticConnector.acceptanceEvent env]⟩ := by
  have hconnect : ((c.connector.connect env).within Session.servicePart).run s =
      ⟨.ok StaticConnector.context, ⟨s.service.record env, s.contexts⟩,
        [StaticConnector.acceptanceEvent env]⟩ :=
    Act.run_within_of (StaticConnector.run_connect_of_ok h s.service)
  exact Act.run_bind_of_ok (Act.run_attempt_of hconnect)
    (Act.run_bind_of_ok (Act.run_modify _ _) (Act.run_pure _ _))

/-- Who is refused is put on record as well, and obtains nothing. -/
theorem run_connect_of_refused {env : Environment} {e : NamingError}
    (h : c.checkAccess env = .error e) (s : Session ρ) :
    (perform c (connect env)).run s = ⟨.ok (.connected (.error e)),
      ⟨s.service.record env, s.contexts⟩, [StaticConnector.refusalEvent e]⟩ := by
  have hconnect : ((c.connector.connect env).within Session.servicePart).run s =
      ⟨.error e, ⟨s.service.record env, s.contexts⟩, [StaticConnector.refusalEvent e]⟩ :=
    Act.run_within_of (StaticConnector.run_connect_of_error h s.service)
  exact Act.run_bind_of_ok (Act.run_attempt_of hconnect) (Act.run_pure _ _)

/-- An operation on the directory leaves the contexts and the recorded environments alone. -/
theorem run_onDirectory {op : DirectoryOp ρ} {s : Session ρ} {answer : DirectoryAnswer ρ}
    {d : StaticDirectory ρ} {events : List Event}
    (h : op.perform.run s.service.directory = ⟨.ok answer, d, events⟩) :
    (perform c (onDirectory op)).run s =
      ⟨.ok (.ofDirectory answer), ⟨⟨d, s.service.environments⟩, s.contexts⟩, events⟩ := by
  have hwithin : (op.perform.within
      (Session.servicePart.andThen StaticService.directoryPart)).run s =
        ⟨.ok answer, ⟨⟨d, s.service.environments⟩, s.contexts⟩, events⟩ :=
    Act.run_within_of h
  unfold perform
  rw [Act.run_map, hwithin]
  rfl

/-- Through a context that was handed out, a lookup is one in the directory as it is now. -/
theorem run_lookup_of_open {s : Session ρ} (hlive : s.AllLive) {position : Nat}
    (h : position < s.contexts.length) (name : String) :
    (perform c (lookup position name)).run s =
      ⟨.ok (.found ((StaticDirectory.lookup name).run s.service.directory).value), s, []⟩ := by
  let context := s.contexts[position]
  have hat : s.contexts[position]? = some context := List.getElem?_eq_getElem h
  have hlookup : ((context.lookup name).within Session.servicePart).run s =
      ⟨((StaticDirectory.lookup name).run s.service.directory).value, s, []⟩ :=
    Act.run_within_of (hlive context (List.getElem_mem h) name s.service)
  refine Eq.trans (Act.run_bind_of_silent (Act.run_get s)) ?_
  rw [hat]
  show (ServiceAnswer.found <$> _ : Act (Session ρ) Empty _).run s = _
  rw [Act.run_map, Act.run_attempt_of hlookup]
  rfl

/-- Where no context was handed out, nothing is looked up. -/
theorem run_lookup_of_no_context {s : Session ρ} {position : Nat}
    (h : ¬ position < s.contexts.length) (name : String) :
    (perform c (lookup position name)).run s = ⟨.ok .noContext, s, []⟩ := by
  have hat : s.contexts[position]? = none := List.getElem?_eq_none (Nat.not_lt.1 h)
  refine Eq.trans (Act.run_bind_of_silent (Act.run_get s)) ?_
  rw [hat]
  exact Act.run_pure _ s

/-- Every operation ends, is faithful, and leaves all open contexts live. -/
theorem exists_faithful (c : StaticConnector) (op : ServiceOp ρ) {s : Session ρ}
    (hlive : s.AllLive) :
    ∃ answer t events,
      (op.perform c).run s = ⟨.ok answer, t, events⟩ ∧ op.Faithful c s answer t ∧ t.AllLive := by
  cases op with
  | connect env =>
    cases h : c.checkAccess env with
    | ok _ =>
      refine ⟨_, _, _, run_connect_of_accepted h s, ?_, ?_⟩
      · dsimp only [Faithful]
        rw [h]
        exact ⟨rfl, rfl, rfl, StaticConnector.context, rfl⟩
      · have hrecorded : Session.AllLive ⟨s.service.record env, s.contexts⟩ := hlive
        exact hrecorded.keep StaticConnector.isLive_context
    | error e =>
      refine ⟨_, _, _, run_connect_of_refused h s, ?_, hlive⟩
      dsimp only [Faithful]
      rw [h]
      exact ⟨rfl, rfl, rfl, rfl⟩
  | onDirectory op =>
    obtain ⟨d, events, hrun, -⟩ := op.exists_run_perform s.service.directory
    exact ⟨_, _, _, run_onDirectory hrun, ⟨rfl, rfl, _, events, rfl, hrun⟩, hlive⟩
  | lookup position name =>
    by_cases h : position < s.contexts.length
    · refine ⟨_, _, _, run_lookup_of_open hlive h name, ⟨rfl, ?_⟩, hlive⟩
      rw [if_pos h]
    · refine ⟨_, _, _, run_lookup_of_no_context h name, ⟨rfl, ?_⟩, hlive⟩
      rw [if_neg h]

end ServiceOp

/-! ## Histories -/

namespace Session

variable {c : StaticConnector}

/-- A history all of whose operations are faithful, each from where the one before it led. -/
inductive Proceeds (c : StaticConnector) :
    Session ρ → List (ServiceOp ρ) → List (ServiceAnswer ρ) → Session ρ → Prop where
  /-- Nothing happens. -/
  | nil (s : Session ρ) : Proceeds c s [] [] s
  /-- One more operation at the beginning. -/
  | cons {s t u : Session ρ} {op : ServiceOp ρ} {rest : List (ServiceOp ρ)}
      {answer : ServiceAnswer ρ} {answers : List (ServiceAnswer ρ)}
      (first : op.Faithful c s answer t) (following : Proceeds c t rest answers u) :
      Proceeds c s (op :: rest) (answer :: answers) u

/-- From live contexts every history proceeds, each step as its operation says. -/
theorem exists_proceeds (c : StaticConnector) (history : List (ServiceOp ρ)) {s : Session ρ}
    (hlive : s.AllLive) :
    ∃ answers t events,
      (history.mapM (ServiceOp.perform c)).run s = ⟨.ok answers, t, events⟩ ∧
      Proceeds c s history answers t := by
  induction history generalizing s with
  | nil => exact ⟨[], s, [], rfl, .nil s⟩
  | cons op rest ih =>
    obtain ⟨answer, t, events, hrun, hfaithful, hstill⟩ := op.exists_faithful c hlive
    obtain ⟨answers, u, more, hrest, hproceeds⟩ := ih hstill
    exact ⟨answer :: answers, u, _, Act.run_mapM_cons hrun hrest, .cons hfaithful hproceeds⟩

variable {s t : Session ρ} {history : List (ServiceOp ρ)} {answers : List (ServiceAnswer ρ)}

/-- The record grows by the environments of those who connect, in order. -/
theorem Proceeds.environments (h : Proceeds c s history answers t) :
    t.service.environments =
      s.service.environments ++ history.filterMap ServiceOp.environment? := by
  induction h with
  | nil s => exact (List.append_nil _).symm
  | @cons s t u op rest answer answers first _ ih =>
    rw [ih]
    cases op with
    | connect env =>
      obtain ⟨-, hrecord, -⟩ := first
      rw [hrecord, List.append_assoc]
      rfl
    | onDirectory op =>
      obtain ⟨hrecord, -⟩ := first
      rw [hrecord]
      rfl
    | lookup position name =>
      obtain ⟨rfl, -⟩ := first
      rfl

/-- Whoever connects is judged by the environment alone. -/
theorem Proceeds.verdicts (h : Proceeds c s history answers t) :
    answers.filterMap ServiceAnswer.verdict? =
      (history.filterMap ServiceOp.environment?).map c.checkAccess := by
  induction h with
  | nil s => rfl
  | @cons s t u op rest answer answers first _ ih =>
    cases op with
    | connect env =>
      obtain ⟨rfl, -⟩ := first
      exact congrArg (c.checkAccess env :: ·) ih
    | onDirectory op =>
      obtain ⟨-, -, answer, events, rfl, -⟩ := first
      exact ih
    | lookup position name =>
      obtain ⟨-, hanswer⟩ := first
      have hnone : answer.verdict? = none := by
        rw [hanswer]
        split <;> rfl
      rw [List.filterMap_cons_none hnone]
      exact ih

/-- The directory answers and changes as if nobody had connected and nobody had looked anything
up. -/
theorem Proceeds.directory (h : Proceeds c s history answers t) : ∃ events,
    ((history.filterMap ServiceOp.directoryOp?).mapM DirectoryOp.perform).run s.service.directory =
      ⟨.ok (answers.filterMap ServiceAnswer.directoryAnswer?), t.service.directory, events⟩ := by
  induction h with
  | nil s => exact ⟨[], rfl⟩
  | @cons s t u op rest answer answers first _ ih =>
    obtain ⟨events, hrest⟩ := ih
    cases op with
    | connect env =>
      obtain ⟨rfl, -, hdirectory, -⟩ := first
      rw [hdirectory] at hrest
      exact ⟨events, hrest⟩
    | onDirectory op =>
      obtain ⟨-, -, answer, before, rfl, hrun⟩ := first
      exact ⟨before ++ events, Act.run_mapM_cons hrun hrest⟩
    | lookup position name =>
      obtain ⟨rfl, hanswer⟩ := first
      have hnone : answer.directoryAnswer? = none := by
        rw [hanswer]
        split <;> rfl
      rw [List.filterMap_cons_none hnone]
      exact ⟨events, hrest⟩

/-- There is one more context for everybody who is accepted. -/
theorem Proceeds.contexts (h : Proceeds c s history answers t) :
    t.contexts.length = s.contexts.length +
      (history.filterMap ServiceOp.environment?).countP fun env => (c.checkAccess env).isOk := by
  induction h with
  | nil s => rfl
  | @cons s t u op rest answer answers first _ ih =>
    rw [ih]
    cases op with
    | connect env =>
      obtain ⟨-, -, -, hcontexts⟩ := first
      show _ = s.contexts.length + (env :: rest.filterMap ServiceOp.environment?).countP _
      rw [List.countP_cons]
      cases haccess : c.checkAccess env with
      | ok _ =>
        rw [haccess] at hcontexts
        obtain ⟨context, hcontexts⟩ := hcontexts
        rw [hcontexts, List.length_append]
        simp [Except.isOk, Except.toBool]
        omega
      | error e =>
        rw [haccess] at hcontexts
        rw [hcontexts]
        simp [Except.isOk, Except.toBool]
    | onDirectory op =>
      obtain ⟨-, hcontexts, -⟩ := first
      rw [hcontexts]
      rfl
    | lookup position name =>
      obtain ⟨rfl, -⟩ := first
      rfl

end Session

/-- Whatever clients and the owner of a directory do in whatever order, every step is faithful: those
who connect are put on record and judged by their environments alone, and every context that was
obtained, however old, finds what the directory holds at that moment. After any history the record
lists the environments of all who connected, in order, the verdicts do not depend on anything else
that happened, the directory is as it would be without any clients, and there is one context for
everybody who was accepted. -/
theorem StaticConnector.sessions_stay_live (c : StaticConnector) (d : StaticDirectory ρ)
    (history : List (ServiceOp ρ)) :
    ∃ answers s events,
      (history.mapM (ServiceOp.perform c)).run (Session.start d) = ⟨.ok answers, s, events⟩ ∧
      Session.Proceeds c (Session.start d) history answers s ∧
      s.service.environments = history.filterMap ServiceOp.environment? ∧
      answers.filterMap ServiceAnswer.verdict? =
        (history.filterMap ServiceOp.environment?).map c.checkAccess ∧
      (∃ directoryEvents,
        ((history.filterMap ServiceOp.directoryOp?).mapM DirectoryOp.perform).run d =
          ⟨.ok (answers.filterMap ServiceAnswer.directoryAnswer?), s.service.directory,
            directoryEvents⟩) ∧
      s.contexts.length =
        (history.filterMap ServiceOp.environment?).countP fun env => (c.checkAccess env).isOk := by
  obtain ⟨answers, s, events, hrun, hproceeds⟩ :=
    Session.exists_proceeds c history (Session.allLive_start d)
  have hrecord : s.service.environments = history.filterMap ServiceOp.environment? := by
    rw [hproceeds.environments]
    exact List.nil_append _
  have hcontexts : s.contexts.length =
      (history.filterMap ServiceOp.environment?).countP fun env => (c.checkAccess env).isOk := by
    rw [hproceeds.contexts]
    exact Nat.zero_add _
  exact ⟨answers, s, events, hrun, hproceeds, hrecord, hproceeds.verdicts, hproceeds.directory,
    hcontexts⟩

end Locator
