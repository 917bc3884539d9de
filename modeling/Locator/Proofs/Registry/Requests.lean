import Mathlib.Logic.Function.Iterate
import Locator.Proofs.Bootstrap.Logged

/-!
# Requests to a registry

Each request to a registry calls the constructor held for its name once and no other one, and is
answered with what this call came to. Nothing is kept for later: where constructors share no state,
the calls of one constructor are numbered by the requests for its name alone.

* `Registry.Request`, `Registry.Request.answer`: the requests, and what the end of a constructor is to
  each of them;
* `Registry.Served`: requests one after another, each from the state that the calls before it left;
* `Registry.Separation`: constructors that share no state, such as those of `Registry.ofApart`;
  `Act.nth`: how the call after a number of others ends;
* `Registry.requests_get_outcomes_in_turn`: which constructors are called, and what is answered.
-/

namespace Locator

variable {σ τ ρ π ε α : Type}

namespace Registry

/-! ## One request -/

/-- A request to a registry. -/
inductive Request where
  /-- Ask for a component. -/
  | construct (name : String)
  /-- Ask for an adapter factory. -/
  | adapterFactory (name : String)
  /-- Ask for a directory connector. -/
  | directoryConnector (name : String)
deriving DecidableEq

namespace Request

/-- The name that is asked for. -/
def name : Request → String
  | construct name | adapterFactory name | directoryConnector name => name

/-- The capability that is asked for, if any is. -/
def wanted? : Request → Option Capability
  | construct _ => none
  | adapterFactory _ => some .adapterFactory
  | directoryConnector _ => some .directoryConnector

/-- A component is given to those who ask for it, and to those who ask for what it is good for. -/
def grant (q : Request) (c : Component σ ρ π) : Except ComponentError (Component σ ρ π) :=
  match q.wanted? with
  | none => .ok c
  | some wanted =>
    if wanted = c.capability then .ok c
    else .error (.capabilityMismatch wanted.label c.capability.label)

/-- What a request is answered if the constructor held for its name ends so, or if none is held. -/
def answer (q : Request) :
    Option (Except ConstructorFailure (Component σ ρ π)) →
      Except ComponentError (Component σ ρ π)
  | none => .error .notRegistered
  | some (.error (.error causes)) => .error (.constructorFailed causes)
  | some (.error (.panic (.literal text))) => .error (.panicked text)
  | some (.error (.panic (.text text))) => .error (.panicked text)
  | some (.error (.panic .other)) => .error (.panicked "non-string panic payload")
  | some (.ok c) => q.grant c

end Request

/-- Make a request. What is granted is given as a component. -/
def request (r : Registry σ ρ π) : Request → Act σ ComponentError (Component σ ρ π)
  | .construct name => r.construct name
  | .adapterFactory name => .adapterFactory <$> r.adapterFactory name
  | .directoryConnector name => .directoryConnector <$> r.directoryConnector name

variable {r : Registry σ ρ π} {q : Request}

/-- A request runs what the request for the component runs, and then looks at the component. -/
theorem run_request_of {v : Except ComponentError (Component σ ρ π)} {s t : σ}
    {making : List Event} (h : (r.construct q.name).run s = ⟨v, t, making⟩) :
    (r.request q).run s = ⟨v.bind q.grant, t, making⟩ := by
  cases q with
  | construct name =>
    rcases v with e | c
    · exact h
    · exact h
  | adapterFactory name =>
    have hmade : (r.construct name).run s = ⟨v, t, making⟩ := h
    unfold request adapterFactory
    rw [Act.run_map, run_instantiate, hmade]
    rcases v with e | factory | connector
    all_goals rfl
  | directoryConnector name =>
    have hmade : (r.construct name).run s = ⟨v, t, making⟩ := h
    unfold request directoryConnector
    rw [Act.run_map, run_instantiate, hmade]
    rcases v with e | factory | connector
    all_goals rfl

theorem answer_known (q : Request) (v : Except ConstructorFailure (Component σ ρ π)) :
    (v.mapError .ofConstructor).bind q.grant = q.answer (some v) := by
  rcases v with (causes | (content | content | _)) | c
  all_goals rfl

/-- A request for an unknown name is answered without a call. -/
theorem run_request_of_unknown (h : r.constructor? q.name = none) (s : σ) :
    (r.request q).run s = ⟨q.answer none, s, []⟩ :=
  run_request_of (run_construct_of_unknown h s)

/-- A request for a known name makes one call and is answered by what it gives. -/
theorem run_request_of_known {make : Constructor σ ρ π} (h : r.constructor? q.name = some make)
    (s : σ) :
    (r.request q).run s =
      ⟨q.answer (some (make.run s).value), (make.run s).state, (make.run s).events⟩ := by
  rw [← answer_known]
  exact run_request_of (run_construct_of_known h s)

/-- Writing to the log around a component does not change what is granted. -/
theorem grant_logged (q : Request) (c : Component σ ρ π) :
    q.grant c.logged = (q.grant c).map .logged := by
  have hcapability : c.logged.capability = c.capability := by
    cases c with
    | adapterFactory factory => rfl
    | directoryConnector connector => rfl
  unfold Request.grant
  rw [hcapability]
  split
  · rfl
  · split
    · rfl
    · rfl

/-- A request to a logged registry is answered as without the log, to which its call is written. -/
theorem run_logged_request (r : Registry σ ρ π) (q : Request) (s : σ) (log : List (Step ρ)) :
    (r.logged.request q).run (s, log) =
      ⟨((r.request q).run s).value.map .logged,
        (((r.request q).run s).state, log ++ r.calls q.name), ((r.request q).run s).events⟩ := by
  have hlogged := run_logged_construct r q.name s log
  rcases h : (r.construct q.name).run s with ⟨v, t, making⟩
  rw [h] at hlogged
  rw [run_request_of h, run_request_of hlogged]
  rcases v with e | c
  · rfl
  · show (⟨q.grant c.logged, _, _⟩ : Outcome _ _ _) = ⟨(q.grant c).map .logged, _, _⟩
    rw [grant_logged]

/-! ## Requests one after another -/

/-- Make requests one after another, whatever their answers; gives the answers. -/
def serve (r : Registry σ ρ π) (requests : List Request) :
    Act σ Empty (List (Except ComponentError (Component σ ρ π))) :=
  requests.mapM fun q => (r.request q).attempt

/-- How requests are answered one after another, with the state before, the state after and what is
reported. -/
inductive Served (r : Registry σ ρ π) :
    σ → List Request → List (Except ComponentError (Component σ ρ π)) → σ → List Event → Prop where
  /-- Nothing is requested. -/
  | nil (s : σ) : Served r s [] [] s []
  /-- The first request is for a name that nothing is held for. Nothing is called. -/
  | unknown {s t : σ} {q : Request} {rest : List Request}
      {answers : List (Except ComponentError (Component σ ρ π))} {more : List Event}
      (free : r.constructor? q.name = none) (following : Served r s rest answers t more) :
      Served r s (q :: rest) (q.answer none :: answers) t more
  /-- The constructor held for the first name is called, and what follows finds the state in which it
  left off, however it ended. -/
  | known {s t u : σ} {q : Request} {rest : List Request} {make : Constructor σ ρ π}
      {v : Except ConstructorFailure (Component σ ρ π)}
      {answers : List (Except ComponentError (Component σ ρ π))} {making more : List Event}
      (held : r.constructor? q.name = some make) (made : make.run s = ⟨v, t, making⟩)
      (following : Served r t rest answers u more) :
      Served r s (q :: rest) (q.answer (some v) :: answers) u (making ++ more)

/-- Requests are served, and over logged constructors the log holds a call for each request whose name
something is held for. -/
theorem exists_served (r : Registry σ ρ π) (requests : List Request) (s : σ)
    (log : List (Step ρ)) :
    ∃ answers t events,
      (r.serve requests).run s = ⟨.ok answers, t, events⟩ ∧
      r.Served s requests answers t events ∧
      (r.logged.serve requests).run (s, log) =
        ⟨.ok (answers.map (·.map .logged)), (t, log ++ requests.flatMap (r.calls ·.name)), events⟩ := by
  induction requests generalizing s log with
  | nil =>
    rw [List.flatMap_nil, List.append_nil]
    exact ⟨[], s, [], rfl, .nil s, rfl⟩
  | cons q rest ih =>
    have hlogged := run_logged_request r q s log
    rw [List.flatMap_cons, ← List.append_assoc]
    cases hheld : r.constructor? q.name with
    | none =>
      have hfirst := run_request_of_unknown hheld s
      obtain ⟨answers, t, events, hrun, hserved, hrest⟩ := ih s (log ++ r.calls q.name)
      rw [hfirst] at hlogged
      exact ⟨_, t, [] ++ events, Act.run_mapM_cons (Act.run_attempt_of hfirst) hrun,
        .unknown hheld hserved, Act.run_mapM_cons (Act.run_attempt_of hlogged) hrest⟩
    | some make =>
      have hfirst := run_request_of_known hheld s
      obtain ⟨answers, t, events, hrun, hserved, hrest⟩ :=
        ih (make.run s).state (log ++ r.calls q.name)
      rw [hfirst] at hlogged
      exact ⟨_, t, _, Act.run_mapM_cons (Act.run_attempt_of hfirst) hrun,
        .known hheld rfl hserved, Act.run_mapM_cons (Act.run_attempt_of hlogged) hrest⟩

end Registry

/-! ## Constructors that share no state -/

/-- How a call of an action ends after `n` calls of it from a state, each from the state that the one
before it left. -/
def Act.nth (a : Act τ ε α) (t : τ) (n : Nat) : Except ε α :=
  (a.run ((fun t => (a.run t).state)^[n] t)).value

theorem Act.nth_succ (a : Act τ ε α) (t : τ) (n : Nat) :
    a.nth t (n + 1) = a.nth (a.run t).state n := by
  unfold nth
  rw [Function.iterate_succ_apply]

namespace Registry

/-- Each constructor works on a part of the state of its own, which no other one touches. -/
structure Separation (r : Registry σ ρ π) where
  /-- The states of the constructor for a name. -/
  Cell : String → Type
  /-- The part of the state that belongs to a name. -/
  part : ∀ name, Part σ (Cell name)
  /-- The constructor for a name, over its own state. -/
  maker : ∀ name, Act (Cell name) ConstructorFailure (Component σ ρ π)
  /-- The constructors that are held are these. -/
  held : ∀ name make, r.constructor? name = some make → make = (maker name).within (part name)
  /-- A part is found as it was left. -/
  read_write : ∀ name x s, (part name).read ((part name).write x s) = x
  /-- The other parts are left alone. -/
  read_write_of_ne : ∀ {name other}, other ≠ name → ∀ x s,
    (part other).read ((part name).write x s) = (part other).read s

namespace Separation

variable {r : Registry σ ρ π}

/-- What a request is due after other requests: the outcome of its own constructor, numbered by the
requests for the same name. -/
def due (p : r.Separation) (s : σ) (before : List Request) (q : Request) :
    Except ComponentError (Component σ ρ π) :=
  q.answer ((r.constructor? q.name).map fun _ =>
    (p.maker q.name).nth ((p.part q.name).read s) ((before.map Request.name).count q.name))

theorem due_of_unknown (p : r.Separation) {q : Request} (h : r.constructor? q.name = none) (s : σ)
    (before : List Request) : p.due s before q = q.answer none := by
  unfold due
  rw [h]
  rfl

/-- With nothing asked before, the answer due is what the constructor gives. -/
theorem due_first (p : r.Separation) {q : Request} {make : Constructor σ ρ π}
    (h : r.constructor? q.name = some make) (s : σ) :
    p.due s [] q = q.answer (some (make.run s).value) := by
  unfold due
  rw [h, p.held q.name make h]
  rfl

/-- A request under another name does not change what is due, as long as it leaves alone the part of
the state that the name has. -/
theorem due_cons_of_ne (p : r.Separation) {first q : Request} (hne : first.name ≠ q.name) {s t : σ}
    (hleft : (p.part q.name).read t = (p.part q.name).read s) (before : List Request) :
    p.due s (first :: before) q = p.due t before q := by
  unfold due
  rw [hleft, List.map_cons, List.count_cons_of_ne hne]

/-- A call of the constructor for the same name is the one that what follows is numbered after, and a
call of another one is not felt. -/
theorem due_cons_of_known (p : r.Separation) {first : Request} {make : Constructor σ ρ π}
    (h : r.constructor? first.name = some make) (s : σ) (before : List Request) (q : Request) :
    p.due s (first :: before) q = p.due (make.run s).state before q := by
  have hmade : (make.run s).state =
      (p.part first.name).write
        ((p.maker first.name).run ((p.part first.name).read s)).state s := by
    rw [p.held first.name make h, Act.run_within]
  by_cases hname : first.name = q.name
  · rw [hname] at hmade
    unfold due
    rw [List.map_cons, hname, List.count_cons_self, Act.nth_succ, hmade, p.read_write]
  · refine p.due_cons_of_ne hname ?_ before
    rw [hmade, p.read_write_of_ne (Ne.symm hname)]

theorem due_cons_of_unknown (p : r.Separation) {first : Request}
    (h : r.constructor? first.name = none) (s : σ) (before : List Request) (q : Request) :
    p.due s (first :: before) q = p.due s before q := by
  by_cases hname : first.name = q.name
  · have hq : r.constructor? q.name = none := hname ▸ h
    rw [p.due_of_unknown hq, p.due_of_unknown hq]
  · exact p.due_cons_of_ne hname rfl before

/-- Each request is answered what it is due after those before it. -/
theorem answers_due (p : r.Separation) {s t : σ} {requests : List Request}
    {answers : List (Except ComponentError (Component σ ρ π))} {events : List Event}
    (h : r.Served s requests answers t events) (i : ℕ) :
    answers[i]? = requests[i]?.map (p.due s (requests.take i)) := by
  induction h generalizing i with
  | nil s => rfl
  | unknown free following ih =>
    cases i with
    | zero => exact congrArg some (p.due_of_unknown free _ []).symm
    | succ i =>
      rw [List.getElem?_cons_succ, List.getElem?_cons_succ, List.take_succ_cons, ih,
        funext (p.due_cons_of_unknown free _ _)]
  | @known s t u q rest make v answers making more held made following ih =>
    cases i with
    | zero =>
      have hfirst := p.due_first held s
      rw [made] at hfirst
      exact congrArg some hfirst.symm
    | succ i =>
      rw [List.getElem?_cons_succ, List.getElem?_cons_succ, List.take_succ_cons, ih,
        funext (p.due_cons_of_known held _ _), made]

end Separation

/-! ## A state for each name -/

/-- The state of a name, where each name has one. -/
def ownPart (name : String) : Part (String → τ) τ :=
  ⟨fun s => s name, fun x s => Function.update s name x⟩

/-- A registry of constructors that work on states of their own. -/
def ofApart (makers : NameMap (Act τ ConstructorFailure (Component (String → τ) ρ π))) :
    Registry (String → τ) ρ π :=
  ⟨makers.mapValues fun name make => make.within (ownPart name)⟩

/-- Such constructors share no state. -/
def ofApartSeparation (makers : NameMap (Act τ ConstructorFailure (Component (String → τ) ρ π))) :
    (ofApart makers).Separation where
  Cell _ := τ
  part := ownPart
  maker name := (makers.get? name).getD (Act.fail (.panic .other))
  held name make h := by
    have hget : (ofApart makers).constructor? name =
        (makers.get? name).map fun make => make.within (ownPart name) :=
      NameMap.get?_mapValues _ makers name
    rw [hget] at h
    obtain ⟨own, hown, rfl⟩ := Option.map_eq_some_iff.1 h
    rw [hown]
    rfl
  read_write name x s := by
    show Function.update s name x name = x
    exact Function.update_self name x s
  read_write_of_ne {name other} hne x s := by
    show Function.update s name x other = s other
    exact Function.update_of_ne hne x s

/-! ## What requests get -/

/-- Requests made one after another are all answered. Each of them calls the constructor held for its
name once, or none if none is held, and is answered as this call came to; the next one finds the state
in which the call left off, also if it failed or broke down. Where the constructors share no state, the
answer is therefore settled by how many requests for the same name came before. -/
theorem requests_get_outcomes_in_turn (r : Registry σ ρ π) (requests : List Request) (s : σ) :
    ∃ answers t events,
      (r.serve requests).run s = ⟨.ok answers, t, events⟩ ∧
      r.Served s requests answers t events ∧
      (r.logged.serve requests).run (s, []) =
        ⟨.ok (answers.map (·.map .logged)), (t, requests.flatMap (r.calls ·.name)), events⟩ ∧
      ∀ (p : r.Separation) (i : ℕ), answers[i]? = requests[i]?.map (p.due s (requests.take i)) := by
  obtain ⟨answers, t, events, hrun, hserved, hlogged⟩ := exists_served r requests s []
  rw [List.nil_append] at hlogged
  exact ⟨answers, t, events, hrun, hserved, hlogged, fun p => p.answers_due hserved⟩

/-- A constructor that fails at first, then breaks down, and makes connectors from then on. -/
def sampleMaker : Act Nat ConstructorFailure (Component (String → Nat) Nat Nat) := do
  let count ← Act.get
  Act.modify (· + 1)
  match count with
  | 0 => Act.fail (.error ⟨"no space left", []⟩)
  | 1 => Act.fail (.panic (.text "out of order"))
  | _ => pure (.directoryConnector ⟨fun _ => Act.fail (.nameNotBound "")⟩)

/-- Two such constructors, asked in turns: each goes through its own outcomes. -/
theorem requests_get_outcomes_in_turn_example :
    let r := ofApart (.ofList [("acme::One", sampleMaker), ("acme::Two", sampleMaker)])
    ∃ answers t events,
      (r.serve [.construct "acme::One", .construct "acme::Two", .adapterFactory "acme::One",
        .construct "acme::Three", .adapterFactory "acme::One", .construct "acme::Two"]).run
          (fun _ => 0) = ⟨.ok answers, t, events⟩ ∧
      answers[1]? = some (.error (.constructorFailed ⟨"no space left", []⟩)) ∧
      answers[2]? = some (.error (.panicked "out of order")) ∧
      answers[3]? = some (.error .notRegistered) ∧
      answers[4]? = some (.error (.capabilityMismatch "adapter_factory" "directory_connector")) ∧
      answers[5]? = some (.error (.panicked "out of order")) := by
  intro r
  obtain ⟨answers, t, events, hrun, -, -, hdue⟩ :=
    requests_get_outcomes_in_turn r [.construct "acme::One", .construct "acme::Two",
      .adapterFactory "acme::One", .construct "acme::Three", .adapterFactory "acme::One",
      .construct "acme::Two"] (fun _ => 0)
  have hdue := hdue (ofApartSeparation _)
  exact ⟨answers, t, events, hrun, hdue 1, hdue 2, hdue 3, hdue 4, hdue 5⟩

end Registry

end Locator
