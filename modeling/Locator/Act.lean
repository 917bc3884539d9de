import Locator.Event

/-!
# Actions

An `Act σ ε α` is a piece of work over a state `σ` that ends with a value of type `α` or a failure of
type `ε`, and reports events on the way. A failure stops what follows; the state reached and the
events reported until then remain.

* `emit`, `fail`, `get`, `modify`: the single steps.
* `onError`, `mapError`, `attempt`: what to do about a failure.
* `inSpan`: the same work, its events inside a span.
* `Part`, `within`, `isolated`: work on a part of the state, or on a state of its own.
* `result`: what an action gives that needs no state and cannot fail.

Actions form a lawful monad.
-/

namespace Locator

/-- What a run of an action leaves behind. -/
structure Outcome (σ ε α : Type) where
  /-- The value, or the failure. -/
  value : Except ε α
  /-- The state at the end. -/
  state : σ
  /-- The events in the order they were reported. -/
  events : List Event

/-- A piece of work over a state `σ` that may fail with an `ε`. -/
def Act (σ ε α : Type) : Type := σ → Outcome σ ε α

/-- A part of a state, with the way to look at it and to replace it. -/
structure Part (σ τ : Type) where
  /-- The part as it stands. -/
  read : σ → τ
  /-- The state with the part replaced. -/
  write : τ → σ → σ

namespace Part

/-- The first component of a pair. -/
def first {σ τ : Type} : Part (σ × τ) σ := ⟨(·.1), fun s p => (s, p.2)⟩

/-- The second component of a pair. -/
def second {σ τ : Type} : Part (σ × τ) τ := ⟨(·.2), fun t p => (p.1, t)⟩

/-- A part of a part. -/
def andThen {σ τ υ : Type} (p : Part σ τ) (q : Part τ υ) : Part σ υ :=
  ⟨fun s => q.read (p.read s), fun u s => p.write (q.write u (p.read s)) s⟩

end Part

namespace Act

variable {σ τ ε ε' α β γ : Type}

/-- Run an action from a state. -/
def run (a : Act σ ε α) (s : σ) : Outcome σ ε α := a s

/-- Do nothing but give a value. -/
def done (x : α) : Act σ ε α := fun s => ⟨.ok x, s, []⟩

/-- Fail without a trace. -/
def fail (e : ε) : Act σ ε α := fun s => ⟨.error e, s, []⟩

/-- One action after another, the second one only if the first succeeds. -/
def next (a : Act σ ε α) (f : α → Act σ ε β) : Act σ ε β := fun s =>
  match a s with
  | ⟨.error e, t, events⟩ => ⟨.error e, t, events⟩
  | ⟨.ok x, t, events⟩ => let o := f x t; ⟨o.value, o.state, events ++ o.events⟩

instance : Monad (Act σ ε) where
  pure := done
  bind := next

/-- Report an event. -/
def emit (e : Event) : Act σ ε Unit := fun s => ⟨.ok (), s, [e]⟩

/-- The state as it stands. -/
def get : Act σ ε σ := fun s => ⟨.ok s, s, []⟩

/-- Change the state. -/
def modify (f : σ → σ) : Act σ ε Unit := fun s => ⟨.ok (), f s, []⟩

/-- A change of the state that gives a value and reports nothing. -/
def ofState (f : StateM σ α) : Act σ ε α := fun s => let r := f s; ⟨.ok r.1, r.2, []⟩

/-- Give a value or fail, as already settled. -/
def ofExcept : Except ε α → Act σ ε α
  | .ok x => done x
  | .error e => fail e

/-- Do something else about a failure. -/
def onError (a : Act σ ε α) (handle : ε → Act σ ε' α) : Act σ ε' α := fun s =>
  match a s with
  | ⟨.ok x, t, events⟩ => ⟨.ok x, t, events⟩
  | ⟨.error e, t, events⟩ => let o := handle e t; ⟨o.value, o.state, events ++ o.events⟩

/-- Put a failure in other terms. -/
def mapError (f : ε → ε') (a : Act σ ε α) : Act σ ε' α := a.onError fun e => fail (f e)

/-- Settle how an action ends: this never fails. -/
def attempt (a : Act σ ε α) : Act σ ε' (Except ε α) := fun s =>
  let o := a s; ⟨.ok o.value, o.state, o.events⟩

/-- The same work, its events inside a span. -/
def inSpan (span : Span) (a : Act σ ε α) : Act σ ε α := fun s =>
  let o := a s; ⟨o.value, o.state, o.events.map (·.inside span)⟩

/-- Work on a part of the state. -/
def within (p : Part σ τ) (a : Act τ ε α) : Act σ ε α := fun s =>
  let o := a (p.read s); ⟨o.value, p.write o.state s, o.events⟩

/-- Work on a state of its own, which is given with the value. -/
def isolated (start : τ) (a : Act τ ε α) : Act σ ε (α × τ) := fun s =>
  let o := a start; ⟨o.value.map (·, o.state), s, o.events⟩

/-- What an action gives that depends on no state and cannot fail. -/
def result (a : Act Unit Empty α) : α :=
  match (a.run ()).value with
  | .ok x => x
  | .error e => nomatch e

/-! ## The laws of sequencing -/

theorem run_pure (x : α) (s : σ) : (pure x : Act σ ε α).run s = ⟨.ok x, s, []⟩ := rfl

/-- After a step that succeeds the next one runs from the state that it leaves, and both report. -/
theorem run_bind_of_ok {a : Act σ ε α} {f : α → Act σ ε β} {s t u : σ} {x : α}
    {v : Except ε β} {before after : List Event} (h : a.run s = ⟨.ok x, t, before⟩)
    (hf : (f x).run t = ⟨v, u, after⟩) : (a >>= f).run s = ⟨v, u, before ++ after⟩ := by
  simp only [run] at h hf ⊢
  change next a f s = _
  simp only [next, h, hf]

/-- What comes after a step that reports nothing runs from where the step ends. -/
theorem run_bind_of_silent {a : Act σ ε α} {f : α → Act σ ε β} {s t : σ} {x : α}
    (h : a.run s = ⟨.ok x, t, []⟩) : (a >>= f).run s = (f x).run t :=
  run_bind_of_ok h rfl

/-- After a step that fails nothing runs any more. -/
theorem run_bind_of_error {a : Act σ ε α} {f : α → Act σ ε β} {s t : σ} {e : ε}
    {events : List Event} (h : a.run s = ⟨.error e, t, events⟩) :
    (a >>= f).run s = ⟨.error e, t, events⟩ := by
  simp only [run] at h ⊢
  change next a f s = _
  simp only [next, h]

/-- Giving the value again changes nothing. -/
theorem next_done (a : Act σ ε α) : next a done = a := by
  funext s
  unfold next done
  split <;> simp [*]

/-- It does not matter how steps are grouped. -/
theorem next_next (a : Act σ ε α) (f : α → Act σ ε β) (g : β → Act σ ε γ) :
    next (next a f) g = next a fun x => next (f x) g := by
  funext s
  unfold next
  rcases a s with ⟨_ | x, t, events⟩
  · rfl
  · simp only
    rcases f x t with ⟨_ | y, u, more⟩ <;> simp

instance : LawfulMonad (Act σ ε) :=
  LawfulMonad.mk' (Act σ ε) (fun a => next_done a) (fun x f => by funext s; simp [bind, next, pure, done])
    (fun a f g => next_next a f g)

/-! ## What each step leaves behind -/

theorem run_emit (e : Event) (s : σ) : (emit e : Act σ ε Unit).run s = ⟨.ok (), s, [e]⟩ := rfl

theorem run_fail (e : ε) (s : σ) : (fail e : Act σ ε α).run s = ⟨.error e, s, []⟩ := rfl

theorem run_get (s : σ) : (get : Act σ ε σ).run s = ⟨.ok s, s, []⟩ := rfl

theorem run_modify (f : σ → σ) (s : σ) :
    (modify f : Act σ ε Unit).run s = ⟨.ok (), f s, []⟩ := rfl

theorem run_ofState (f : StateM σ α) (s : σ) :
    (ofState f : Act σ ε α).run s = ⟨.ok (f s).1, (f s).2, []⟩ := rfl

/-- What is settled gives its value, changes nothing and reports nothing. -/
theorem run_ofExcept (v : Except ε α) (s : σ) : (ofExcept v).run s = ⟨v, s, []⟩ := by
  cases v with
  | error e => rfl
  | ok x => rfl

/-- What comes after something settled runs from where it is. -/
theorem run_ofExcept_bind_of_ok {v : Except ε α} {x : α} (h : v = .ok x) (f : α → Act σ ε β)
    (s : σ) : (ofExcept v >>= f).run s = (f x).run s := by
  have hv : (ofExcept v).run s = ⟨.ok x, s, []⟩ := by rw [run_ofExcept, h]
  exact run_bind_of_silent hv

/-- What comes after something settled as a failure does not run. -/
theorem run_ofExcept_bind_of_error {v : Except ε α} {e : ε} (h : v = .error e)
    (f : α → Act σ ε β) (s : σ) : (ofExcept v >>= f).run s = ⟨.error e, s, []⟩ := by
  have hv : (ofExcept v).run s = ⟨.error e, s, []⟩ := by rw [run_ofExcept, h]
  exact run_bind_of_error hv

/-- What is to be done about a failure is not done where there is none. -/
theorem run_onError_of_ok {a : Act σ ε α} {handle : ε → Act σ ε' α} {s t : σ} {x : α}
    {events : List Event} (h : a.run s = ⟨.ok x, t, events⟩) :
    (a.onError handle).run s = ⟨.ok x, t, events⟩ := by
  simp only [run] at h ⊢
  simp only [onError, h]

/-- What is to be done about a failure runs from the state in which the failure leaves it. -/
theorem run_onError_of_error {a : Act σ ε α} {handle : ε → Act σ ε' α} {s t u : σ} {e : ε}
    {v : Except ε' α} {before after : List Event} (h : a.run s = ⟨.error e, t, before⟩)
    (hf : (handle e).run t = ⟨v, u, after⟩) :
    (a.onError handle).run s = ⟨v, u, before ++ after⟩ := by
  simp only [run] at h hf ⊢
  simp only [onError, h, hf]

/-- Putting a failure in other terms changes nothing but the failure. -/
theorem run_mapError (f : ε → ε') (a : Act σ ε α) (s : σ) :
    (a.mapError f).run s = ⟨(a.run s).value.mapError f, (a.run s).state, (a.run s).events⟩ := by
  rcases h : a.run s with ⟨e | x, t, events⟩
  · have hf : (a.onError fun e => fail (f e)).run s = ⟨.error (f e), t, events ++ []⟩ :=
      run_onError_of_error h (run_fail (f e) t)
    rwa [List.append_nil] at hf
  · exact run_onError_of_ok h

/-- A run that succeeds has no failure to put in other terms. -/
theorem run_mapError_of_ok {a : Act σ ε α} {s t : σ} {x : α} {events : List Event}
    (f : ε → ε') (h : a.run s = ⟨.ok x, t, events⟩) :
    (a.mapError f).run s = ⟨.ok x, t, events⟩ := run_onError_of_ok h

/-- A run that fails fails in the other terms. -/
theorem run_mapError_of_error {a : Act σ ε α} {s t : σ} {e : ε} {events : List Event}
    (f : ε → ε') (h : a.run s = ⟨.error e, t, events⟩) :
    (a.mapError f).run s = ⟨.error (f e), t, events⟩ := by
  rw [run_mapError, h]
  rfl

/-- A function is applied to the value of a run, and changes nothing else. -/
theorem run_map (f : α → β) (a : Act σ ε α) (s : σ) :
    (f <$> a).run s = ⟨(a.run s).value.map f, (a.run s).state, (a.run s).events⟩ := by
  rw [map_eq_pure_bind]
  rcases h : a.run s with ⟨e | x, t, events⟩
  · exact run_bind_of_error h
  · have hf : (a >>= fun x => pure (f x)).run s = ⟨.ok (f x), t, events ++ []⟩ :=
      run_bind_of_ok h (run_pure (f x) t)
    rwa [List.append_nil] at hf

/-- Settling how an action ends gives what it ends with as the value. -/
theorem run_attempt (a : Act σ ε α) (s : σ) :
    (a.attempt : Act σ ε' (Except ε α)).run s =
      ⟨.ok (a.run s).value, (a.run s).state, (a.run s).events⟩ := rfl

theorem run_attempt_of {a : Act σ ε α} {s t : σ} {v : Except ε α} {events : List Event}
    (h : a.run s = ⟨v, t, events⟩) :
    (a.attempt : Act σ ε' (Except ε α)).run s = ⟨.ok v, t, events⟩ := by
  rw [run_attempt, h]

/-- Work for each item of a list goes on as long as it succeeds. -/
theorem run_mapM_cons {a : α → Act σ ε β} {x : α} {rest : List α} {s t u : σ} {y : β}
    {ys : List β} {before after : List Event} (hfirst : (a x).run s = ⟨.ok y, t, before⟩)
    (hrest : (rest.mapM a).run t = ⟨.ok ys, u, after⟩) :
    ((x :: rest).mapM a).run s = ⟨.ok (y :: ys), u, before ++ after⟩ := by
  have hothers : (rest.mapM a >>= fun ys => pure (y :: ys)).run t = ⟨.ok (y :: ys), u, after ++ []⟩ :=
    run_bind_of_ok hrest (run_pure _ _)
  rw [List.append_nil] at hothers
  rw [List.mapM_cons]
  exact run_bind_of_ok hfirst hothers

/-- Within a span the same happens, and every event carries the span. -/
theorem run_inSpan (span : Span) (a : Act σ ε α) (s : σ) :
    (a.inSpan span).run s =
      ⟨(a.run s).value, (a.run s).state, (a.run s).events.map (·.inside span)⟩ := rfl

/-- Work on a part of the state reads that part, and puts back what becomes of it. -/
theorem run_within (p : Part σ τ) (a : Act τ ε α) (s : σ) :
    (a.within p).run s =
      ⟨(a.run (p.read s)).value, p.write (a.run (p.read s)).state s,
        (a.run (p.read s)).events⟩ := rfl

theorem run_within_of {p : Part σ τ} {a : Act τ ε α} {s : σ} {v : Except ε α} {t : τ}
    {events : List Event} (h : a.run (p.read s) = ⟨v, t, events⟩) :
    (a.within p).run s = ⟨v, p.write t s, events⟩ := by
  rw [run_within, h]

/-- What an action gives is the value of its run. -/
theorem result_eq_of_run {a : Act Unit Empty α} {x : α} {events : List Event}
    (h : a.run () = ⟨.ok x, (), events⟩) : a.result = x := by
  unfold result
  rw [h]

/-- Work on a state of its own starts from that state and leaves the other one alone. -/
theorem run_isolated (start : τ) (a : Act τ ε α) (s : σ) :
    (a.isolated start : Act σ ε (α × τ)).run s =
      ⟨(a.run start).value.map (·, (a.run start).state), s, (a.run start).events⟩ := rfl

end Act

end Locator
