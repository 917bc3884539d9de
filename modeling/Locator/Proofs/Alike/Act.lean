import Locator.Act

/-!
# Actions that run alike

Two actions run alike if, from related states, they end with the same failure or with related
values, report the same events, and leave related states behind. What an observer of failures and
events learns from one of them is then what they learn from the other.

There is one rule for each way to build an action. Together they take two pieces of work apart side
by side, down to the steps that may differ.
-/

namespace Locator

variable {σ σ' τ τ' ε ε' α α' β β' : Type}

/-- The same failure, or related values. -/
inductive SameVerdict (V : α → α' → Prop) : Except ε α → Except ε α' → Prop where
  /-- Both fail in the same way. -/
  | error (e : ε) : SameVerdict V (.error e) (.error e)
  /-- Both succeed, with related values. -/
  | ok {x : α} {y : α'} (h : V x y) : SameVerdict V (.ok x) (.ok y)

/-- Outcomes that nobody tells apart by failures and events. -/
structure Outcome.Alike (S : σ → σ' → Prop) (V : α → α' → Prop) (o : Outcome σ ε α)
    (o' : Outcome σ' ε α') : Prop where
  /-- The same failure, or related values. -/
  value : SameVerdict V o.value o'.value
  /-- Related states at the end. -/
  state : S o.state o'.state
  /-- The same events. -/
  events : o.events = o'.events

namespace SameVerdict

variable {V : α → α' → Prop} {W : β → β' → Prop}

/-- Failures that are put in other terms in the same way stay the same. -/
theorem mapError {v : Except ε α} {v' : Except ε α'} (h : SameVerdict V v v') (f : ε → ε') :
    SameVerdict V (v.mapError f) (v'.mapError f) := by
  cases h with
  | error e => exact .error (f e)
  | ok h => exact .ok h

/-- Functions that keep values related keep verdicts the same. -/
theorem map {v : Except ε α} {v' : Except ε α'} {f : α → β} {g : α' → β'}
    (h : SameVerdict V v v') (hfg : ∀ x y, V x y → W (f x) (g y)) :
    SameVerdict W (v.map f) (v'.map g) := by
  cases h with
  | error e => exact .error e
  | ok h => exact .ok (hfg _ _ h)

/-- Values that are related in one way may be related in another one. -/
theorem imp {v : Except ε α} {v' : Except ε α'} {U : α → α' → Prop} (h : SameVerdict V v v')
    (hVU : ∀ x y, V x y → U x y) : SameVerdict U v v' := by
  cases h with
  | error e => exact .error e
  | ok h => exact .ok (hVU _ _ h)

/-- A verdict is the same as itself where each value is related to itself. -/
theorem refl {V : α → α → Prop} (h : ∀ x, V x x) (v : Except ε α) : SameVerdict V v v := by
  cases v with
  | error e => exact .error e
  | ok x => exact .ok (h x)

/-- Verdicts with the same values are the same. -/
theorem eq {v v' : Except ε α} (h : SameVerdict Eq v v') : v = v' := by
  cases h with
  | error e => rfl
  | ok h => rw [h]

end SameVerdict

namespace Act

/-- From states related by `S`, both actions end alike, with values related by `V`. -/
def Alike (S : σ → σ' → Prop) (V : α → α' → Prop) (a : Act σ ε α) (b : Act σ' ε α') : Prop :=
  ∀ ⦃s : σ⦄ ⦃t : σ'⦄, S s t → (a.run s).Alike S V (b.run t)

namespace Alike

variable {S : σ → σ' → Prop} {T : τ → τ' → Prop} {V : α → α' → Prop} {W : β → β' → Prop}

/-! ## Single steps -/

/-- Giving related values is alike. -/
theorem pure {x : α} {y : α'} (h : V x y) :
    Alike S V (Pure.pure x : Act σ ε α) (Pure.pure y : Act σ' ε α') :=
  fun _ _ hst => ⟨.ok h, hst, rfl⟩

/-- The same failure is alike, whatever values it is in the place of. -/
theorem fail (e : ε) : Alike S V (Act.fail e : Act σ ε α) (Act.fail e : Act σ' ε α') :=
  fun _ _ hst => ⟨.error e, hst, rfl⟩

theorem emit (e : Event) : Alike S Eq (Act.emit e : Act σ ε Unit) (Act.emit e : Act σ' ε Unit) :=
  fun _ _ hst => ⟨.ok rfl, hst, rfl⟩

theorem get : Alike S S (Act.get : Act σ ε σ) (Act.get : Act σ' ε σ') :=
  fun _ _ hst => ⟨.ok hst, hst, rfl⟩

/-- Changes that keep states related are alike. -/
theorem modify {f : σ → σ} {g : σ' → σ'} (h : ∀ s t, S s t → S (f s) (g t)) :
    Alike S Eq (Act.modify f : Act σ ε Unit) (Act.modify g : Act σ' ε Unit) :=
  fun s t hst => ⟨.ok rfl, h s t hst, rfl⟩

/-- Changes that keep states related and give related values are alike. -/
theorem ofState {f : StateM σ α} {g : StateM σ' α'}
    (h : ∀ s t, S s t → V (f s).1 (g t).1 ∧ S (f s).2 (g t).2) :
    Alike S V (Act.ofState f : Act σ ε α) (Act.ofState g : Act σ' ε α') :=
  fun s t hst => ⟨.ok (h s t hst).1, (h s t hst).2, rfl⟩

/-- What is settled in the same way is alike. -/
theorem ofExcept {v : Except ε α} {v' : Except ε α'} (h : SameVerdict V v v') :
    Alike S V (Act.ofExcept v : Act σ ε α) (Act.ofExcept v' : Act σ' ε α') := by
  intro s t hst
  rw [run_ofExcept, run_ofExcept]
  exact ⟨h, hst, rfl⟩

/-! ## Work made of other work -/

/-- One step after another is alike if the first steps are, and the second ones are for related
values. -/
theorem bind {a : Act σ ε α} {a' : Act σ' ε α'} {f : α → Act σ ε β} {f' : α' → Act σ' ε β'}
    (ha : Alike S V a a') (hf : ∀ x y, V x y → Alike S W (f x) (f' y)) :
    Alike S W (a >>= f) (a' >>= f') := by
  intro s t hst
  obtain ⟨hvalue, hstate, hevents⟩ := ha hst
  rcases hrun : a.run s with ⟨v, u, events⟩
  rcases hrun' : a'.run t with ⟨v', u', events'⟩
  rw [hrun, hrun'] at hvalue hstate hevents
  -- both go on or neither does
  cases hvalue with
  | error e =>
    rw [run_bind_of_error hrun, run_bind_of_error hrun']
    exact ⟨.error e, hstate, hevents⟩
  | ok hxy =>
    obtain ⟨hvalue, hstate, hmore⟩ := hf _ _ hxy hstate
    rw [run_bind_of_ok hrun rfl, run_bind_of_ok hrun' rfl]
    exact ⟨hvalue, hstate, congr (congrArg _ hevents) hmore⟩

/-- Work that is done after the same report. -/
theorem after_emit {a : Act σ ε α} {a' : Act σ' ε α'} (e : Event) (h : Alike S V a a') :
    Alike S V (do Act.emit e; a) (do Act.emit e; a') :=
  (emit e).bind fun _ _ _ => h

/-- Doing something about a failure is alike if it is alike for every failure. -/
theorem onError {a : Act σ ε α} {a' : Act σ' ε α'} {handle : ε → Act σ ε' α}
    {handle' : ε → Act σ' ε' α'} (ha : Alike S V a a')
    (hf : ∀ e, Alike S V (handle e) (handle' e)) :
    Alike S V (a.onError handle) (a'.onError handle') := by
  intro s t hst
  obtain ⟨hvalue, hstate, hevents⟩ := ha hst
  rcases hrun : a.run s with ⟨v, u, events⟩
  rcases hrun' : a'.run t with ⟨v', u', events'⟩
  rw [hrun, hrun'] at hvalue hstate hevents
  cases hvalue with
  | error e =>
    obtain ⟨hvalue, hstate, hmore⟩ := hf e hstate
    rw [run_onError_of_error hrun rfl, run_onError_of_error hrun' rfl]
    exact ⟨hvalue, hstate, congr (congrArg _ hevents) hmore⟩
  | ok hxy =>
    rw [run_onError_of_ok hrun, run_onError_of_ok hrun']
    exact ⟨.ok hxy, hstate, hevents⟩

/-- Failures that are put in other terms in the same way leave actions alike. -/
theorem mapError {a : Act σ ε α} {a' : Act σ' ε α'} (h : Alike S V a a') (f : ε → ε') :
    Alike S V (a.mapError f) (a'.mapError f) :=
  h.onError fun e => fail (f e)

/-- Functions that keep values related leave actions alike. -/
theorem map {a : Act σ ε α} {a' : Act σ' ε α'} {f : α → β} {g : α' → β'} (h : Alike S V a a')
    (hfg : ∀ x y, V x y → W (f x) (g y)) : Alike S W (f <$> a) (g <$> a') := by
  intro s t hst
  rw [run_map, run_map]
  exact ⟨(h hst).value.map hfg, (h hst).state, (h hst).events⟩

/-- The same span around both leaves actions alike. -/
theorem inSpan {a : Act σ ε α} {a' : Act σ' ε α'} (h : Alike S V a a') (span : Span) :
    Alike S V (a.inSpan span) (a'.inSpan span) :=
  fun _ _ hst => ⟨(h hst).value, (h hst).state, congrArg _ (h hst).events⟩

/-- Work on related parts is alike if putting the parts back keeps the states related. -/
theorem within {p : Part σ τ} {q : Part σ' τ'} {a : Act τ ε α} {a' : Act τ' ε α'}
    (h : Alike T V a a') (hread : ∀ s t, S s t → T (p.read s) (q.read t))
    (hwrite : ∀ s t u v, S s t → T u v → S (p.write u s) (q.write v t)) :
    Alike S V (a.within p) (a'.within q) := by
  intro s t hst
  have ho := h (hread s t hst)
  exact ⟨ho.value, hwrite s t _ _ hst ho.state, ho.events⟩

/-- Work on states of its own is alike if those states are related at the beginning. -/
theorem isolated {a : Act τ ε α} {a' : Act τ' ε α'} {start : τ} {start' : τ'} (h : Alike T V a a')
    (hstart : T start start') :
    Alike S (fun x y => V x.1 y.1 ∧ T x.2 y.2) (Act.isolated start a : Act σ ε (α × τ))
      (Act.isolated start' a' : Act σ' ε (α' × τ')) := by
  intro s t hst
  have ho := h hstart
  exact ⟨ho.value.map fun x y hxy => ⟨hxy, ho.state⟩, hst, ho.events⟩

end Alike

end Act

end Locator
