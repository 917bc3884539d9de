import Locator.Proofs.StaticDirectory.Runs
import Locator.Proofs.Text.AsciiCase

/-!
# Who may connect to a static directory

The contract of a static directory is that a client presents the principal, if one is set, and the
secret, if one is set as well. The connector asks for both only where both are set.

* `Environment.Reaches`: the environment does not mark the directory unavailable;
* `StaticSettings.Admits`: the contract;
* `connect_outcome`: whom the connector accepts, how it refuses the others, and that it departs from
  the contract exactly where a principal is set without a secret and the client does not present it.
-/

namespace Locator

variable {ρ : Type}

/-- The environment does not mark the directory unavailable, as it does by `false` in any case. -/
def Environment.Reaches (env : Environment) : Prop :=
  ∀ v, env.get? StaticConnector.availableKey = some v → ¬ Text.Spells v "false"

namespace StaticSettings

/-- The contract: who presents the principal, if one is set, and then the secret, if one is set. -/
def Admits (s : StaticSettings) (env : Environment) : Prop :=
  ∀ principal, s.principal? = some principal →
    env.get? StaticConnector.principalKey = some principal ∧
    ∀ secret, s.credentials? = some secret →
      env.get? StaticConnector.credentialsKey = some secret

/-- A principal is set, no secret is, and the environment does not present the principal. -/
def Slips (s : StaticSettings) (env : Environment) : Prop :=
  s.credentials? = none ∧ ∃ principal, s.principal? = some principal ∧
    env.get? StaticConnector.principalKey ≠ some principal

end StaticSettings

namespace StaticConnector

/-! ## The two checks -/

theorem toLower_eq_false_iff (v : String) : v.toLower = "false" ↔ Text.Spells v "false" :=
  Text.toLower_eq_iff_spells (by simp)

theorem checkAvailable_of_reaches {env : Environment} (h : env.Reaches) :
    checkAvailable env = .ok () := by
  unfold checkAvailable
  cases hv : env.get? availableKey with
  | none => rfl
  | some v =>
    have hne : v.toLower ≠ "false" := fun heq => h v hv ((toLower_eq_false_iff v).1 heq)
    exact if_neg hne

/-- A directory that is not reached is reported as unavailable. -/
theorem checkAvailable_of_not_reaches {env : Environment} (h : ¬ env.Reaches) :
    checkAvailable env = .error (.serviceUnavailable "directory marked unavailable") := by
  unfold Environment.Reaches at h
  push Not at h
  obtain ⟨v, hv, hspells⟩ := h
  unfold checkAvailable
  rw [hv]
  exact if_pos ((toLower_eq_false_iff v).2 hspells)

/-- Where a secret is missing from the settings, everybody is who they should be. -/
theorem authenticate_of_no_secret {s : StaticSettings} (h : s.credentials? = none)
    (env : Environment) : (ofSettings s).authenticate env = .ok () := by
  unfold authenticate ofSettings
  rw [h]
  cases s.principal? with
  | none => rfl
  | some principal => rfl

/-- Whoever the settings admit is authenticated. -/
theorem authenticate_of_admits {s : StaticSettings} {env : Environment} (h : s.Admits env) :
    (ofSettings s).authenticate env = .ok () := by
  cases hs : s.credentials? with
  | none => exact authenticate_of_no_secret hs env
  | some secret =>
    unfold authenticate ofSettings
    cases hp : s.principal? with
    | none => rfl
    | some principal =>
      obtain ⟨hprincipal, hsecret⟩ := h principal hp
      simp only [hs, hprincipal, hsecret secret hs, ne_eq, not_true_eq_false, if_false]

/-- Where a secret is set, those who are not admitted are refused. -/
theorem authenticate_of_not_admits {s : StaticSettings} {env : Environment}
    (hs : s.credentials? ≠ none) (h : ¬ s.Admits env) :
    ∃ text, (ofSettings s).authenticate env = .error (.authenticationFailed text) := by
  obtain ⟨secret, hsecret⟩ := Option.ne_none_iff_exists'.1 hs
  unfold StaticSettings.Admits at h
  push Not at h
  obtain ⟨principal, hp, hrefused⟩ := h
  unfold authenticate ofSettings
  rw [hp, hsecret]
  by_cases hpresented : env.get? principalKey = some principal
  · -- the principal is presented, so it is the secret that is not
    obtain ⟨secret', hsecret', hne⟩ := hrefused hpresented
    rw [hsecret] at hsecret'
    cases hsecret'
    refine ⟨s!"invalid `{credentialsKey}` for principal `{principal}`", ?_⟩
    simp only [hpresented, ne_eq, not_true_eq_false, if_false, if_pos hne]
  · refine ⟨s!"unknown principal for `{principalKey}`", ?_⟩
    simp only [ne_eq, hpresented, not_false_eq_true, if_true]

/-! ## The outcome of a connection -/

/-- Availability is checked before anything else. -/
theorem checkAccess_of_not_reaches (c : StaticConnector) {env : Environment}
    (h : ¬ env.Reaches) :
    c.checkAccess env = .error (.serviceUnavailable "directory marked unavailable") := by
  unfold checkAccess
  rw [checkAvailable_of_not_reaches h]
  rfl

theorem checkAccess_of_reaches (c : StaticConnector) {env : Environment} (h : env.Reaches) :
    c.checkAccess env = c.authenticate env := by
  unfold checkAccess
  rw [checkAvailable_of_reaches h]
  rfl

/-- A client that is not admitted where no secret is set is one that slips in. -/
theorem not_admits_iff_slips {s : StaticSettings} {env : Environment} (hs : s.credentials? = none) :
    ¬ s.Admits env ↔ s.Slips env := by
  constructor
  · intro h
    unfold StaticSettings.Admits at h
    push Not at h
    obtain ⟨principal, hp, hrefused⟩ := h
    refine ⟨hs, principal, hp, fun hpresented => ?_⟩
    obtain ⟨secret, hsecret, -⟩ := hrefused hpresented
    rw [hs] at hsecret
    cases hsecret
  · rintro ⟨-, principal, hp, hne⟩ h
    exact hne (h principal hp).1

/-- What connecting gives: acceptance for those whom the environment lets reach the directory and
who are admitted or need no secret, and a refusal of one of two kinds for the others. -/
theorem connect_value_cases (s : StaticSettings) (env : Environment) (w : StaticService ρ) :
    (env.Reaches ∧ (s.Admits env ∨ s.credentials? = none) ∧
      (((ofSettings s).connect env).run w).value = .ok context) ∨
    (¬ env.Reaches ∧ ∃ text,
      (((ofSettings s).connect env).run w).value = .error (.serviceUnavailable text)) ∨
    (env.Reaches ∧ ¬ s.Admits env ∧ s.credentials? ≠ none ∧ ∃ text,
      (((ofSettings s).connect env).run w).value = .error (.authenticationFailed text)) := by
  rw [run_connect_value]
  by_cases hreaches : env.Reaches
  · rw [checkAccess_of_reaches _ hreaches]
    by_cases hfree : s.credentials? = none
    · rw [authenticate_of_no_secret hfree]
      exact .inl ⟨hreaches, .inr hfree, rfl⟩
    · by_cases hadmits : s.Admits env
      · rw [authenticate_of_admits hadmits]
        exact .inl ⟨hreaches, .inl hadmits, rfl⟩
      · obtain ⟨text, htext⟩ := authenticate_of_not_admits hfree hadmits
        rw [htext]
        exact .inr (.inr ⟨hreaches, hadmits, hfree, text, rfl⟩)
  · rw [checkAccess_of_not_reaches _ hreaches]
    exact .inr (.inl ⟨hreaches, _, rfl⟩)

section

variable (s : StaticSettings) (env : Environment) (w : StaticService ρ)

/-- A connection is accepted exactly if the directory is reached and either the client is admitted or
no credentials are configured. -/
theorem accepted_iff :
    (∃ context, (((ofSettings s).connect env).run w).value = .ok context) ↔
      env.Reaches ∧ (s.Admits env ∨ s.credentials? = none) := by
  obtain ⟨hreaches, hfree, hvalue⟩ | ⟨hreaches, text, hvalue⟩ |
    ⟨hreaches, hadmits, hsecret, text, hvalue⟩ := connect_value_cases s env w
  · exact ⟨fun _ => ⟨hreaches, hfree⟩, fun _ => ⟨_, hvalue⟩⟩
  · refine ⟨fun ⟨context, h⟩ => ?_, fun h => absurd h.1 hreaches⟩
    rw [hvalue] at h
    cases h
  · refine ⟨fun ⟨context, h⟩ => ?_, fun h => absurd h.2 (not_or.2 ⟨hadmits, hsecret⟩)⟩
    rw [hvalue] at h
    cases h

/-- A client is told that the service is unavailable exactly if the directory is not reached. -/
theorem unavailable_iff :
    (∃ text, (((ofSettings s).connect env).run w).value = .error (.serviceUnavailable text)) ↔
      ¬ env.Reaches := by
  obtain ⟨hreaches, -, hvalue⟩ | ⟨hreaches, text, hvalue⟩ | ⟨hreaches, -, -, text, hvalue⟩ :=
    connect_value_cases s env w
  · refine ⟨fun ⟨text, h⟩ => ?_, fun h => absurd hreaches h⟩
    rw [hvalue] at h
    cases h
  · exact ⟨fun _ => hreaches, fun _ => ⟨text, hvalue⟩⟩
  · refine ⟨fun ⟨text', h⟩ => ?_, fun h => absurd hreaches h⟩
    rw [hvalue] at h
    cases h

/-- A client is told that authentication failed exactly if the directory is reached, credentials are
configured and the client is not admitted. -/
theorem unauthenticated_iff :
    (∃ text, (((ofSettings s).connect env).run w).value = .error (.authenticationFailed text)) ↔
      env.Reaches ∧ ¬ s.Admits env ∧ s.credentials? ≠ none := by
  obtain ⟨hreaches, hfree, hvalue⟩ | ⟨hreaches, text, hvalue⟩ |
    ⟨hreaches, hadmits, hsecret, text, hvalue⟩ := connect_value_cases s env w
  · refine ⟨fun ⟨text, h⟩ => ?_, fun h => absurd hfree (not_or.2 h.2)⟩
    rw [hvalue] at h
    cases h
  · refine ⟨fun ⟨text', h⟩ => ?_, fun h => absurd h.1 hreaches⟩
    rw [hvalue] at h
    cases h
  · exact ⟨fun _ => ⟨hreaches, hadmits, hsecret⟩, fun _ => ⟨text, hvalue⟩⟩

/-- The contract decides who is accepted, unless a client slips in. -/
theorem contract_decides_iff :
    ((∃ context, (((ofSettings s).connect env).run w).value = .ok context) ↔
      env.Reaches ∧ s.Admits env) ↔ ¬ (env.Reaches ∧ s.Slips env) := by
  rw [accepted_iff]
  constructor
  · rintro h ⟨hreaches, hslips⟩
    have hadmits := (h.1 ⟨hreaches, .inr hslips.1⟩).2
    exact (not_admits_iff_slips hslips.1).2 hslips hadmits
  · intro h
    refine ⟨fun ⟨hreaches, hfree⟩ => ⟨hreaches, ?_⟩, fun h => ⟨h.1, .inl h.2⟩⟩
    obtain hadmits | hnone := hfree
    · exact hadmits
    · by_contra hadmits
      exact h ⟨hreaches, (not_admits_iff_slips hnone).1 hadmits⟩

end

/-- Whatever is bound and whoever connected before, a client is accepted exactly when the
environment reaches the directory and the client keeps the contract, or no secret is set. An
environment that does not reach it is refused as such, before anything else; every other refusal is
a failed authentication. So the contract decides alone, unless the environment reaches the directory
and the client slips in without the principal that is set. -/
theorem connect_outcome (s : StaticSettings) (env : Environment) (w : StaticService ρ) :
    let o := ((ofSettings s).connect env).run w
    let accepted := ∃ context, o.value = .ok context
    (accepted ↔ env.Reaches ∧ (s.Admits env ∨ s.credentials? = none)) ∧
    ((∃ text, o.value = .error (.serviceUnavailable text)) ↔ ¬ env.Reaches) ∧
    ((∃ text, o.value = .error (.authenticationFailed text)) ↔
      env.Reaches ∧ ¬ s.Admits env ∧ s.credentials? ≠ none) ∧
    ((accepted ↔ env.Reaches ∧ s.Admits env) ↔ ¬ (env.Reaches ∧ s.Slips env)) := by
  intro o accepted
  have haccepted := accepted_iff s env w
  have hunavailable := unavailable_iff s env w
  have hunauthenticated := unauthenticated_iff s env w
  have hcontract := contract_decides_iff s env w
  exact ⟨haccepted, hunavailable, hunauthenticated, hcontract⟩

/-- A directory that is set up for a principal but for no secret lets in a client that presents
nothing at all. -/
theorem connect_without_principal :
    ¬ ∀ (s : StaticSettings) (env : Environment) (w : StaticService Unit),
      (∃ context, (((ofSettings s).connect env).run w).value = .ok context) →
        env.Reaches ∧ s.Admits env := by
  intro h
  have haccepted : (((ofSettings ⟨some "admin", none, []⟩).connect .empty).run
      (default : StaticService Unit)).value = .ok context := rfl
  have hadmits := (h ⟨some "admin", none, []⟩ .empty default ⟨context, haccepted⟩).2
  have hpresented : Environment.empty.get? principalKey = some "admin" := (hadmits "admin" rfl).1
  cases hpresented

end StaticConnector

end Locator
