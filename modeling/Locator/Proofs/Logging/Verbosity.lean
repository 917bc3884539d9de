import Locator.HostSettings
import Locator.Proofs.Logging.Decision

/-!
# What is shown when more reports are asked for

Asking for more reports on the console changes the level of the section `default` and nothing else.
More requests never silence what fewer requests or none show, but for one case: a single request takes
a section `default` that is up to `trace` back to `debug`.

* `HostSettings.Enables`: what the console shows of a target;
* `enables_raiseVerbosity_iff_of_free`, `enables_raiseVerbosity_iff_of_governed`: what requests do to
  it;
* `more_requests_silence_iff`: the exact case in which more requests show less.
-/

namespace Locator.HostSettings

/-- The console shows reports of a level from a target. -/
def Enables (s : HostSettings) (target : String) (level : Level) : Prop :=
  (ConsoleFilter.ofLogging s.logging).enables target level = true

variable {s : HostSettings} {target : String} {level : Level} {count : Nat}

theorem enables_iff {x : Section} (h : s.logging.Decides target x) :
    s.Enables target level ↔ x.Shows level :=
  ConsoleFilter.enables_ofListing_iff (List.Perm.refl _) h level

/-! ## What requests do to the sections -/

/-- Asking for verbosity changes the default section and no other. -/
theorem get?_raiseVerbosity (count : Nat) (s : HostSettings) (name : String) :
    (s.raiseVerbosity count).logging.get? name =
      if name = Logging.defaultName then some (raisedSection count s.logging.defaultSection)
      else s.logging.get? name :=
  NameMap.get?_insert s.logging Logging.defaultName _ name

/-- Asking for verbosity does not change which sections govern a target. -/
theorem governs_raiseVerbosity_iff {name : String} {x : Section} :
    (s.raiseVerbosity count).logging.Governs name x target ↔ s.logging.Governs name x target := by
  constructor
  · rintro ⟨held, special, begins⟩
    rw [get?_raiseVerbosity, if_neg special] at held
    exact ⟨held, special, begins⟩
  · rintro ⟨held, special, begins⟩
    refine ⟨?_, special, begins⟩
    rw [get?_raiseVerbosity, if_neg special]
    exact held

theorem free_raiseVerbosity_iff :
    (s.raiseVerbosity count).logging.Free target ↔ s.logging.Free target := by
  unfold Logging.Free
  simp only [governs_raiseVerbosity_iff]

/-- Where no section governs a target, requests count. -/
theorem enables_raiseVerbosity_iff_of_free (h : s.logging.Free target) :
    (s.raiseVerbosity count).Enables target level ↔
      (raisedSection count s.logging.defaultSection).Shows level := by
  refine enables_iff (.default (free_raiseVerbosity_iff.2 h) ?_)
  rw [get?_raiseVerbosity, if_pos rfl]

/-- Where a section governs a target, requests do not count. -/
theorem enables_raiseVerbosity_iff_of_governed (h : ¬ s.logging.Free target) :
    (s.raiseVerbosity count).Enables target level ↔ s.Enables target level := by
  obtain ⟨x, hx, -⟩ := ConsoleFilter.exists_decides (List.Perm.refl s.logging.entries) target
  have hraised : (s.raiseVerbosity count).logging.Decides target x := by
    cases hx with
    | longest governs most =>
      exact .longest (governs_raiseVerbosity_iff.2 governs) fun other y hother =>
        most other y (governs_raiseVerbosity_iff.1 hother)
    | default free held => exact absurd free h
    | missing free absent => exact absurd free h
  rw [enables_iff hraised, enables_iff hx]

/-- No requests change nothing. -/
theorem enables_raiseVerbosity_zero_iff :
    (s.raiseVerbosity 0).Enables target level ↔ s.Enables target level := by
  by_cases h : s.logging.Free target
  · exact (enables_raiseVerbosity_iff_of_free h).trans (enables_iff (.of_free h)).symm
  · exact enables_raiseVerbosity_iff_of_governed h

/-! ## The section `default` -/

theorem shows_trace_iff {x : Section} : x.Shows .trace ↔ x.console? = some .trace := by
  constructor
  · rintro ⟨shown, hshown, hle⟩
    cases shown with
    | trace => exact hshown
    | error | warn | info | debug => simp [Level.verbosity] at hle
  · intro h
    exact ⟨.trace, h, Nat.le_refl _⟩

/-- One request shows everything but trace. -/
theorem shows_raisedSection_one_iff {x : Section} :
    (raisedSection 1 x).Shows level ↔ level ≠ .trace := by
  constructor
  · rintro ⟨shown, hshown, hle⟩ rfl
    cases hshown
    simp [Level.verbosity] at hle
  · intro h
    refine ⟨.debug, rfl, ?_⟩
    cases level with
    | trace => exact absurd rfl h
    | error | warn | info | debug => decide

/-- Two requests or more show everything. -/
theorem shows_raisedSection_of_two_le (h : 2 ≤ count) (x : Section) (level : Level) :
    (raisedSection count x).Shows level := by
  obtain ⟨more, rfl⟩ := Nat.exists_eq_add_of_le' h
  refine ⟨.trace, rfl, ?_⟩
  cases level with
  | error | warn | info | debug | trace => decide

/-- More requests silence a section only if there is one request in place of none and the section is
up to `trace`. -/
theorem raisedSection_silences_iff (x : Section) {v w : Nat} (h : v ≤ w) (level : Level) :
    (raisedSection v x).Shows level ∧ ¬ (raisedSection w x).Shows level ↔
      v = 0 ∧ w = 1 ∧ x.console? = some .trace ∧ level = .trace := by
  by_cases htwo : 2 ≤ w
  · refine ⟨fun hsilenced => ?_, fun hcase => ?_⟩
    · exact absurd (shows_raisedSection_of_two_le htwo x level) hsilenced.2
    · omega
  · obtain rfl | hless := Nat.eq_or_lt_of_le h
    · refine ⟨fun hsilenced => absurd hsilenced.1 hsilenced.2, fun hcase => ?_⟩
      omega
    · obtain ⟨rfl, rfl⟩ : v = 0 ∧ w = 1 := by omega
      rw [shows_raisedSection_one_iff, not_ne_iff]
      constructor
      · rintro ⟨hshown, rfl⟩
        exact ⟨rfl, rfl, shows_trace_iff.1 hshown, rfl⟩
      · rintro ⟨-, -, htrace, rfl⟩
        exact ⟨shows_trace_iff.2 htrace, rfl⟩

/-! ## What more requests silence -/

/-- Reports of level `trace` from a target are shown because the section `default` is up to that
level. -/
structure TracesByDefault (s : HostSettings) (target : String) : Prop where
  /-- No section governs the target. -/
  free : s.logging.Free target
  /-- The section `default` is up to `trace`. -/
  traced : s.logging.defaultSection.console? = some .trace

/-- A higher verbosity silences trace only, and only where it is the first request. -/
theorem silenced_iff (s : HostSettings) {v w : Nat} (h : v ≤ w) (target : String) (level : Level) :
    (s.raiseVerbosity v).Enables target level ∧ ¬ (s.raiseVerbosity w).Enables target level ↔
      v = 0 ∧ w = 1 ∧ s.TracesByDefault target ∧ level = .trace := by
  by_cases hfree : s.logging.Free target
  · rw [enables_raiseVerbosity_iff_of_free hfree, enables_raiseVerbosity_iff_of_free hfree,
      raisedSection_silences_iff _ h]
    constructor
    · rintro ⟨hv, hw, htraced, hlevel⟩
      exact ⟨hv, hw, ⟨hfree, htraced⟩, hlevel⟩
    · rintro ⟨hv, hw, hdefault, hlevel⟩
      exact ⟨hv, hw, hdefault.traced, hlevel⟩
  · rw [enables_raiseVerbosity_iff_of_governed hfree, enables_raiseVerbosity_iff_of_governed hfree]
    constructor
    · rintro ⟨hshown, hsilenced⟩
      exact absurd hshown hsilenced
    · rintro ⟨-, -, hdefault, -⟩
      exact absurd hdefault.free hfree

/-- Whatever the settings, the target and the level: more requests show what fewer requests show, and
any number of them what the settings show as they are. The one exception are reports of level `trace`
that are shown because the section `default` is up to that level: one request silences them. -/
theorem more_requests_silence_iff (s : HostSettings) {v w : Nat} (h : v ≤ w) (target : String)
    (level : Level) :
    ((s.raiseVerbosity v).Enables target level ∧ ¬ (s.raiseVerbosity w).Enables target level ↔
      v = 0 ∧ w = 1 ∧ s.TracesByDefault target ∧ level = .trace) ∧
    (s.Enables target level ∧ ¬ (s.raiseVerbosity w).Enables target level ↔
      w = 1 ∧ s.TracesByDefault target ∧ level = .trace) := by
  refine ⟨silenced_iff s h target level, ?_⟩
  have hloaded := silenced_iff s (Nat.zero_le w) target level
  rw [enables_raiseVerbosity_zero_iff] at hloaded
  rw [hloaded]
  exact ⟨fun hcase => hcase.2, fun hcase => ⟨rfl, hcase⟩⟩

/-- Settings whose section `default` is up to `trace`. -/
def traced : HostSettings :=
  { HostSettings.default with logging := NameMap.empty.insert Logging.defaultName ⟨some .trace⟩ }

theorem traced_tracesByDefault (target : String) : traced.TracesByDefault target := by
  refine ⟨fun name x hgoverns => ?_, rfl⟩
  have hheld := hgoverns.held
  rw [traced, NameMap.get?_insert, if_neg hgoverns.special] at hheld
  cases hheld

theorem more_requests_silence_iff_example :
    0 ≤ 1 ∧ traced.TracesByDefault "repository_locator" ∧
    (traced.raiseVerbosity 0).Enables "repository_locator" .trace ∧
    ¬ (traced.raiseVerbosity 1).Enables "repository_locator" .trace := by
  have hcase := traced_tracesByDefault "repository_locator"
  obtain ⟨hshown, hsilenced⟩ :=
    (more_requests_silence_iff traced (Nat.zero_le 1) "repository_locator" .trace).1.2
      ⟨rfl, rfl, hcase, rfl⟩
  exact ⟨Nat.zero_le 1, hcase, hshown, hsilenced⟩

/-- One request more can show less: reports of level `trace` that settings show are silenced. -/
theorem one_request_silences_traces :
    ¬ ∀ (s : HostSettings) (v w : Nat) (target : String) (level : Level), v ≤ w →
      (s.raiseVerbosity v).Enables target level → (s.raiseVerbosity w).Enables target level := by
  intro h
  have hshown : (traced.raiseVerbosity 0).Enables "repository_locator" .trace := by
    unfold Enables
    decide
  have hsilenced : ¬ (traced.raiseVerbosity 1).Enables "repository_locator" .trace := by
    unfold Enables
    decide
  exact hsilenced (h traced 0 1 "repository_locator" .trace (Nat.zero_le 1) hshown)

end Locator.HostSettings
