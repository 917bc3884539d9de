import Locator.Proofs.Client.Forwarding
import Locator.Proofs.StaticDirectory.Build

/-!
# What the directory of settings holds

A static directory is made exactly if nothing is wrong with a name in its settings. It binds the names
of the settings, and behind each of them stands a repository with the descriptors and the users that
the settings give for this name.

* `BindingSettings.answer`: what calls are answered according to the settings;
* `Handle.Serves`: a handle whose repository answers so, also through the client adapter;
* `StaticDirectory.Holds`: a directory that binds such handles, under the names of the settings and
  under no other ones;
* `StaticSettings.build_is_exact`: the directory that is made, or the reason why there is none.
-/

namespace Locator

variable {σ : Type}

/-! ## One repository -/

namespace InMemoryRepository

variable {r : InMemoryRepository} {c : Credentials}

/-- A login with the password of the user opens a session. -/
theorem run_login_of_admitted (h : r.users.get? c.userId = some c.password)
    (workspace? : Option String) (w : σ) :
    (r.login (some c) workspace?).run w =
      ⟨.ok ⟨some c.userId, workspace?.getD defaultWorkspace⟩, w, []⟩ := by
  have hadmits : r.admits c = true := beq_iff_eq.2 h
  unfold login
  simp only [hadmits]
  rfl

/-- Any other login is refused, with an event. -/
theorem run_login_of_refused (h : r.users.get? c.userId ≠ some c.password)
    (workspace? : Option String) (w : σ) :
    (r.login (some c) workspace?).run w =
      ⟨.error (refusal c.userId), w, [refusalEvent c.userId]⟩ := by
  have hadmits : r.admits c = false := beq_eq_false_iff_ne.2 h
  unfold login
  simp only [hadmits]
  rfl

end InMemoryRepository

namespace BindingSettings

/-- What a call on a repository with these descriptors and users is answered. -/
def answer (b : BindingSettings) : Call → Except RemoteError Answer
  | .keys => .ok (.keys b.descriptors.names)
  | .descriptor key => .ok (.descriptor (b.descriptors.get? key))
  | .login none workspace? => .ok (.login ⟨none, workspace?.getD "default"⟩)
  | .login (some c) workspace? =>
    if b.users.get? c.userId = some c.password then
      .ok (.login ⟨some c.userId, workspace?.getD "default"⟩)
    else .error (InMemoryRepository.refusal c.userId)

theorem answer_login_of_admitted (b : BindingSettings) {c : Credentials}
    (h : b.users.get? c.userId = some c.password) (workspace? : Option String) :
    b.answer (.login (some c) workspace?) =
      .ok (.login ⟨some c.userId, workspace?.getD "default"⟩) := if_pos h

theorem answer_login_of_refused (b : BindingSettings) {c : Credentials}
    (h : b.users.get? c.userId ≠ some c.password) (workspace? : Option String) :
    b.answer (.login (some c) workspace?) = .error (InMemoryRepository.refusal c.userId) := if_neg h

/-- A bound repository answers each call as its binding says. -/
theorem exists_run_answer (b : BindingSettings) (call : Call) (w : σ) :
    ∃ events, (b.repository.repository.answer call).run w = ⟨b.answer call, w, events⟩ := by
  cases call with
  | keys => exact ⟨[], rfl⟩
  | descriptor key => exact ⟨[], rfl⟩
  | login credentials? workspace? =>
    cases credentials? with
    | none => exact ⟨[], rfl⟩
    | some c =>
      unfold Repository.answer InMemoryRepository.repository
      by_cases hown : b.users.get? c.userId = some c.password
      · have hlogin : (b.repository.login (some c) workspace?).run w = _ :=
          InMemoryRepository.run_login_of_admitted hown workspace? w
        rw [b.answer_login_of_admitted hown, Act.run_map, hlogin]
        exact ⟨_, rfl⟩
      · have hlogin : (b.repository.login (some c) workspace?).run w = _ :=
          InMemoryRepository.run_login_of_refused hown workspace? w
        rw [b.answer_login_of_refused hown, Act.run_map, hlogin]
        exact ⟨_, rfl⟩

end BindingSettings

/-- The client adapter wraps the handle. The repository that it wraps answers by the descriptors and
the users of a binding, and so does the proxy, with failures as failures of the remote call. -/
def Handle.Serves (h : Handle Remote) (b : BindingSettings) : Prop :=
  ∀ {σ : Type} (w : σ), ∃ p wrapping,
    (ClientAdapter.wrap h).run w = ⟨.ok p, w, wrapping⟩ ∧ h = .repository p.remote ∧
    ∀ call : Call,
      (∃ events, (p.remote.repository.answer call).run w = ⟨b.answer call, w, events⟩) ∧
      ∃ events, ((p.repository Remote.repository).answer call).run w =
        ⟨(b.answer call).mapError .remote, w, events⟩

/-- The handle of a binding leads to its repository. -/
theorem BindingSettings.handle_serves (b : BindingSettings) : b.handle.Serves b := by
  intro σ w
  refine ⟨⟨.inMemory b.repository⟩, _, ClientAdapter.run_wrap_repository _ w, rfl, fun call => ?_⟩
  obtain ⟨events, hanswer⟩ := b.exists_run_answer call w
  obtain ⟨more, hforwarded⟩ :=
    RemoteRepository.exists_run_answer_forwarded b.repository.repository call w
  rw [hanswer] at hforwarded
  exact ⟨⟨events, hanswer⟩, more, hforwarded⟩

/-! ## All of them -/

/-- Exactly the names of the bindings are bound, each to a handle that serves its binding. -/
structure StaticDirectory.Holds (d : StaticDirectory Remote) (bindings : List BindingSettings) :
    Prop where
  /-- The bound names are those of the bindings, each once. -/
  names : d.names.Perm (bindings.map (·.name))
  /-- What is found under the name of a binding serves the binding. -/
  found : ∀ b ∈ bindings, ∃ h : Handle Remote,
    (lookup b.name).run d = ⟨.ok h, d, []⟩ ∧ h.Serves b
  /-- Nothing is found under any other name. -/
  missing : ∀ n, n ∉ bindings.map (·.name) → (lookup n).run d =
    ⟨.error (if WellFormedName n then .nameNotBound n else .refusal n), d, []⟩

namespace StaticSettings

variable {bindings : List BindingSettings} {e : BindError}

/-- The names are listed in another order, but none is added and none is lost. -/
theorem names_stocked_perm (h : Acceptable bindings) :
    (stocked bindings).names.Perm (bindings.map (·.name)) := by
  refine (List.perm_ext_iff_of_nodup (stocked bindings).table.nodup_names h.distinct).2 fun n => ?_
  exact (NameMap.mem_names_iff _).trans (contains_stocked_iff bindings n)

/-- A name that no binding has is not found, or is refused as a name. -/
theorem run_lookup_stocked_of_free {n : String} (h : n ∉ bindings.map (·.name)) :
    (StaticDirectory.lookup n).run (stocked bindings) =
      ⟨.error (if WellFormedName n then .nameNotBound n else .refusal n), stocked bindings, []⟩ := by
  by_cases hname : WellFormedName n
  · have hfree : ¬ (stocked bindings).table.contains n = true := by
      rwa [contains_stocked_iff]
    have hnone : (stocked bindings).table.get? n = none := Option.not_isSome_iff_eq_none.1 hfree
    rw [if_pos hname]
    exact StaticDirectory.run_lookup_of_missing (checkName_eq_ok_iff.2 hname) hnone
  · rw [if_neg hname]
    exact StaticDirectory.run_lookup_of_refused (checkName_of_not_wellFormed hname) _

/-- The stocked directory holds the bindings it was stocked with. -/
theorem stocked_holds (h : Acceptable bindings) : (stocked bindings).Holds bindings where
  names := names_stocked_perm h
  found b hb := by
    have hcheck : checkName b.name = .ok () := checkName_eq_ok_iff.2 (h.wellFormed b hb)
    have hfound := StaticDirectory.run_lookup_of_bound hcheck (get?_stocked h hb)
    exact ⟨b.handle, hfound, b.handle_serves⟩
  missing _ hfree := run_lookup_stocked_of_free hfree

theorem build_value_of_acceptable (s : StaticSettings) (h : Acceptable s.bindings) (w : σ) :
    ((s.build : Act σ BindError _).run w).value = .ok (stocked s.bindings) := by
  rw [run_build_of_acceptable h]

theorem build_value_of_refused (s : StaticSettings) (h : FirstRefused s.bindings e) (w : σ) :
    ((s.build : Act σ BindError _).run w).value = .error e := by
  obtain ⟨events, hrun⟩ := run_build_of_refused h w
  rw [hrun]

/-- A directory is made exactly if all names are well formed and no two of them are the same. It
binds these names, and a repository with the descriptors and the users of its binding answers behind
each of them. Otherwise the first binding whose name is malformed or taken says why there is no
directory, whatever comes behind it. -/
theorem build_is_exact (s : StaticSettings) (w : σ) :
    let outcome (s : StaticSettings) :=
      ((s.build : Act σ BindError (StaticDirectory Remote)).run w).value
    ((∃ d, outcome s = .ok d) ↔ Acceptable s.bindings) ∧
    (∀ d, outcome s = .ok d → d.Holds s.bindings) ∧
    (∀ e, outcome s = .error e ↔ FirstRefused s.bindings e) ∧
    ∀ e more, outcome s = .error e →
      outcome { s with bindings := s.bindings ++ more } = .error e := by
  intro outcome
  obtain h | ⟨e, h⟩ := acceptable_or_refused s.bindings
  · have hvalue : outcome s = .ok (stocked s.bindings) := build_value_of_acceptable s h w
    rw [hvalue]
    refine ⟨⟨fun _ => h, fun _ => ⟨_, rfl⟩⟩, ?_, ?_, ?_⟩
    · rintro _ ⟨⟩
      exact stocked_holds h
    · intro e
      refine ⟨?_, fun he => hvalue.symm.trans (build_value_of_refused s he w)⟩
      rintro ⟨⟩
    · rintro e more ⟨⟩
  · have hvalue : outcome s = .error e := build_value_of_refused s h w
    rw [hvalue]
    refine ⟨⟨?_, fun hall => ⟨_, hvalue.symm.trans (build_value_of_acceptable s hall w)⟩⟩, ?_, ?_, ?_⟩
    · rintro ⟨d, ⟨⟩⟩
    · rintro d ⟨⟩
    · intro e'
      refine ⟨?_, fun he => hvalue.symm.trans (build_value_of_refused s he w)⟩
      rintro ⟨⟩
      exact h
    · rintro _ more ⟨⟩
      -- the bindings in front of the one that is refused are the same ones
      exact build_value_of_refused { s with bindings := s.bindings ++ more } (h.append more) w

end StaticSettings

end Locator
