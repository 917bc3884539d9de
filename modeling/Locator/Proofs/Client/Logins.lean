import Locator.Proofs.StaticDirectory.Contents

/-!
# Logins are exact and discreet

A repository in memory opens a session for everybody who asks without credentials, and for users
who present the password that is kept for them. Whoever is refused learns nothing but that: the
refusal is the same for a wrong password and for a user who is not known, whatever the repository
holds. All of this holds of the proxy for the repository as well.

* `InMemoryRepository.Accepts`, `InMemoryRepository.session`: whom the repository accepts, and the
  session that is opened;
* `InMemoryRepository.login_cases`: one login, accepted or refused;
* `InMemoryRepository.LoginsAreExact`: what is asked of logins, however the repository is reached;
* `InMemoryRepository.logins_are_exact`: they are, directly and through a proxy.
-/

namespace Locator.InMemoryRepository

variable {σ ε : Type}

/-! ## One login -/

/-- Nothing is presented, or the password that is kept for the user. -/
def Accepts (r : InMemoryRepository) : Option Credentials → Prop
  | none => True
  | some c => r.users.get? c.userId = some c.password

/-- The session of a user, on the workspace that was asked for, or on the usual one. -/
def session (credentials? : Option Credentials) (workspace? : Option String) : SessionInfo :=
  ⟨credentials?.map (·.userId), workspace?.getD "default"⟩

/-- A login leaves the state as it is. It opens the session for those whom the repository accepts,
and reports nothing. The others are users; they are refused by their names, and that is reported. -/
theorem login_cases (r : InMemoryRepository) (credentials? : Option Credentials)
    (workspace? : Option String) (w : σ) :
    (r.Accepts credentials? ∧
      (r.login credentials? workspace?).run w = ⟨.ok (session credentials? workspace?), w, []⟩) ∨
    ∃ c, credentials? = some c ∧ ¬ r.Accepts (some c) ∧
      (r.login credentials? workspace?).run w =
        ⟨.error (refusal c.userId), w, [refusalEvent c.userId]⟩ := by
  cases credentials? with
  | none => exact .inl ⟨trivial, rfl⟩
  | some c =>
    by_cases hown : r.users.get? c.userId = some c.password
    · exact .inl ⟨hown, run_login_of_admitted hown workspace? w⟩
    · exact .inr ⟨c, rfl, hown, run_login_of_refused hown workspace? w⟩

/-- The proxy for a repository in memory. -/
def proxy (r : InMemoryRepository) : ClientRepository Remote := ⟨.inMemory r⟩

/-- A login through the proxy ends like one on the repository, a refusal being put in other terms.
What is reported stands in the span of the call. -/
theorem run_login_proxy (r : InMemoryRepository) (credentials? : Option Credentials)
    (workspace? : Option String) (w : σ) :
    ((r.proxy.repository Remote.repository).login credentials? workspace?).run w =
      let o := (r.login credentials? workspace?).run w
      ⟨o.value.mapError .remote, o.state, o.events.map (·.inside (loginSpan workspace?))⟩ := by
  have hforwarded : (r.proxy.repository Remote.repository).login credentials? workspace? =
      Act.inSpan (loginSpan workspace?)
        ((r.login credentials? workspace?).mapError RepositoryError.remote : Act σ _ _) := rfl
  rw [hforwarded, Act.run_inSpan, Act.run_mapError]

/-- Through the proxy a login succeeds for exactly the credentials that are accepted, and is refused
for all others. -/
theorem login_proxy_cases (r : InMemoryRepository) (credentials? : Option Credentials)
    (workspace? : Option String) (w : σ) :
    (r.Accepts credentials? ∧
      ((r.proxy.repository Remote.repository).login credentials? workspace?).run w =
        ⟨.ok (session credentials? workspace?), w, []⟩) ∨
    ∃ c, credentials? = some c ∧ ¬ r.Accepts (some c) ∧
      ((r.proxy.repository Remote.repository).login credentials? workspace?).run w =
        ⟨.error (.remote (refusal c.userId)), w,
          [(refusalEvent c.userId).inside (loginSpan workspace?)]⟩ := by
  rw [run_login_proxy]
  obtain ⟨haccepts, hrun⟩ | ⟨c, hc, hrefused, hrun⟩ := r.login_cases credentials? workspace? w
  · rw [hrun]
    exact .inl ⟨haccepts, rfl⟩
  · rw [hrun]
    exact .inr ⟨c, hc, hrefused, rfl⟩

/-! ## All logins -/

/-- What is asked of logins on repositories in memory, in whatever way a repository is reached. -/
structure LoginsAreExact (login : InMemoryRepository → Option Credentials → Option String →
    Act σ ε SessionInfo) : Prop where
  /-- A session is opened exactly for those whom the repository accepts. -/
  accepted_iff : ∀ r credentials? workspace? w,
    (∃ opened, ((login r credentials? workspace?).run w).value = .ok opened) ↔
      r.Accepts credentials?
  /-- The session names the user, if there is one, and the workspace. -/
  session_eq : ∀ r credentials? workspace? w opened,
    ((login r credentials? workspace?).run w).value = .ok opened →
      opened = session credentials? workspace?
  /-- The refusals of a user are the same, whatever repositories, passwords and workspaces. -/
  refusals_eq : ∀ {r r' : InMemoryRepository} {c c' : Credentials}
    {workspace? workspace?' : Option String} {w w' : σ} {e e' : ε},
    ((login r (some c) workspace?).run w).value = .error e →
    ((login r' (some c') workspace?').run w').value = .error e' →
    c.userId = c'.userId → e = e'
  /-- So are the reports of refusals, on the same workspace. -/
  reports_eq : ∀ {r r' : InMemoryRepository} {c c' : Credentials} {workspace? : Option String}
    {w w' : σ} {e e' : ε},
    ((login r (some c) workspace?).run w).value = .error e →
    ((login r' (some c') workspace?).run w').value = .error e' →
    c.userId = c'.userId →
    ((login r (some c) workspace?).run w).events = ((login r' (some c') workspace?).run w').events
  /-- The state stays as it is. -/
  state_eq : ∀ r credentials? workspace? w, ((login r credentials? workspace?).run w).state = w

/-- Logins are exact if each of them opens the session for those whom the repository accepts, and
tells and reports of the others what depends on their names and the workspace only. -/
theorem LoginsAreExact.of_cases {login : InMemoryRepository → Option Credentials → Option String →
    Act σ ε SessionInfo} (told : String → ε) (reported : Option String → String → List Event)
    (h : ∀ r credentials? workspace? w,
      (r.Accepts credentials? ∧ (login r credentials? workspace?).run w =
        ⟨.ok (session credentials? workspace?), w, []⟩) ∨
      ∃ c, credentials? = some c ∧ ¬ r.Accepts (some c) ∧ (login r credentials? workspace?).run w =
        ⟨.error (told c.userId), w, reported workspace? c.userId⟩) :
    LoginsAreExact login := by
  have hrefused : ∀ {r} {c : Credentials} {workspace? w e},
      ((login r (some c) workspace?).run w).value = .error e →
        (login r (some c) workspace?).run w =
          ⟨.error (told c.userId), w, reported workspace? c.userId⟩ ∧ e = told c.userId := by
    intro r c workspace? w e he
    obtain ⟨-, hrun⟩ | ⟨c', hc', -, hrun⟩ := h r (some c) workspace? w
    · rw [hrun] at he
      cases he
    · cases hc'
      rw [hrun] at he
      cases he
      exact ⟨hrun, rfl⟩
  refine ⟨fun r credentials? workspace? w => ?_, fun r credentials? workspace? w opened ho => ?_,
    fun he he' hid => ?_, fun he he' hid => ?_, fun r credentials? workspace? w => ?_⟩
  · obtain ⟨haccepts, hrun⟩ | ⟨c, rfl, hnot, hrun⟩ := h r credentials? workspace? w
    · rw [hrun]
      exact ⟨fun _ => haccepts, fun _ => ⟨_, rfl⟩⟩
    · rw [hrun]
      refine ⟨fun ⟨opened, ho⟩ => ?_, fun haccepts => absurd haccepts hnot⟩
      cases ho
  · obtain ⟨-, hrun⟩ | ⟨c, -, -, hrun⟩ := h r credentials? workspace? w
    · rw [hrun] at ho
      exact (Except.ok.inj ho).symm
    · rw [hrun] at ho
      cases ho
  · rw [(hrefused he).2, (hrefused he').2, hid]
  · rw [(hrefused he).1, (hrefused he').1, hid]
  · obtain ⟨-, hrun⟩ | ⟨c, -, -, hrun⟩ := h r credentials? workspace? w
    · rw [hrun]
    · rw [hrun]

/-- Logins are exact, on a repository in memory and through the proxy for it: who is refused cannot
tell a wrong password from a user who is not known. -/
theorem logins_are_exact :
    LoginsAreExact (σ := σ) (fun r => r.repository.login) ∧
    LoginsAreExact (σ := σ) (fun r => (r.proxy.repository Remote.repository).login) := by
  constructor
  · exact .of_cases refusal (fun _ user => [refusalEvent user]) login_cases
  · exact .of_cases (fun user => .remote (refusal user))
      (fun workspace? user => [(refusalEvent user).inside (loginSpan workspace?)]) login_proxy_cases

/-- A wrong password, the right one, and the same user where nobody is known. -/
theorem logins_are_exact_example :
    let known : InMemoryRepository := ⟨.empty, .ofList [("ada", "lovelace")]⟩
    let unknown : InMemoryRepository := ⟨.empty, .empty⟩
    ∃ e e' opened, ((known.login (some ⟨"ada", "byron"⟩) none).run ()).value = .error e ∧
      ((unknown.login (some ⟨"ada", "lovelace"⟩) (some "main")).run ()).value = .error e' ∧ e = e' ∧
      ((known.login (some ⟨"ada", "lovelace"⟩) none).run ()).value = .ok opened := by
  intro known unknown
  obtain ⟨direct, -⟩ := logins_are_exact (σ := Unit)
  have hwrong : ((known.login (some ⟨"ada", "byron"⟩) none).run ()).value =
      .error (refusal "ada") := rfl
  have hnobody : ((unknown.login (some ⟨"ada", "lovelace"⟩) (some "main")).run ()).value =
      .error (refusal "ada") := rfl
  have hsame : refusal "ada" = refusal "ada" := direct.refusals_eq hwrong hnobody rfl
  obtain ⟨opened, hopened⟩ := (direct.accepted_iff known (some ⟨"ada", "lovelace"⟩) none ()).2 rfl
  exact ⟨_, _, opened, hwrong, hnobody, hsame, hopened⟩

end Locator.InMemoryRepository
