import Locator.NameMap
import Locator.Repository

/-!
# Remote repositories within reach

Two remote repositories that need no network: one that is served from memory, and one whose process
cannot be reached (or refuses every call), which is what a client sees of a process that went down.

The repository in memory accepts anonymous sessions, and sessions of users who present their own
password. A refusal names the user and tells nothing else.
-/

namespace Locator

/-- A repository served from memory. -/
structure InMemoryRepository where
  /-- The descriptors by key. -/
  descriptors : NameMap String
  /-- The passwords by user. -/
  users : NameMap String
deriving DecidableEq

namespace InMemoryRepository

/-- The workspace of a session that asks for none. -/
def defaultWorkspace : String := "default"

/-- A user presents the password that is kept for them. -/
def admits (r : InMemoryRepository) (c : Credentials) : Bool :=
  r.users.get? c.userId == some c.password

/-- The refusal of a user. -/
def refusal (userId : String) : RemoteError :=
  .rejected s!"invalid credentials for user `{userId}`"

/-- The event of a refusal. -/
def refusalEvent (userId : String) : Event where
  level := .debug
  target := "static_directory_plugin::repository"
  message := "Login rejected"
  fields := [("user_id", userId)]
  spans := []

/-- Open a session. -/
def login {σ : Type} (r : InMemoryRepository) (credentials? : Option Credentials)
    (workspace? : Option String) : Act σ RemoteError SessionInfo :=
  let workspace := workspace?.getD defaultWorkspace
  match credentials? with
  | none => pure ⟨none, workspace⟩
  | some c =>
    if r.admits c then pure ⟨some c.userId, workspace⟩
    else do
      Act.emit (refusalEvent c.userId)
      Act.fail (refusal c.userId)

/-- The calls that a repository in memory answers. -/
def repository {σ : Type} (r : InMemoryRepository) : RemoteRepository σ where
  descriptorKeys := pure r.descriptors.names
  descriptor key := pure (r.descriptors.get? key)
  login := r.login

instance : Display InMemoryRepository := ⟨fun r =>
  .record "InMemoryRemoteRepository"
    [("descriptors", .textMap r.descriptors.entries), ("users", .textMap r.users.entries)] false⟩

end InMemoryRepository

/-- A remote repository that can be reached without a network. -/
inductive Remote where
  /-- It is served from memory. -/
  | inMemory (r : InMemoryRepository)
  /-- Every call on it fails, always in the same way. -/
  | offline (reason : RemoteError)
deriving DecidableEq

/-- The calls that it answers. -/
def Remote.repository {σ : Type} : Remote → RemoteRepository σ
  | .inMemory r => r.repository
  | .offline reason => ⟨Act.fail reason, fun _ => Act.fail reason, fun _ _ => Act.fail reason⟩

end Locator
