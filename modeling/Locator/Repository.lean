import Locator.Act
import Locator.Shown

/-!
# Repositories

A remote repository answers three calls: for the keys of its descriptors, for the value of one
descriptor, and for a session. A local repository answers the same calls; it fails where the remote
one behind it fails, in other terms. `Call` and `Answer` make the calls data, so that histories of
calls are lists.
-/

namespace Locator

/-- The text shown in place of a secret. -/
def redacted : String := "[REDACTED]"

/-- What a user presents to open a session. -/
structure Credentials where
  /-- The user. -/
  userId : String
  /-- The secret of the user. -/
  password : String
deriving DecidableEq

instance : Display Credentials := ⟨fun c =>
  .record "Credentials" [("user_id", .text c.userId), ("password", .text redacted)] false⟩

/-- A session that was opened. -/
structure SessionInfo where
  /-- The user, if the session is not anonymous. -/
  userId? : Option String
  /-- The workspace of the session. -/
  workspace : String
deriving DecidableEq

instance : Display SessionInfo := ⟨fun s =>
  .record "SessionInfo"
    [("user_id", .optionText s.userId?), ("workspace", .text s.workspace)] false⟩

/-- How a call on a remote repository fails. -/
inductive RemoteError where
  /-- The call or its answer was lost. -/
  | transport (text : String)
  /-- The remote side refused. -/
  | rejected (text : String)
deriving DecidableEq, Repr

namespace RemoteError

/-- The failure in words. -/
def message : RemoteError → String
  | transport text => s!"transport error: {text}"
  | rejected text => s!"remote call rejected: {text}"

instance : Display RemoteError := ⟨fun
  | transport text => .tuple "Transport" [.text text]
  | rejected text => .tuple "Rejected" [.text text]⟩

end RemoteError

/-- How a call on a local repository fails: the remote call behind it failed. -/
inductive RepositoryError where
  /-- The forwarded call failed. -/
  | remote (cause : RemoteError)
deriving DecidableEq, Repr

namespace RepositoryError

/-- The failure in words. -/
def message : RepositoryError → String
  | remote cause => s!"remote operation failed: {cause.message}"

/-- What is behind the failure, in words. -/
def sources : RepositoryError → List String
  | remote cause => [cause.message]

instance : Display RepositoryError := ⟨fun
  | remote cause => .tuple "Remote" [shown cause]⟩

end RepositoryError

/-- A repository whose calls work over a state `σ` and fail with an `ε`. -/
structure Repository (σ ε : Type) where
  /-- The keys of all descriptors. -/
  descriptorKeys : Act σ ε (List String)
  /-- The value of a descriptor, if there is one under the key. -/
  descriptor : String → Act σ ε (Option String)
  /-- Open a session for a user (anonymous without credentials) on a workspace (or the usual one). -/
  login : Option Credentials → Option String → Act σ ε SessionInfo

/-- A repository as a remote process serves it. -/
abbrev RemoteRepository (σ : Type) : Type := Repository σ RemoteError

/-- A repository as local callers see it. -/
abbrev LocalRepository (σ : Type) : Type := Repository σ RepositoryError

/-- A call on a repository. -/
inductive Call where
  /-- Ask for the keys of all descriptors. -/
  | keys
  /-- Ask for one descriptor. -/
  | descriptor (key : String)
  /-- Open a session. -/
  | login (credentials? : Option Credentials) (workspace? : Option String)
deriving DecidableEq

/-- What a call is answered with. -/
inductive Answer where
  /-- The keys of all descriptors. -/
  | keys (names : List String)
  /-- The value of a descriptor, if there is one. -/
  | descriptor (value? : Option String)
  /-- The session that was opened. -/
  | login (session : SessionInfo)
deriving DecidableEq

/-- Make a call on a repository. -/
def Repository.answer {σ ε : Type} (r : Repository σ ε) : Call → Act σ ε Answer
  | .keys => .keys <$> r.descriptorKeys
  | .descriptor key => .descriptor <$> r.descriptor key
  | .login credentials? workspace? => .login <$> r.login credentials? workspace?

/-- Make calls one after another, whatever their answers, and list how each of them ended. -/
def Repository.answers {σ ε ε' : Type} (r : Repository σ ε) :
    List Call → Act σ ε' (List (Except ε Answer))
  | [] => pure []
  | c :: rest => do
    let first ← (r.answer c).attempt
    let others ← r.answers rest
    pure (first :: others)

end Locator
