import AdminAuthority.Model.Config

/-! The lifecycle that `docs/authority-lifecycle.md` prescribes, stated on bytes
and independently of the code. -/

namespace AdminAuthority
open Handover AuthorityCrate

variable [Lez] [AuthorityCrate]

/-- The admin and the nominee of a config. -/
def AdminConfig.seat (c : AdminConfig) : AdminSeat := AuthorityCrate.seat c.slot

/-- Account data with the bytes from `offset` on overwritten, where they fit. -/
def Data.splice (d : Data) (offset : Nat) (bytes : List UInt8) : Data :=
  if h : offset + bytes.length ≤ d.bytes.length then
    ⟨Window.splice d.bytes offset bytes, by rw [Window.splice_length h]; exact d.within⟩
  else d

/-- The account with an admin and a nominee put into the window at `offset`. -/
def AccountWithMetadata.install (a : AccountWithMetadata) (offset : Nat) (s : AdminSeat) :
    AccountWithMetadata :=
  a.withData (a.account.data.splice offset s.bytes)

namespace Lifecycle

/-- State detection: nothing stored yet, a layout that does not cover the
window, or the admin and the nominee the window holds. -/
def stored (bytes : List UInt8) (offset : Nat) : Except AdminError AdminSeat :=
  if bytes = [] then .error .notInitialized
  else if h : offset + 64 ≤ bytes.length then
    .ok (.readAt bytes offset h)
  else .error .slotOutOfBounds

/-- The three checks on a caller, in the documented order. -/
def authorise (s : AdminSeat) (signer : AccountWithMetadata) : Except AdminError Unit :=
  if s.holder = default then .error .renounced
  else if signer.isAuthorized = false then .error .missingSignature
  else if signer.accountId ≠ s.holder then .error .notAdmin
  else .ok ()

/-- The whole check of a caller on an account's data. -/
def verdict (bytes : List UInt8) (offset : Nat) (signer : AccountWithMetadata) :
    Except AdminError Unit := do
  authorise (← stored bytes offset) signer

/-- The checks on a nominee that accepts, in the documented order. -/
def authoriseNominee (s : AdminSeat) (signer : AccountWithMetadata) : Except AdminError Unit :=
  if s.holder = default then .error .renounced
  else if s.nominee = default then .error .noNomination
  else if signer.isAuthorized = false then .error .missingSignature
  else if signer.accountId ≠ s.nominee then .error .notNominee
  else if signer.account.programOwner = default then .error .unownedSigner
  else .ok ()

/-- The name under which the lifecycle reports a check of the `authority` crate that
failed. The candidate's own errors are the first four. -/
def failure : AuthorityError → AdminError
  | .invalidCandidate => .invalidCandidate
  | .undeployedPda => .undeployedPda
  | .candidateMismatch => .candidateMismatch
  | .unownedSigner => .unownedSigner
  | .notHolder => .notAdmin
  | .notNominee => .notNominee
  | .noNomination => .noNomination
  | .missingSignature => .missingSignature
  | .renounced => .renounced
  | .slotOutOfBounds => .slotOutOfBounds

/-- The account a candidate resolves to, or the candidate's own error. -/
def resolve (candidate : AdminCandidate) (newAccount : AccountWithMetadata) :
    Except AdminError AccountId :=
  match validate candidate newAccount with
  | .ok id => .ok id
  | .error e => .error (failure e)

/-- The prescribed next admin and nominee, or the prescribed refusal. -/
def transition (s : AdminSeat) : Operation → Except AdminError AdminSeat
  | .transfer current candidate newAccount => do
    authorise s current
    let next ← resolve candidate newAccount
    return ⟨next, default⟩
  | .nominate current newAdmin => do
    authorise s current
    return ⟨s.holder, newAdmin⟩
  | .accept nominee => do
    authoriseNominee s nominee
    return ⟨s.nominee, default⟩
  | .renounce current => do
    authorise s current
    return ⟨default, default⟩

/-- The whole step on an account's data. -/
def step (bytes : List UInt8) (offset : Nat) (op : Operation) : Except AdminError AdminSeat := do
  transition (← stored bytes offset) op

/-- Who authenticated itself in an operation, and for what. -/
def act : Operation → Act AccountId
  | .transfer current _ newAccount => .transfer current.accountId newAccount.accountId
  | .nominate current newAdmin => .nominate current.accountId newAdmin
  | .accept nominee => .accept nominee.accountId
  | .renounce current => .renounce current.accountId

/-- The account whose signature an operation asks for. -/
def signer : Operation → AccountWithMetadata
  | .transfer current _ _ => current
  | .nominate current _ => current
  | .accept nominee => nominee
  | .renounce current => current

end Lifecycle
end AdminAuthority
