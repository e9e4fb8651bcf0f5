import AdminAuthority.Model.Evolution
import AdminAuthority.Spec.Lifecycle
import Mathlib.Data.Nat.Basic

/-! How an account can come to be the admin: what a run of management
instructions must have contained. -/

namespace AdminAuthority
open Handover

variable [Lez] [Build] [AuthorityCrate]

/-- A config account just after its slot was first filled with `admin`, and the
offset of that slot. Dedicated mode fills it at 0 with `admin_initialize`, and
embedded mode at the offset that the later calls use. -/
inductive Born (admin : AccountId) (offset : Nat) : Nat → AccountWithMetadata → Prop
  | dedicated {config caller : AccountWithMetadata} {out : SpelOutput}
      (h : adminInitialize config caller = .ok out) (hid : caller.accountId = admin) :
      Born admin offset 0 (config.landed (.ok out))
  | embedded {config caller start : AccountWithMetadata}
      (h : AdminConfig.bootstrapAt config offset .signer caller = (.ok (), start))
      (hid : caller.accountId = admin) : Born admin offset offset start

/-- `holder` signed a nomination of `nominee` that succeeded, and no call since
then has. -/
def Nominated (offset : Nat) (start : AccountWithMetadata) (past : List Operation)
    (holder nominee : AccountId) : Prop :=
  ∃ earlier since current out, past = earlier ++ .nominate current nominee :: since ∧
    current.isAuthorized = true ∧ current.accountId = holder ∧
    (Operation.nominate current nominee).instruct ((instructionsAt offset).run start earlier) offset =
      .ok out ∧
    (instructionsAt offset).accepted
      ((instructionsAt offset).run start (earlier ++ [.nominate current nominee])) since = []

/-- The one way each operation can move the admin from one account to another. -/
def Moves (offset : Nat) (start : AccountWithMetadata) (past : List Operation) :
    Operation → AccountId → AccountId → Prop
  | .transfer current candidate newAccount, holder, next =>
    current.isAuthorized = true ∧ current.accountId = holder ∧ newAccount.accountId = next ∧
      candidate.Eligible newAccount
  | .nominate _ _, _, _ => False
  | .accept nominee, holder, next =>
    nominee.isAuthorized = true ∧ nominee.accountId = next ∧
      nominee.account.programOwner ≠ default ∧ Nominated offset start past holder next
  | .renounce current, holder, next =>
    current.isAuthorized = true ∧ current.accountId = holder ∧ next = default

end AdminAuthority

/-! The state diagram of `docs/authority-lifecycle.md`, on the chain. -/

namespace AdminAuthority
open Handover Lifecycle

inductive Phase where
  | uninitialized
  | initialized
  | renounced
deriving DecidableEq

/-- The order in which the diagram passes through the phases. -/
def Phase.rank : Phase → Nat
  | uninitialized => 0
  | initialized => 1
  | renounced => 2

instance : Preorder Phase := Preorder.lift Phase.rank

variable [Lez] [Build]

/-- The admin and the nominee that the config PDA holds. -/
def World.seat (w : World) : Except AdminError AdminSeat := stored (w configPda).data.bytes 0

def World.phase (w : World) : Phase :=
  match w.seat with
  | .ok s => if s.holder = default then .renounced else .initialized
  | .error _ => .uninitialized

/-- The accounts of a call are passed as they stand on chain, none of them twice and
none of them the config. -/
structure Presented (w : World) (c : ConfigCall) : Prop where
  onChain : ∀ a ∈ c.accounts, a.account = w a.accountId
  distinct : (configPda :: c.accounts.map (·.accountId)).Nodup

variable [AuthorityCrate]

/-- What the diagram asks of a call. A config PDA that anybody has put anything on
before, a balance included, is not one that can be initialized. -/
def Permitted (w : World) : ConfigCall → Prop
  | .adminInitialize caller => w configPda = default ∧ 64 ≤ Lez.dataMaxLength ∧
      (∀ key, Build.GENESIS = some key → caller.accountId = ⟨key⟩) ∧
      AuthorityCandidate.signer.Eligible caller
  | .manage op offset => offset = 0 ∧ ∃ s t, w.seat = .ok s ∧ transition s op = .ok t

end AdminAuthority
