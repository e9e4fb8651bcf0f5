import AdminAuthority.Model.Instructions
import Mathlib.Data.List.Forall2

/-! The accounts of the chain under transactions that call the five instructions on
the dedicated config PDA. -/

namespace AdminAuthority

variable [Lez] [Build]

/-- LEZ's check of a program's output against the accounts the program was given.
It belongs to the LEZ core crate, which is not part of the repository. -/
class ExecutionCheck where
  validateExecution : List AccountWithMetadata → List AccountPostState → ProgramId → Bool

/-- What the check asks of one position of an output. -/
structure PostRule (pre : AccountWithMetadata) (post : AccountPostState) : Prop where
  nonce : post.account.nonce = pre.account.nonce
  programOwner : post.account.programOwner = pre.account.programOwner
  balance : post.account.balance = pre.account.balance
  data : post.account.data = pre.account.data ∨ pre.account.programOwner = Build.programId ∨
    pre.account = default
  unowned : post.account.programOwner = default → pre.account = default

/-- The documented behaviour of the check: nothing else is asked of an output. -/
class LawfulCheck [ExecutionCheck] : Prop where
  accepts : ∀ pre posts, List.Forall₂ PostRule pre posts →
    ExecutionCheck.validateExecution pre posts Build.programId = true

/-- The same in the other direction: all of this is asked of an output. -/
class StrictCheck [ExecutionCheck] : Prop where
  asks : ∀ pre posts, ExecutionCheck.validateExecution pre posts Build.programId = true →
    List.Forall₂ PostRule pre posts

/-- Where the dedicated config lives, `literal("admin_config")` under the program. -/
def configPda : AccountId := Lez.forPublicPda Build.programId (Lez.seedFromStr "admin_config")

abbrev World := AccountId → Account

/-- An account once a transaction that names it has landed: its post-state, and
the next nonce where it signed. -/
def AccountWithMetadata.applied (pre : AccountWithMetadata) (post : AccountPostState) : Account :=
  if pre.isAuthorized then
    { post.settle with nonce := Lez.publicAccountNonceIncrement post.settle.nonce }
  else post.settle

/-- The chain once a transaction has landed. -/
def World.land (w : World) : List AccountWithMetadata → List AccountPostState → World
  | before :: pre, post :: posts => fun id =>
    if before.accountId = id then before.applied post else w.land pre posts id
  | _, _ => w

/-- A transaction that LEZ and SPEL hand to the program: the config account is the
PDA, every account is passed as it stands on chain, and none is listed twice. -/
structure Submitted (w : World) (config : AccountWithMetadata) (c : ConfigCall) : Prop where
  pda : config.accountId = configPda
  onChain : ∀ a ∈ config :: c.accounts, a.account = w a.accountId
  distinct : ((config :: c.accounts).map (·.accountId)).Nodup

variable [AuthorityCrate] [ExecutionCheck]

/-- The chain from before the config exists. A refused transaction has no effect.
Other transactions leave the config's data and owner alone, and take no account's
owner away. -/
inductive Reachable : World → Prop
  | start {w : World} (h : w configPda = default) : Reachable w
  | submit {w : World} {config : AccountWithMetadata} {c : ConfigCall} {out : SpelOutput}
      (hw : Reachable w) (tx : Submitted w config c) (hok : c.dispatch config = .ok out)
      (hcheck : ExecutionCheck.validateExecution (config :: c.accounts) out.postStates
        Build.programId = true) :
      Reachable (w.land (config :: c.accounts) out.postStates)
  | elsewhere {w v : World} (hw : Reachable w) (hdata : (v configPda).data = (w configPda).data)
      (howner : (v configPda).programOwner = (w configPda).programOwner)
      (howned : ∀ id, (w id).programOwner ≠ default → (v id).programOwner ≠ default) :
      Reachable v

end AdminAuthority
