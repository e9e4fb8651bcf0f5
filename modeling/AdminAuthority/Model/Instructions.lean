import AdminAuthority.Lib.CallMachine
import AdminAuthority.Model.Config

namespace AdminAuthority
open AdminConfig

/-- The program a consumer built: the id its bytecode gets, which is never the one
that marks an account nobody owns, and the genesis key compiled in. -/
class Build where
  programId : ProgramId
  deployed : programId ≠ default
  GENESIS : Option (Vector UInt8 32)

inductive Claim where
  | pda (seed : PdaSeed)
deriving DecidableEq

inductive AutoClaim where
  | none
  | claimed (claim : Claim)
deriving DecidableEq

variable [Lez]

/-- An account as an instruction leaves it, with the ownership it asks for. -/
structure AccountPostState where
  account : Account
  claim : AutoClaim
deriving DecidableEq

/-- A bare account in an output claims nothing. -/
def AccountPostState.ofAccount (account : Account) : AccountPostState := ⟨account, .none⟩

/-- The account that stands on chain once the post-state lands: a claim makes the
executing program its owner. -/
def AccountPostState.settle [Build] (post : AccountPostState) : Account :=
  match post.claim with
  | .none => post.account
  | .claimed _ => { post.account with programOwner := Build.programId }

/-- What a handler returns to SPEL. No handler here makes a chained call. -/
structure SpelOutput where
  postStates : List AccountPostState
deriving DecidableEq

def SpelOutput.execute (postStates : List AccountPostState) : SpelOutput := ⟨postStates⟩

abbrev SpelResult := Except SpelError SpelOutput

/-- Refuses `caller` when the build carries a genesis key that is not it. -/
def checkGenesis (genesis : Option (Vector UInt8 32)) (caller : AccountWithMetadata) :
    Except AdminError Unit :=
  match genesis with
  | some key => if caller.accountId ≠ ⟨key⟩ then .error .notGenesisAdmin else .ok ()
  | none => .ok ()

def requireGenesis [Build] (caller : AccountWithMetadata) : Except AdminError Unit :=
  checkGenesis Build.GENESIS caller

variable [AuthorityCrate]

def adminInitialize [Build] (config caller : AccountWithMetadata) : SpelResult :=
  match requireGenesis caller with
  | .error e => .error (.ofAdmin e)
  | .ok () =>
    match bootstrap config .signer caller with
    | (.error e, _) => .error (.ofAdmin e)
    | (.ok (), config) => .ok (.execute [
        ⟨config.account, .claimed (.pda (Lez.seedFromStr "admin_config"))⟩,
        ⟨caller.account, .none⟩])

def adminTransfer (adminConfig caller newAccount : AccountWithMetadata)
    (candidate : AdminCandidate) (offset : Nat) : SpelResult :=
  match performTransferAt adminConfig offset caller candidate newAccount with
  | (.error e, _) => .error (.ofAdmin e)
  | (.ok (), adminConfig) => .ok (.execute
      [.ofAccount adminConfig.account, .ofAccount caller.account, .ofAccount newAccount.account])

def adminRenounce (adminConfig caller : AccountWithMetadata) (offset : Nat) : SpelResult :=
  match performRenounceAt adminConfig offset caller with
  | (.error e, _) => .error (.ofAdmin e)
  | (.ok (), adminConfig) => .ok (.execute
      [.ofAccount adminConfig.account, .ofAccount caller.account])

def adminNominate (adminConfig caller : AccountWithMetadata) (newAdmin : Vector UInt8 32)
    (offset : Nat) : SpelResult :=
  match performNominateAt adminConfig offset caller ⟨newAdmin⟩ with
  | (.error e, _) => .error (.ofAdmin e)
  | (.ok (), adminConfig) => .ok (.execute
      [.ofAccount adminConfig.account, .ofAccount caller.account])

def adminAccept (adminConfig caller : AccountWithMetadata) (offset : Nat) : SpelResult :=
  match performAcceptAt adminConfig offset caller with
  | (.error e, _) => .error (.ofAdmin e)
  | (.ok (), adminConfig) => .ok (.execute
      [.ofAccount adminConfig.account, .ofAccount caller.account])

namespace Operation

/-- The instruction of the operation, on a config account with its slot at `offset`. -/
def instruct : Operation → AccountWithMetadata → Nat → SpelResult
  | transfer current candidate newAccount, config, offset =>
    adminTransfer config current newAccount candidate offset
  | nominate current newAdmin, config, offset => adminNominate config current newAdmin.value offset
  | accept nominee, config, offset => adminAccept config nominee offset
  | renounce current, config, offset => adminRenounce config current offset

theorem instruct_perform (op : Operation) (config : AccountWithMetadata) (offset : Nat) :
    op.instruct config offset =
      match op.performAt config offset with
      | (.error e, _) => .error (.ofAdmin e)
      | (.ok (), start) => .ok ⟨.ofAccount start.account ::
          op.accounts.map (fun a => .ofAccount a.account)⟩ := by
  cases op <;> rfl

end Operation

/-- The account a successful instruction leaves in its first place; a failed one
has no effect. -/
def AccountWithMetadata.landed [Build] (config : AccountWithMetadata) :
    SpelResult → AccountWithMetadata
  | .ok out =>
    match out.postStates with
    | post :: _ => { config with account := post.settle }
    | [] => config
  | .error _ => config

/-- The operation's instruction, as a program sees it that looks at this account only. -/
def Operation.manage [Build] (op : Operation) (config : AccountWithMetadata) (offset : Nat) :
    Except SpelError Unit × AccountWithMetadata :=
  ((op.instruct config offset).map fun _ => (), config.landed (op.instruct config offset))

/-- The four management instructions, called on one config account. -/
def instructionsAt [Build] (offset : Nat) :
    CallMachine AccountWithMetadata Operation SpelError SpelOutput where
  call config op := (op.instruct config offset, config.landed (op.instruct config offset))

/-- A call of any of the five instructions that the library adds to a program. -/
inductive ConfigCall where
  | adminInitialize (caller : AccountWithMetadata)
  | manage (op : Operation) (offset : Nat)

namespace ConfigCall

def isInitialize : ConfigCall → Bool
  | adminInitialize _ => true
  | manage _ _ => false

/-- The accounts a call takes behind the config account, in order. -/
def accounts : ConfigCall → List AccountWithMetadata
  | adminInitialize caller => [caller]
  | manage op _ => op.accounts

/-- SPEL runs the handler of an `#[account(init)]` account only on the default one. -/
def dispatch [Build] (config : AccountWithMetadata) : ConfigCall → SpelResult
  | adminInitialize caller =>
    if config.account = default then AdminAuthority.adminInitialize config caller
    else .error (.accountAlreadyInitialized 0)
  | manage op offset => op.instruct config offset

end ConfigCall

/-- The dedicated config account under all five instructions. -/
def dedicatedProgram [Build] : CallMachine AccountWithMetadata ConfigCall SpelError SpelOutput where
  call config c := (c.dispatch config, config.landed (c.dispatch config))

end AdminAuthority
