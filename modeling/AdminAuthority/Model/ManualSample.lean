import AdminAuthority.Lib.LittleEndian
import AdminAuthority.Model.Handlers
import AdminAuthority.Model.Instructions
import Mathlib.Logic.Function.Basic

/-! The reference program that calls the library itself: no marker, its own initializer,
hand-written transfer and renounce, and hand-written outputs. -/

namespace AdminAuthority
open Block

variable [Lez]

/-- The account parameters of an instruction under their names. -/
abbrev Accounts := Ident → AccountWithMetadata

variable [AuthorityCrate]

def Accounts.handler : Handler Accounts SpelError where
  account x accounts := accounts x
  assign := fun x account accounts => Function.update accounts x account
  raise e _ := .ofAdmin e
  assign_account x accounts := Function.update_eq_self x accounts

/-- An instruction as it is written: its account parameters in order, those of them that
are `mut`, its `#[require_admin]` attributes, its statements up to the last, and the
vector that the last one hands to `SpelOutput::execute`. -/
structure Instruction where
  params : List Ident
  writable : List Ident
  attrs : List (List MetaNameValue)
  body : List (Stmt Accounts SpelError)
  output : List Ident

namespace Instruction

/-- The last statement puts the accounts of the vector out in its order. -/
def finish (i : Instruction) (accounts : Accounts) : SpelOutput :=
  .execute (i.output.map fun x => .ofAccount (accounts x).account)

/-- A call of the instruction's handler, once its attributes are expanded. No statement
before the last returns a success of its own. -/
def run (i : Instruction) (usizeMax : Nat) (accounts : Accounts) : Except Halt SpelResult :=
  (Accounts.handler.expand usizeMax i.attrs i.body).map fun stmts =>
    (exec stmts accounts).result.map i.finish

end Instruction

namespace ManualSample

structure ProgramConfig where
  value : UInt64

/-- The derived borsh form. -/
def ProgramConfig.toVec (c : ProgramConfig) : Option (List UInt8) :=
  some (LittleEndian.encode 8 c.value.toNat)

/-- `initialize`. -/
def initializeProg : Instruction where
  params := ["admin_config", "caller", "prog_config"]
  writable := ["admin_config"]
  attrs := []
  body := [Accounts.handler.mutate "admin_config" fun accounts =>
    AdminConfig.bootstrap (accounts "admin_config") .signer (accounts "caller")]
  output := ["admin_config", "prog_config", "caller"]

/-- `config.account.data = borsh::to_vec(&state).map_err(..)?.try_into().map_err(..)?;` -/
def store (state : ProgramConfig) : Stmt Accounts SpelError :=
  attempt fun accounts =>
    match state.toVec with
    | none => .error (.serializationError "encoding failed")
    | some bytes =>
      match Data.tryFrom bytes with
      | none => .error (.serializationError "data too large")
      | some data => .ok (Function.update accounts "config" ((accounts "config").withData data))

def updateValue (newValue : UInt64) : Instruction where
  params := ["admin_config", "caller", "config"]
  writable := ["config"]
  attrs := [[]]
  body := [store ⟨newValue⟩]
  output := ["admin_config", "config", "caller"]

/-- The arguments `admin_config = config`. -/
def configArgs : List MetaNameValue :=
  [⟨⟨false, [⟨"admin_config", true⟩]⟩, .path ⟨false, [⟨"config", true⟩]⟩⟩]

def adminTransfer (candidate : AdminCandidate) : Instruction where
  params := ["config", "caller", "new_account"]
  writable := ["config"]
  attrs := [configArgs]
  body := [Accounts.handler.mutate "config" fun accounts =>
    AdminConfig.performTransfer (accounts "config") (accounts "caller") candidate
      (accounts "new_account")]
  output := ["config", "caller", "new_account"]

def adminRenounce : Instruction where
  params := ["config", "caller"]
  writable := ["config"]
  attrs := [configArgs]
  body := [Accounts.handler.mutate "config" fun accounts =>
    AdminConfig.performRenounce (accounts "config") (accounts "caller")]
  output := ["config", "caller"]

/-- The program's instructions with their arguments. -/
inductive Call where
  | initializeProg
  | updateValue (newValue : UInt64)
  | adminTransfer (candidate : AdminCandidate)
  | adminRenounce

def Call.instruction : Call → Instruction
  | initializeProg => ManualSample.initializeProg
  | updateValue newValue => ManualSample.updateValue newValue
  | adminTransfer candidate => ManualSample.adminTransfer candidate
  | adminRenounce => ManualSample.adminRenounce

end ManualSample
end AdminAuthority
