import AdminAuthority.Lib.CallMachine
import AdminAuthority.Model.Config

namespace AdminAuthority

variable [Lez] [AuthorityCrate]

/-- The check a gate runs on a dedicated config: load it, then `assert_admin`. -/
def AdminConfig.gate (config signer : AccountWithMetadata) : Except AdminError Unit :=
  match fromAccount config with
  | .error e => .error e
  | .ok state => state.assertAdmin signer

/-- The same check on the window at `offset`. -/
def AdminConfig.gateAt (config : AccountWithMetadata) (offset : Nat)
    (signer : AccountWithMetadata) : Except AdminError Unit :=
  match fromAccountAt config offset with
  | .error e => .error e
  | .ok state => state.assertAdmin signer

/-- One use of a config: an operation that may change it, or a gate that reads it. -/
inductive Request where
  | manage (op : Operation)
  | gate (signer : AccountWithMetadata)

/-- A call of any of the functions that may change a config account. -/
inductive AccountCall where
  | writeTo (c : AdminConfig)
  | writeToAt (c : AdminConfig) (offset : Nat)
  | bootstrap (candidate : AdminCandidate) (newAccount : AccountWithMetadata)
  | bootstrapAt (offset : Nat) (candidate : AdminCandidate) (newAccount : AccountWithMetadata)
  | perform (op : Operation)
  | performAt (op : Operation) (offset : Nat)

namespace AccountCall

def call : AccountCall → AccountWithMetadata → Except AdminError Unit × AccountWithMetadata
  | writeTo c, config => c.writeTo config
  | writeToAt c offset, config => c.writeToAt config offset
  | bootstrap candidate newAccount, config => AdminConfig.bootstrap config candidate newAccount
  | bootstrapAt offset candidate newAccount, config =>
    AdminConfig.bootstrapAt config offset candidate newAccount
  | perform op, config => op.perform config
  | performAt op offset, config => op.performAt config offset

/-- The calls that work on the window at an offset. -/
def windowed : AccountCall → Bool
  | writeToAt _ _ => true
  | bootstrapAt _ _ _ => true
  | performAt _ _ => true
  | _ => false

end AccountCall

/-- The windowed operations, called one after the other on one account. -/
def managedAt (offset : Nat) : CallMachine AccountWithMetadata Operation AdminError Unit where
  call config op := op.performAt config offset

/-- A config account in dedicated mode. -/
def dedicatedMode : CallMachine AccountWithMetadata Request AdminError Unit where
  call config
    | .manage op => op.perform config
    | .gate signer => (AdminConfig.gate config signer, config)

/-- A config account in embedded mode, with its slot at `offset`. -/
def embeddedMode (offset : Nat) : CallMachine AccountWithMetadata Request AdminError Unit where
  call config
    | .manage op => op.performAt config offset
    | .gate signer => (AdminConfig.gateAt config offset signer, config)

end AdminAuthority
