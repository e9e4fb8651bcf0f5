import AdminAuthority.Model.AuthorityCrate

namespace AdminAuthority
open AuthorityCrate

variable [Lez] [AuthorityCrate]

/-- On-chain admin state: the shared slot under the admin naming. -/
structure AdminConfig where
  slot : Slot

namespace AdminConfig

def initializeAdmin (admin : AccountId) : Except AdminError AdminConfig :=
  match initializeSlot admin with
  | .ok slot => .ok ⟨slot⟩
  | .error e => .error (.ofAuthority e)

def assertAdmin (c : AdminConfig) (signer : AccountWithMetadata) : Except AdminError Unit :=
  (assert c.slot signer).mapError .ofAuthority

def encode (c : AdminConfig) : Except AdminError (List UInt8) :=
  match toVec c.slot with
  | some bytes => .ok bytes
  | none => .error .encodingFailed

def decode (data : List UInt8) : Except AdminError AdminConfig :=
  if data.isEmpty then .error .notInitialized
  else match tryFromSlice data with
    | some slot => .ok ⟨slot⟩
    | none => .error .decodingFailed

def decodeAt (data : List UInt8) (offset : Nat) : Except AdminError AdminConfig :=
  if data.isEmpty then .error .notInitialized
  else match readAt data offset with
    | .ok slot => .ok ⟨slot⟩
    | .error e => .error (.ofAuthority e)

def fromAccount (account : AccountWithMetadata) : Except AdminError AdminConfig :=
  decode account.bytes

def fromAccountAt (account : AccountWithMetadata) (offset : Nat) : Except AdminError AdminConfig :=
  decodeAt account.bytes offset

def fromOwnedAccount (account : AccountWithMetadata) (programId : ProgramId) :
    Except AdminError AdminConfig :=
  if account.account.programOwner ≠ programId then .error .configNotOwned
  else fromAccount account

def fromOwnedAccountAt (account : AccountWithMetadata) (offset : Nat) (programId : ProgramId) :
    Except AdminError AdminConfig :=
  if account.account.programOwner ≠ programId then .error .configNotOwned
  else fromAccountAt account offset

/-- A method on `&mut self` returns its result with the config it leaves. -/
def transfer (c : AdminConfig) (current : AccountWithMetadata) (candidate : AdminCandidate)
    (newAccount : AccountWithMetadata) : Except AdminError Unit × AdminConfig :=
  match assert c.slot current with
  | .error e => (.error (.ofAuthority e), c)
  | .ok () =>
    match validate candidate newAccount with
    | .error e => (.error (.ofAuthority e), c)
    | .ok next =>
      ((transferTo c.slot next).1.mapError .ofAuthority, ⟨(transferTo c.slot next).2⟩)

def nominate (c : AdminConfig) (current : AccountWithMetadata) (newAdmin : AccountId) :
    Except AdminError Unit × AdminConfig :=
  match assert c.slot current with
  | .error e => (.error (.ofAuthority e), c)
  | .ok () => (.ok (), ⟨AuthorityCrate.nominate c.slot newAdmin⟩)

def accept (c : AdminConfig) (nominee : AccountWithMetadata) :
    Except AdminError Unit × AdminConfig :=
  if isRenounced c.slot then (.error .renounced, c)
  else ((AuthorityCrate.accept c.slot nominee).1.mapError .ofAuthority,
    ⟨(AuthorityCrate.accept c.slot nominee).2⟩)

def nominee (c : AdminConfig) : Option AccountId := pending c.slot

def renounce (c : AdminConfig) (current : AccountWithMetadata) :
    Except AdminError Unit × AdminConfig :=
  match assert c.slot current with
  | .error e => (.error (.ofAuthority e), c)
  | .ok () => (.ok (), ⟨AuthorityCrate.renounce c.slot⟩)

/-- A function on `&mut account` returns its result with the account it leaves. -/
def writeTo (c : AdminConfig) (account : AccountWithMetadata) :
    Except AdminError Unit × AccountWithMetadata :=
  match c.encode with
  | .error e => (.error e, account)
  | .ok bytes =>
    match Data.tryFrom bytes with
    | some data => (.ok (), account.withData data)
    | none => (.error .accountDataTooLarge, account)

def writeToAt (c : AdminConfig) (account : AccountWithMetadata) (offset : Nat) :
    Except AdminError Unit × AccountWithMetadata :=
  match writeAt c.slot account.bytes offset with
  | (.error e, _) => (.error (.ofAuthority e), account)
  | (.ok (), bytes) =>
    match Data.tryFrom bytes with
    | some data => (.ok (), account.withData data)
    | none => (.error .accountDataTooLarge, account)

def bootstrap (config : AccountWithMetadata) (candidate : AdminCandidate)
    (newAccount : AccountWithMetadata) : Except AdminError Unit × AccountWithMetadata :=
  match validate candidate newAccount with
  | .error e => (.error (.ofAuthority e), config)
  | .ok resolved =>
    match initializeAdmin resolved with
    | .error e => (.error e, config)
    | .ok state => state.writeTo config

def bootstrapAt (config : AccountWithMetadata) (offset : Nat) (candidate : AdminCandidate)
    (newAccount : AccountWithMetadata) : Except AdminError Unit × AccountWithMetadata :=
  match validate candidate newAccount with
  | .error e => (.error (.ofAuthority e), config)
  | .ok resolved =>
    match initializeAdmin resolved with
    | .error e => (.error e, config)
    | .ok state => state.writeToAt config offset

/-- The shared body of the `perform_*_at` functions: load, change, write back. -/
def performAt (change : AdminConfig → Except AdminError Unit × AdminConfig)
    (config : AccountWithMetadata) (offset : Nat) : Except AdminError Unit × AccountWithMetadata :=
  match fromAccountAt config offset with
  | .error e => (.error e, config)
  | .ok state =>
    match change state with
    | (.error e, _) => (.error e, config)
    | (.ok (), state) => state.writeToAt config offset

def performTransferAt (config : AccountWithMetadata) (offset : Nat)
    (current : AccountWithMetadata) (candidate : AdminCandidate)
    (newAccount : AccountWithMetadata) : Except AdminError Unit × AccountWithMetadata :=
  performAt (fun state => state.transfer current candidate newAccount) config offset

def performTransfer (config current : AccountWithMetadata) (candidate : AdminCandidate)
    (newAccount : AccountWithMetadata) : Except AdminError Unit × AccountWithMetadata :=
  performTransferAt config 0 current candidate newAccount

def performNominateAt (config : AccountWithMetadata) (offset : Nat)
    (current : AccountWithMetadata) (newAdmin : AccountId) :
    Except AdminError Unit × AccountWithMetadata :=
  performAt (fun state => state.nominate current newAdmin) config offset

def performNominate (config current : AccountWithMetadata) (newAdmin : AccountId) :
    Except AdminError Unit × AccountWithMetadata :=
  performNominateAt config 0 current newAdmin

def performAcceptAt (config : AccountWithMetadata) (offset : Nat)
    (nominee : AccountWithMetadata) : Except AdminError Unit × AccountWithMetadata :=
  performAt (fun state => state.accept nominee) config offset

def performAccept (config nominee : AccountWithMetadata) :
    Except AdminError Unit × AccountWithMetadata :=
  performAcceptAt config 0 nominee

def performRenounceAt (config : AccountWithMetadata) (offset : Nat)
    (current : AccountWithMetadata) : Except AdminError Unit × AccountWithMetadata :=
  performAt (fun state => state.renounce current) config offset

/-- The one dedicated operation that does not go through its `_at` form: it
decodes and overwrites the whole data. -/
def performRenounce (config current : AccountWithMetadata) :
    Except AdminError Unit × AccountWithMetadata :=
  match fromAccount config with
  | .error e => (.error e, config)
  | .ok state =>
    match state.renounce current with
    | (.error e, _) => (.error e, config)
    | (.ok (), state) => state.writeTo config

/-- `FixedBorshSize::SIZE`. -/
def SIZE : Nat := 64

/-- `SlotLayoutProbe::probe`: a recognisable admin and nominee. Its `expect` fails
where `initialize` does. -/
def probe : Except AdminError AdminConfig :=
  match initializeAdmin ⟨Vector.replicate 32 0xA5⟩ with
  | .error e => .error e
  | .ok probe => .ok ⟨AuthorityCrate.nominate probe.slot ⟨Vector.replicate 32 0x5A⟩⟩

end AdminConfig

/-- The four management operations with their arguments. -/
inductive Operation where
  | transfer (current : AccountWithMetadata) (candidate : AdminCandidate)
      (newAccount : AccountWithMetadata)
  | nominate (current : AccountWithMetadata) (newAdmin : AccountId)
  | accept (nominee : AccountWithMetadata)
  | renounce (current : AccountWithMetadata)

namespace Operation

/-- The operation on a config in memory. -/
def change : Operation → AdminConfig → Except AdminError Unit × AdminConfig
  | transfer current candidate newAccount, c => c.transfer current candidate newAccount
  | nominate current newAdmin, c => c.nominate current newAdmin
  | accept nominee, c => c.accept nominee
  | renounce current, c => c.renounce current

/-- The `perform_*_at` function of the operation. -/
def performAt : Operation → AccountWithMetadata → Nat →
    Except AdminError Unit × AccountWithMetadata
  | transfer current candidate newAccount, config, offset =>
    AdminConfig.performTransferAt config offset current candidate newAccount
  | nominate current newAdmin, config, offset =>
    AdminConfig.performNominateAt config offset current newAdmin
  | accept nominee, config, offset => AdminConfig.performAcceptAt config offset nominee
  | renounce current, config, offset => AdminConfig.performRenounceAt config offset current

/-- The dedicated `perform_*` function of the operation. -/
def perform : Operation → AccountWithMetadata → Except AdminError Unit × AccountWithMetadata
  | transfer current candidate newAccount, config =>
    AdminConfig.performTransfer config current candidate newAccount
  | nominate current newAdmin, config => AdminConfig.performNominate config current newAdmin
  | accept nominee, config => AdminConfig.performAccept config nominee
  | renounce current, config => AdminConfig.performRenounce config current

/-- The accounts an operation takes besides the config account, in order. -/
def accounts : Operation → List AccountWithMetadata
  | transfer current _ newAccount => [current, newAccount]
  | nominate current _ => [current]
  | accept nominee => [nominee]
  | renounce current => [current]

theorem performAt_change (op : Operation) (config : AccountWithMetadata) (offset : Nat) :
    op.performAt config offset = AdminConfig.performAt op.change config offset := by
  cases op <;> rfl

end Operation
end AdminAuthority
