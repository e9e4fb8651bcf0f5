import AdminAuthority.Lib.LittleEndian
import AdminAuthority.Model.Instructions
import AdminAuthority.Model.Macros

/-! The reference program that keeps its slot at offset 32 of its own account. -/

namespace AdminAuthority
open Block

theorem ProgConfig.padding_length {bytes : List UInt8} (h : 32 ≤ bytes.length) :
    ((bytes.drop 8).take 24).toArray.size = 24 := by
  simp only [List.size_toArray, List.length_take, List.length_drop]
  omega

variable [Lez] [AuthorityCrate]

/-- The consumer's account: `value` in bytes 0 to 8, `padding` up to 32, then the slot. -/
structure ProgConfig where
  value : UInt64
  padding : Vector UInt8 24
  admin : AdminConfig

namespace ProgConfig

/-- The derived borsh form: the fields in order, the integer little-endian. -/
def toVec (c : ProgConfig) : Option (List UInt8) :=
  match AuthorityCrate.toVec c.admin.slot with
  | some slot => some (LittleEndian.encode 8 c.value.toNat ++ c.padding.toList ++ slot)
  | none => none

/-- The derived reader takes each field from the front, and the slot's takes the rest. -/
def tryFromSlice (bytes : List UInt8) : Option ProgConfig :=
  if h : 32 ≤ bytes.length then
    match AuthorityCrate.tryFromSlice (bytes.drop 32) with
    | some slot => some {
        value := .ofNat (LittleEndian.decode (bytes.take 8))
        padding := ⟨((bytes.drop 8).take 24).toArray, padding_length h⟩
        admin := ⟨slot⟩ }
    | none => none
  else none

def fromAccount (account : AccountWithMetadata) : Except SpelError ProgConfig :=
  match tryFromSlice account.bytes with
  | some state => .ok state
  | none => .error (.serializationError "decoding failed")

def writeTo (c : ProgConfig) (account : AccountWithMetadata) :
    Except SpelError Unit × AccountWithMetadata :=
  match c.toVec with
  | none => (.error (.serializationError "encoding failed"), account)
  | some bytes =>
    match Data.tryFrom bytes with
    | some data => (.ok (), account.withData data)
    | none => (.error (.serializationError "data too large"), account)

end ProgConfig

namespace EmbeddedSample

/-- A body has one local variable, `state`, which some bodies never bind. -/
abbrev SampleEnv := Env (Option ProgConfig)

/-- `state.write_to(&mut config)?;` -/
def save (state : ProgConfig) : Stmt SampleEnv SpelError :=
  attempt fun env =>
    match state.writeTo env.config with
    | (.ok (), config) => .ok { env with config }
    | (.error e, _) => .error e

/-- `let mut state = ProgConfig::from_account(&config)?;` -/
def load : Stmt SampleEnv SpelError :=
  attempt fun env =>
    match ProgConfig.fromAccount env.config with
    | .ok state => .ok { env with locals := some state }
    | .error e => .error e

/-- `state.value = new_value;` -/
def setValue (newValue : UInt64) : Stmt SampleEnv SpelError := fun env =>
  .next { env with locals := env.locals.map fun state => { state with value := newValue } }

def saveState : Stmt SampleEnv SpelError := fun env =>
  match env.locals with
  | some state => save state env
  | none => .next env

/-- The tail `Ok(SpelOutput::execute(..))`: the account goes out as it stands. -/
def finish : Stmt SampleEnv SpelError := fun env => .next env

/-- The offset that the program's marker declares. -/
def offset : Nat := 32

/-- `initialize`, as `#[admin_initialize]` expands it. -/
def initializeProg (caller : AccountWithMetadata) : List (Stmt SampleEnv SpelError) :=
  Macros.adminInitialize offset caller
    [save ⟨0, Vector.replicate 24 0, ⟨AuthorityCrate.defaultSlot⟩⟩, finish]

/-- `update_value`, as `#[require_admin]` expands it. -/
def updateValue (caller : AccountWithMetadata) (newValue : UInt64) :
    List (Stmt SampleEnv SpelError) :=
  Macros.requireAdmin offset caller [load, setValue newValue, saveState, finish]

/-- `poke`, as `#[require_admin]` expands it. -/
def poke (caller : AccountWithMetadata) : List (Stmt SampleEnv SpelError) :=
  Macros.requireAdmin offset caller [finish]

/-- A call of one of the program's instructions. -/
inductive ProgCall where
  | initializeProg (caller : AccountWithMetadata)
  | updateValue (caller : AccountWithMetadata) (newValue : UInt64)
  | poke (caller : AccountWithMetadata)
  | manage (op : Operation)

variable [Build]

/-- SPEL's guard and claim around the handler of the `#[account(init)]` account,
which follows the injected caller. -/
def create (caller config : AccountWithMetadata) : Except SpelError Unit × AccountWithMetadata :=
  if config.account = default then
    match Macros.handle none (initializeProg caller) config with
    | (.ok (), config) =>
      (.ok (), { config with account := { config.account with programOwner := Build.programId } })
    | (.error e, config) => (.error e, config)
  else (.error (.accountAlreadyInitialized 1), config)

/-- The program on its one account. -/
def program : CallMachine AccountWithMetadata ProgCall SpelError Unit where
  call config
    | .initializeProg caller => create caller config
    | .updateValue caller newValue => Macros.handle none (updateValue caller newValue) config
    | .poke caller => Macros.handle none (poke caller) config
    | .manage op => op.manage config offset

end EmbeddedSample
end AdminAuthority
