import Mathlib.Data.List.Basic

namespace AdminAuthority

/-- The 32 raw bytes that name an account. -/
structure AccountId where
  value : Vector UInt8 32
deriving DecidableEq

/-- `AccountId::default()`, the all-zero id. A slot uses it for an empty place. -/
instance : Inhabited AccountId := ⟨⟨Vector.replicate 32 0⟩⟩

def AccountId.bytes (id : AccountId) : List UInt8 := id.value.toList

def AccountId.ofBytes (bytes : List UInt8) (h : bytes.length = 32) : AccountId :=
  ⟨⟨bytes.toArray, by simpa using h⟩⟩

@[simp] theorem AccountId.bytes_length (id : AccountId) : id.bytes.length = 32 := by
  simp [bytes]

@[simp] theorem AccountId.bytes_ofBytes (bytes : List UInt8) (h : bytes.length = 32) :
    (ofBytes bytes h).bytes = bytes := by
  simp [ofBytes, AccountId.bytes, Vector.toList]

theorem AccountId.bytes_injective : Function.Injective AccountId.bytes := by
  intro a b h
  cases a
  cases b
  exact congrArg AccountId.mk (Vector.toList_inj.mp h)

@[simp] theorem AccountId.bytes_inj {a b : AccountId} : a.bytes = b.bytes ↔ a = b :=
  AccountId.bytes_injective.eq_iff

/-- `[u32; 8]`. The default one owns the accounts no program has claimed. -/
abbrev ProgramId := Vector UInt32 8

abbrev PdaSeed := Vector UInt8 32

/-- What the library relies on from the LEZ core crate and from SPEL, which are
not part of the repository: the longest account data, the address of a program's
PDA, the nonce a signer moves on to and the seed a literal stands for. -/
class Lez where
  dataMaxLength : Nat
  forPublicPda : ProgramId → PdaSeed → AccountId
  publicAccountNonceIncrement : Nat → Nat
  seedFromStr : String → PdaSeed

/-- The data of an account. Nothing over the platform's limit can be built. -/
structure Data [Lez] where
  bytes : List UInt8
  within : bytes.length ≤ Lez.dataMaxLength
deriving DecidableEq

instance [Lez] : Inhabited Data := ⟨⟨[], Nat.zero_le _⟩⟩

/-- `Data::try_from(Vec<u8>)`. -/
def Data.tryFrom [Lez] (bytes : List UInt8) : Option Data :=
  if h : bytes.length ≤ Lez.dataMaxLength then some ⟨bytes, h⟩ else none

structure Account [Lez] where
  programOwner : ProgramId
  balance : Nat
  data : Data
  nonce : Nat
deriving DecidableEq

/-- `Account::default()`, an account that does not exist yet. -/
instance [Lez] : Inhabited Account := ⟨⟨default, 0, default, 0⟩⟩

/-- An account as a program receives it, with the flag LEZ sets when the
transaction carries the account's signature. -/
structure AccountWithMetadata [Lez] where
  account : Account
  isAuthorized : Bool
  accountId : AccountId
deriving DecidableEq

variable [Lez]

/-- The raw bytes of an account's data. -/
abbrev AccountWithMetadata.bytes (a : AccountWithMetadata) : List UInt8 := a.account.data.bytes

/-- Replacing an account's data leaves everything else about it alone. -/
def AccountWithMetadata.withData (a : AccountWithMetadata) (d : Data) : AccountWithMetadata :=
  { a with account := { a.account with data := d } }

theorem AccountWithMetadata.withData_self (a : AccountWithMetadata) :
    a.withData a.account.data = a := rfl

theorem Data.tryFrom_bytes (d : Data) : Data.tryFrom d.bytes = some d := by
  simp [tryFrom, d.within]

theorem Data.tryFrom_eq_some {bytes : List UInt8} {d : Data} :
    Data.tryFrom bytes = some d ↔ d.bytes = bytes := by
  constructor
  · intro h
    unfold tryFrom at h
    split at h
    · cases h; rfl
    · cases h
  · rintro rfl
    exact d.tryFrom_bytes

end AdminAuthority
