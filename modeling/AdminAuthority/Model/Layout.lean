import AdminAuthority.Lib.Borsh
import AdminAuthority.Model.EmbeddedSample

/-! A consumer's `#[account_type]` struct with an `#[admin_slot]` field, whatever its other
fields are. -/

namespace AdminAuthority
open Borsh

/-- The fields of a struct before its slot and after it. Only fields of a fixed size may
stand before it. -/
structure Layout (α : Type u) (β : Type v) where
  before : Fixed α
  after : Codec β

variable [Lez] [AuthorityCrate]

/-- A value of the struct. -/
structure Embedding (α : Type u) (β : Type v) where
  before : α
  admin : AdminConfig
  after : β

namespace Layout

variable {α : Type u} {β : Type v}

/-- The sum of the sizes of the fields before the slot. -/
def ADMIN_SLOT_OFFSET (l : Layout α β) : Nat := l.before.size

/-- The derived borsh form: the fields in order. -/
def toVec (l : Layout α β) (s : Embedding α β) : Option (List UInt8) :=
  match AuthorityCrate.toVec s.admin.slot with
  | some slot => some (l.before.encode s.before ++ slot ++ l.after.encode s.after)
  | none => none

/-- The derived reader takes each field from the front of what the last one left. -/
def tryFromSlice (l : Layout α β) (bytes : List UInt8) : Option (Embedding α β) :=
  match l.before.decode bytes with
  | none => none
  | some (before, rest) =>
    match AuthorityCrate.tryFromSlice (rest.take AdminConfig.SIZE) with
    | none => none
    | some slot =>
      match l.after.tryFromSlice (rest.drop AdminConfig.SIZE) with
      | none => none
      | some after => some ⟨before, ⟨slot⟩, after⟩

def fromAccount (l : Layout α β) (account : AccountWithMetadata) :
    Except SpelError (Embedding α β) :=
  match l.tryFromSlice account.bytes with
  | some state => .ok state
  | none => .error (.serializationError "decoding failed")

def writeTo (l : Layout α β) (s : Embedding α β) (account : AccountWithMetadata) :
    Except SpelError Unit × AccountWithMetadata :=
  match l.toVec s with
  | none => (.error (.serializationError "encoding failed"), account)
  | some bytes =>
    match Data.tryFrom bytes with
    | some data => (.ok (), account.withData data)
    | none => (.error (.serializationError "data too large"), account)

end Layout

/-- A `ProgConfig` by its fields before and after the slot. -/
def ProgConfig.embedding (c : ProgConfig) : Embedding (UInt64 × Vector UInt8 24) Unit :=
  ⟨(c.value, c.padding), c.admin, ()⟩

def EmbeddedSample.layout : Layout (UInt64 × Vector UInt8 24) Unit :=
  ⟨u64.pair (array 24), unit.toCodec⟩

end AdminAuthority
