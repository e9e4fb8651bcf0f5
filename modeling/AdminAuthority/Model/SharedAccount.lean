import AdminAuthority.Lib.CallMachine
import AdminAuthority.Model.Config

/-! One consumer account that holds any number of slots next to the consumer's own
bytes. -/

namespace AdminAuthority

variable {ι : Type u}

/-- A byte position in none of the slots. -/
def Free (offset : ι → Nat) (k : Nat) : Prop := ∀ i, ¬(offset i ≤ k ∧ k < offset i + 64)

/-- A write by the consumer: the bytes it puts, by position, none of them in a slot. -/
structure ConsumerWrite (offset : ι → Nat) where
  byte : Nat → Option UInt8
  free : ∀ k, (byte k).isSome = true → Free offset k

def ConsumerWrite.write {offset : ι → Nat} (w : ConsumerWrite offset) (xs : List UInt8) :
    List UInt8 :=
  xs.mapIdx fun k old => (w.byte k).getD old

@[simp] theorem ConsumerWrite.write_length {offset : ι → Nat} (w : ConsumerWrite offset)
    (xs : List UInt8) : (w.write xs).length = xs.length := List.length_mapIdx

variable [Lez]

def AccountWithMetadata.rewritten {offset : ι → Nat} (config : AccountWithMetadata)
    (w : ConsumerWrite offset) : AccountWithMetadata :=
  config.withData ⟨w.write config.bytes, by
    rw [w.write_length]
    exact config.account.data.within⟩

variable [AuthorityCrate]

/-- A call on one slot: its bootstrap, or one of the four operations. -/
inductive SlotCall where
  | bootstrap (candidate : AdminCandidate) (newAccount : AccountWithMetadata)
  | operate (op : Operation)

def SlotCall.callAt : SlotCall → AccountWithMetadata → Nat →
    Except AdminError Unit × AccountWithMetadata
  | bootstrap candidate newAccount, config, offset =>
    AdminConfig.bootstrapAt config offset candidate newAccount
  | operate op, config, offset => op.performAt config offset

/-- What happens to a shared account. -/
inductive SharedCall (offset : ι → Nat) where
  | slot (i : ι) (c : SlotCall)
  | consumer (w : ConsumerWrite offset)

namespace SharedCall

variable {offset : ι → Nat}

def addresses [DecidableEq ι] (i : ι) : SharedCall offset → Bool
  | slot j _ => decide (j = i)
  | consumer _ => false

def isConsumer : SharedCall offset → Bool
  | slot _ _ => false
  | consumer _ => true

end SharedCall

def sharedAccount (offset : ι → Nat) :
    CallMachine AccountWithMetadata (SharedCall offset) AdminError Unit where
  call config
    | .slot i c => c.callAt config (offset i)
    | .consumer w => (.ok (), config.rewritten w)

end AdminAuthority
