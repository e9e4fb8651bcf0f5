import AdminAuthority.Lib.Handover
import AdminAuthority.Lib.Window
import AdminAuthority.Model.Errors

namespace AdminAuthority
open Handover

/-- What the library calls the claim about an incoming admin: a co-signing key
or a PDA derived from a program and a seed. -/
inductive AuthorityCandidate where
  | signer
  | pda (programId : ProgramId) (seed : PdaSeed)
deriving DecidableEq

abbrev AdminCandidate := AuthorityCandidate

/-- The interface of the `authority` crate, which is not part of the repository.
A method on `&mut self` returns its result with the slot it leaves, and `writeAt`
its result with the vector it leaves. -/
class AuthorityCrate [Lez] where
  Slot : Type
  defaultSlot : Slot
  initializeSlot : AccountId → Except AuthorityError Slot
  assert : Slot → AccountWithMetadata → Except AuthorityError Unit
  holder : Slot → AccountId
  pending : Slot → Option AccountId
  isRenounced : Slot → Bool
  transferTo : Slot → AccountId → Except AuthorityError Unit × Slot
  nominate : Slot → AccountId → Slot
  accept : Slot → AccountWithMetadata → Except AuthorityError Unit × Slot
  renounce : Slot → Slot
  readAt : List UInt8 → Nat → Except AuthorityError Slot
  writeAt : Slot → List UInt8 → Nat → Except AuthorityError Unit × List UInt8
  /-- The derived borsh form of the slot. -/
  toVec : Slot → Option (List UInt8)
  tryFromSlice : List UInt8 → Option Slot
  /-- `AuthorityCandidate::validate`, against the account given as evidence. -/
  validate : AuthorityCandidate → AccountWithMetadata → Except AuthorityError AccountId

/-- The two ids of a slot in one record. The all-zero id marks an empty place. -/
abbrev AdminSeat := Seat AccountId

/-- The 64 bytes of a slot: the admin, then the nominee. -/
def AdminSeat.bytes (s : AdminSeat) : List UInt8 := s.holder.bytes ++ s.nominee.bytes

/-- 64 bytes read as an admin and a nominee. -/
def AdminSeat.ofBytes (bytes : List UInt8) (h : bytes.length = 64) : AdminSeat where
  holder := .ofBytes (bytes.take 32) (by simp [h])
  nominee := .ofBytes (bytes.drop 32) (by simp [h])

@[simp] theorem AdminSeat.bytes_length (s : AdminSeat) : (AdminSeat.bytes s).length = 64 := by
  simp [bytes]

@[simp] theorem AdminSeat.bytes_ofBytes (bytes : List UInt8) (h : bytes.length = 64) :
    AdminSeat.bytes (ofBytes bytes h) = bytes := by
  simp [ofBytes, AdminSeat.bytes]

/-- The 64 bytes from `offset` on, read as an admin and a nominee. -/
def AdminSeat.readAt (bytes : List UInt8) (offset : Nat) (h : offset + 64 ≤ bytes.length) :
    AdminSeat :=
  .ofBytes (Window.read bytes offset 64) (Window.read_length h)

@[simp] theorem AdminSeat.bytes_readAt (bytes : List UInt8) (offset : Nat)
    (h : offset + 64 ≤ bytes.length) :
    AdminSeat.bytes (readAt bytes offset h) = Window.read bytes offset 64 :=
  bytes_ofBytes _ _

theorem AdminSeat.bytes_injective : Function.Injective AdminSeat.bytes := by
  intro s t h
  obtain ⟨hh, hn⟩ := List.append_inj h (by simp)
  cases s
  cases t
  simp_all

@[simp] theorem AdminSeat.bytes_inj {s t : AdminSeat} :
    AdminSeat.bytes s = AdminSeat.bytes t ↔ s = t :=
  AdminSeat.bytes_injective.eq_iff

/-- The evidence a candidate must come with: an id that is not the renounced
sentinel, an owning program, and the candidate's own proof of control. -/
def AuthorityCandidate.Eligible [Lez] (c : AuthorityCandidate) (a : AccountWithMetadata) : Prop :=
  a.accountId ≠ default ∧ a.account.programOwner ≠ default ∧
    match c with
    | .signer => a.isAuthorized = true
    | .pda programId seed => a.accountId = Lez.forPublicPda programId seed

variable [Lez] [AuthorityCrate]

/-- The admin and the nominee a slot stands for. -/
def AuthorityCrate.seat (slot : Slot) : AdminSeat :=
  ⟨holder slot, (pending slot).getD default⟩

open AuthorityCrate in
/-- The documented behaviour of the `authority` crate that the library relies on. -/
class LawfulAuthority : Prop where
  seat_injective : ∀ s t : Slot, seat s = seat t → s = t
  pending_ne_default : ∀ s : Slot, pending s ≠ some default
  isRenounced_iff : ∀ s : Slot, isRenounced s = true ↔ holder s = default
  defaultSlot_seat : seat (defaultSlot : Slot) = ⟨default, default⟩
  initialize_default : initializeSlot default = .error .invalidCandidate
  initialize_ok : ∀ id, id ≠ default → ∃ s, initializeSlot id = .ok s ∧ seat s = ⟨id, default⟩
  assert_eq : ∀ (s : Slot) (signer : AccountWithMetadata), assert s signer =
    if holder s = default then .error .renounced
    else if signer.isAuthorized = false then .error .missingSignature
    else if signer.accountId ≠ holder s then .error .notHolder
    else .ok ()
  transferTo_ok : ∀ (s : Slot) next, next ≠ default →
    (transferTo s next).1 = .ok () ∧ seat (transferTo s next).2 = ⟨next, default⟩
  transferTo_error : ∀ (s : Slot) next e,
    (transferTo s next).1 = .error e → (transferTo s next).2 = s
  nominate_seat : ∀ (s : Slot) id, seat (nominate s id) = ⟨holder s, id⟩
  accept_result : ∀ (s : Slot) (nominee : AccountWithMetadata), (accept s nominee).1 =
    if pending s = none then .error .noNomination
    else if nominee.isAuthorized = false then .error .missingSignature
    else if some nominee.accountId ≠ pending s then .error .notNominee
    else if nominee.account.programOwner = default then .error .unownedSigner
    else .ok ()
  accept_ok : ∀ (s : Slot) (nominee : AccountWithMetadata), (accept s nominee).1 = .ok () →
    seat (accept s nominee).2 = ⟨nominee.accountId, default⟩
  accept_error : ∀ (s : Slot) (nominee : AccountWithMetadata) e,
    (accept s nominee).1 = .error e → (accept s nominee).2 = s
  renounce_seat : ∀ s : Slot, seat (renounce s) = ⟨default, default⟩
  toVec_eq : ∀ s : Slot, toVec s = some (seat s).bytes
  tryFromSlice_ok : ∀ bytes : List UInt8, bytes.length = 64 →
    ∃ s : Slot, tryFromSlice bytes = some s ∧ (seat s).bytes = bytes
  tryFromSlice_none : ∀ bytes : List UInt8, bytes.length ≠ 64 →
    (tryFromSlice bytes : Option Slot) = none
  readAt_ok : ∀ (bytes : List UInt8) o, o + 64 ≤ bytes.length →
    ∃ s : Slot, readAt bytes o = .ok s ∧ (seat s).bytes = Window.read bytes o 64
  readAt_short : ∀ (bytes : List UInt8) o, bytes.length < o + 64 →
    (readAt bytes o : Except AuthorityError Slot) = .error .slotOutOfBounds
  writeAt_ok : ∀ (s : Slot) bytes o, o + 64 ≤ bytes.length →
    writeAt s bytes o = (.ok (), Window.splice bytes o (seat s).bytes)
  writeAt_short : ∀ (s : Slot) bytes o, bytes.length < o + 64 →
    (writeAt s bytes o).1 = .error .slotOutOfBounds
  validate_ok_iff : ∀ (c : AuthorityCandidate) (a : AccountWithMetadata) id,
    validate c a = .ok id ↔ id = a.accountId ∧ c.Eligible a

end AdminAuthority
