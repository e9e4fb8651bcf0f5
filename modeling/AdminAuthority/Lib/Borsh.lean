import AdminAuthority.Lib.LittleEndian
import Mathlib.Data.List.Basic

namespace Borsh

variable {α : Type u} {β : Type v}

/-- How the values of a type are written in front of whatever follows, and read off
there. A reader takes exactly the bytes that its value is written as. -/
structure Codec (α : Type u) where
  encode : α → List UInt8
  decode : List UInt8 → Option (α × List UInt8)
  decode_encode : ∀ a rest, decode (encode a ++ rest) = some (a, rest)
  encode_decode : ∀ bytes a rest, decode bytes = some (a, rest) → bytes = encode a ++ rest

/-- A type all of whose values take the same number of bytes. -/
structure Fixed (α : Type u) extends Codec α where
  size : Nat
  encode_length : ∀ a, (encode a).length = size

attribute [simp] Codec.decode_encode Fixed.encode_length

/-- Reading a value off the whole of some bytes, with nothing left over. -/
def Codec.tryFromSlice (c : Codec α) (bytes : List UInt8) : Option α :=
  match c.decode bytes with
  | some (a, []) => some a
  | _ => none

theorem Codec.tryFromSlice_eq_some {c : Codec α} {bytes : List UInt8} {a : α} :
    c.tryFromSlice bytes = some a ↔ bytes = c.encode a := by
  constructor
  · intro h
    unfold tryFromSlice at h
    split at h
    · rename_i b hb
      obtain rfl := Option.some.inj h
      simpa using c.encode_decode bytes b [] hb
    · cases h
  · rintro rfl
    have hd := c.decode_encode a []
    rw [List.append_nil] at hd
    rw [tryFromSlice, hd]

/-- A field that is any `size` bytes, read and written in a way of its own. -/
def Fixed.ofBytes (size : Nat) (write : α → List UInt8)
    (read : (bytes : List UInt8) → bytes.length = size → α)
    (length : ∀ a, (write a).length = size) (read_write : ∀ a h, read (write a) h = a)
    (write_read : ∀ bytes h, write (read bytes h) = bytes) : Fixed α where
  encode := write
  decode bytes :=
    if h : size ≤ bytes.length then
      some (read (bytes.take size) (by simp [h]), bytes.drop size)
    else none
  decode_encode a rest := by
    have hl : size ≤ (write a ++ rest).length := by simp [length]
    have htake : (write a ++ rest).take size = write a := List.take_left' (length a)
    have hdrop : (write a ++ rest).drop size = rest := List.drop_left' (length a)
    rw [dif_pos hl]
    simp only [htake, hdrop, read_write]
  encode_decode bytes a rest h := by
    split at h
    · simp only [Option.some.injEq, Prod.mk.injEq] at h
      obtain ⟨rfl, rfl⟩ := h
      rw [write_read, List.take_append_drop]
    · cases h
  size := size
  encode_length := length

/-- `u64`, little-endian. -/
def u64 : Fixed UInt64 :=
  .ofBytes 8 (fun v => LittleEndian.encode 8 v.toNat)
    (fun bytes _ => .ofNat (LittleEndian.decode bytes)) (by simp)
    (fun v _ => LittleEndian.decode_encode_uint64 v)
    (fun _ h => LittleEndian.encode_decode_uint64 h)

/-- `[u8; n]`. -/
def array (n : Nat) : Fixed (Vector UInt8 n) :=
  .ofBytes n Vector.toList (fun bytes h => ⟨bytes.toArray, by simpa using h⟩) (by simp)
    (fun _ _ => by simp [Vector.toList]) (fun _ _ => by simp [Vector.toList])

/-- The end of a struct. -/
def unit : Fixed Unit :=
  .ofBytes 0 (fun _ => []) (fun _ _ => ()) (by simp) (by simp)
    (fun _ h => (List.length_eq_zero_iff.mp h).symm)

/-- Two fields in order. -/
def Codec.pair (c : Codec α) (d : Codec β) : Codec (α × β) where
  encode p := c.encode p.1 ++ d.encode p.2
  decode bytes :=
    match c.decode bytes with
    | none => none
    | some (a, rest) =>
      match d.decode rest with
      | none => none
      | some (b, rest) => some ((a, b), rest)
  decode_encode p rest := by simp [List.append_assoc]
  encode_decode bytes p rest h := by
    split at h
    · cases h
    · rename_i a mid ha
      split at h
      · cases h
      · rename_i b last hb
        simp only [Option.some.injEq, Prod.mk.injEq] at h
        obtain ⟨rfl, rfl⟩ := h
        rw [c.encode_decode bytes a mid ha, d.encode_decode mid b last hb, List.append_assoc]

def Fixed.pair (c : Fixed α) (d : Fixed β) : Fixed (α × β) where
  toCodec := c.toCodec.pair d.toCodec
  size := c.size + d.size
  encode_length p := by simp [Codec.pair]

end Borsh
