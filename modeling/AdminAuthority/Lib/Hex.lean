import Mathlib.Data.List.Basic
import Mathlib.Data.List.Induction

/-! Hexadecimal digits as the bytes of a string, two of them to a byte. -/

namespace Hex

/-- The UTF-8 bytes of a string. -/
def asBytes (s : String) : List UInt8 := s.toUTF8.data.toList

/-- The ASCII digits, of either letter case. -/
def isDigit (c : UInt8) : Bool :=
  '0'.toUInt8 ≤ c && c ≤ '9'.toUInt8 || 'a'.toUInt8 ≤ c && c ≤ 'f'.toUInt8 ||
    'A'.toUInt8 ≤ c && c ≤ 'F'.toUInt8

/-- What a digit counts. -/
def value (c : UInt8) : UInt8 :=
  if c ≤ '9'.toUInt8 then c - '0'.toUInt8
  else if 'a'.toUInt8 ≤ c then c - 'a'.toUInt8 + 10
  else c - 'A'.toUInt8 + 10

/-- Every two digits read as a byte, the high half first. -/
def decode : List UInt8 → List UInt8
  | a :: b :: rest => (16 * value a + value b) :: decode rest
  | _ => []

/-- The two digits of a byte, in lower case. -/
def digits (b : UInt8) : List Char := [Nat.digitChar (b.toNat / 16), Nat.digitChar (b.toNat % 16)]

/-- Bytes written out, two digits each. -/
def render (bytes : List UInt8) : String := .ofList (bytes.flatMap digits)

theorem isDigit_cases {c : UInt8} : isDigit c = true ↔
    ('0'.toUInt8 ≤ c ∧ c ≤ '9'.toUInt8 ∨ 'a'.toUInt8 ≤ c ∧ c ≤ 'f'.toUInt8) ∨
      'A'.toUInt8 ≤ c ∧ c ≤ 'F'.toUInt8 := by
  simp only [isDigit, Bool.or_eq_true, Bool.and_eq_true, decide_eq_true_eq]

theorem isDigit_iff {c : UInt8} : isDigit c = true ↔
    (48 ≤ c.toNat ∧ c.toNat ≤ 57 ∨ 97 ≤ c.toNat ∧ c.toNat ≤ 102) ∨
      65 ≤ c.toNat ∧ c.toNat ≤ 70 := by
  simp only [isDigit_cases, UInt8.le_iff_toNat_le]
  exact Iff.rfl

/-- None of the additions and subtractions on a digit wraps around. -/
theorem value_toNat {c : UInt8} (h : isDigit c = true) :
    (value c).toNat = if c.toNat ≤ 57 then c.toNat - 48
      else if 97 ≤ c.toNat then c.toNat - 87 else c.toNat - 55 := by
  have hc := isDigit_iff.mp h
  have h9 : c ≤ '9'.toUInt8 ↔ c.toNat ≤ 57 := UInt8.le_iff_toNat_le
  have ha : 'a'.toUInt8 ≤ c ↔ 97 ≤ c.toNat := UInt8.le_iff_toNat_le
  have h0 : 48 ≤ c.toNat → (c - '0'.toUInt8).toNat = c.toNat - 48 :=
    UInt8.toNat_sub_of_le c '0'.toUInt8
  have hl : 97 ≤ c.toNat → (c - 'a'.toUInt8).toNat = c.toNat - 97 :=
    UInt8.toNat_sub_of_le c 'a'.toUInt8
  have hu : 65 ≤ c.toNat → (c - 'A'.toUInt8).toNat = c.toNat - 65 :=
    UInt8.toNat_sub_of_le c 'A'.toUInt8
  have h10 : (10 : UInt8).toNat = 10 := rfl
  simp only [value, h9, ha]
  split
  · exact h0 (by omega)
  · split
    · rw [UInt8.toNat_add, hl (by omega), h10]
      omega
    · rw [UInt8.toNat_add, hu (by omega), h10]
      omega

theorem value_lt {c : UInt8} (h : isDigit c = true) : value c < 16 := by
  have hc := isDigit_iff.mp h
  have hv := value_toNat h
  change (value c).toNat < 16
  split at hv
  · omega
  · split at hv <;> omega

theorem value_eq_zero {c : UInt8} (h : isDigit c = true) : value c = 0 ↔ c = '0'.toUInt8 := by
  have hc := isDigit_iff.mp h
  have hv := value_toNat h
  rw [← UInt8.toNat_inj, ← UInt8.toNat_inj (b := '0'.toUInt8)]
  change (value c).toNat = 0 ↔ c.toNat = 48
  split at hv
  · omega
  · split at hv <;> omega

theorem isDigit_ascii {c : UInt8} (h : isDigit c = true) : c < 128 := by
  have hc := isDigit_iff.mp h
  change c.toNat < 128
  omega

theorem digitChar_range {c : UInt8} {base n s : Nat} (hle : base ≤ c.toNat)
    (hlt : c.toNat < base + n)
    (hall : ∀ k < n, Nat.digitChar (s + k) = (Char.ofUInt8 (.ofNat (base + k))).toLower)
    (hv : (value c).toNat = s + (c.toNat - base)) :
    Nat.digitChar (value c).toNat = (Char.ofUInt8 c).toLower := by
  rw [hv, hall (c.toNat - base) (by omega), Nat.add_sub_cancel' hle, UInt8.ofNat_toNat]

/-- The value of a digit, written out again, is the digit in lower case. -/
theorem digitChar_value {c : UInt8} (h : isDigit c = true) :
    Nat.digitChar (value c).toNat = (Char.ofUInt8 c).toLower := by
  have hv := value_toNat h
  rcases isDigit_iff.mp h with (⟨h1, h2⟩ | ⟨h1, h2⟩) | ⟨h1, h2⟩
  · rw [if_pos h2] at hv
    exact digitChar_range (n := 10) h1 (by omega) (by decide) (hv.trans (Nat.zero_add _).symm)
  · rw [if_neg (by omega), if_pos h1] at hv
    apply digitChar_range (n := 6) (s := 10) h1 (by omega) (by decide)
    omega
  · rw [if_neg (by omega), if_neg (by omega)] at hv
    apply digitChar_range (n := 6) (s := 10) h1 (by omega) (by decide)
    omega

theorem digitChar_isDigit {n : Nat} (h : n < 16) :
    isDigit (Nat.digitChar n).toUInt8 = true ∧ (value (Nat.digitChar n).toUInt8).toNat = n ∧
      Char.ofUInt8 (Nat.digitChar n).toUInt8 = Nat.digitChar n := by
  revert n
  decide

theorem shift_toNat {m : UInt8} (hm : m < 16) : (m <<< 4).toNat = 16 * m.toNat := by
  have hlt : m.toNat < 16 := hm
  rw [UInt8.toNat_shiftLeft]
  change m.toNat <<< 4 % 256 = _
  rw [Nat.shiftLeft_eq]
  omega

/-- Two halves below 16 share no bit. -/
theorem join_eq {m n : UInt8} (hm : m < 16) (hn : n < 16) : m <<< 4 ||| n = 16 * m + n := by
  have hlow : n.toNat < 2 ^ 4 := hn
  have hhigh : (16 * m).toNat = m.toNat <<< 4 := by
    have hlt : m.toNat < 16 := hm
    rw [UInt8.toNat_mul, Nat.shiftLeft_eq]
    change 16 * m.toNat % 256 = _
    omega
  apply UInt8.toNat_inj.mp
  rw [UInt8.toNat_or, shift_toNat hm, UInt8.toNat_add, hhigh]
  have hlt : m.toNat <<< 4 + n.toNat < 256 := by
    have hm' : m.toNat < 16 := hm
    rw [Nat.shiftLeft_eq]
    omega
  rw [Nat.mod_eq_of_lt hlt, Nat.shiftLeft_add_eq_or_of_lt hlow, Nat.shiftLeft_eq]
  congr 1
  omega

theorem join_toNat {a b : UInt8} (ha : isDigit a = true) (hb : isDigit b = true) :
    (16 * value a + value b).toNat = 16 * (value a).toNat + (value b).toNat := by
  have hm : (value a).toNat < 16 := value_lt ha
  have hn : (value b).toNat < 16 := value_lt hb
  rw [UInt8.toNat_add, UInt8.toNat_mul]
  change (16 * (value a).toNat % 256 + (value b).toNat) % 256 = _
  omega

theorem join_eq_zero {a b : UInt8} (ha : isDigit a = true) (hb : isDigit b = true) :
    16 * value a + value b = 0 ↔ a = '0'.toUInt8 ∧ b = '0'.toUInt8 := by
  rw [← value_eq_zero ha, ← value_eq_zero hb]
  simp only [← UInt8.toNat_inj, join_toNat ha hb, UInt8.toNat_zero]
  omega

theorem even_tail {a b : α} {xs : List α} (h : (a :: b :: xs).length % 2 = 0) :
    xs.length % 2 = 0 := by
  simp only [List.length_cons] at h
  omega

theorem decode_append {xs : List UInt8} (he : xs.length % 2 = 0) (ys : List UInt8) :
    decode (xs ++ ys) = decode xs ++ decode ys := by
  induction xs using List.twoStepInduction with
  | nil => rfl
  | singleton a => cases he
  | cons_cons a b rest ih _ => simp only [List.cons_append, decode, ih (even_tail he)]

theorem decode_length {xs : List UInt8} (he : xs.length % 2 = 0) :
    2 * (decode xs).length = xs.length := by
  induction xs using List.twoStepInduction with
  | nil => rfl
  | singleton a => cases he
  | cons_cons a b rest ih _ =>
    simp only [decode, List.length_cons, ← ih (even_tail he)]
    omega

/-- Only zeros read as zeros. -/
theorem decode_zeros {xs : List UInt8} (he : xs.length % 2 = 0)
    (h : ∀ c ∈ xs, isDigit c = true) :
    (∀ b ∈ decode xs, b = 0) ↔ ∀ c ∈ xs, c = '0'.toUInt8 := by
  induction xs using List.twoStepInduction with
  | nil => simp [decode]
  | singleton a => cases he
  | cons_cons a b rest ih _ =>
    simp only [List.mem_cons, forall_eq_or_imp] at h
    simp only [decode, List.mem_cons, forall_eq_or_imp, ih (even_tail he) h.2.2,
      join_eq_zero h.1 h.2.1, and_assoc]

/-- What is read and written out again is the same digits in lower case. -/
theorem digits_decode {xs : List UInt8} (he : xs.length % 2 = 0)
    (h : ∀ c ∈ xs, isDigit c = true) :
    (decode xs).flatMap digits = xs.map fun c => (Char.ofUInt8 c).toLower := by
  induction xs using List.twoStepInduction with
  | nil => rfl
  | singleton a => cases he
  | cons_cons a b rest ih _ =>
    simp only [List.mem_cons, forall_eq_or_imp] at h
    obtain ⟨ha, hb, hrest⟩ := h
    have hlt : (value b).toNat < 16 := value_lt hb
    have hhigh : (16 * value a + value b).toNat / 16 = (value a).toNat := by
      rw [join_toNat ha hb]
      omega
    have hlow : (16 * value a + value b).toNat % 16 = (value b).toNat := by
      rw [join_toNat ha hb]
      omega
    have hpair : digits (16 * value a + value b) =
        [(Char.ofUInt8 a).toLower, (Char.ofUInt8 b).toLower] := by
      rw [digits, hhigh, hlow, digitChar_value ha, digitChar_value hb]
    rw [decode, List.flatMap_cons, hpair, ih (even_tail he) hrest]
    rfl

/-- The bytes of the digits of a list of bytes. -/
def encode (bytes : List UInt8) : List UInt8 := (bytes.flatMap digits).map Char.toUInt8

theorem encode_cons (b : UInt8) (bytes : List UInt8) :
    encode (b :: bytes) = (Nat.digitChar (b.toNat / 16)).toUInt8 ::
      (Nat.digitChar (b.toNat % 16)).toUInt8 :: encode bytes := by
  simp [encode, digits]

theorem encode_length (bytes : List UInt8) : (encode bytes).length = 2 * bytes.length := by
  induction bytes with
  | nil => rfl
  | cons b bytes ih =>
    simp only [encode_cons, List.length_cons, ih]
    omega

theorem encode_digits (bytes : List UInt8) : ∀ c ∈ encode bytes, isDigit c = true := by
  induction bytes with
  | nil =>
    intro c hc
    cases hc
  | cons b bytes ih =>
    have hb := b.toNat_lt
    intro c hc
    rw [encode_cons] at hc
    rcases List.mem_cons.mp hc with rfl | hc
    · exact (digitChar_isDigit (by omega)).1
    · rcases List.mem_cons.mp hc with rfl | hc
      · exact (digitChar_isDigit (by omega)).1
      · exact ih c hc

theorem decode_encode (bytes : List UInt8) : decode (encode bytes) = bytes := by
  induction bytes with
  | nil => rfl
  | cons b bytes ih =>
    have hb := b.toNat_lt
    obtain ⟨hd, hv, _⟩ := digitChar_isDigit (n := b.toNat / 16) (by omega)
    obtain ⟨hd', hv', _⟩ := digitChar_isDigit (n := b.toNat % 16) (by omega)
    rw [encode_cons, decode, ih]
    congr 1
    rw [← UInt8.toNat_inj, join_toNat hd hd', hv, hv']
    omega

theorem asBytes_injective {s t : String} (h : asBytes s = asBytes t) : s = t := by
  simp only [asBytes, String.toUTF8_eq_toByteArray] at h
  apply String.toByteArray_inj.mp
  exact ByteArray.ext (Array.toList_inj.mp h)

theorem utf8EncodeChar_ascii {c : UInt8} (h : c < 128) :
    String.utf8EncodeChar (Char.ofUInt8 c) = [c] := by
  have hlt : c.toNat < 128 := h
  have hv : (Char.ofUInt8 c).val.toNat = c.toNat := UInt8.toNat_toUInt32 c
  have hle : c.toNat ≤ 127 := by omega
  simp only [String.utf8EncodeChar, hv, if_pos hle, UInt8.ofNat_toNat]

/-- Characters of one byte each are the bytes of their string. -/
theorem asBytes_ascii {bytes : List UInt8} (h : ∀ c ∈ bytes, c < 128) :
    asBytes (.ofList (bytes.map Char.ofUInt8)) = bytes := by
  rw [asBytes, String.toUTF8_eq_toByteArray, String.toByteArray_ofList, List.utf8Encode,
    List.toList_data_toByteArray]
  induction bytes with
  | nil => rfl
  | cons c bytes ih =>
    simp only [List.mem_cons, forall_eq_or_imp] at h
    rw [List.map_cons, List.flatMap_cons, utf8EncodeChar_ascii h.1, ih h.2]
    rfl

theorem ascii_eq {s : String} (h : ∀ c ∈ asBytes s, c < 128) :
    s = .ofList ((asBytes s).map Char.ofUInt8) :=
  asBytes_injective (asBytes_ascii h).symm

/-- Reading a string of digits and writing it out again puts it in lower case. -/
theorem render_decode {s : String} (he : (asBytes s).length % 2 = 0)
    (h : ∀ c ∈ asBytes s, isDigit c = true) : render (decode (asBytes s)) = s.toLower := by
  have hs := ascii_eq fun c hc => isDigit_ascii (h c hc)
  have hlower : s.toLower = s.map Char.toLower := rfl
  rw [render, digits_decode he h]
  apply String.toList_inj.mp
  rw [hlower]
  conv_rhs => rw [hs]
  simp

theorem asBytes_render (bytes : List UInt8) : asBytes (render bytes) = encode bytes := by
  have hall : (encode bytes).map Char.ofUInt8 = bytes.flatMap digits := by
    induction bytes with
    | nil => rfl
    | cons b bytes ih =>
      have hb := b.toNat_lt
      rw [encode_cons, List.map_cons, List.map_cons, (digitChar_isDigit (by omega)).2.2,
        (digitChar_isDigit (by omega)).2.2, ih]
      rfl
  rw [render, ← hall]
  exact asBytes_ascii fun c hc => isDigit_ascii (encode_digits bytes c hc)

/-- Different bytes print differently. -/
theorem render_injective : Function.Injective render := by
  intro xs ys h
  rw [← decode_encode xs, ← decode_encode ys, ← asBytes_render xs, ← asBytes_render ys, h]

end Hex
