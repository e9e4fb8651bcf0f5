import AdminAuthority.Model.Genesis
import AdminAuthority.Proofs.Bootstrap

namespace AdminAuthority.Proofs
open Genesis Hex

/-- The strings that stand for a key: 64 hexadecimal digits, not all of them zero. -/
structure GenesisHex (hex : String) : Prop where
  length : (asBytes hex).length = 64
  digits : ∀ c ∈ asBytes hex, isDigit c = true
  nonzero : ¬∀ c ∈ asBytes hex, c = '0'.toUInt8

theorem sub_ok {a b : UInt8} (h : b ≤ a) : Genesis.sub a b = .ok (a - b) := if_pos h

theorem add_ok {a b : UInt8} (h : a.toNat + b.toNat < 256) : Genesis.add a b = .ok (a + b) :=
  if_pos h

/-- The value of a letter, counted from the `a` or `A` it starts at. -/
theorem letter_ok {c base : UInt8} (h : base ≤ c) (hc : c.toNat ≤ base.toNat + 5) :
    (do Genesis.add (← Genesis.sub c base) 10) = Except.ok (c - base + 10) := by
  rw [sub_ok h]
  apply add_ok
  rw [UInt8.toNat_sub_of_le c base h]
  change c.toNat - base.toNat + 10 < 256
  omega

/-- On a digit the checked arithmetic goes through. -/
theorem nibble_digit {c : UInt8} (h : isDigit c = true) : nibble c = .ok (value c) := by
  rcases isDigit_cases.mp h with (⟨h1, h2⟩ | ⟨h1, h2⟩) | ⟨h1, h2⟩
  · rw [nibble, if_pos ⟨h1, h2⟩, sub_ok h1, value, if_pos h2]
  · have h9 : ¬c ≤ '9'.toUInt8 := by
      have hlow : 97 ≤ c.toNat := h1
      change ¬c.toNat ≤ 57
      omega
    rw [nibble, if_neg (fun hd => h9 hd.2), if_pos ⟨h1, h2⟩, value, if_neg h9, if_pos h1]
    exact letter_ok h1 h2
  · have hhigh : c.toNat ≤ 70 := h2
    have h9 : ¬c ≤ '9'.toUInt8 := by
      have hlow : 65 ≤ c.toNat := h1
      change ¬c.toNat ≤ 57
      omega
    have ha : ¬('a'.toUInt8 ≤ c) := by
      change ¬97 ≤ c.toNat
      omega
    rw [nibble, if_neg (fun hd => h9 hd.2), if_neg (fun hd => ha hd.1), if_pos ⟨h1, h2⟩, value,
      if_neg h9, if_neg ha]
    exact letter_ok h1 h2

theorem nibble_refused {c : UInt8} (h : isDigit c = false) :
    nibble c = .error (.refused "SPEL_ADMIN_GENESIS must be hexadecimal") := by
  rw [← Bool.not_eq_true, isDigit_cases, not_or, not_or] at h
  obtain ⟨⟨h0, hl⟩, hu⟩ := h
  rw [nibble, if_neg h0, if_neg hl, if_neg hu]

theorem index_ok {bytes : List UInt8} {i : Nat} {c : UInt8} (h : bytes[i]? = some c) :
    index bytes i = .ok c := by
  rw [index, h]

theorem loop_pass_digits {bytes : List UInt8} {vars : LoopVars} {i : Nat} {high low : UInt8}
    (hi : bytes[2 * i]? = some high) (hl : bytes[2 * i + 1]? = some low)
    (hd : isDigit high = true) (hd' : isDigit low = true) :
    loopPass bytes vars i = .ok
      ⟨vars.key.setIfInBounds i (16 * value high + value low),
        vars.nonzero || 16 * value high + value low != 0⟩ := by
  simp only [loopPass, index_ok hi, index_ok hl, bind, Except.bind, nibble_digit hd,
    nibble_digit hd', join_eq (value_lt hd) (value_lt hd'), pure, Except.pure]

theorem loop_pass_refused {bytes : List UInt8} {vars : LoopVars} {i : Nat} {high low : UInt8}
    (hi : bytes[2 * i]? = some high) (hl : bytes[2 * i + 1]? = some low)
    (h : ¬(isDigit high = true ∧ isDigit low = true)) :
    loopPass bytes vars i = .error (.refused "SPEL_ADMIN_GENESIS must be hexadecimal") := by
  simp only [loopPass, index_ok hi, index_ok hl, bind, Except.bind]
  by_cases hd : isDigit high = true
  · have hd' : isDigit low = false := by
      rw [← Bool.not_eq_true]
      exact fun hd' => h ⟨hd, hd'⟩
    simp only [nibble_digit hd, nibble_refused hd']
  · rw [Bool.not_eq_true] at hd
    simp only [nibble_refused hd]

theorem loop_succ (bytes : List UInt8) (n : Nat) :
    loop bytes (n + 1) = (loop bytes n >>= fun vars => loopPass bytes vars n) := by
  rw [loop, List.range_succ, List.foldlM_append]
  simp only [loop, List.foldlM_cons, List.foldlM_nil, bind_pure]

/-- What the variables hold after `n` passes: the digits seen so far, read, and whether
one of the bytes they make is not zero. -/
structure Scanned (bytes : List UInt8) (n : Nat) (vars : LoopVars) : Prop where
  key : vars.key.toList = decode (bytes.take (2 * n)) ++ List.replicate (32 - n) 0
  nonzero : vars.nonzero = true ↔ ¬∀ b ∈ decode (bytes.take (2 * n)), b = 0

theorem take_pair {bytes : List UInt8} {n : Nat} {high low : UInt8}
    (hi : bytes[2 * n]? = some high) (hl : bytes[2 * n + 1]? = some low) :
    bytes.take (2 * (n + 1)) = bytes.take (2 * n) ++ [high, low] := by
  rw [Nat.mul_add, Nat.mul_one, List.take_add_one, List.take_add_one, hi, hl,
    List.append_assoc]
  rfl

theorem scanned_pass {bytes : List UInt8} {n : Nat} {vars : LoopVars} {high low : UInt8}
    (hn : n < 32) (h : Scanned bytes n vars)
    (hi : bytes[2 * n]? = some high) (hl : bytes[2 * n + 1]? = some low) :
    Scanned bytes (n + 1) ⟨vars.key.setIfInBounds n (16 * value high + value low),
      vars.nonzero || 16 * value high + value low != 0⟩ := by
  have hfit : 2 * n ≤ bytes.length := Nat.le_of_lt (List.getElem?_eq_some_iff.mp hi).1
  have he : (bytes.take (2 * n)).length % 2 = 0 := by
    rw [List.length_take, Nat.min_eq_left hfit]
    omega
  have hlen : (decode (bytes.take (2 * n))).length = n := by
    have := decode_length he
    rw [List.length_take, Nat.min_eq_left hfit] at this
    omega
  have hdec : decode (bytes.take (2 * (n + 1))) =
      decode (bytes.take (2 * n)) ++ [16 * value high + value low] := by
    rw [take_pair hi hl, decode_append he]
    rfl
  constructor
  · have hrest : List.replicate (32 - n) (0 : UInt8) = 0 :: List.replicate (32 - (n + 1)) 0 := by
      rw [← List.replicate_succ]
      congr 1
      omega
    rw [Vector.toList_setIfInBounds, h.key, hdec, hrest, List.set_append_right _ _ (by omega),
      hlen, Nat.sub_self, List.append_assoc]
    rfl
  · rw [hdec, Bool.or_eq_true, h.nonzero]
    simp only [bne_iff_ne, List.forall_mem_append, List.forall_mem_singleton, not_and_or, ne_eq]

/-- The loop reads digits, and stops at the first byte that is none. -/
theorem loop_scanned {bytes : List UInt8} (hlen : bytes.length = 64) {n : Nat} (hn : n ≤ 32) :
    ((∀ c ∈ bytes.take (2 * n), isDigit c = true) ∧
      ∃ vars, loop bytes n = .ok vars ∧ Scanned bytes n vars) ∨
    (¬∀ c ∈ bytes.take (2 * n), isDigit c = true) ∧
      loop bytes n = .error (.refused "SPEL_ADMIN_GENESIS must be hexadecimal") := by
  induction n with
  | zero =>
    left
    refine ⟨by simp, _, rfl, rfl, ?_⟩
    simp [decode]
  | succ n ih =>
    obtain ⟨high, hi⟩ : ∃ high, bytes[2 * n]? = some high :=
      ⟨_, List.getElem?_eq_getElem (by omega)⟩
    obtain ⟨low, hl⟩ : ∃ low, bytes[2 * n + 1]? = some low :=
      ⟨_, List.getElem?_eq_getElem (by omega)⟩
    rw [loop_succ, take_pair hi hl]
    simp only [List.forall_mem_append, List.forall_mem_cons]
    rcases ih (by omega) with ⟨hd, vars, hv, hs⟩ | ⟨hd, he⟩
    · rw [hv]
      by_cases hpair : isDigit high = true ∧ isDigit low = true
      · left
        refine ⟨⟨hd, hpair.1, hpair.2, by simp⟩, _, loop_pass_digits hi hl hpair.1 hpair.2, ?_⟩
        exact scanned_pass (by omega) hs hi hl
      · right
        exact ⟨fun h => hpair ⟨h.2.1, h.2.2.1⟩, loop_pass_refused hi hl hpair⟩
    · right
      rw [he]
      exact ⟨fun h => hd h.1, rfl⟩

theorem loop_digits {bytes : List UInt8} (hlen : bytes.length = 64)
    (hd : ∀ c ∈ bytes, isDigit c = true) :
    ∃ vars, loop bytes 32 = .ok vars ∧ vars.key.toList = decode bytes ∧
      (vars.nonzero = true ↔ ¬∀ c ∈ bytes, c = '0'.toUInt8) := by
  have htake : bytes.take (2 * 32) = bytes := List.take_of_length_le (by omega)
  rcases loop_scanned hlen (Nat.le_refl 32) with ⟨_, vars, hv, hs⟩ | ⟨hno, _⟩
  · have hkey := hs.key
    have hnonzero := hs.nonzero
    rw [htake] at hkey hnonzero
    refine ⟨vars, hv, hkey.trans (List.append_nil _), ?_⟩
    rw [hnonzero, decode_zeros (by omega) hd]
  · rw [htake] at hno
    exact absurd hd hno

theorem loop_refused {bytes : List UInt8} (hlen : bytes.length = 64)
    (hd : ¬∀ c ∈ bytes, isDigit c = true) :
    loop bytes 32 = .error (.refused "SPEL_ADMIN_GENESIS must be hexadecimal") := by
  have htake : bytes.take (2 * 32) = bytes := List.take_of_length_le (by omega)
  rcases loop_scanned hlen (Nat.le_refl 32) with ⟨hall, _⟩ | ⟨_, he⟩
  · rw [htake] at hall
    exact absurd hall hd
  · exact he

theorem genesis_from_hex_loop {hex : String} (h : (asBytes hex).length = 64) :
    genesisFromHex hex = (loop (asBytes hex) 32 >>= fun vars =>
      if vars.nonzero then return vars.key
      else throw (.refused "SPEL_ADMIN_GENESIS must not be all zeros")) := by
  simp [genesisFromHex, h]

/-- A string of the grammar is read as the bytes it writes out. -/
theorem genesis_from_hex_reads {hex : String} (h : GenesisHex hex) :
    ∃ key, genesisFromHex hex = .ok key ∧ key.toList = decode (asBytes hex) := by
  obtain ⟨vars, hv, hkey, hnonzero⟩ := loop_digits h.length h.digits
  refine ⟨vars.key, ?_, hkey⟩
  rw [genesis_from_hex_loop h.length, hv]
  exact if_pos (hnonzero.mpr h.nonzero)

/-- Every other string is refused in the parser's own words. -/
theorem genesis_from_hex_refuses {hex : String} (h : ¬GenesisHex hex) :
    ∃ message, genesisFromHex hex = .error (.refused message) := by
  by_cases hlen : (asBytes hex).length = 64
  · rw [genesis_from_hex_loop hlen]
    by_cases hd : ∀ c ∈ asBytes hex, isDigit c = true
    · obtain ⟨vars, hv, _, hnonzero⟩ := loop_digits hlen hd
      have hzero : ¬vars.nonzero = true := by
        rw [hnonzero]
        exact fun hno => h ⟨hlen, hd, hno⟩
      rw [hv]
      exact ⟨_, if_neg hzero⟩
    · rw [loop_refused hlen hd]
      exact ⟨_, rfl⟩
  · have hne : (asBytes hex).length ≠ 64 := hlen
    refine ⟨"SPEL_ADMIN_GENESIS must be 64 hexadecimal characters", ?_⟩
    simp only [genesisFromHex, if_pos hne]
    rfl

theorem genesis_from_hex_ok {hex : String} {key : Vector UInt8 32} :
    genesisFromHex hex = .ok key ↔ GenesisHex hex ∧ key.toList = decode (asBytes hex) := by
  constructor
  · intro h
    by_cases hg : GenesisHex hex
    · obtain ⟨key', hk, hbytes⟩ := genesis_from_hex_reads hg
      obtain rfl := Except.ok.inj (hk.symm.trans h)
      exact ⟨hg, hbytes⟩
    · obtain ⟨message, hm⟩ := genesis_from_hex_refuses hg
      cases hm.symm.trans h
  · intro h
    obtain ⟨hg, hbytes⟩ := h
    obtain ⟨key', hk, hbytes'⟩ := genesis_from_hex_reads hg
    rw [hk, Vector.toList_inj.mp (hbytes'.trans hbytes.symm)]

/-- The id without a key is the one of 32 zeros. -/
theorem key_eq_default {key : Vector UInt8 32} :
    (⟨key⟩ : AccountId) = default ↔ ∀ b ∈ key.toList, b = 0 := by
  rw [← AccountId.bytes_inj]
  change key.toList = (Vector.replicate 32 (0 : UInt8)).toList ↔ _
  rw [Vector.toList_replicate, List.eq_replicate_iff, Vector.length_toList]
  simp

/-- The digits of a key are a string of the grammar, unless the key is all zeros. -/
theorem render_genesis {key : Vector UInt8 32} (h : (⟨key⟩ : AccountId) ≠ default) :
    GenesisHex (render key.toList) := by
  have hlen : (asBytes (render key.toList)).length = 64 := by
    rw [asBytes_render, encode_length, Vector.length_toList]
  have hd : ∀ c ∈ asBytes (render key.toList), isDigit c = true := by
    rw [asBytes_render]
    exact encode_digits key.toList
  refine ⟨hlen, hd, ?_⟩
  rw [← decode_zeros (by omega) hd, asBytes_render, decode_encode, ← key_eq_default]
  exact h

/-- A parsed key is not zero and prints as the string it came from, in lower case. -/
theorem genesis_from_hex_renders {hex : String} {key : Vector UInt8 32}
    (h : genesisFromHex hex = .ok key) :
    (⟨key⟩ : AccountId) ≠ default ∧ render key.toList = hex.toLower := by
  obtain ⟨hg, hbytes⟩ := genesis_from_hex_ok.mp h
  have heven : (asBytes hex).length % 2 = 0 := by
    rw [hg.length]
  rw [Ne, key_eq_default, hbytes, decode_zeros heven hg.digits]
  exact ⟨hg.nonzero, render_decode heven hg.digits⟩

/-- The parser of the genesis key accepts exactly its grammar, and prints back. -/
theorem genesis_key_grammar :
    (∀ hex, (∃ key, genesisFromHex hex = .ok key) ↔ GenesisHex hex) ∧
    (∀ hex, ¬GenesisHex hex → ∃ message, genesisFromHex hex = .error (.refused message)) ∧
    (∀ hex key, genesisFromHex hex = .ok key →
      (⟨key⟩ : AccountId) ≠ default ∧ render key.toList = hex.toLower) ∧
    (∀ key : Vector UInt8 32, (⟨key⟩ : AccountId) ≠ default →
      genesisFromHex (render key.toList) = .ok key) ∧
    (∀ hex hex' key, genesisFromHex hex = .ok key → genesisFromHex hex' = .ok key →
      hex.toLower = hex'.toLower) ∧
    ∀ c, (∃ n, nibble c = .ok n ∧ (n <<< 4).toNat = 16 * n.toNat) ∨
      ∃ message, nibble c = .error (.refused message) := by
  refine ⟨?_, ?_, ?_, ?_, ?_, ?_⟩
  · intro hex
    constructor
    · intro h
      obtain ⟨key, hk⟩ := h
      exact (genesis_from_hex_ok.mp hk).1
    · intro hg
      obtain ⟨key, hk, _⟩ := genesis_from_hex_reads hg
      exact ⟨key, hk⟩
  · intro hex hg
    exact genesis_from_hex_refuses hg
  · intro hex key hk
    exact genesis_from_hex_renders hk
  · intro key hne
    apply genesis_from_hex_ok.mpr
    refine ⟨render_genesis hne, ?_⟩
    rw [asBytes_render, decode_encode]
  · intro hex hex' key hk hk'
    rw [← (genesis_from_hex_renders hk).2, ← (genesis_from_hex_renders hk').2]
  · intro c
    by_cases hd : isDigit c = true
    · exact .inl ⟨value c, nibble_digit hd, shift_toNat (value_lt hd)⟩
    · rw [Bool.not_eq_true] at hd
      exact .inr ⟨_, nibble_refused hd⟩

example : genesisFromHex ("0102030405060708090a0b0c0d0e0f10" ++
    "1112131415161718191A1B1C1D1E1F20") = .ok #v[1, 2, 3, 4, 5, 6, 7, 8, 9, 10, 11, 12, 13, 14,
      15, 16, 17, 18, 19, 20, 21, 22, 23, 24, 25, 26, 27, 28, 29, 30, 31, 32] := by
  decide +kernel

end AdminAuthority.Proofs
