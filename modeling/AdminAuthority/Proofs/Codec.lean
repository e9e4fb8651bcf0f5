import AdminAuthority.Model.Reference
import AdminAuthority.Proofs.Bootstrap

namespace AdminAuthority.Proofs
open Handover AuthorityCrate Lifecycle AdminConfig

section
variable [Lez] [AuthorityCrate]

theorem decode_empty : decode ([] : List UInt8) = .error .notInitialized := rfl

variable [LawfulAuthority]

/-- A config is the admin and the nominee it stands for. -/
theorem config_eq {c d : AdminConfig} (h : c.seat = d.seat) : c = d := by
  cases c
  cases d
  exact congrArg AdminConfig.mk (LawfulAuthority.seat_injective _ _ h)

theorem encode_seat (c : AdminConfig) : c.encode = .ok (AdminSeat.bytes c.seat) := by
  rw [AdminConfig.encode, LawfulAuthority.toVec_eq]
  rfl

theorem decode_malformed {data : List UInt8} (hne : data ≠ []) (h : data.length ≠ SIZE) :
    decode data = .error .decodingFailed := by
  rw [AdminConfig.decode, if_neg (by simpa using hne), LawfulAuthority.tryFromSlice_none data h]

theorem decode_exact {data : List UInt8} (h : data.length = SIZE) :
    ∃ c, decode data = .ok c ∧ AdminSeat.bytes c.seat = data := by
  obtain ⟨slot, hs, hb⟩ := LawfulAuthority.tryFromSlice_ok data h
  have hne : data ≠ [] := by
    rintro rfl
    cases h
  exact ⟨⟨slot⟩, by rw [AdminConfig.decode, if_neg (by simpa using hne), hs], hb⟩

/-- Only data of the declared size decodes, and to the config it encodes. -/
theorem decode_ok {data : List UInt8} {c : AdminConfig} :
    decode data = .ok c ↔ AdminSeat.bytes c.seat = data := by
  constructor
  · intro h
    by_cases hl : data.length = SIZE
    · obtain ⟨d, hd, hb⟩ := decode_exact hl
      rw [hd] at h
      cases h
      exact hb
    · rcases List.eq_nil_or_concat' data with rfl | ⟨xs, x, rfl⟩
      · cases decode_empty.symm.trans h
      · cases (decode_malformed (by simp) hl).symm.trans h
  · rintro rfl
    obtain ⟨d, hd, hb⟩ := decode_exact (AdminSeat.bytes_length c.seat)
    rw [hd, config_eq (AdminSeat.bytes_injective hb)]

theorem decode_succeeds {data : List UInt8} : (∃ c, decode data = .ok c) ↔ data.length = SIZE := by
  constructor
  · intro h
    obtain ⟨c, hc⟩ := h
    rw [← decode_ok.mp hc, AdminSeat.bytes_length]
    rfl
  · intro hl
    obtain ⟨c, hc, _⟩ := decode_exact hl
    exact ⟨c, hc⟩

theorem decode_not_initialized {data : List UInt8} :
    decode data = .error .notInitialized ↔ data = [] := by
  constructor
  · intro h
    by_contra hne
    by_cases hl : data.length = SIZE
    · obtain ⟨c, hc, _⟩ := decode_exact hl
      cases hc.symm.trans h
    · cases (decode_malformed hne hl).symm.trans h
  · rintro rfl
    exact decode_empty

theorem decode_failed {data : List UInt8} :
    decode data = .error .decodingFailed ↔ data ≠ [] ∧ data.length ≠ SIZE := by
  constructor
  · intro h
    constructor
    · rintro rfl
      cases decode_empty.symm.trans h
    · intro hl
      obtain ⟨c, hc, _⟩ := decode_exact hl
      cases hc.symm.trans h
  · intro h
    obtain ⟨hne, hl⟩ := h
    exact decode_malformed hne hl

theorem decode_at_short {data : List UInt8} {offset : Nat} (hne : data ≠ [])
    (h : data.length < offset + SIZE) : decodeAt data offset = .error .slotOutOfBounds := by
  rw [AdminConfig.decodeAt, if_neg (by simpa using hne), LawfulAuthority.readAt_short _ _ h]
  rfl

/-- The windowed codec reads what the whole-data codec makes of the window. -/
theorem decode_at_window {data : List UInt8} {offset : Nat} (h : offset + SIZE ≤ data.length) :
    decodeAt data offset = decode (Window.read data offset SIZE) := by
  obtain ⟨slot, hs, hb⟩ := LawfulAuthority.readAt_ok data offset h
  have hne : data ≠ [] := by
    rintro rfl
    simp [SIZE] at h
  have hd : decode (Window.read data offset SIZE) = .ok ⟨slot⟩ := decode_ok.mpr hb
  rw [hd, AdminConfig.decodeAt, if_neg (by simpa using hne), hs]

theorem write_to_at_ok {c : AdminConfig} {a b : AccountWithMetadata} {offset : Nat}
    (h : c.writeToAt a offset = (.ok (), b)) :
    offset + SIZE ≤ a.bytes.length ∧ b = a.install offset c.seat := by
  by_cases hf : offset + SIZE ≤ a.bytes.length
  · rw [write_to_at_fits c hf] at h
    exact ⟨hf, (congrArg Prod.snd h).symm⟩
  · rw [write_to_at_short c (Nat.lt_of_not_le hf)] at h
    cases h

theorem write_to_ok {c : AdminConfig} {a b : AccountWithMetadata}
    (h : c.writeTo a = (.ok (), b)) : b.bytes = AdminSeat.bytes c.seat := by
  simp only [AdminConfig.writeTo, encode_seat] at h
  split at h
  · rename_i d hd
    obtain rfl := congrArg Prod.snd h
    exact Data.tryFrom_eq_some.mp hd
  · cases h

theorem write_to_at_succeeds {c : AdminConfig} {a : AccountWithMetadata} {offset : Nat} :
    (∃ b, c.writeToAt a offset = (.ok (), b)) ↔ offset + SIZE ≤ a.bytes.length := by
  constructor
  · intro h
    obtain ⟨b, hb⟩ := h
    exact (write_to_at_ok hb).1
  · intro hf
    exact ⟨_, write_to_at_fits c hf⟩

/-- The whole-data write does not look at the account: it fails only where no account
can hold a config. -/
theorem write_to_succeeds {c : AdminConfig} {a : AccountWithMetadata} :
    (∃ b, c.writeTo a = (.ok (), b)) ↔ SIZE ≤ Lez.dataMaxLength := by
  have hl : (AdminSeat.bytes c.seat).length = SIZE := AdminSeat.bytes_length c.seat
  constructor
  · intro h
    obtain ⟨b, hb⟩ := h
    rw [← hl, ← write_to_ok hb]
    exact b.account.data.within
  · intro hfit
    rw [← hl] at hfit
    have ht : Data.tryFrom (AdminSeat.bytes c.seat) = some ⟨_, hfit⟩ :=
      Data.tryFrom_eq_some.mpr rfl
    exact ⟨a.withData ⟨_, hfit⟩, by simp only [AdminConfig.writeTo, encode_seat, ht]⟩

/-- A config that fills its account is what both readers find there. -/
theorem write_to_reads {c : AdminConfig} {a b : AccountWithMetadata}
    (h : c.writeTo a = (.ok (), b)) : fromAccount b = .ok c ∧ fromAccountAt b 0 = .ok c := by
  have hb := write_to_ok h
  have hl : b.bytes.length = SIZE := by rw [hb, AdminSeat.bytes_length]; rfl
  have hd : decode b.bytes = .ok c := decode_ok.mpr hb.symm
  refine ⟨hd, ?_⟩
  rw [fromAccountAt, decode_at_window (by omega), ← hl, Window.read_all]
  exact hd

/-- The whole-data codec, the windowed one and the declared size describe one format. -/
theorem codecs_agree :
    (∀ c : AdminConfig, ∃ bytes, c.encode = .ok bytes ∧ bytes.length = SIZE ∧
      decode bytes = .ok c) ∧
    (∀ data : List UInt8,
      ((∃ c, decode data = .ok c) ↔ data.length = SIZE) ∧
      (decode data = .error .notInitialized ↔ data = []) ∧
      (decode data = .error .decodingFailed ↔ data ≠ [] ∧ data.length ≠ SIZE) ∧
      ∀ c, decode data = .ok c → c.encode = .ok data) ∧
    (∀ (data : List UInt8) (offset : Nat), decodeAt data offset =
      if data = [] then .error .notInitialized
      else if data.length < offset + SIZE then .error .slotOutOfBounds
      else decode (Window.read data offset SIZE)) ∧
    (∀ (c : AdminConfig) (a : AccountWithMetadata) (offset : Nat),
      ((∃ b, c.writeToAt a offset = (.ok (), b)) ↔ offset + SIZE ≤ a.bytes.length) ∧
      ∀ b, c.writeToAt a offset = (.ok (), b) →
        fromAccountAt b offset = .ok c ∧ c.encode = .ok (Window.read b.bytes offset SIZE)) ∧
    (∀ (c : AdminConfig) (a : AccountWithMetadata),
      ((∃ b, c.writeTo a = (.ok (), b)) ↔ SIZE ≤ Lez.dataMaxLength) ∧
      ∀ b, c.writeTo a = (.ok (), b) → fromAccount b = .ok c ∧ fromAccountAt b 0 = .ok c) := by
  refine ⟨?_, ?_, ?_, ?_, ?_⟩
  · intro c
    exact ⟨_, encode_seat c, AdminSeat.bytes_length _, decode_ok.mpr rfl⟩
  · intro data
    refine ⟨decode_succeeds, decode_not_initialized, decode_failed, ?_⟩
    intro c hc
    rw [encode_seat, decode_ok.mp hc]
  · intro data offset
    split
    · rename_i he
      subst he
      rfl
    · split
      · rename_i hne hs
        exact decode_at_short hne hs
      · rename_i hf
        exact decode_at_window (Nat.le_of_not_lt hf)
  · intro c a offset
    refine ⟨write_to_at_succeeds, ?_⟩
    intro b h
    obtain ⟨hf, rfl⟩ := write_to_at_ok h
    obtain ⟨hfit, hr⟩ := stored_ok.mp (stored_install c.seat hf)
    refine ⟨?_, ?_⟩
    · rw [fromAccountAt, decode_at_window hfit]
      exact decode_ok.mpr hr.symm
    · rw [encode_seat]
      exact congrArg Except.ok hr.symm
  · intro c a
    refine ⟨write_to_succeeds, ?_⟩
    intro b h
    exact write_to_reads h

end

open Reference in
/-- A config written between two neighbours reads back from where it was written, and one
written over all of the data from the front. -/
theorem codecs_agree_embedded :
    let c : AdminConfig := ⟨(⟨id 3, id 4⟩ : AdminSeat)⟩
    let a := embedded ⟨id 1, default⟩
    ((c.writeToAt a 8).1 = .ok () ∧ fromAccountAt (c.writeToAt a 8).2 8 = .ok c) ∧
    (c.writeTo a).1 = .ok () ∧ fromAccount (c.writeTo a).2 = .ok c ∧
      fromAccountAt (c.writeTo a).2 0 = .ok c := by
  intro c a
  obtain ⟨_, _, _, hwindow, hwhole⟩ := codecs_agree
  obtain ⟨hfits, hat⟩ := hwindow c a 8
  obtain ⟨b, hb⟩ := hfits.mpr (by decide)
  obtain ⟨hsize, hto⟩ := hwhole c a
  obtain ⟨b', hb'⟩ := hsize.mpr (by decide)
  rw [hb, hb']
  exact ⟨⟨rfl, (hat b hb).1⟩, rfl, hto b' hb'⟩

end AdminAuthority.Proofs
