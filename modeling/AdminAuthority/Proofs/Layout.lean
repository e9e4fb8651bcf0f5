import AdminAuthority.Model.Reference
import AdminAuthority.Proofs.Atomicity
import AdminAuthority.Proofs.Codec
import AdminAuthority.Spec.Programs

namespace AdminAuthority.Proofs
open Handover AuthorityCrate Lifecycle

section
variable [Lez] [AuthorityCrate] {α : Type u} {β : Type v}

/-- The window at the derived offset holds the admin field. -/
theorem layout_stored {l : Layout α β} {bytes : List UInt8} {s : Embedding α β}
    (h : bytes = l.bytes s) : stored bytes l.ADMIN_SLOT_OFFSET = .ok s.admin.seat := by
  subst h
  have hr := Window.read_append (l.before.encode s.before) (AdminSeat.bytes s.admin.seat)
    (l.after.encode s.after)
  rw [l.before.encode_length, AdminSeat.bytes_length] at hr
  refine stored_ok.mpr ⟨?_, hr⟩
  simp only [Layout.bytes, Layout.ADMIN_SLOT_OFFSET, List.length_append,
    Borsh.Fixed.encode_length, AdminSeat.bytes_length]
  omega

/-- Installing a seat there replaces the admin field and nothing else. -/
theorem layout_install {l : Layout α β} {a : AccountWithMetadata} {s : Embedding α β}
    (h : a.bytes = l.bytes s) {c : AdminConfig} {t : AdminSeat} (ht : c.seat = t) :
    (a.install l.ADMIN_SLOT_OFFSET t).bytes = l.bytes { s with admin := c } := by
  have hl : (AdminSeat.bytes t).length = (AdminSeat.bytes s.admin.seat).length := by simp
  have hs := Window.splice_append (l.before.encode s.before) _ (l.after.encode s.after) hl
  rw [l.before.encode_length] at hs
  rw [install_bytes (stored_ok.mp (layout_stored h)).1, h, Layout.bytes, Layout.bytes, ht]
  exact hs

theorem prog_config_bytes (c : ProgConfig) :
    EmbeddedSample.layout.bytes c.embedding =
      LittleEndian.encode 8 c.value.toNat ++ c.padding.toList ++ AdminSeat.bytes c.admin.seat := by
  simp only [Layout.bytes, EmbeddedSample.layout, ProgConfig.embedding, Borsh.Fixed.pair,
    Borsh.Codec.pair, Borsh.u64, Borsh.array, Borsh.unit, Borsh.Fixed.ofBytes, List.append_nil]

variable [LawfulAuthority]

theorem layout_to_vec (l : Layout α β) (s : Embedding α β) : l.toVec s = some (l.bytes s) := by
  rw [Layout.toVec, LawfulAuthority.toVec_eq]
  rfl

theorem slot_from_slice {bytes : List UInt8} {slot : Slot} :
    tryFromSlice bytes = some slot ↔ bytes = AdminSeat.bytes (seat slot) := by
  constructor
  · intro h
    by_cases hl : bytes.length = 64
    · obtain ⟨slot', hs, hb⟩ := LawfulAuthority.tryFromSlice_ok bytes hl
      obtain rfl := Option.some.inj (hs.symm.trans h)
      exact hb.symm
    · cases (LawfulAuthority.tryFromSlice_none bytes hl).symm.trans h
  · rintro rfl
    obtain ⟨slot', hs, hb⟩ := LawfulAuthority.tryFromSlice_ok (AdminSeat.bytes (seat slot))
      (AdminSeat.bytes_length _)
    rw [hs, LawfulAuthority.seat_injective _ _ (AdminSeat.bytes_injective hb)]

/-- A struct is read off its own bytes and off no others. -/
theorem layout_from_slice {l : Layout α β} {bytes : List UInt8} {s : Embedding α β} :
    l.tryFromSlice bytes = some s ↔ bytes = l.bytes s := by
  constructor
  · intro h
    unfold Layout.tryFromSlice at h
    split at h
    · cases h
    · rename_i before rest hbefore
      split at h
      · cases h
      · rename_i slot hslot
        split at h
        · cases h
        · rename_i after hafter
          obtain rfl := Option.some.inj h
          have hrest : rest = AdminSeat.bytes (seat slot) ++ l.after.encode after := by
            rw [← slot_from_slice.mp hslot, ← Borsh.Codec.tryFromSlice_eq_some.mp hafter,
              List.take_append_drop]
          rw [l.before.encode_decode bytes before rest hbefore, hrest, ← List.append_assoc]
          rfl
  · rintro rfl
    have hslot : (AdminSeat.bytes s.admin.seat).length = AdminConfig.SIZE :=
      AdminSeat.bytes_length _
    have htake : (AdminSeat.bytes s.admin.seat ++ l.after.encode s.after).take AdminConfig.SIZE =
        AdminSeat.bytes s.admin.seat := List.take_left' hslot
    have hdrop : (AdminSeat.bytes s.admin.seat ++ l.after.encode s.after).drop AdminConfig.SIZE =
        l.after.encode s.after := List.drop_left' hslot
    have hread : tryFromSlice (AdminSeat.bytes s.admin.seat) = some s.admin.slot :=
      slot_from_slice.mpr rfl
    have hafter : l.after.tryFromSlice (l.after.encode s.after) = some s.after :=
      Borsh.Codec.tryFromSlice_eq_some.mpr rfl
    rw [Layout.tryFromSlice, Layout.bytes, List.append_assoc, Borsh.Codec.decode_encode]
    simp only [htake, hdrop, hread, hafter]

theorem layout_from_account {l : Layout α β} {a : AccountWithMetadata} {s : Embedding α β} :
    l.fromAccount a = .ok s ↔ a.bytes = l.bytes s := by
  rw [← layout_from_slice, Layout.fromAccount]
  cases l.tryFromSlice a.bytes <;> simp

theorem layout_write_ok {l : Layout α β} {s : Embedding α β} {a b : AccountWithMetadata}
    (h : l.writeTo s a = (.ok (), b)) : b.bytes = l.bytes s := by
  rw [Layout.writeTo, layout_to_vec] at h
  simp only [] at h
  split at h
  · rename_i d hd
    simp only [Prod.mk.injEq, true_and] at h
    rw [← h]
    exact Data.tryFrom_eq_some.mp hd
  · cases h

theorem layout_write_fits {l : Layout α β} {s : Embedding α β} {a : AccountWithMetadata}
    (h : (l.bytes s).length ≤ Lez.dataMaxLength) :
    l.writeTo s a = (.ok (), a.withData ⟨l.bytes s, h⟩) := by
  rw [Layout.writeTo, layout_to_vec]
  simp only [Data.tryFrom, dif_pos h]

theorem layout_write_large {l : Layout α β} {s : Embedding α β} {a : AccountWithMetadata}
    (h : ¬(l.bytes s).length ≤ Lez.dataMaxLength) :
    l.writeTo s a = (.error (.serializationError "data too large"), a) := by
  rw [Layout.writeTo, layout_to_vec]
  simp only [Data.tryFrom, dif_neg h]

theorem layout_reads {l : Layout α β} {a : AccountWithMetadata} {s : Embedding α β}
    (h : a.bytes = l.bytes s) : AdminConfig.fromAccountAt a l.ADMIN_SLOT_OFFSET = .ok s.admin := by
  obtain ⟨c, hc, hseat⟩ := from_account_at_ok (layout_stored h)
  rw [hc, config_eq hseat]

theorem layout_performs (op : Operation) {l : Layout α β} {a : AccountWithMetadata}
    {s : Embedding α β} (h : a.bytes = l.bytes s) :
    (op.performAt a l.ADMIN_SLOT_OFFSET).1 = (op.change s.admin).1 ∧
      (op.performAt a l.ADMIN_SLOT_OFFSET).2.bytes =
        l.bytes { s with admin := (op.change s.admin).2 } := by
  rw [perform_at_step, step_stored (layout_stored h), change_result]
  cases ht : transition s.admin.seat op with
  | error e =>
    have hr : (op.change s.admin).1 = .error e := by
      rw [change_result, ht]
      rfl
    rw [change_refused hr]
    exact ⟨rfl, h⟩
  | ok t => exact ⟨rfl, layout_install h (change_seat ht)⟩

/-- The derived offset makes the slot window and the admin field one thing, for every
struct: whatever the windowed functions read, check or change there is that field, and
what the program writes back keeps it. -/
theorem management_updates_field (l : Layout α β) {config : AccountWithMetadata}
    {s : Embedding α β} (h : l.fromAccount config = .ok s) :
    (∀ op : Operation, (op.performAt config l.ADMIN_SLOT_OFFSET).1 = (op.change s.admin).1 ∧
      l.fromAccount (op.performAt config l.ADMIN_SLOT_OFFSET).2 =
        .ok { s with admin := (op.change s.admin).2 }) ∧
    (∀ signer, AdminConfig.gateAt config l.ADMIN_SLOT_OFFSET signer =
      s.admin.assertAdmin signer) ∧
    (∀ candidate newAccount start,
      AdminConfig.bootstrapAt config l.ADMIN_SLOT_OFFSET candidate newAccount = (.ok (), start) →
      ∃ c, AdminConfig.initializeAdmin newAccount.accountId = .ok c ∧
        l.fromAccount start = .ok { s with admin := c }) ∧
    (∀ t account start, l.writeTo t account = (.ok (), start) →
      AdminConfig.fromAccountAt start l.ADMIN_SLOT_OFFSET = .ok t.admin) := by
  have hb := layout_from_account.mp h
  refine ⟨?_, ?_, ?_, ?_⟩
  · intro op
    obtain ⟨hr, hl⟩ := layout_performs op hb
    exact ⟨hr, layout_from_account.mpr hl⟩
  · intro signer
    rw [AdminConfig.gateAt, layout_reads hb]
  · intro candidate newAccount start hstart
    obtain ⟨he, _, rfl⟩ := bootstrap_at_ok hstart
    obtain ⟨c, hc, hseat⟩ := initialize_admin_ok he.1
    exact ⟨c, hc, layout_from_account.mpr (layout_install hb hseat)⟩
  · intro t account start hw
    exact layout_reads (layout_write_ok hw)

/-- The embedded sample writes its struct as a layout does. -/
theorem prog_config_to_vec (c : ProgConfig) :
    c.toVec = EmbeddedSample.layout.toVec c.embedding := by
  rw [layout_to_vec, prog_config_bytes, ProgConfig.toVec, LawfulAuthority.toVec_eq]
  rfl

theorem prog_config_written {bytes : List UInt8} {c : ProgConfig}
    (h : ProgConfig.tryFromSlice bytes = some c) :
    bytes = EmbeddedSample.layout.bytes c.embedding := by
  unfold ProgConfig.tryFromSlice at h
  split at h
  · rename_i hl
    split at h
    · rename_i slot hslot
      obtain rfl := Option.some.inj h
      have hvalue : (bytes.take 8).length = 8 := by
        rw [List.length_take]
        omega
      have hsplit : bytes = bytes.take 8 ++ (bytes.drop 8).take 24 ++ bytes.drop 32 := by
        rw [List.append_assoc, show 32 = 8 + 24 from rfl, ← List.drop_drop,
          List.take_append_drop, List.take_append_drop]
      rw [prog_config_bytes]
      simp only [LittleEndian.encode_decode_uint64 hvalue, Vector.toList]
      rw [slot_from_slice.mp hslot] at hsplit
      exact hsplit
    · cases h
  · cases h

theorem prog_config_read (c : ProgConfig) :
    ProgConfig.tryFromSlice (EmbeddedSample.layout.bytes c.embedding) = some c := by
  rw [prog_config_bytes, ProgConfig.tryFromSlice, dif_pos (by simp)]
  have hvalue : (LittleEndian.encode 8 c.value.toNat ++ c.padding.toList ++
      AdminSeat.bytes c.admin.seat).take 8 = LittleEndian.encode 8 c.value.toNat := by
    rw [List.append_assoc]
    exact List.take_left' (by simp)
  have hpad : ((LittleEndian.encode 8 c.value.toNat ++ c.padding.toList ++
      AdminSeat.bytes c.admin.seat).drop 8).take 24 = c.padding.toList := by
    rw [List.append_assoc, List.drop_left' (by simp)]
    exact List.take_left' (by simp)
  have hslot : (LittleEndian.encode 8 c.value.toNat ++ c.padding.toList ++
      AdminSeat.bytes c.admin.seat).drop 32 = AdminSeat.bytes c.admin.seat :=
    List.drop_left' (by simp)
  have hread : tryFromSlice (AdminSeat.bytes c.admin.seat) = some c.admin.slot :=
    slot_from_slice.mpr rfl
  simp only [hvalue, hpad, hslot, hread, LittleEndian.decode_encode_uint64]
  rfl

/-- The embedded sample reads its struct as a layout does. -/
theorem prog_config_from_slice (bytes : List UInt8) :
    EmbeddedSample.layout.tryFromSlice bytes =
      (ProgConfig.tryFromSlice bytes).map ProgConfig.embedding := by
  cases hc : ProgConfig.tryFromSlice bytes with
  | some c => exact layout_from_slice.mpr (prog_config_written hc)
  | none =>
    cases hs : EmbeddedSample.layout.tryFromSlice bytes with
    | none => rfl
    | some s =>
      rw [layout_from_slice.mp hs] at hc
      cases (prog_config_read ⟨s.before.1, s.before.2, s.admin⟩).symm.trans hc

end

open Reference in
/-- A neighbouring value survives a transfer. -/
theorem management_updates_field_transfer :
    let s : Embedding (UInt64 × Vector UInt8 24) Unit :=
      ⟨(7, Vector.replicate 24 0xAB), ⟨(⟨id 1, default⟩ : AdminSeat)⟩, ()⟩
    let config := holding (EmbeddedSample.layout.bytes s)
    EmbeddedSample.layout.fromAccount
        (AdminConfig.performTransferAt config 32 (acct 1 true) .signer (acct 2 true)).2 =
      .ok { s with admin := ⟨(⟨id 2, default⟩ : AdminSeat)⟩ } := by
  intro s config
  have h : EmbeddedSample.layout.fromAccount config = .ok s := layout_from_account.mpr rfl
  exact ((management_updates_field _ h).1 (.transfer (acct 1 true) .signer (acct 2 true))).2

end AdminAuthority.Proofs
