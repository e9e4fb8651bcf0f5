import AdminAuthority.Proofs.Diagram
import AdminAuthority.Proofs.Submission

namespace AdminAuthority.Proofs
open Handover AuthorityCrate Lifecycle ExecutionCheck

section
variable [Lez] [AuthorityCrate] [LawfulAuthority]

theorem from_account_at_seat {a : AccountWithMetadata} {offset : Nat} {c : AdminConfig} :
    AdminConfig.fromAccountAt a offset = .ok c ↔ stored a.bytes offset = .ok c.seat := by
  constructor
  · intro hc
    cases hs : stored a.bytes offset with
    | error e => cases (from_account_at_error hs).symm.trans hc
    | ok s =>
      obtain ⟨d, hd, rfl⟩ := from_account_at_ok hs
      obtain rfl := Except.ok.inj (hd.symm.trans hc)
      rfl
  · intro hs
    obtain ⟨d, hd, hseat⟩ := from_account_at_ok hs
    rw [hd, config_eq hseat]

theorem from_owned_account_ok {a : AccountWithMetadata} {programId : ProgramId}
    {c : AdminConfig} : AdminConfig.fromOwnedAccount a programId = .ok c ↔
      a.account.programOwner = programId ∧ a.bytes = AdminSeat.bytes c.seat := by
  rw [eq_comm (a := a.bytes), ← decode_ok, AdminConfig.fromOwnedAccount]
  by_cases h : a.account.programOwner = programId
  · simp [h, AdminConfig.fromAccount]
  · simp [h]

theorem from_owned_account_at_ok {a : AccountWithMetadata} {offset : Nat}
    {programId : ProgramId} {c : AdminConfig} :
    AdminConfig.fromOwnedAccountAt a offset programId = .ok c ↔
      a.account.programOwner = programId ∧ stored a.bytes offset = .ok c.seat := by
  rw [← from_account_at_seat, AdminConfig.fromOwnedAccountAt]
  by_cases h : a.account.programOwner = programId
  · simp [h]
  · simp [h]

variable [Build] [ExecutionCheck]

/-- The library's own transactions leave every other account's data and owner alone. -/
theorem submit_other {w v : World} {c : ConfigCall} (hw : Sound w)
    (h : ChainStep w (.submit c) v) {id : AccountId} (hid : id ≠ configPda) :
    (v id).data = (w id).data ∧ (v id).programOwner = (w id).programOwner := by
  cases h with
  | @submit config c out tx hok hcheck =>
    obtain ⟨d, claim, hs⟩ := dispatch_success hw tx hok
    have hposts : List.Forall₂
        (fun a post => a.accountId ≠ configPda → post = .ofAccount a.account)
        (config :: c.accounts) out.postStates := by
      rw [hs.posts]
      refine .cons (fun hne => absurd tx.pda hne) ?_
      rw [List.forall₂_map_right_iff, List.forall₂_same]
      exact fun a _ _ => rfl
    rcases land_at hposts id with he | ⟨a, ha, post, hpost, rfl, he⟩
    · rw [he]
      exact ⟨rfl, rfl⟩
    · rw [he, applied_data, applied_owner, hpost hid, ← tx.onChain a ha]
      exact ⟨rfl, rfl⟩

omit [AuthorityCrate] [LawfulAuthority] [ExecutionCheck] in
/-- What the program owns besides its config is smaller than a slot. -/
def SmallOthers (w : World) : Prop :=
  ∀ id, id ≠ configPda → (w id).programOwner = Build.programId →
    (w id).data.bytes.length < AdminConfig.SIZE

/-- A step after which that is so, where anything happened elsewhere. -/
def SmallStep (w : World) (e : ChainEvent) (v : World) : Prop :=
  ChainStep w e v ∧ (e = .elsewhere → SmallOthers v)

theorem small_step {w v : World} {e : ChainEvent} (hw : Sound w) (hs : SmallOthers w)
    (h : SmallStep w e v) : Sound v ∧ SmallOthers v := by
  obtain ⟨hst, helse⟩ := h
  refine ⟨sound_step hw hst, ?_⟩
  cases e with
  | elsewhere => exact helse rfl
  | submit c =>
    intro id hid ho
    obtain ⟨hdata, howner⟩ := submit_other hw hst hid
    rw [hdata]
    exact hs id hid (howner.symm.trans ho)

omit [AuthorityCrate] [LawfulAuthority] [ExecutionCheck] in
/-- An account of the program's that a slot fits into is the config, and the slot fills it. -/
theorem owned_slot {v : World} (hw : Sound v) (hs : SmallOthers v) {a : AccountWithMetadata}
    (ha : a.account = v a.accountId) (ho : a.account.programOwner = Build.programId)
    (hl : AdminConfig.SIZE ≤ a.bytes.length) :
    a.accountId = configPda ∧ a.bytes.length = AdminConfig.SIZE := by
  have hbytes : a.bytes = (v a.accountId).data.bytes := by rw [AccountWithMetadata.bytes, ha]
  have hid : a.accountId = configPda := by
    by_contra hne
    rw [ha] at ho
    have hlt := hs _ hne ho
    rw [hbytes] at hl
    omega
  refine ⟨hid, ?_⟩
  rw [hbytes, hid] at hl ⊢
  rcases hw.config with he | ⟨_, hl'⟩
  · rw [he] at hl
    cases hl
  · exact hl'

omit [AuthorityCrate] [LawfulAuthority] [ExecutionCheck] in
theorem config_owned {v : World} (hw : Sound v) {s : AdminSeat} (h : v.seat = .ok s) :
    (v configPda).programOwner = Build.programId ∧
      (v configPda).data.bytes = AdminSeat.bytes s := by
  rcases hw.config with he | ⟨ho, hl⟩
  · rw [seat_uninitialized he] at h
    cases h
  · refine ⟨ho, ?_⟩
    have hall := Window.read_all (v configPda).data.bytes
    rw [hl, (stored_ok.mp h).2] at hall
    exact hall.symm

/-- The owner's check is as good as the address while the program owns no other account of
a slot's size: on every chain a reader that checks the owner reads the config of the
program and nothing else, wherever the account it is given stands. -/
theorem owned_reads_genuine {w v : World} (hw : Reachable w) (hs : SmallOthers w)
    (h : Paths.Path SmallStep (fun _ => True) w v) {a : AccountWithMetadata}
    (ha : a.account = v a.accountId) (c : AdminConfig) :
    (AdminConfig.fromOwnedAccount a Build.programId = .ok c ↔
      a.accountId = configPda ∧ v.seat = .ok c.seat) ∧
    ∀ offset, AdminConfig.fromOwnedAccountAt a offset Build.programId = .ok c ↔
      a.accountId = configPda ∧ offset = 0 ∧ v.seat = .ok c.seat := by
  have hall : Sound v ∧ SmallOthers v :=
    h.invariant (P := fun u => Sound u ∧ SmallOthers u)
      (fun _ _ _ hs _ hst => small_step hs.1 hs.2 hst) ⟨reachable_sound hw, hs⟩
  obtain ⟨hsound, hsmall⟩ := hall
  have hbytes : a.bytes = (v a.accountId).data.bytes := by rw [AccountWithMetadata.bytes, ha]
  rw [from_owned_account_ok]
  constructor
  · constructor
    · rintro ⟨ho, hb⟩
      have hl : AdminConfig.SIZE ≤ a.bytes.length := by
        rw [hb, AdminSeat.bytes_length]
        exact le_refl _
      obtain ⟨hid, _⟩ := owned_slot hsound hsmall ha ho hl
      refine ⟨hid, stored_exact ?_⟩
      rw [← hid, ← hbytes]
      exact hb
    · rintro ⟨hid, hseat⟩
      rw [hbytes, ha, hid]
      exact config_owned hsound hseat
  · intro offset
    rw [from_owned_account_at_ok]
    constructor
    · rintro ⟨ho, hst⟩
      have hf : offset + AdminConfig.SIZE ≤ a.bytes.length := (stored_ok.mp hst).1
      obtain ⟨hid, hl⟩ := owned_slot hsound hsmall ha ho (by omega)
      obtain rfl : offset = 0 := by omega
      refine ⟨hid, rfl, ?_⟩
      rw [World.seat, ← hid, ← hbytes]
      exact hst
    · rintro ⟨hid, rfl, hseat⟩
      refine ⟨by rw [ha, hid]; exact (config_owned hsound hseat).1, ?_⟩
      rw [hbytes, hid]
      exact hseat

end

open Reference in
/-- After the first transaction the admin is read off the config PDA and off no other account. -/
theorem owned_reads_genuine_initialized :
    let config : AdminConfig := ⟨(⟨id 1, default⟩ : AdminSeat)⟩
    ∃ v, ChainStep ledger (.submit (.adminInitialize (acct 1 true))) v ∧
      AdminConfig.fromOwnedAccount ⟨v configPda, false, configPda⟩ Build.programId = .ok config ∧
      ∀ other, other.account = v other.accountId → other.accountId ≠ configPda →
        AdminConfig.fromOwnedAccount other Build.programId ≠ .ok config := by
  intro config
  obtain ⟨v, hv, hseat⟩ := ledger_initializes
  have hsmall : SmallOthers ledger := by
    intro other _ ho
    exfalso
    revert ho
    unfold ledger
    split
    · decide
    · split <;> decide
  have hpath : Paths.Path SmallStep (fun _ => True) ledger v :=
    .single trivial ⟨hv, fun he => nomatch he⟩
  refine ⟨v, hv, ?_, ?_⟩
  · exact (owned_reads_genuine (.start rfl) hsmall hpath rfl config).1.mpr ⟨rfl, hseat⟩
  · intro other hother hne hread
    exact hne ((owned_reads_genuine (.start rfl) hsmall hpath hother config).1.mp hread).1

end AdminAuthority.Proofs
