import AdminAuthority.Model.Calls
import AdminAuthority.Model.Reference
import AdminAuthority.Proofs.Codec

namespace AdminAuthority.Proofs
open Handover AuthorityCrate Lifecycle

theorem stored_empty {bytes : List UInt8} (h : bytes.length = 0) (offset : Nat) :
    stored bytes offset = .error .notInitialized := by
  simp [stored, List.length_eq_zero_iff.mp h]

theorem stored_ne_decoding_failed (bytes : List UInt8) (offset : Nat) :
    stored bytes offset ≠ .error .decodingFailed := by
  unfold stored
  split
  · simp
  · split <;> simp

section
variable [Lez]

theorem authorise_ne_decoding_failed (s : AdminSeat) (signer : AccountWithMetadata) :
    authorise s signer ≠ .error .decodingFailed := by
  unfold authorise
  split
  · simp
  · split
    · simp
    · split <;> simp

variable [AuthorityCrate]

theorem from_account_empty {a : AccountWithMetadata} (h : a.bytes.length = 0) :
    AdminConfig.fromAccount a = .error .notInitialized := by
  rw [AdminConfig.fromAccount, List.length_eq_zero_iff.mp h]
  exact decode_empty

variable [LawfulAuthority]

/-- A dedicated config of the exact length decodes to what its window holds. -/
theorem from_account_exact {a : AccountWithMetadata} (h : a.bytes.length = 64) :
    ∃ c, AdminConfig.fromAccount a = .ok c ∧ stored a.bytes 0 = .ok c.seat := by
  obtain ⟨c, hc, hb⟩ := decode_exact h
  exact ⟨c, hc, stored_exact hb.symm⟩

theorem from_account_malformed {a : AccountWithMetadata} (h0 : a.bytes.length ≠ 0)
    (h : a.bytes.length ≠ 64) : AdminConfig.fromAccount a = .error .decodingFailed := by
  apply decode_malformed _ h
  intro he
  exact h0 (by simp [he])

/-- Overwriting a dedicated config is the splice at offset 0. -/
theorem write_to_exact (c : AdminConfig) {a : AccountWithMetadata} (h : a.bytes.length = 64) :
    c.writeTo a = (.ok (), a.install 0 c.seat) := by
  have hs : Window.splice a.account.data.bytes 0 c.seat.bytes = c.seat.bytes :=
    Window.splice_all (by simp [h])
  have ht : Data.tryFrom (Window.splice a.account.data.bytes 0 c.seat.bytes) =
      some (a.account.data.splice 0 c.seat.bytes) := tryFrom_splice (by simp [h])
  rw [hs] at ht
  simp only [AdminConfig.writeTo, encode_seat, ht]
  rfl

theorem perform_renounce_exact {a current : AccountWithMetadata} (h : a.bytes.length = 64) :
    AdminConfig.performRenounce a current = AdminConfig.performRenounceAt a 0 current := by
  obtain ⟨c, hc, hs⟩ := from_account_exact h
  obtain ⟨d, hd, hds⟩ := from_account_at_ok hs
  have hcd : c = d := config_eq hds.symm
  subst hcd
  simp only [AdminConfig.performRenounce, AdminConfig.performRenounceAt, AdminConfig.performAt,
    hc, hd]
  cases hr : c.renounce current with
  | mk result next =>
    cases result with
    | error e => rfl
    | ok u => exact (write_to_exact next h).trans (write_to_at_fits next (by omega)).symm

/-- In dedicated mode every operation is its windowed form at offset 0. -/
theorem perform_exact (op : Operation) {a : AccountWithMetadata} (h : a.bytes.length = 64) :
    op.perform a = op.performAt a 0 := by
  cases op with
  | transfer current candidate newAccount => rfl
  | nominate current newAdmin => rfl
  | accept nominee => rfl
  | renounce current => exact perform_renounce_exact h

/-- The windowed renounce never reports malformed data, only data that is too short. -/
theorem renounce_ne_decoding_failed (a : AccountWithMetadata) (offset : Nat)
    (current : AccountWithMetadata) :
    (AdminConfig.performRenounceAt a offset current).1 ≠ .error .decodingFailed := by
  have hp := perform_at_step (.renounce current) a offset
  change AdminConfig.performRenounceAt a offset current = _ at hp
  rw [hp]
  cases hs : stored a.bytes offset with
  | error e =>
    rw [step_refused hs]
    intro he
    exact stored_ne_decoding_failed a.bytes offset (hs.trans (by simpa using he))
  | ok s =>
    simp only [step_stored hs, transition, bind, Except.bind, pure, Except.pure]
    cases ha : authorise s current with
    | error e =>
      intro he
      exact authorise_ne_decoding_failed s current (ha.trans (by simpa using he))
    | ok u => simp

/-- The operations agree with their windowed forms at offset 0, except that the
dedicated renounce refuses data of any length but the slot's own. -/
theorem perform_eq_perform_at_zero_iff (op : Operation) (a : AccountWithMetadata) :
    op.perform a = op.performAt a 0 ↔
      (∀ current, op ≠ .renounce current) ∨ a.bytes.length = 0 ∨ a.bytes.length = 64 := by
  constructor
  · intro h
    cases op with
    | transfer current candidate newAccount => exact .inl (by simp)
    | nominate current newAdmin => exact .inl (by simp)
    | accept nominee => exact .inl (by simp)
    | renounce current =>
      refine .inr (Decidable.byContradiction fun hl => ?_)
      simp only [not_or] at hl
      have hp : (AdminConfig.performRenounce a current).1 = .error .decodingFailed := by
        rw [AdminConfig.performRenounce, from_account_malformed hl.1 hl.2]
      apply renounce_ne_decoding_failed a 0 current
      exact (congrArg Prod.fst h).symm.trans hp
  · rintro (hop | h0 | h64)
    · cases op with
      | transfer current candidate newAccount => rfl
      | nominate current newAdmin => rfl
      | accept nominee => rfl
      | renounce current => exact absurd rfl (hop current)
    · cases op with
      | transfer current candidate newAccount => rfl
      | nominate current newAdmin => rfl
      | accept nominee => rfl
      | renounce current =>
        change AdminConfig.performRenounce a current = AdminConfig.performRenounceAt a 0 current
        rw [AdminConfig.performRenounce, from_account_empty h0, AdminConfig.performRenounceAt,
          AdminConfig.performAt, from_account_at_error (stored_empty h0 0)]
    · exact perform_exact op h64

end

open Reference in
/-- Sixteen consumer bytes behind the slot are enough for the two to disagree. -/
theorem perform_renounce_diverges :
    let config := holding (AdminSeat.bytes ⟨id 1, default⟩ ++ List.replicate 16 0xAA)
    (AdminConfig.performRenounce config (acct 1 true)).1 = .error .decodingFailed ∧
      (AdminConfig.performRenounceAt config 0 (acct 1 true)).1 = .ok () ∧
      AdminConfig.performRenounce config (acct 1 true) ≠
        AdminConfig.performRenounceAt config 0 (acct 1 true) := by
  refine ⟨rfl, rfl, ?_⟩
  intro h
  have hr : (Except.error .decodingFailed : Except AdminError Unit) = .ok () :=
    congrArg Prod.fst h
  cases hr

open Reference in
theorem perform_eq_perform_at_zero_dedicated :
    (Operation.renounce (acct 1 true)).perform (dedicated ⟨id 1, default⟩) =
      (Operation.renounce (acct 1 true)).performAt (dedicated ⟨id 1, default⟩) 0 :=
  (perform_eq_perform_at_zero_iff (.renounce (acct 1 true)) _).mpr (.inr (.inr rfl))

end AdminAuthority.Proofs
