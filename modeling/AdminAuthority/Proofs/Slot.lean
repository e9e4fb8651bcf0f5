import AdminAuthority.Spec.Lifecycle

namespace AdminAuthority.Proofs
open Handover AuthorityCrate Lifecycle

/-- The library's conversion reports every failed check under the lifecycle's name for it. -/
theorem of_authority_failure (e : AuthorityError) : AdminError.ofAuthority e = failure e := by
  cases e <;> rfl

variable [Lez] [AuthorityCrate]

theorem some_eq_pending (s : Slot) (id : AccountId) (h : pending s ≠ none) :
    some id = pending s ↔ id = (seat s).nominee := by
  obtain ⟨n, hn⟩ := Option.ne_none_iff_exists'.mp h
  simp [seat, hn]

variable [LawfulAuthority]

theorem pending_eq_none (s : Slot) : pending s = none ↔ (seat s).nominee = default := by
  have hd := LawfulAuthority.pending_ne_default s
  cases hp : pending s with
  | none => simp [seat, hp]
  | some id =>
    simp only [hp, ne_eq, Option.some.injEq] at hd
    simp [seat, hp, hd]

/-- The slot's own check is the documented check on a caller. -/
theorem assert_authorise (c : AdminConfig) (signer : AccountWithMetadata) :
    (assert c.slot signer).mapError .ofAuthority = authorise c.seat signer := by
  rw [LawfulAuthority.assert_eq, authorise]
  change _ = if holder c.slot = default then _ else _
  split
  · rfl
  · split
    · rfl
    · change _ = if signer.accountId ≠ holder c.slot then _ else _
      split <;> rfl

/-- Accepting runs the documented checks on a nominee. -/
theorem accept_authorise (c : AdminConfig) (nominee : AccountWithMetadata) :
    (c.accept nominee).1 = authoriseNominee c.seat nominee := by
  unfold AdminConfig.accept authoriseNominee
  have hr : (isRenounced c.slot = true) ↔ c.seat.holder = default :=
    LawfulAuthority.isRenounced_iff c.slot
  by_cases hs : c.seat.holder = default
  · simp [hr.mpr hs, hs]
  · rw [if_neg (fun h => hs (hr.mp h)), if_neg hs]
    have hn : pending c.slot = none ↔ c.seat.nominee = default := pending_eq_none c.slot
    simp only [LawfulAuthority.accept_result]
    by_cases hp : pending c.slot = none
    · rw [if_pos hp, if_pos (hn.mp hp)]
      rfl
    · rw [if_neg hp, if_neg (fun h => hp (hn.mpr h))]
      simp only [ne_eq, some_eq_pending c.slot nominee.accountId hp]
      split
      · rfl
      · change Except.mapError _ (if ¬nominee.accountId = c.seat.nominee then _ else _) = _
        split
        · rfl
        · split <;> rfl

end AdminAuthority.Proofs
