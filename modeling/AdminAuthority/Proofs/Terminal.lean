import AdminAuthority.Model.Calls
import AdminAuthority.Model.Reference
import AdminAuthority.Proofs.Dedicated

namespace AdminAuthority.Proofs
open Handover AuthorityCrate Lifecycle CallMachine

theorem default_id_bytes : (default : AccountId).bytes = List.replicate 32 0 := rfl

/-- A window whose first half is zero holds no admin, whatever its second half says. -/
theorem stored_zero_admin {bytes : List UInt8} {offset : Nat} (hf : offset + 64 ≤ bytes.length)
    (hz : Window.read bytes offset 32 = List.replicate 32 0) :
    ∃ s : AdminSeat, stored bytes offset = .ok s ∧ s.holder = default := by
  have hs := (stored_ok (s := .readAt bytes offset hf)).mpr
    ⟨hf, (AdminSeat.bytes_readAt _ _ _).symm⟩
  refine ⟨_, hs, AccountId.bytes_injective ?_⟩
  rw [default_id_bytes, ← hz]
  simp [AdminSeat.readAt, AdminSeat.ofBytes, Window.read, List.take_take]

section
variable [Lez]

theorem authorise_vacant {s : AdminSeat} (h : s.holder = default) (signer : AccountWithMetadata) :
    authorise s signer = .error .renounced := if_pos h

variable [AuthorityCrate]

/-- Every operation meets the renounced check before any other. -/
theorem transition_vacant {s : AdminSeat} (h : s.holder = default) (op : Operation) :
    transition s op = .error .renounced := by
  have ha : authoriseNominee s (signer op) = .error .renounced := if_pos h
  cases op with
  | transfer current candidate newAccount =>
    simp [transition, authorise_vacant h, bind, Except.bind]
  | nominate current newAdmin => simp [transition, authorise_vacant h, bind, Except.bind]
  | accept nominee =>
    simp only [signer] at ha
    simp [transition, ha, bind, Except.bind]
  | renounce current => simp [transition, authorise_vacant h, bind, Except.bind]

variable [LawfulAuthority]

theorem perform_at_vacant {a : AccountWithMetadata} {offset : Nat} {s : AdminSeat}
    (hs : stored a.bytes offset = .ok s) (h : s.holder = default) (op : Operation) :
    op.performAt a offset = (.error .renounced, a) := by
  rw [perform_at_step]
  simp [step_stored hs, transition_vacant h]

theorem run_vacant {a : AccountWithMetadata} {offset : Nat} {s : AdminSeat}
    (hs : stored a.bytes offset = .ok s) (h : s.holder = default) (ops : List Operation) :
    (managedAt offset).run a ops = a ∧
      (managedAt offset).results a ops = List.replicate ops.length (.error .renounced) := by
  induction ops with
  | nil => exact ⟨rfl, rfl⟩
  | cons op ops ih =>
    have hp : (managedAt offset).call a op = (.error .renounced, a) := perform_at_vacant hs h op
    constructor
    · rw [run_cons, hp]
      exact ih.1
    · rw [results, hp, ih.2]
      rfl

theorem assert_admin_vacant {c : AdminConfig} (h : c.seat.holder = default)
    (signer : AccountWithMetadata) : c.assertAdmin signer = .error .renounced := by
  rw [AdminConfig.assertAdmin, assert_authorise, authorise_vacant h]

/-- A renounce that succeeds leaves neither an admin nor a nominee. -/
theorem renounce_at_clears {a current : AccountWithMetadata} {offset : Nat}
    (h : (AdminConfig.performRenounceAt a offset current).1 = .ok ()) :
    stored (AdminConfig.performRenounceAt a offset current).2.bytes offset =
      .ok ⟨default, default⟩ := by
  have hok : ((Operation.renounce current).performAt a offset).1 = .ok () := h
  obtain ⟨s, t, hs, ht, hi⟩ := perform_at_ok hok
  obtain ⟨_, rfl⟩ := transition_ok.mp ht
  change stored ((Operation.renounce current).performAt a offset).2.bytes offset = _
  rw [hi]
  exact stored_install _ (stored_ok.mp hs).1

/-- A window without an admin refuses everything for good, also one that this
library never wrote, and a renounce never leaves a nominee behind. -/
theorem renounce_is_terminal (offset : Nat) :
    (∀ a : AccountWithMetadata, offset + 64 ≤ a.bytes.length →
      Window.read a.bytes offset 32 = List.replicate 32 0 → ∀ ops : List Operation,
        (managedAt offset).results a ops = List.replicate ops.length (.error .renounced) ∧
        (managedAt offset).run a ops = a ∧
        ∃ c, AdminConfig.fromAccountAt ((managedAt offset).run a ops) offset = .ok c ∧
          ∀ signer, c.assertAdmin signer = .error .renounced) ∧
    (∀ a current : AccountWithMetadata,
      (AdminConfig.performRenounceAt a offset current).1 = .ok () →
        stored (AdminConfig.performRenounceAt a offset current).2.bytes offset =
          .ok ⟨default, default⟩) := by
  refine ⟨?_, fun a current h => renounce_at_clears h⟩
  intro a hf hz ops
  obtain ⟨s, hs, hh⟩ := stored_zero_admin hf hz
  obtain ⟨hrun, hresults⟩ := run_vacant hs hh ops
  obtain ⟨c, hc, rfl⟩ := from_account_at_ok hs
  refine ⟨hresults, hrun, c, ?_, assert_admin_vacant hh⟩
  rw [hrun]
  exact hc

end

open Reference in
/-- A leftover nominee that signs cannot revive the role, nor can the zero id. -/
theorem renounce_is_terminal_stale_nominee :
    let config := embedded ⟨default, id 2⟩
    let ops := [.accept (acct 2 true), .transfer (acct 0 true) .signer (acct 2 true)]
    (managedAt 8).results config ops = [.error .renounced, .error .renounced] ∧
      (managedAt 8).run config ops = config := by
  obtain ⟨hr, hs, _⟩ := (renounce_is_terminal 8).1 (embedded ⟨default, id 2⟩) (by decide) rfl
    [.accept (acct 2 true), .transfer (acct 0 true) .signer (acct 2 true)]
  exact ⟨hr, hs⟩

end AdminAuthority.Proofs
