import AdminAuthority.Proofs.Evolution

namespace AdminAuthority.Proofs
open Handover AuthorityCrate Lifecycle CallMachine ExecutionCheck

section
variable [Lez] [AuthorityCrate]

/-- Only the admin, or the nominee where it accepts, ever has an operation allowed. -/
theorem transition_caller {s t : AdminSeat} {op : Operation} (h : transition s op = .ok t) :
    s.holder ≠ default ∧ (signer op).isAuthorized = true ∧
      ((signer op).accountId = s.holder ∨ (signer op).accountId = s.nominee) := by
  have ha := transition_ok.mp h
  cases op with
  | transfer current candidate newAccount =>
    obtain ⟨hc, _⟩ := ha
    obtain ⟨hh, hs, hid⟩ := authorise_ok.mp hc
    exact ⟨hh, hs, .inl hid⟩
  | nominate current newAdmin =>
    obtain ⟨hc, _⟩ := ha
    obtain ⟨hh, hs, hid⟩ := authorise_ok.mp hc
    exact ⟨hh, hs, .inl hid⟩
  | accept nominee =>
    obtain ⟨hc, _⟩ := ha
    obtain ⟨hh, _, hs, hid, _⟩ := authoriseNominee_ok.mp hc
    exact ⟨hh, hs, .inr hid⟩
  | renounce current =>
    obtain ⟨hc, _⟩ := ha
    obtain ⟨hh, hs, hid⟩ := authorise_ok.mp hc
    exact ⟨hh, hs, .inl hid⟩

variable [LawfulAuthority]

/-- The admin is gone after a renounce and after nothing else. -/
theorem transition_renounces {s t : AdminSeat} {op : Operation} (h : transition s op = .ok t)
    (ht : t.holder = default) :
    ∃ current, op = .renounce current ∧ current.isAuthorized = true ∧
      current.accountId = s.holder := by
  have ha := transition_ok.mp h
  cases op with
  | transfer current candidate newAccount =>
    obtain ⟨_, hv, _⟩ := ha
    exact absurd ht (validate_ne_default hv)
  | nominate current newAdmin =>
    obtain ⟨hc, rfl⟩ := ha
    exact absurd ht (authorise_ok.mp hc).1
  | accept nominee =>
    obtain ⟨hc, rfl⟩ := ha
    exact absurd ht (authoriseNominee_ok.mp hc).2.1
  | renounce current =>
    obtain ⟨hc, _⟩ := ha
    obtain ⟨_, hs, hid⟩ := authorise_ok.mp hc
    exact ⟨current, rfl, hs, hid⟩

variable [Build] [ExecutionCheck]

/-- The arrows of the diagram between its phases. -/
inductive Arrow (w v : World) : ChainEvent → Prop
  | adminInitialize {caller : AccountWithMetadata} (hw : w.phase = .uninitialized)
      (hv : v.phase = .initialized) : Arrow w v (.submit (.adminInitialize caller))
  | adminRenounce {admin : AccountWithMetadata} {s : AdminSeat} (hw : w.phase = .initialized)
      (hv : v.phase = .renounced) (hs : w.seat = .ok s) (hsigned : admin.isAuthorized = true)
      (hid : admin.accountId = s.holder) : Arrow w v (.submit (.manage (.renounce admin) 0))

omit [LawfulAuthority] [ExecutionCheck] [AuthorityCrate] in
theorem phase_of_data {w v : World} (h : (v configPda).data = (w configPda).data) :
    v.phase = w.phase := by
  rw [World.phase, World.phase, World.seat, World.seat, h]

/-- Every step stays within its phase or follows an arrow. -/
theorem step_phase {w v : World} {e : ChainEvent} (hw : Sound w) (h : ChainStep w e v) :
    v.phase = w.phase ∨ Arrow w v e := by
  cases e with
  | elsewhere => exact .inl (phase_of_data (elsewhere_step h))
  | submit c =>
    obtain ⟨_, hpermitted, hleft⟩ := submit_step hw h
    cases c with
    | adminInitialize caller =>
      obtain ⟨hd, _, _, hid, _⟩ := hpermitted
      refine .inr (.adminInitialize ?_ (phase_initialized.mpr ⟨_, hleft, hid⟩))
      rw [phase_uninitialized hw, hd]
      rfl
    | manage op offset =>
      obtain ⟨rfl, _⟩ := hpermitted
      obtain ⟨s, t, hs, ht, hleft⟩ := hleft
      obtain ⟨hh, _⟩ := transition_caller ht
      have hlive := phase_initialized.mpr ⟨s, hs, hh⟩
      by_cases hgone : t.holder = default
      · obtain ⟨admin, rfl, hsigned, hid⟩ := transition_renounces ht hgone
        exact .inr (.adminRenounce hlive (phase_renounced.mpr ⟨t, hleft, hgone⟩) hs hsigned hid)
      · left
        rw [hlive]
        exact phase_initialized.mpr ⟨t, hleft, hgone⟩

theorem step_rank {w v : World} {e : ChainEvent} (hw : Sound w) (h : ChainStep w e v) :
    w.phase ≤ v.phase := by
  rcases step_phase hw h with he | ha
  · rw [he]
  · cases ha with
    | adminInitialize hw hv =>
      rw [hw, hv]
      exact Nat.zero_le _
    | adminRenounce hw hv _ _ _ =>
      rw [hw, hv]
      exact Nat.le_succ _

/-- Nothing lands on a renounced config. -/
theorem renounced_refuses {w : World} (hw : Sound w) (hr : w.phase = .renounced) (c : ConfigCall)
    (v : World) : ¬ChainStep w (.submit c) v := by
  intro h
  obtain ⟨s, hs, hh⟩ := phase_renounced.mp hr
  obtain ⟨_, hpermitted, _⟩ := submit_step hw h
  cases c with
  | adminInitialize caller =>
    obtain ⟨hd, _⟩ := hpermitted
    rw [World.seat, hd] at hs
    cases hs
  | manage op offset =>
    obtain ⟨_, s', t, hs', ht⟩ := hpermitted
    obtain rfl : s = s' := Except.ok.inj (hs.symm.trans hs')
    exact (transition_caller ht).1 hh

theorem renounced_step {w v : World} {e : ChainEvent} (hw : Sound w) (hr : w.phase = .renounced)
    (h : ChainStep w e v) : (v configPda).data = (w configPda).data := by
  cases e with
  | elsewhere => exact elsewhere_step h
  | submit c => exact absurd h (renounced_refuses hw hr c v)

theorem renounced_evolves {allowed : ChainEvent → Prop} {w v : World} (hw : Sound w)
    (hr : w.phase = .renounced) (h : Evolves allowed w v) :
    (v configPda).data = (w configPda).data ∧ Sound v ∧ v.phase = .renounced := by
  refine h.invariant (P := fun u => (u configPda).data = (w configPda).data ∧ Sound u ∧
    u.phase = .renounced) ?_ ⟨rfl, hw, hr⟩
  intro s e t hs _ hst
  obtain ⟨hdata, hsound, hphase⟩ := hs
  have hd := renounced_step hsound hphase hst
  exact ⟨hd.trans hdata, sound_step hsound hst, (phase_of_data hd).trans hphase⟩

/-- The chain follows the state diagram of the lifecycle. A phase changes along an arrow
only, no evolution goes back to an earlier phase, and what a renounce leaves stays for
good, because nothing lands on it any more. -/
theorem lifecycle_diagram {w : World} (hw : Reachable w) :
    (∀ e v, ChainStep w e v → v.phase ≠ w.phase → Arrow w v e) ∧
    (∀ allowed v, Evolves allowed w v → w.phase ≤ v.phase) ∧
    (w.phase = .renounced → ∀ allowed v, Evolves allowed w v →
      (v configPda).data = (w configPda).data ∧ ∀ c u, ¬ChainStep v (.submit c) u) := by
  have hsound := reachable_sound hw
  refine ⟨?_, ?_, ?_⟩
  · intro e v h hne
    exact (step_phase hsound h).resolve_left hne
  · intro allowed v h
    refine h.rank_le (I := Sound) ?_ hsound
    intro s e t hs _ hst
    exact ⟨sound_step hs hst, step_rank hs hst⟩
  · intro hr allowed v h
    obtain ⟨hdata, hsv, hrv⟩ := renounced_evolves hsound hr h
    exact ⟨hdata, fun c u => renounced_refuses hsv hrv c u⟩

end

open Reference in
/-- The first transaction of a chain follows the first arrow. -/
theorem lifecycle_diagram_initialized :
    ∃ v, ChainStep ledger (.submit (.adminInitialize (acct 1 true))) v ∧
      Arrow ledger v (.submit (.adminInitialize (acct 1 true))) := by
  obtain ⟨v, hv, hseat⟩ := ledger_initializes
  have hlive : v.phase = .initialized := phase_initialized.mpr ⟨_, hseat, by decide⟩
  refine ⟨v, hv, (lifecycle_diagram (.start rfl)).1 _ v hv ?_⟩
  rw [hlive]
  intro h
  cases h

section
variable [Lez] [Build] [AuthorityCrate] [LawfulAuthority] [ExecutionCheck] [LawfulCheck]

/-- On every reachable chain a transaction lands exactly when the diagram permits it. -/
theorem lands_iff {w : World} (hw : Reachable w) (c : ConfigCall) :
    (∃ v, ChainStep w (.submit c) v) ↔ Presented w c ∧ Permitted w c := by
  have hsound := reachable_sound hw
  constructor
  · intro h
    obtain ⟨v, hv⟩ := h
    obtain ⟨hp, hpermitted, _⟩ := submit_step hsound hv
    exact ⟨hp, hpermitted⟩
  · intro h
    obtain ⟨hp, hpermitted⟩ := h
    cases c with
    | adminInitialize caller =>
      obtain ⟨v, hv, _⟩ := initialize_lands hsound hp hpermitted
      exact ⟨v, hv⟩
    | manage op offset =>
      obtain ⟨rfl, s, t, hs, ht⟩ := hpermitted
      obtain ⟨v, hv, _⟩ := manage_lands hsound hp hs ht
      exact ⟨v, hv⟩

end

open Reference in
theorem lands_iff_initialize :
    ∃ v, ChainStep ledger (.submit (.adminInitialize (acct 1 true))) v := by
  have hid : Reference.id 1 ≠ configPda := by decide
  have hp : Presented ledger (.adminInitialize (acct 1 true)) :=
    presented_single rfl hid
  refine (lands_iff (.start rfl) _).mpr ⟨hp, rfl, by decide, ?_, by decide, by decide, rfl⟩
  intro key hk
  cases hk

end AdminAuthority.Proofs
