import AdminAuthority.Model.Reference
import AdminAuthority.Proofs.Atomicity
import AdminAuthority.Proofs.Outputs

namespace AdminAuthority.Proofs
open AuthorityCrate Block ManualSample

section
variable [Lez]

theorem store_ok {state : ProgramConfig} {s t : Accounts}
    (h : (store state s).result = .ok t) :
    ∃ d : Data, d.bytes = LittleEndian.encode 8 state.value.toNat ∧
      t = Function.update s "config" ((s "config").withData d) := by
  unfold store attempt at h
  simp only [ProgramConfig.toVec] at h
  cases hd : Data.tryFrom (LittleEndian.encode 8 state.value.toNat) with
  | none =>
    rw [hd] at h
    cases h
  | some d =>
    rw [hd] at h
    cases h
    exact ⟨d, Data.tryFrom_eq_some.mp hd, rfl⟩

theorem update_value_paired {accounts : Accounts} {newValue : UInt64} {d : Data}
    (hd : d.bytes = LittleEndian.encode 8 newValue.toNat) :
    let t := Function.update accounts "config" ((accounts "config").withData d)
    (updateValue newValue).Paired accounts ((updateValue newValue).finish t) ↔
      OwnPost True (accounts "config").account (accounts "caller").account ∧
        (accounts "caller").bytes = LittleEndian.encode 8 newValue.toNat := by
  intro t
  have hcaller : "caller" ∉ (updateValue newValue).writable := by
    change "caller" ∉ ["config"]
    decide
  have hconfig : "config" ∈ (updateValue newValue).writable := List.mem_singleton_self _
  have hw : Rewritten (updateValue newValue).writable accounts t :=
    rewritten_update hconfig accounts d
  have ht : t "config" = (accounts "config").withData d := Function.update_self ..
  rw [paired_swapped rfl rfl hw, rewritten_fixed hw hcaller, ht]
  constructor
  · intro h
    obtain ⟨hlike, hown⟩ := h
    refine ⟨⟨hown.nonce, hown.balance, hown.programOwner, fun hno => absurd trivial hno⟩, ?_⟩
    rw [AccountWithMetadata.bytes, ← hlike.data hcaller, ← hd]
    rfl
  · intro h
    obtain ⟨hown, hbytes⟩ := h
    have hdata : d = (accounts "caller").account.data := data_ext (hd.trans hbytes.symm)
    refine ⟨⟨hown.nonce.symm, hown.balance.symm, hown.programOwner.symm, fun _ => hdata⟩, ?_⟩
    exact ⟨hown.nonce, hown.balance, hown.programOwner, fun hno => absurd hconfig hno⟩

variable [AuthorityCrate]

/-- Every statement of the program keeps to the parameters that are `mut`. -/
theorem body_confined (call : Call) :
    ∀ st ∈ call.instruction.body, Confined call.instruction.writable st := by
  cases call with
  | initializeProg =>
    simp only [Call.instruction, initializeProg, List.forall_mem_singleton]
    apply mutate_confined (List.mem_singleton_self _)
    intro s h
    exact (bootstrap_settles _ _ _).done h
  | updateValue newValue =>
    simp only [Call.instruction, updateValue, List.forall_mem_singleton]
    intro s t h
    obtain ⟨d, _, rfl⟩ := store_ok h
    exact rewritten_update (List.mem_singleton_self _) s d
  | adminTransfer candidate =>
    simp only [Call.instruction, ManualSample.adminTransfer, List.forall_mem_singleton]
    apply mutate_confined (List.mem_singleton_self _)
    intro s h
    exact (perform_at_settles (.transfer _ candidate _) _ 0).done h
  | adminRenounce =>
    simp only [Call.instruction, ManualSample.adminRenounce, List.forall_mem_singleton]
    apply mutate_confined (List.mem_singleton_self _)
    intro s h
    exact (perform_renounce_settles _ _).done h

theorem initialize_paired {accounts t : Accounts}
    (hw : Rewritten initializeProg.writable accounts t) :
    initializeProg.Paired accounts (initializeProg.finish t) ↔
      (accounts "caller").account = (accounts "prog_config").account := by
  have hcaller : "caller" ∉ initializeProg.writable := by
    change "caller" ∉ ["admin_config"]
    decide
  have hprog : "prog_config" ∉ initializeProg.writable := by
    change "prog_config" ∉ ["admin_config"]
    decide
  rw [paired_swapped rfl rfl hw, rewritten_fixed hw hcaller, rewritten_fixed hw hprog,
    own_post_unwritten hcaller, own_post_unwritten hprog]
  constructor
  · intro h
    obtain ⟨_, h⟩ := h
    exact h
  · intro h
    exact ⟨h.symm, h⟩

/-- The outputs of the program pair with its parameters but for `initialize` and
`update_value`, whose vectors exchange the caller and the program's own account. -/
theorem outputs_paired_iff (usizeMax : Nat) (call : Call) (accounts : Accounts)
    (out : SpelOutput) (h : call.instruction.run usizeMax accounts = .ok (.ok out)) :
    call.instruction.Paired accounts out ↔ call.Alike accounts := by
  obtain ⟨t, ht, rfl⟩ := run_ok h
  have hw := exec_confined (body_confined call) accounts t ht
  cases call with
  | initializeProg => exact initialize_paired hw
  | updateValue newValue =>
    have hstore : (store ⟨newValue⟩ accounts).result = .ok t := by
      change ((store ⟨newValue⟩ accounts).andThen .next).result = .ok t at ht
      rwa [result_andThen_next] at ht
    obtain ⟨d, hd, rfl⟩ := store_ok hstore
    exact update_value_paired hd
  | adminTransfer candidate =>
    simp only [Call.Alike, iff_true]
    exact paired_in_order rfl hw
  | adminRenounce =>
    simp only [Call.Alike, iff_true]
    exact paired_in_order rfl hw

end

open Reference in
/-- The hand-written renounce puts its accounts out in order. -/
theorem outputs_paired_iff_renounce :
    let accounts : Accounts := fun x =>
      if x = "config" then dedicated ⟨id 1, default⟩ else acct 1 true
    ∃ out, ManualSample.adminRenounce.run 65535 accounts = .ok (.ok out) ∧
      ManualSample.adminRenounce.Paired accounts out := by
  intro accounts
  have hrun : ManualSample.adminRenounce.run 65535 accounts =
      .ok (.ok ⟨[.ofAccount (dedicated ⟨default, default⟩).account,
        .ofAccount (acct 1 true).account]⟩) := rfl
  exact ⟨_, hrun, (outputs_paired_iff 65535 .adminRenounce accounts _ hrun).mpr trivial⟩

open Reference in
/-- The admin sets the value to 42: in the caller's place stands the program's account. -/
theorem update_value_output_swapped :
    let accounts : Accounts := fun x =>
      if x = "admin_config" then dedicated ⟨id 1, default⟩
      else if x = "caller" then acct 1 true else acct 5 false
    ((updateValue 42).params.map fun x => (accounts x).accountId).Nodup ∧
      ∃ out, (updateValue 42).run 65535 accounts = .ok (.ok out) ∧
        ¬(updateValue 42).Paired accounts out := by
  intro accounts
  refine ⟨by decide, _, rfl, ?_⟩
  intro h
  have hcaller := (List.forall₂_cons.mp (List.forall₂_cons.mp h).2).1
  exact absurd hcaller.programOwner (by decide)

end AdminAuthority.Proofs
