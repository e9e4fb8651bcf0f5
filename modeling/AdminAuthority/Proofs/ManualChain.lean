import AdminAuthority.Model.SampleChains
import AdminAuthority.Proofs.ManualSample
import AdminAuthority.Proofs.Submission

namespace AdminAuthority.Proofs
open AuthorityCrate Lifecycle Block ManualSample

section
variable [Lez] [AuthorityCrate]

theorem unstored_gate [LawfulAuthority] {config : AccountWithMetadata} (h : config.bytes = [])
    (signer : AccountWithMetadata) :
    AdminConfig.gateAt config 0 signer = .error .notInitialized := by
  have hs : stored config.bytes 0 = .error .notInitialized := by
    rw [h]
    rfl
  rw [AdminConfig.gateAt, from_account_at_error hs]

theorem manual_initialize_ok [LawfulAuthority] {usizeMax : Nat} {accounts : Accounts}
    {out : SpelOutput} (h : initializeProg.run usizeMax accounts = .ok (.ok out)) :
    (accounts "caller").account.programOwner ≠ default ∧
      ∃ t, Rewritten initializeProg.writable accounts t ∧ out = initializeProg.finish t := by
  obtain ⟨t, ht, rfl⟩ := run_ok h
  refine ⟨?_, t, exec_confined (body_confined .initializeProg) accounts t ht, rfl⟩
  simp only [initializeProg, exec_cons, Handler.mutate] at ht
  cases hb : AdminConfig.bootstrap (accounts "admin_config") .signer (accounts "caller") with
  | mk result start =>
    cases result with
    | error e =>
      rw [hb] at ht
      cases ht
    | ok u => exact (bootstrap_ok hb).1.2.1

variable [Build]

/-- Behind its gates the program has nothing to go on before it is initialized. -/
theorem manual_uninitialized [LawfulAuthority] {w : World}
    (hw : (w configPda).data.bytes = []) {usizeMax : Nat} {call : Call} {accounts : Accounts}
    (tx : call.instruction.Sent call.constraints w accounts) (hcall : call ≠ .initializeProg) :
    call.instruction.run usizeMax accounts = .ok (.error (.ofAdmin .notInitialized)) := by
  have hempty : ∀ x, (accounts x).account = w configPda → (accounts x).bytes = [] := by
    intro x hx
    rw [AccountWithMetadata.bytes, hx, hw]
  cases call with
  | initializeProg => exact absurd rfl hcall
  | updateValue newValue =>
    exact gated_run rfl rfl (unstored_gate (hempty _ (sent_config tx rfl rfl rfl)) _)
  | adminTransfer candidate =>
    exact gated_run rfl rfl (unstored_gate (hempty _ (sent_config tx rfl rfl rfl)) _)
  | adminRenounce =>
    exact gated_run rfl rfl (unstored_gate (hempty _ (sent_config tx rfl rfl rfl)) _)

/-- What `initialize` returns is out of order: the account it has not created yet comes in
the place of its owned caller. -/
theorem manual_initialize_refused [LawfulAuthority] {w : World} {usizeMax : Nat}
    {accounts : Accounts}
    (tx : initializeProg.Sent (Call.constraints .initializeProg) w accounts) {out : SpelOutput}
    (hok : initializeProg.run usizeMax accounts = .ok (.ok out)) {posts : List AccountPostState}
    (hposts : posts.map (·.account) = out.postStates.map (·.account)) :
    ¬List.Forall₂ PostRule (initializeProg.params.map accounts) posts := by
  intro hrules
  obtain ⟨howned, t, ht, rfl⟩ := manual_initialize_ok hok
  have hrest := (List.forall₂_cons.mp tx.constraints).2
  have hprog : (accounts "prog_config").account = default :=
    (List.forall₂_cons.mp (List.forall₂_cons.mp hrest).2).1.init rfl
  have hkept : t "prog_config" = accounts "prog_config" :=
    rewritten_fixed ht (by change "prog_config" ∉ ["admin_config"]; decide)
  obtain ⟨first, rest, _, hrest, rfl⟩ := List.forall₂_cons_left_iff.mp hrules
  obtain ⟨second, rest, hsecond, _, rfl⟩ := List.forall₂_cons_left_iff.mp hrest
  have hpost : second.account = (t "prog_config").account :=
    (List.cons.inj (List.cons.inj hposts).2).1
  have howner := hsecond.programOwner
  rw [hpost, hkept, hprog] at howner
  exact howned howner.symm

/-- No output of the program passes while its admin config is empty. -/
theorem manual_refused [LawfulAuthority] {w : World} (hw : (w configPda).data.bytes = [])
    {usizeMax : Nat} {call : Call} {accounts : Accounts}
    (tx : call.instruction.Sent call.constraints w accounts)
    {out : SpelOutput} (hok : call.instruction.run usizeMax accounts = .ok (.ok out))
    {posts : List AccountPostState}
    (hposts : posts.map (·.account) = out.postStates.map (·.account)) :
    ¬List.Forall₂ PostRule (call.instruction.params.map accounts) posts := by
  by_cases hcall : call = .initializeProg
  · subst hcall
    exact manual_initialize_refused tx hok hposts
  · cases (manual_uninitialized hw tx hcall).symm.trans hok

variable [LawfulAuthority] [ExecutionCheck] [StrictCheck]

theorem manual_step {usizeMax : Nat} {w v : World} {call : Option Call}
    (hw : (w configPda).data.bytes = []) (h : Step usizeMax w call v) :
    call = none ∧ (v configPda).data.bytes = [] := by
  cases h with
  | submit tx hok hposts hcheck =>
    exact absurd (StrictCheck.asks _ _ hcheck) (manual_refused hw tx hok hposts)
  | elsewhere hdata => exact ⟨rfl, by rw [hdata, hw]⟩

/-- The manual reference program never gets off the ground: from a chain without its admin
config, whatever happens, no transaction that calls one of its instructions ever lands,
because its `initialize` returns two accounts in each other's place. -/
theorem manual_program_never_lands {usizeMax : Nat} {w v : World} (hw : w configPda = default)
    (h : Run usizeMax w v) :
    (v configPda).data.bytes = [] ∧ ∀ call u, ¬Step usizeMax v (some call) u := by
  have hempty : (w configPda).data.bytes = [] := by
    rw [hw]
    rfl
  have hv : (v configPda).data.bytes = [] :=
    h.invariant (P := fun u => (u configPda).data.bytes = [])
      (fun _ _ _ hs _ hst => (manual_step hs hst).2) hempty
  refine ⟨hv, ?_⟩
  intro call u hst
  cases (manual_step hv hst).1

end

open Reference in
/-- An owned key initializes. The handler is done and well, and LEZ refuses what it returns. -/
theorem manual_program_never_lands_initialize :
    let accounts : Accounts := fun x =>
      if x = "caller" then acct 1 true
      else if x = "admin_config" then ⟨default, false, configPda⟩
      else ⟨default, false, Lez.forPublicPda Build.programId (Lez.seedFromStr "program_config")⟩
    initializeProg.Sent (Call.constraints .initializeProg) ledger accounts ∧
      (∃ out, initializeProg.run 65535 accounts = .ok (.ok out)) ∧
      ∀ u, ¬Step 65535 ledger (some .initializeProg) u := by
  intro accounts
  refine ⟨⟨?_, by decide, ?_⟩, ⟨_, rfl⟩, ?_⟩
  · intro x hx
    change x ∈ ["admin_config", "caller", "prog_config"] at hx
    simp only [List.mem_cons, List.not_mem_nil, or_false] at hx
    rcases hx with rfl | rfl | rfl <;> rfl
  · refine .cons ⟨fun _ => rfl, nofun, ?_⟩ (.cons ⟨nofun, fun _ => rfl, nofun⟩
      (.cons ⟨fun _ => rfl, nofun, ?_⟩ .nil))
    · intro text h
      obtain rfl := Option.some.inj h
      rfl
    · intro text h
      obtain rfl := Option.some.inj h
      rfl
  · intro u
    exact (manual_program_never_lands rfl (.refl ledger)).2 _ u

end AdminAuthority.Proofs
