import AdminAuthority.Model.Instructions
import AdminAuthority.Proofs.Perform

namespace AdminAuthority.Proofs
open Handover AuthorityCrate Lifecycle

variable [Lez]

theorem check_genesis_ok {genesis : Option (Vector UInt8 32)} {caller : AccountWithMetadata}
    (h : checkGenesis genesis caller = .ok ()) (key : Vector UInt8 32) (hk : genesis = some key) :
    caller.accountId = ⟨key⟩ := by
  subst hk
  simp only [checkGenesis] at h
  split at h
  · cases h
  · rename_i hid
    exact Decidable.not_not.mp hid

variable [AuthorityCrate] [LawfulAuthority]

theorem initialize_admin_ok {id : AccountId} (h : id ≠ default) :
    ∃ c, AdminConfig.initializeAdmin id = .ok c ∧ c.seat = ⟨id, default⟩ := by
  obtain ⟨slot, hs, hseat⟩ := LawfulAuthority.initialize_ok id h
  exact ⟨⟨slot⟩, by rw [AdminConfig.initializeAdmin, hs], hseat⟩

theorem write_to_at_short (c : AdminConfig) {a : AccountWithMetadata} {offset : Nat}
    (h : a.bytes.length < offset + 64) : c.writeToAt a offset = (.error .slotOutOfBounds, a) := by
  rw [AdminConfig.writeToAt]
  have hw := LawfulAuthority.writeAt_short c.slot a.bytes offset h
  cases hp : writeAt c.slot a.bytes offset with
  | mk result bytes =>
    rw [hp] at hw
    change result = _ at hw
    subst hw
    rfl

/-- The windowed bootstrap installs the validated candidate with no nominee, or
leaves the account alone. -/
theorem bootstrap_at_step (config : AccountWithMetadata) (offset : Nat)
    (candidate : AdminCandidate) (newAccount : AccountWithMetadata) :
    AdminConfig.bootstrapAt config offset candidate newAccount =
      match validate candidate newAccount with
      | .error e => (.error (.ofAuthority e), config)
      | .ok id =>
        if offset + 64 ≤ config.bytes.length then (.ok (), config.install offset ⟨id, default⟩)
        else (.error .slotOutOfBounds, config) := by
  rw [AdminConfig.bootstrapAt]
  cases hv : validate candidate newAccount with
  | error e => rfl
  | ok id =>
    obtain ⟨c, hc, hseat⟩ := initialize_admin_ok (validate_ne_default hv)
    simp only [hc]
    split
    · rename_i hf
      rw [write_to_at_fits c hf, hseat]
    · rename_i hf
      exact write_to_at_short c (by omega)

theorem bootstrap_at_fits {config : AccountWithMetadata} {offset : Nat}
    (h : offset + 64 ≤ config.bytes.length) (candidate : AdminCandidate)
    (newAccount : AccountWithMetadata) :
    AdminConfig.bootstrapAt config offset candidate newAccount =
      match validate candidate newAccount with
      | .error e => (.error (.ofAuthority e), config)
      | .ok id => (.ok (), config.install offset ⟨id, default⟩) := by
  rw [bootstrap_at_step]
  cases validate candidate newAccount with
  | error e => rfl
  | ok id => exact if_pos h

theorem bootstrap_at_ok {config start newAccount : AccountWithMetadata} {offset : Nat}
    {candidate : AdminCandidate}
    (h : AdminConfig.bootstrapAt config offset candidate newAccount = (.ok (), start)) :
    candidate.Eligible newAccount ∧ offset + 64 ≤ config.bytes.length ∧
      start = config.install offset ⟨newAccount.accountId, default⟩ := by
  rw [bootstrap_at_step] at h
  cases hv : validate candidate newAccount with
  | error e => simp [hv] at h
  | ok id =>
    obtain ⟨rfl, he⟩ := validate_ok hv
    simp only [hv] at h
    split at h
    · rename_i hf
      exact ⟨he, hf, (congrArg Prod.snd h).symm⟩
    · cases h

/-- The dedicated bootstrap makes the slot's bytes the whole data. -/
theorem bootstrap_ok {config start newAccount : AccountWithMetadata} {candidate : AdminCandidate}
    (h : AdminConfig.bootstrap config candidate newAccount = (.ok (), start)) :
    candidate.Eligible newAccount ∧
      ∃ d : Data, d.bytes = AdminSeat.bytes ⟨newAccount.accountId, default⟩ ∧
        start = config.withData d := by
  rw [AdminConfig.bootstrap] at h
  cases hv : validate candidate newAccount with
  | error e => simp [hv] at h
  | ok id =>
    obtain ⟨c, hc, hseat⟩ := initialize_admin_ok (validate_ne_default hv)
    obtain ⟨rfl, he⟩ := validate_ok hv
    simp only [hv, hc, AdminConfig.writeTo, AdminConfig.encode, LawfulAuthority.toVec_eq] at h
    split at h
    · rename_i d hd
      refine ⟨he, d, ?_, (congrArg Prod.snd h).symm⟩
      rw [Data.tryFrom_eq_some.mp hd]
      exact congrArg AdminSeat.bytes hseat
    · cases h

/-- Everything a successful `admin_initialize` went through and leaves. -/
theorem admin_initialize_ok [Build] {config caller : AccountWithMetadata} {out : SpelOutput}
    (h : adminInitialize config caller = .ok out) :
    (∀ key, Build.GENESIS = some key → caller.accountId = ⟨key⟩) ∧
      AuthorityCandidate.signer.Eligible caller ∧
      ∃ d : Data, d.bytes = AdminSeat.bytes ⟨caller.accountId, default⟩ ∧
        out = ⟨[⟨(config.withData d).account,
          .claimed (.pda (Lez.seedFromStr "admin_config"))⟩, ⟨caller.account, .none⟩]⟩ := by
  rw [adminInitialize] at h
  cases hg : requireGenesis caller with
  | error e => simp [hg] at h
  | ok u =>
    simp only [hg] at h
    cases hb : AdminConfig.bootstrap config .signer caller with
    | mk result start =>
      cases result with
      | error e => simp [hb] at h
      | ok v =>
        obtain ⟨he, d, hd, rfl⟩ := bootstrap_ok hb
        simp only [hb, Except.ok.injEq] at h
        exact ⟨check_genesis_ok hg, he, d, hd, h.symm⟩

/-- Each management instruction is its operation, with one post-state for every
account it was given. -/
theorem instruct_step (op : Operation) (config : AccountWithMetadata) (offset : Nat) :
    op.instruct config offset =
      match step config.bytes offset op with
      | .ok s => .ok ⟨.ofAccount (config.install offset s).account ::
          op.accounts.map (fun a => .ofAccount a.account)⟩
      | .error e => .error (.ofAdmin e) := by
  rw [Operation.instruct_perform, perform_at_step]
  cases step config.bytes offset op <;> rfl

theorem landed_step [Build] (op : Operation) (config : AccountWithMetadata) (offset : Nat) :
    config.landed (op.instruct config offset) =
      match step config.bytes offset op with
      | .ok s => config.install offset s
      | .error _ => config := by
  rw [instruct_step]
  cases step config.bytes offset op <;> rfl

/-- A management instruction is the documented step on its account. -/
theorem manage_step [Build] (op : Operation) (config : AccountWithMetadata) (offset : Nat) :
    op.manage config offset =
      match step config.bytes offset op with
      | .ok s => (.ok (), config.install offset s)
      | .error e => (.error (.ofAdmin e), config) := by
  rw [Operation.manage, landed_step, instruct_step]
  cases step config.bytes offset op <;> rfl

end AdminAuthority.Proofs
