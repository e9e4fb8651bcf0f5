import AdminAuthority.Model.Reference
import AdminAuthority.Proofs.Bootstrap

namespace AdminAuthority.Proofs
open Handover AuthorityCrate Lifecycle

theorem of_authority_fits (a : AuthorityError) :
    AdminError.ofAuthority a ≠ .accountDataTooLarge := by
  cases a <;> simp [AdminError.ofAuthority]

section
variable [Lez]

/-- The two ways a call on a config account ends: refused with the account as it was,
or done with nothing but its data replaced. -/
def Settles (config : AccountWithMetadata)
    (r : Except AdminError Unit × AccountWithMetadata) : Prop :=
  (∃ e, r = (.error e, config)) ∨ ∃ d, r = (.ok (), config.withData d)

theorem Settles.refused {config : AccountWithMetadata}
    {r : Except AdminError Unit × AccountWithMetadata} (h : Settles config r) {e : AdminError}
    (he : r.1 = .error e) : r.2 = config := by
  rcases h with ⟨e', rfl⟩ | ⟨d, rfl⟩
  · rfl
  · cases he

theorem Settles.done {config : AccountWithMetadata}
    {r : Except AdminError Unit × AccountWithMetadata} (h : Settles config r)
    (he : r.1 = .ok ()) : ∃ d, r.2 = config.withData d := by
  rcases h with ⟨e, rfl⟩ | ⟨d, rfl⟩
  · cases he
  · exact ⟨d, rfl⟩

variable [AuthorityCrate]

/-- Encoding and the length conversion both come before the only assignment. -/
theorem write_to_settles (c : AdminConfig) (a : AccountWithMetadata) :
    Settles a (c.writeTo a) := by
  unfold AdminConfig.writeTo
  cases c.encode with
  | error e => exact .inl ⟨e, rfl⟩
  | ok bytes =>
    simp only []
    cases Data.tryFrom bytes with
    | none => exact .inl ⟨_, rfl⟩
    | some d => exact .inr ⟨d, rfl⟩

theorem write_to_at_settles (c : AdminConfig) (a : AccountWithMetadata) (offset : Nat) :
    Settles a (c.writeToAt a offset) := by
  unfold AdminConfig.writeToAt
  cases writeAt c.slot a.bytes offset with
  | mk result bytes =>
    cases result with
    | error e => exact .inl ⟨_, rfl⟩
    | ok u =>
      simp only []
      cases Data.tryFrom bytes with
      | none => exact .inl ⟨_, rfl⟩
      | some d => exact .inr ⟨d, rfl⟩

theorem bootstrap_settles (config : AccountWithMetadata) (candidate : AdminCandidate)
    (newAccount : AccountWithMetadata) :
    Settles config (AdminConfig.bootstrap config candidate newAccount) := by
  unfold AdminConfig.bootstrap
  cases validate candidate newAccount with
  | error e => exact .inl ⟨_, rfl⟩
  | ok id =>
    simp only []
    cases AdminConfig.initializeAdmin id with
    | error e => exact .inl ⟨_, rfl⟩
    | ok state => exact write_to_settles state config

theorem bootstrap_at_settles (config : AccountWithMetadata) (offset : Nat)
    (candidate : AdminCandidate) (newAccount : AccountWithMetadata) :
    Settles config (AdminConfig.bootstrapAt config offset candidate newAccount) := by
  unfold AdminConfig.bootstrapAt
  cases validate candidate newAccount with
  | error e => exact .inl ⟨_, rfl⟩
  | ok id =>
    simp only []
    cases AdminConfig.initializeAdmin id with
    | error e => exact .inl ⟨_, rfl⟩
    | ok state => exact write_to_at_settles state config offset

/-- Load, change, write back: only the write assigns, and it comes last. -/
theorem perform_at_settles (op : Operation) (config : AccountWithMetadata) (offset : Nat) :
    Settles config (op.performAt config offset) := by
  rw [Operation.performAt_change]
  unfold AdminConfig.performAt
  cases AdminConfig.fromAccountAt config offset with
  | error e => exact .inl ⟨_, rfl⟩
  | ok state =>
    simp only []
    cases op.change state with
    | mk result next =>
      cases result with
      | error e => exact .inl ⟨_, rfl⟩
      | ok u => exact write_to_at_settles next config offset

theorem perform_renounce_settles (config current : AccountWithMetadata) :
    Settles config (AdminConfig.performRenounce config current) := by
  unfold AdminConfig.performRenounce
  cases AdminConfig.fromAccount config with
  | error e => exact .inl ⟨_, rfl⟩
  | ok state =>
    simp only []
    cases state.renounce current with
    | mk result next =>
      cases result with
      | error e => exact .inl ⟨_, rfl⟩
      | ok u => exact write_to_settles next config

theorem perform_settles (op : Operation) (config : AccountWithMetadata) :
    Settles config (op.perform config) := by
  cases op with
  | transfer current candidate newAccount =>
    exact perform_at_settles (.transfer current candidate newAccount) config 0
  | nominate current newAdmin => exact perform_at_settles (.nominate current newAdmin) config 0
  | accept nominee => exact perform_at_settles (.accept nominee) config 0
  | renounce current => exact perform_renounce_settles config current

theorem call_settles (c : AccountCall) (config : AccountWithMetadata) :
    Settles config (c.call config) := by
  cases c with
  | writeTo c => exact write_to_settles c config
  | writeToAt c offset => exact write_to_at_settles c config offset
  | bootstrap candidate newAccount => exact bootstrap_settles config candidate newAccount
  | bootstrapAt offset candidate newAccount =>
    exact bootstrap_at_settles config offset candidate newAccount
  | perform op => exact perform_settles op config
  | performAt op offset => exact perform_at_settles op config offset

theorem from_account_at_fits (a : AccountWithMetadata) (offset : Nat) :
    AdminConfig.fromAccountAt a offset ≠ .error .accountDataTooLarge := by
  unfold AdminConfig.fromAccountAt AdminConfig.decodeAt
  split
  · simp
  · split
    · simp
    · simpa using of_authority_fits _

/-- Whatever an operation in memory reports is an error of the slot's. -/
theorem change_error {op : Operation} {c : AdminConfig} {e : AdminError}
    (h : (op.change c).1 = .error e) : ∃ a, e = .ofAuthority a := by
  have hmap : ∀ r : Except AuthorityError Unit, r.mapError .ofAuthority = .error e →
      ∃ a, e = .ofAuthority a := by
    intro r hr
    cases r with
    | error a => exact ⟨a, (Except.error.inj hr).symm⟩
    | ok u => cases hr
  cases op with
  | transfer current candidate newAccount =>
    simp only [Operation.change, AdminConfig.transfer] at h
    split at h
    · rename_i a _
      exact ⟨a, (Except.error.inj h).symm⟩
    · split at h
      · rename_i a _
        exact ⟨a, (Except.error.inj h).symm⟩
      · exact hmap _ h
  | nominate current newAdmin =>
    simp only [Operation.change, AdminConfig.nominate] at h
    split at h
    · rename_i a _
      exact ⟨a, (Except.error.inj h).symm⟩
    · cases h
  | accept nominee =>
    simp only [Operation.change, AdminConfig.accept] at h
    split at h
    · exact ⟨.renounced, (Except.error.inj h).symm⟩
    · exact hmap _ h
  | renounce current =>
    simp only [Operation.change, AdminConfig.renounce] at h
    split at h
    · rename_i a _
      exact ⟨a, (Except.error.inj h).symm⟩
    · cases h

variable [LawfulAuthority]

/-- The operations in memory change nothing either when they fail. -/
theorem change_refused {op : Operation} {c : AdminConfig} {e : AdminError}
    (h : (op.change c).1 = .error e) : (op.change c).2 = c := by
  cases op with
  | transfer current candidate newAccount =>
    simp only [Operation.change, AdminConfig.transfer] at h ⊢
    cases ha : assert c.slot current with
    | error e => rfl
    | ok u =>
      simp only [ha] at h ⊢
      cases hv : validate candidate newAccount with
      | error e => rfl
      | ok next =>
        simp only [hv] at h ⊢
        cases ht : (transferTo c.slot next).1 with
        | error e => rw [LawfulAuthority.transferTo_error _ _ _ ht]
        | ok u =>
          rw [ht] at h
          cases h
  | nominate current newAdmin =>
    simp only [Operation.change, AdminConfig.nominate] at h ⊢
    cases ha : assert c.slot current with
    | error e => rfl
    | ok u => simp [ha] at h
  | accept nominee =>
    simp only [Operation.change, AdminConfig.accept] at h ⊢
    split
    · rfl
    · rename_i hr
      rw [if_neg hr] at h
      cases ha : (AuthorityCrate.accept c.slot nominee).1 with
      | error e =>
        simp only [LawfulAuthority.accept_error _ _ _ ha]
      | ok u =>
        simp [ha, Except.mapError] at h
  | renounce current =>
    simp only [Operation.change, AdminConfig.renounce] at h ⊢
    cases ha : assert c.slot current with
    | error e => rfl
    | ok u => simp [ha] at h

theorem write_to_at_never_large (c : AdminConfig) (a : AccountWithMetadata) (offset : Nat) :
    (c.writeToAt a offset).1 ≠ .error .accountDataTooLarge := by
  by_cases hf : offset + 64 ≤ a.bytes.length
  · simp [write_to_at_fits c hf]
  · have hs : a.bytes.length < offset + 64 := by omega
    simp [write_to_at_short c hs]

theorem windowed_never_large {c : AccountCall} (h : c.windowed = true)
    (config : AccountWithMetadata) : (c.call config).1 ≠ .error .accountDataTooLarge := by
  cases c with
  | writeToAt c offset => exact write_to_at_never_large c config offset
  | bootstrapAt offset candidate newAccount =>
    rw [AccountCall.call, bootstrap_at_step]
    cases hv : validate candidate newAccount with
    | error e => simpa using of_authority_fits e
    | ok id =>
      by_cases hf : offset + 64 ≤ config.bytes.length <;> simp [hf]
  | performAt op offset =>
    rw [AccountCall.call, Operation.performAt_change, AdminConfig.performAt]
    cases hc : AdminConfig.fromAccountAt config offset with
    | error e =>
      have hf := from_account_at_fits config offset
      rw [hc] at hf
      simpa using hf
    | ok state =>
      cases hp : op.change state with
      | mk result next =>
        simp only [hp]
        cases result with
        | error e =>
          obtain ⟨a, rfl⟩ := change_error (e := e) (congrArg Prod.fst hp)
          simpa using of_authority_fits a
        | ok u => exact write_to_at_never_large next config offset
  | writeTo c => cases h
  | bootstrap candidate newAccount => cases h
  | perform op => cases h

/-- A refused call leaves the whole config account as it was, a refused operation in
memory the whole config, and no windowed call ever runs into the data limit. -/
theorem refused_changes_nothing :
    (∀ (c : AccountCall) (config : AccountWithMetadata) e,
      (c.call config).1 = .error e → (c.call config).2 = config) ∧
    (∀ (op : Operation) (c : AdminConfig) e, (op.change c).1 = .error e →
      (op.change c).2.seat = c.seat ∧ (op.change c).2.nominee = c.nominee) ∧
    (∀ (c : AccountCall) (config : AccountWithMetadata), c.windowed = true →
      (c.call config).1 ≠ .error .accountDataTooLarge) := by
  refine ⟨?_, ?_, fun c config h => windowed_never_large h config⟩
  · intro c config e h
    exact (call_settles c config).refused h
  · intro op c e h
    rw [change_refused h]
    exact ⟨rfl, rfl⟩

end

open Reference in
/-- A transfer that passes the check on the admin and fails on the candidate. -/
theorem refused_changes_nothing_transfer :
    let op := Operation.transfer (acct 1 true) .signer (acct 2 false)
    let config := embedded ⟨id 1, default⟩
    (op.performAt config 8).1 = .error .invalidCandidate ∧ (op.performAt config 8).2 = config := by
  intro op config
  have he : (op.performAt config 8).1 = .error .invalidCandidate := rfl
  exact ⟨he, refused_changes_nothing.1 (.performAt op 8) config _ he⟩

end AdminAuthority.Proofs
