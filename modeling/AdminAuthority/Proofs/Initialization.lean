import AdminAuthority.Model.Reference
import AdminAuthority.Proofs.Provenance

namespace AdminAuthority.Proofs
open Handover AuthorityCrate Lifecycle CallMachine

section
variable [Lez] [AuthorityCrate]

/-- Before initialisation no management instruction gets past the empty data. -/
theorem manage_uninitialized [LawfulAuthority] {config : AccountWithMetadata}
    (h : config.account = default) (op : Operation) (offset : Nat) :
    op.instruct config offset = .error (.ofAdmin .notInitialized) := by
  rw [instruct_step, step_refused (stored_uncreated h offset)]

variable [Build]

theorem refused_stays {config : AccountWithMetadata} {c : ConfigCall} {e : SpelError}
    (h : c.dispatch config = .error e) : (dedicatedProgram.call config c).2 = config := by
  change config.landed (c.dispatch config) = config
  rw [h]
  rfl

theorem dispatch_initialize {config caller : AccountWithMetadata} {out : SpelOutput}
    (h : (ConfigCall.adminInitialize caller).dispatch config = .ok out) :
    config.account = default ∧ adminInitialize config caller = .ok out := by
  simp only [ConfigCall.dispatch] at h
  split at h
  · rename_i hd
    exact ⟨hd, h⟩
  · cases h

/-- SPEL's guard meets data, so nothing is initialised twice. -/
theorem reinitialize_refused {config : AccountWithMetadata} (h : config.bytes.length = 64)
    {c : ConfigCall} (hc : c.isInitialize = true) (out : SpelOutput) :
    c.dispatch config ≠ .ok out := by
  have hne : config.account ≠ default := by
    intro he
    rw [AccountWithMetadata.bytes, he] at h
    cases h
  cases c with
  | adminInitialize caller => simp [ConfigCall.dispatch, hne]
  | manage op offset => cases hc

variable [LawfulAuthority]

/-- What a successful `admin_initialize` establishes on an account that did not exist. -/
theorem initialize_ok {config caller : AccountWithMetadata} {out : SpelOutput}
    (h : (ConfigCall.adminInitialize caller).dispatch config = .ok out) :
    (∀ key, Build.GENESIS = some key → caller.accountId = ⟨key⟩) ∧
      AuthorityCandidate.signer.Eligible caller ∧
      (dedicatedProgram.call config (.adminInitialize caller)).2.bytes =
        AdminSeat.bytes ⟨caller.accountId, default⟩ := by
  obtain ⟨_, hi⟩ := dispatch_initialize h
  obtain ⟨hgenesis, he, d, hbytes, rfl⟩ := admin_initialize_ok hi
  refine ⟨hgenesis, he, ?_⟩
  change (config.landed ((ConfigCall.adminInitialize caller).dispatch config)).bytes = _
  rw [h]
  exact hbytes

/-- An initialised config keeps its 64 bytes whatever is called on it. -/
theorem call_keeps_length {config : AccountWithMetadata} (h : config.bytes.length = 64)
    (c : ConfigCall) : (dedicatedProgram.call config c).2.bytes.length = 64 := by
  cases hd : c.dispatch config with
  | error e => rw [refused_stays hd, h]
  | ok out =>
    cases c with
    | adminInitialize caller =>
      rw [(initialize_ok hd).2.2, AdminSeat.bytes_length]
    | manage op offset =>
      obtain ⟨_, t, _, _, hl⟩ := call_ok hd
      change ((instructionsAt offset).call config op).2.bytes.length = 64
      rw [hl, install_length, h]

theorem uninitialized_stays {config : AccountWithMetadata} (h : config.account = default)
    {c : ConfigCall} (hc : c.isInitialize = false ∨ ∃ e, c.dispatch config = .error e) :
    (dedicatedProgram.call config c).2 = config := by
  rcases hc with hc | ⟨e, he⟩
  · cases c with
    | adminInitialize caller => cases hc
    | manage op offset => exact refused_stays (manage_uninitialized h op offset)
  · exact refused_stays he

/-- Until an `admin_initialize` succeeds, a run leaves the account as it was. -/
theorem run_uninitialized {start : AccountWithMetadata} (h : start.account = default)
    {calls : List ConfigCall}
    (hc : (dedicatedProgram.accepted start calls).countP ConfigCall.isInitialize = 0) :
    dedicatedProgram.run start calls = start := by
  induction calls with
  | nil => rfl
  | cons c calls ih =>
    have hr : (dedicatedProgram.call start c).1 = c.dispatch start := rfl
    rw [accepted, hr] at hc
    cases hd : c.dispatch start with
    | error e =>
      simp only [hd, refused_stays hd] at hc
      rw [run_cons, refused_stays hd]
      exact ih hc
    | ok out =>
      simp only [hd, List.countP_cons] at hc
      have hk : c.isInitialize = false := by
        cases hk : c.isInitialize with
        | false => rfl
        | true => simp [hk] at hc
      have hs := uninitialized_stays h (.inl hk)
      rw [hs] at hc
      rw [run_cons, hs]
      exact ih (by omega)

/-- On an account that does not exist yet, at most one `admin_initialize` ever
succeeds. Before it every other instruction is refused, and it installs a signing,
owned caller, the genesis key where the build names one. -/
theorem initialized_once {start : AccountWithMetadata} (h : start.account = default)
    (calls : List ConfigCall) :
    (dedicatedProgram.accepted start calls).countP ConfigCall.isInitialize ≤ 1 ∧
      ((dedicatedProgram.accepted start calls).countP ConfigCall.isInitialize = 0 →
        dedicatedProgram.run start calls = start ∧ ∀ op offset,
          dedicatedProgram.call (dedicatedProgram.run start calls) (.manage op offset) =
            (.error (.ofAdmin .notInitialized), start)) ∧
      (∀ caller out, (dedicatedProgram.call (dedicatedProgram.run start calls)
          (.adminInitialize caller)).1 = .ok out →
        caller.isAuthorized = true ∧ caller.account.programOwner ≠ default ∧
          caller.accountId ≠ default ∧
          (∀ key, Build.GENESIS = some key → caller.accountId = ⟨key⟩) ∧
          (dedicatedProgram.run start (calls ++ [.adminInitialize caller])).bytes =
            AdminSeat.bytes ⟨caller.accountId, default⟩) := by
  refine ⟨?_, ?_, ?_⟩
  · refine accepted_once dedicatedProgram (P := fun config => config.account = default)
      (Q := fun config => config.bytes.length = 64) ?_ ?_ (fun _ c h => call_keeps_length h c)
      (fun _ _ out h hc => reinitialize_refused h hc out) h calls
    · intro config c hd hc
      rw [uninitialized_stays hd hc]
      exact hd
    · intro config c out _ hc hok
      cases c with
      | adminInitialize caller => rw [(initialize_ok hok).2.2, AdminSeat.bytes_length]
      | manage op offset => cases hc
  · intro hc
    have hrun := run_uninitialized h hc
    refine ⟨hrun, fun op offset => ?_⟩
    rw [hrun]
    have hm := manage_uninitialized h op offset
    have hs := refused_stays (c := .manage op offset) hm
    exact Prod.ext hm hs
  · intro caller out hok
    obtain ⟨hgenesis, ⟨hid, hown, hsigned⟩, hb⟩ := initialize_ok hok
    rw [run_append]
    exact ⟨hsigned, hown, hid, hgenesis, hb⟩

end

set_option maxRecDepth 4000 in
open Reference in
/-- A renounced program still refuses a second `admin_initialize`. -/
theorem initialized_once_renounced :
    let start := holding []
    let calls := [.adminInitialize (acct 1 true), .manage (.renounce (acct 1 true)) 0,
      .adminInitialize (acct 2 true)]
    dedicatedProgram.accepted start calls =
        [.adminInitialize (acct 1 true), .manage (.renounce (acct 1 true)) 0] ∧
      (dedicatedProgram.accepted start calls).countP ConfigCall.isInitialize ≤ 1 :=
  ⟨rfl, (initialized_once rfl _).1⟩

end AdminAuthority.Proofs
