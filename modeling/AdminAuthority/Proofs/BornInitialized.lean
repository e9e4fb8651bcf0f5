import AdminAuthority.Model.Macros
import AdminAuthority.Model.Reference
import AdminAuthority.Proofs.Bootstrap

namespace AdminAuthority.Proofs
open Handover AuthorityCrate Lifecycle Block

section
variable [Lez] [AuthorityCrate] {L : Type u}

/-- The config decodes to the signing caller as admin, with no nominee. -/
def Installed (offset : Nat) (caller config : AccountWithMetadata) : Prop :=
  caller.isAuthorized = true ∧ caller.accountId ≠ default ∧
    ∃ c, AdminConfig.fromAccountAt config offset = .ok c ∧ c.seat = ⟨caller.accountId, default⟩

/-- The statements before the last return early only with the caller installed. -/
def EarlyReturnsInstalled (offset : Nat) (caller : AccountWithMetadata)
    (stmts : List (Stmt (Env L) SpelError)) (entry : Env L) : Prop :=
  ∀ out, exec stmts.dropLast entry = .ret out → Installed offset caller out.config

/-- The last statement, on an account the bootstrap has filled, fails or leaves the
slot as it finds it. -/
def TailKeepsSlot (offset : Nat) (caller : AccountWithMetadata)
    (stmts : List (Stmt (Env L) SpelError)) (h : stmts ≠ []) (entry : Env L) : Prop :=
  ∀ env start, exec stmts.dropLast entry = .next env →
    AdminConfig.bootstrapAt env.config offset .signer caller = (.ok (), start) →
    ∀ out, (stmts.getLast h { env with config := start }).result = .ok out →
      stored out.config.bytes offset = stored start.bytes offset

/-- The expanded function runs the statements, the bootstrap, then the last one. -/
theorem exec_bootstrapped (offset : Nat) (caller : AccountWithMetadata)
    {stmts : List (Stmt (Env L) SpelError)} (h : stmts ≠ []) (entry : Env L) :
    (exec (Macros.adminInitialize offset caller stmts) entry).result =
      ((exec stmts.dropLast entry).andThen fun env =>
        (bootstrapStmt offset caller env).andThen (stmts.getLast h)).result := by
  rw [Macros.adminInitialize_eq offset caller h, List.append_assoc, exec_append]
  cases exec stmts.dropLast entry with
  | ret out => rfl
  | fail e => rfl
  | next env =>
    simp only [andThen_next, List.cons_append, List.nil_append, exec_cons]
    cases bootstrapStmt offset caller env with
    | ret out => rfl
    | fail e => rfl
    | next start => exact result_andThen_next _

/-- A gate runs before everything else and leaves the account alone. -/
theorem handle_gated (offset : Nat) (caller : AccountWithMetadata) (locals : L)
    (stmts : List (Stmt (Env L) SpelError)) (config : AccountWithMetadata) :
    Macros.handle locals (Macros.requireAdmin offset caller stmts) config =
      match AdminConfig.gateAt config offset caller with
      | .ok () => Macros.handle locals stmts config
      | .error e => (.error (.ofAdmin e), config) := by
  rw [Macros.handle, Macros.requireAdmin, exec_cons, gateStmt, attempt]
  cases AdminConfig.gateAt config offset caller <;> rfl

variable [LawfulAuthority]

theorem installed_iff {offset : Nat} {caller config : AccountWithMetadata} :
    Installed offset caller config ↔ caller.isAuthorized = true ∧ caller.accountId ≠ default ∧
      stored config.bytes offset = .ok ⟨caller.accountId, default⟩ := by
  constructor
  · intro h
    obtain ⟨hs, hid, c, hc, hseat⟩ := h
    refine ⟨hs, hid, ?_⟩
    cases hst : stored config.bytes offset with
    | error e => rw [from_account_at_error hst] at hc; cases hc
    | ok s =>
      obtain ⟨d, hd, rfl⟩ := from_account_at_ok hst
      obtain rfl : d = c := Except.ok.inj (hd.symm.trans hc)
      rw [hseat]
  · intro h
    obtain ⟨hs, hid, hst⟩ := h
    exact ⟨hs, hid, from_account_at_ok hst⟩

theorem bootstrap_installs {config start caller : AccountWithMetadata} {offset : Nat}
    (h : AdminConfig.bootstrapAt config offset .signer caller = (.ok (), start)) :
    Installed offset caller start := by
  obtain ⟨⟨hid, _, hs⟩, hf, rfl⟩ := bootstrap_at_ok h
  exact installed_iff.mpr ⟨hs, hid, stored_install _ hf⟩

/-- Exactly when `#[admin_initialize]` keeps its promise: what the body returns
without reaching the bootstrap is installed already, and what comes after the
bootstrap does not undo it. -/
theorem born_initialized_iff (offset : Nat) (caller : AccountWithMetadata)
    {stmts : List (Stmt (Env L) SpelError)} (h : stmts ≠ []) (entry : Env L) :
    (∀ out, (exec (Macros.adminInitialize offset caller stmts) entry).result = .ok out →
      Installed offset caller out.config) ↔
    EarlyReturnsInstalled offset caller stmts entry ∧ TailKeepsSlot offset caller stmts h entry := by
  rw [exec_bootstrapped offset caller h entry]
  unfold EarlyReturnsInstalled TailKeepsSlot
  cases exec stmts.dropLast entry with
  | fail e => simp [Flow.result]
  | ret out => simp [Flow.result]
  | next env =>
    cases hb : AdminConfig.bootstrapAt env.config offset .signer caller with
    | mk result start =>
      cases result with
      | error e =>
        have hs : bootstrapStmt offset caller env = .fail (.ofAdmin e) := by
          simp [bootstrapStmt, attempt, hb]
        simp only [andThen_next, hs, andThen_fail]
        constructor
        · intro _
          refine ⟨by simp, ?_⟩
          rintro _ _ henv hstart
          cases henv
          cases hb.symm.trans hstart
        · rintro _ out hout
          cases hout
      | ok u =>
        have hs : bootstrapStmt offset caller env = .next { env with config := start } := by
          simp [bootstrapStmt, attempt, hb]
        have hi := installed_iff.mp (bootstrap_installs hb)
        simp only [andThen_next, hs]
        constructor
        · intro hall
          refine ⟨by simp, ?_⟩
          rintro _ _ henv hstart out hout
          cases henv
          cases hb.symm.trans hstart
          rw [(installed_iff.mp (hall out hout)).2.2, hi.2.2]
        · rintro ⟨_, htail⟩ out hout
          have hst := htail env start rfl hb out hout
          exact installed_iff.mpr ⟨hi.1, hi.2.1, hst.trans hi.2.2⟩

end

/-- A body that writes its 96 bytes and returns before the last statement. -/
def returnsEarly [Lez] (config : AccountWithMetadata) : List (Stmt (Env Unit) SpelError) :=
  [fun env => .next { env with config }, fun env => .ret env, fun env => .next env]

open Reference in
/-- Such an instruction succeeds and leaves a slot without an admin. -/
theorem returns_early_born_renounced :
    let config := holding (List.replicate 96 0)
    (exec (Macros.adminInitialize 32 (acct 1 true) (returnsEarly config))
        ⟨holding [], ()⟩).result = .ok ⟨config, ()⟩ ∧
      stored config.bytes 32 = .ok ⟨default, default⟩ ∧
      ¬Installed 32 (acct 1 true) config := by
  intro config
  have hs : stored config.bytes 32 = .ok ⟨default, default⟩ := rfl
  refine ⟨rfl, hs, ?_⟩
  intro hi
  have hok := (installed_iff.mp hi).2.2
  rw [hs] at hok
  have hid : (default : AccountId) = Reference.id 1 := congrArg Seat.holder (Except.ok.inj hok)
  exact absurd hid (by decide)

open Reference in
/-- A body that writes its 96 bytes and lets the last statement return them succeeds, and
leaves the caller installed. -/
theorem born_initialized_straight :
    let config := holding (List.replicate 96 0)
    let stmts : List (Stmt (Env Unit) SpelError) :=
      [fun env => .next { env with config }, fun env => .next env]
    ∃ out, (exec (Macros.adminInitialize 32 (acct 1 true) stmts) ⟨holding [], ()⟩).result =
      .ok out ∧ Installed 32 (acct 1 true) out.config := by
  intro config stmts
  have hne : stmts ≠ [] := by simp [stmts]
  have hok : (exec (Macros.adminInitialize 32 (acct 1 true) stmts) ⟨holding [], ()⟩).result =
      .ok ⟨config.install 32 ⟨Reference.id 1, default⟩, ()⟩ := rfl
  refine ⟨_, hok, (born_initialized_iff 32 (acct 1 true) hne _).mpr ⟨?_, ?_⟩ _ hok⟩
  · intro out hout
    cases hout
  · intro env start _ _ out hout
    cases hout
    rfl

end AdminAuthority.Proofs
