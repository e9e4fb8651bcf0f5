import AdminAuthority.Lib.Block
import AdminAuthority.Model.Calls
import Mathlib.Data.List.TakeDrop

/-! What the attribute macros make of an instruction's body: its statements, with one
of the library's own put among them. -/

namespace AdminAuthority
open Block

variable [Lez]

/-- The variables of a body: the config account it may change, and its own. -/
structure Env (L : Type u) where
  config : AccountWithMetadata
  locals : L

variable [AuthorityCrate] {L : Type u}

/-- `AdminConfig::bootstrap_at(&mut config, offset, AdminCandidate::Signer, &caller)?;` -/
def bootstrapStmt (offset : Nat) (caller : AccountWithMetadata) : Stmt (Env L) SpelError :=
  attempt fun env =>
    match AdminConfig.bootstrapAt env.config offset .signer caller with
    | (.ok (), config) => .ok { env with config }
    | (.error e, _) => .error (.ofAdmin e)

/-- `{ let __admin_cfg = AdminConfig::from_account_at(&config, offset)?;
__admin_cfg.assert_admin(&caller)?; }` -/
def gateStmt (offset : Nat) (caller : AccountWithMetadata) : Stmt (Env L) SpelError :=
  attempt fun env =>
    match AdminConfig.gateAt env.config offset caller with
    | .ok () => .ok env
    | .error e => .error (.ofAdmin e)

namespace Macros

/-- `#[admin_initialize]` puts the bootstrap before the last statement. -/
def adminInitialize (offset : Nat) (caller : AccountWithMetadata)
    (stmts : List (Stmt (Env L) SpelError)) : List (Stmt (Env L) SpelError) :=
  let (body, tail) := stmts.splitAt (stmts.length - 1)
  body ++ [bootstrapStmt offset caller] ++ tail

/-- `#[require_admin]` puts the gate before the first statement. -/
def requireAdmin (offset : Nat) (caller : AccountWithMetadata)
    (stmts : List (Stmt (Env L) SpelError)) : List (Stmt (Env L) SpelError) :=
  gateStmt offset caller :: stmts

/-- A call of a handler with these statements: its result, and the account it leaves. A
failed transaction has no effect. -/
def handle (locals : L) (stmts : List (Stmt (Env L) SpelError)) (config : AccountWithMetadata) :
    Except SpelError Unit × AccountWithMetadata :=
  match (exec stmts ⟨config, locals⟩).result with
  | .ok env => (.ok (), env.config)
  | .error e => (.error e, config)

theorem adminInitialize_eq (offset : Nat) (caller : AccountWithMetadata)
    {stmts : List (Stmt (Env L) SpelError)} (h : stmts ≠ []) :
    adminInitialize offset caller stmts =
      stmts.dropLast ++ [bootstrapStmt offset caller] ++ [stmts.getLast h] := by
  simp only [adminInitialize, List.splitAt_eq, ← List.dropLast_eq_take]
  rw [List.drop_length_sub_one h]

end Macros
end AdminAuthority
