import AdminAuthority.Model.Attributes
import AdminAuthority.Model.Macros

/-! The attribute macros on a handler of any shape. They see its account parameters by
name only, and its statements not at all. -/

namespace AdminAuthority
open Block

variable [Lez]

/-- What the injected statements use of a handler: its account parameters, and what it
returns when a `?` meets one of the library's errors while the variables are as given. -/
structure Handler (σ : Type u) (ε : Type v) where
  account : Ident → σ → AccountWithMetadata
  assign : Ident → AccountWithMetadata → σ → σ
  raise : AdminError → σ → ε
  assign_account : ∀ x s, assign x (account x s) s = s

variable [AuthorityCrate]

/-- The check that a gate with these arguments makes. -/
def GateArgs.check (g : GateArgs) (config signer : AccountWithMetadata) : Except AdminError Unit :=
  AdminConfig.gateAt config g.offset signer

/-- The call that `#[admin_initialize]` with these arguments makes. Its offset is pasted in
as it was written, so it is `value` that says what it stands for. -/
def InitializeArgs.bootstrap (r : InitializeArgs) (value : Expr → Nat)
    (config caller : AccountWithMetadata) : Except AdminError Unit × AccountWithMetadata :=
  AdminConfig.bootstrapAt config (value r.offset) .signer caller

/-- The operations that only the current admin may run. -/
def Operation.byAdmin : Operation → Bool
  | accept _ => false
  | _ => true

namespace Handler

/-- A call on `&mut` an account parameter, followed by `?`. -/
def mutate (h : Handler σ ε) (x : Ident)
    (call : σ → Except AdminError Unit × AccountWithMetadata) : Stmt σ ε := fun s =>
  match call s with
  | (.ok (), config) => .next (h.assign x config s)
  | (.error e, config) => .fail (h.raise e (h.assign x config s))

def bootstrap (h : Handler σ ε) (value : Expr → Nat) (r : InitializeArgs) : Stmt σ ε :=
  h.mutate r.configIdent fun s =>
    r.bootstrap value (h.account r.configIdent s) (h.account r.callerIdent s)

/-- A consumer's own call of a `perform_*_at` function. Its arguments may depend on the
variables. -/
def perform (h : Handler σ ε) (x : Ident) (offset : Nat) (op : σ → Operation) : Stmt σ ε :=
  h.mutate x fun s => (op s).performAt (h.account x s) offset

/-- Whether a gate lets the variables pass. -/
def admits (h : Handler σ ε) (g : GateArgs) (s : σ) : Except AdminError Unit :=
  g.check (h.account g.configIdent s) (h.account g.callerIdent s)

/-- The same with the error a failed `?` makes of it. -/
def prologue (h : Handler σ ε) (g : GateArgs) (s : σ) : Except ε Unit :=
  (h.admits g s).mapError fun e => h.raise e s

def adminInitialize (h : Handler σ ε) (value : Expr → Nat) (args : List MetaNameValue)
    (stmts : List (Stmt σ ε)) : Except Halt (List (Stmt σ ε)) :=
  match adminInitializeArgs args with
  | .error halt => .error halt
  | .ok r =>
    let (body, tail) := stmts.splitAt (stmts.length - 1)
    .ok (body ++ [h.bootstrap value r] ++ tail)

def requireAdmin (h : Handler σ ε) (usizeMax : Nat) (args : List MetaNameValue)
    (stmts : List (Stmt σ ε)) : Except Halt (List (Stmt σ ε)) :=
  match requireAdminArgs usizeMax args with
  | .error halt => .error halt
  | .ok g => .ok (ensure (h.prologue g) :: stmts)

/-- A stack of `#[require_admin]`, written from the outermost one down to the one at the
`fn`. The compiler expands them in that order. -/
def expand (h : Handler σ ε) (usizeMax : Nat) (attrs : List (List MetaNameValue))
    (stmts : List (Stmt σ ε)) : Except Halt (List (Stmt σ ε)) :=
  attrs.foldlM (fun stmts args => h.requireAdmin usizeMax args stmts) stmts

end Handler

/-- The parameters of a handler with one config account it may change. -/
def Env.handler {L : Type u} (callerIdent : Ident) (caller : AccountWithMetadata) :
    Handler (Env L) SpelError where
  account x env := if x = callerIdent then caller else env.config
  assign x config env := if x = callerIdent then env else { env with config }
  raise e _ := .ofAdmin e
  assign_account x env := by
    by_cases h : x = callerIdent
    · rw [if_pos h]
    · rw [if_neg h, if_neg h]

namespace Handler
variable {L : Type u}

/-- On such a handler the macros are the ones that take their accounts as given. -/
theorem require_admin_env {usizeMax : Nat} {args : List MetaNameValue} {g : GateArgs}
    (hg : requireAdminArgs usizeMax args = .ok g) (hne : g.configIdent ≠ g.callerIdent)
    (caller : AccountWithMetadata) (stmts : List (Stmt (Env L) SpelError)) :
    (Env.handler g.callerIdent caller).requireAdmin usizeMax args stmts =
      .ok (Macros.requireAdmin g.offset caller stmts) := by
  have hstmt : ensure ((Env.handler g.callerIdent caller).prologue g) =
      (gateStmt g.offset caller : Stmt (Env L) SpelError) := by
    funext env
    simp only [ensure, prologue, admits, Env.handler, if_neg hne, if_true, GateArgs.check,
      gateStmt, attempt]
    cases AdminConfig.gateAt env.config g.offset caller <;> rfl
  rw [requireAdmin, hg, Macros.requireAdmin, ← hstmt]

theorem admin_initialize_env {args : List MetaNameValue} {r : InitializeArgs}
    (hr : adminInitializeArgs args = .ok r) (hne : r.configIdent ≠ r.callerIdent)
    (value : Expr → Nat) (caller : AccountWithMetadata) (stmts : List (Stmt (Env L) SpelError)) :
    (Env.handler r.callerIdent caller).adminInitialize value args stmts =
      .ok (Macros.adminInitialize (value r.offset) caller stmts) := by
  have hstmt : (Env.handler r.callerIdent caller).bootstrap value r =
      (bootstrapStmt (value r.offset) caller : Stmt (Env L) SpelError) := by
    funext env
    simp only [bootstrap, mutate, Env.handler, if_neg hne, if_true, InitializeArgs.bootstrap,
      bootstrapStmt, attempt]
    cases AdminConfig.bootstrapAt env.config (value r.offset) .signer caller with
    | mk result config => cases result <;> rfl
  rw [adminInitialize, hr, Macros.adminInitialize, ← hstmt]

end Handler
end AdminAuthority
