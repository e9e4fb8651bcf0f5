import AdminAuthority.Model.Attributes

/-! What a single attribute argument says to each macro, without the loop around it. -/

namespace AdminAuthority

/-- One variable of a loop, with the value an argument gives it. -/
inductive Setting (ω : Type) where
  | configIdent (ident : Ident)
  | callerIdent (ident : Ident)
  | offset (value : ω)

/-- The key an argument sets the variable with. -/
def Setting.key {ω : Type} : Setting ω → Ident
  | configIdent _ => "admin_config"
  | callerIdent _ => "caller"
  | offset _ => "offset"

def InitializeVars.set (vars : InitializeVars) : Setting Expr → InitializeVars
  | .configIdent ident => { vars with configIdent := ident }
  | .callerIdent ident => { vars with callerIdent := ident }
  | .offset value => { vars with offsetExpr := some value }

def GateArgs.set (vars : GateArgs) : Setting Nat → GateArgs
  | .configIdent ident => { vars with configIdent := ident }
  | .callerIdent ident => { vars with callerIdent := ident }
  | .offset value => { vars with offset := value }

/-- What an argument sets in `#[admin_initialize]`, seen on blank variables. -/
def initializeSetting (pair : MetaNameValue) : Except Halt (Setting Expr) :=
  (initializeStep ⟨"", "", none⟩ pair).map fun vars =>
    match vars.offsetExpr with
    | some value => .offset value
    | none =>
      if pair.path.isIdent "admin_config" then .configIdent vars.configIdent
      else .callerIdent vars.callerIdent

/-- What it sets in `#[require_admin]`. -/
def gateSetting (usizeMax : Nat) (pair : MetaNameValue) : Except Halt (Setting Nat) :=
  (gateStep usizeMax ⟨"", "", 0⟩ pair).map fun vars =>
    if pair.path.isIdent "offset" then .offset vars.offset
    else if pair.path.isIdent "admin_config" then .configIdent vars.configIdent
    else .callerIdent vars.callerIdent

/-- The two macros were told the same. -/
inductive Setting.Agree (usizeMax : Nat) : Setting Expr → Setting Nat → Prop
  | configIdent (ident : Ident) : Agree usizeMax (.configIdent ident) (.configIdent ident)
  | callerIdent (ident : Ident) : Agree usizeMax (.callerIdent ident) (.callerIdent ident)
  | offset {value : Nat} (h : value ≤ usizeMax) :
      Agree usizeMax (.offset (.lit (.int value))) (.offset value)

/-- Both loops name the same accounts, and an offset seen so far is the same literal. -/
structure VarsAgree (usizeMax : Nat) (vars : InitializeVars) (gate : GateArgs) : Prop where
  configIdent : vars.configIdent = gate.configIdent
  callerIdent : vars.callerIdent = gate.callerIdent
  offset : ∀ e, vars.offsetExpr = some e → e = .lit (.int gate.offset) ∧ gate.offset ≤ usizeMax

/-- A value that is a bare parameter name. -/
def Expr.Names (e : Expr) (ident : Ident) : Prop := ∃ p, e = .path p ∧ p.getIdent = some ident

/-- The keys that `#[admin_initialize]` reads a parameter name under. -/
def MetaNameValue.NameKey (pair : MetaNameValue) : Prop :=
  pair.path.isIdent "admin_config" = true ∨ pair.path.isIdent "caller" = true

/-- An argument that `#[admin_initialize]` reads without complaint. -/
def MetaNameValue.Readable (pair : MetaNameValue) : Prop :=
  pair.path.isIdent "offset" = true ∨ pair.NameKey ∧ ∃ ident, pair.value.Names ident

/-- A parameter name given as a path that is not a bare identifier, such as `a::b`. -/
def MetaNameValue.SplitName (pair : MetaNameValue) : Prop :=
  pair.NameKey ∧ ∃ p, pair.value = .path p ∧ p.getIdent = none

/-- A compile error at one of the arguments or at the call site. -/
def Span.Within (args : List MetaNameValue) : Span → Prop
  | callSite => True
  | key pair => pair ∈ args
  | value pair => pair ∈ args

/-- The loop resolved its arguments, or refused them with a compile error of its own. -/
def EndsWell {α : Type} (args : List MetaNameValue) : Except Halt α → Prop
  | .ok _ => True
  | .error (.compileError span _) => span.Within args
  | .error (.panic _) => False

end AdminAuthority
