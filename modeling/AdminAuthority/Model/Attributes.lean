import Mathlib.Data.List.Basic

/-! The `key = value` arguments of the two attribute macros as the parser hands them
over, and the loops that read them. -/

namespace AdminAuthority

abbrev Ident := String

/-- A segment of a path, bare when it carries no generic arguments. -/
structure PathSegment where
  ident : Ident
  bare : Bool
deriving DecidableEq

structure Path where
  leadingColon : Bool
  segments : List PathSegment
deriving DecidableEq

/-- `Path::get_ident`. -/
def Path.getIdent (p : Path) : Option Ident :=
  match p.leadingColon, p.segments with
  | false, [s] => if s.bare then some s.ident else none
  | _, _ => none

/-- `Path::is_ident`. -/
def Path.isIdent (p : Path) (ident : Ident) : Bool := p.getIdent = some ident

/-- An integer literal stands for a number, whatever its base, digits and suffix. One with
a minus sign is a literal only where it ends the arguments; before a comma it is an
expression of another kind. -/
inductive Lit where
  | int (value : Nat)
  | negative (value : Nat)
  | other (token : String)
deriving DecidableEq

inductive Expr where
  | lit (lit : Lit)
  | path (path : Path)
  | other (tokens : String)
deriving DecidableEq

/-- One reading of offset expressions: a literal without a sign as the number it is, and
the rest as 0. -/
def Expr.literalValue : Expr → Nat
  | .lit (.int value) => value
  | _ => 0

structure MetaNameValue where
  path : Path
  value : Expr
deriving DecidableEq

/-- What a compile error is attached to. -/
inductive Span where
  | callSite
  | key (pair : MetaNameValue)
  | value (pair : MetaNameValue)
deriving DecidableEq

/-- How a macro ends that does not expand. -/
inductive Halt where
  | compileError (span : Span) (message : String)
  | panic (message : String)
deriving DecidableEq

/-- What `#[admin_initialize]` makes of its arguments. -/
structure InitializeArgs where
  configIdent : Ident
  callerIdent : Ident
  offset : Expr
deriving DecidableEq

/-- The variables of its loop. -/
structure InitializeVars where
  configIdent : Ident
  callerIdent : Ident
  offsetExpr : Option Expr
deriving DecidableEq

def initializeStep (vars : InitializeVars) (pair : MetaNameValue) : Except Halt InitializeVars :=
  match pair.path.getIdent with
  | none => .error (.compileError (.key pair) "expected an identifier key")
  | some key =>
    if key = "offset" then .ok { vars with offsetExpr := some pair.value }
    else if key = "admin_config" ∨ key = "caller" then
      match pair.value with
      | .path p =>
        match p.getIdent with
        | none => .error (.panic "bare ident")
        | some ident =>
          if key = "admin_config" then .ok { vars with configIdent := ident }
          else .ok { vars with callerIdent := ident }
      | _ => .error (.compileError (.value pair) "expected a bare parameter name")
    else .error (.compileError (.key pair)
      ("unknown key `" ++ key ++ "`; expected `admin_config`, `caller` or `offset`"))

def adminInitializeArgs (args : List MetaNameValue) : Except Halt InitializeArgs :=
  match args.foldlM initializeStep ⟨"admin_config", "caller", none⟩ with
  | .error halt => .error halt
  | .ok ⟨configIdent, callerIdent, some offset⟩ => .ok ⟨configIdent, callerIdent, offset⟩
  | .ok ⟨_, _, none⟩ => .error (.compileError .callSite
      ("#[admin_initialize] is embedded-mode only and its location is " ++
        "framework-stamped; dedicated mode provides the admin_initialize instruction instead"))

/-- What `#[require_admin]` makes of its arguments, and the variables of its loop. -/
structure GateArgs where
  configIdent : Ident
  callerIdent : Ident
  offset : Nat
deriving DecidableEq

/-- A literal that fits the `usize` of the compiler's host is taken as the offset. -/
def gateStep (usizeMax : Nat) (vars : GateArgs) (pair : MetaNameValue) : Except Halt GateArgs :=
  if pair.path.isIdent "offset" then
    match pair.value with
    | .lit (.int value) =>
      if value ≤ usizeMax then .ok { vars with offset := value }
      else .error (.compileError (.value pair) "number too large to fit in target type")
    | .lit (.negative _) => .error (.compileError (.value pair) "invalid digit found in string")
    | _ => .error (.compileError (.value pair) "offset must be an integer literal")
  else
    match pair.value with
    | .path p =>
      match p.getIdent with
      | some ident =>
        if pair.path.isIdent "admin_config" then .ok { vars with configIdent := ident }
        else if pair.path.isIdent "caller" then .ok { vars with callerIdent := ident }
        else .error (.compileError (.key pair)
          "unknown key; expected `admin_config` or `caller` or `offset`")
      | none => .error (.compileError (.value pair) "expected a bare parameter name")
    | _ => .error (.compileError (.value pair) "expected a bare parameter name")

def requireAdminArgs (usizeMax : Nat) (args : List MetaNameValue) : Except Halt GateArgs :=
  args.foldlM (gateStep usizeMax) ⟨"admin_config", "caller", 0⟩

end AdminAuthority
