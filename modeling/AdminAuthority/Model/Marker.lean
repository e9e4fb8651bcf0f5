import AdminAuthority.Model.Attributes

/-! The attributes of a consumer's module, among them the library's marker, as the compiler
expands them from the top. -/

namespace AdminAuthority.Marker

/-- What an attribute's path names. Attributes that are no macro stay on the module. -/
inductive Target where
  | adminAuthority
  | lezProgram
  | inert
deriving DecidableEq

structure Attribute where
  path : Path
  target : Target
deriving DecidableEq

structure ItemMod where
  ident : Ident
  attrs : List Attribute
deriving DecidableEq

structure CompileError where
  span : Ident
  message : String
deriving DecidableEq

def misplacedAboveLezProgram (module : ItemMod) : Option CompileError :=
  if module.attrs.any fun a => a.path.isIdent "lez_program" then
    some ⟨module.ident, "#[admin_authority] must come after #[lez_program]: a marker above " ++
      "it expands first and is invisible to the framework"⟩
  else none

/-- `#[admin_authority]`, on a module without the marker itself. -/
def adminAuthority (item : ItemMod) : Except CompileError ItemMod :=
  match misplacedAboveLezProgram item with
  | some err => .error err
  | none => .ok item

/-- The attributes that `#[lez_program]` finds on the module when its turn comes, or none
if there is no such attribute. Those above it that are no macro are kept. -/
def expand (ident : Ident) (kept : List Attribute) :
    List Attribute → Except CompileError (Option (List Attribute))
  | [] => .ok none
  | a :: rest =>
    match a.target with
    | .inert => expand ident (kept ++ [a]) rest
    | .lezProgram => .ok (some (kept ++ rest))
    | .adminAuthority =>
      match adminAuthority ⟨ident, kept ++ rest⟩ with
      | .ok _ => expand ident kept rest
      | .error err => .error err

end AdminAuthority.Marker
