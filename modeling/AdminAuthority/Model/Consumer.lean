import AdminAuthority.Model.Layout

/-! Consumer programs in embedded mode, whatever their instructions do. -/

namespace AdminAuthority
open Block

variable [Lez] [AuthorityCrate]

/-- A program with its slot at one offset of its own account. Each of its instructions
carries `#[require_admin]`. -/
structure Consumer (L : Type u) (κ : Type v) where
  offset : Nat
  locals : L
  body : κ → List (Stmt (Env L) SpelError)

/-- A call of a gated instruction of the program's own, or of a management instruction. -/
inductive ConsumerCall (κ : Type v) where
  | gated (caller : AccountWithMetadata) (k : κ)
  | manage (op : Operation)

def ConsumerCall.isManage {κ : Type v} : ConsumerCall κ → Bool
  | gated _ _ => false
  | manage _ => true

namespace Consumer

variable {L : Type u} {κ : Type v}

/-- The program on its one account. -/
def program [Build] (p : Consumer L κ) :
    CallMachine AccountWithMetadata (ConsumerCall κ) SpelError Unit where
  call config
    | .gated caller k =>
      Macros.handle p.locals (Macros.requireAdmin p.offset caller (p.body k)) config
    | .manage op => op.manage config p.offset

end Consumer

/-- A program whose gated instructions load its struct, change fields of their own in it
and save it. They see the slot and leave it as it is. -/
structure StructConsumer (α : Type u) (β : Type v) (κ : Type w) where
  layout : Layout α β
  update : κ → Embedding α β → Except SpelError (α × β)

namespace StructConsumer

variable {α : Type u} {β : Type v} {κ : Type w}

abbrev StructEnv (α : Type u) (β : Type v) := Env (Option (Embedding α β))

/-- `let mut state = T::from_account(&config)?;` -/
def load (q : StructConsumer α β κ) : Stmt (StructEnv α β) SpelError :=
  attempt fun env =>
    match q.layout.fromAccount env.config with
    | .ok state => .ok { env with locals := some state }
    | .error e => .error e

def change (q : StructConsumer α β κ) (k : κ) : Stmt (StructEnv α β) SpelError :=
  attempt fun env =>
    match env.locals with
    | none => .ok env
    | some state =>
      match q.update k state with
      | .ok (before, after) => .ok { env with locals := some ⟨before, state.admin, after⟩ }
      | .error e => .error e

/-- `state.write_to(&mut config)?;` -/
def save (q : StructConsumer α β κ) : Stmt (StructEnv α β) SpelError :=
  attempt fun env =>
    match env.locals with
    | none => .ok env
    | some state =>
      match q.layout.writeTo state env.config with
      | (.ok (), config) => .ok { env with config }
      | (.error e, _) => .error e

def consumer (q : StructConsumer α β κ) : Consumer (Option (Embedding α β)) κ where
  offset := q.layout.ADMIN_SLOT_OFFSET
  locals := none
  body k := [q.load, q.change k, q.save, .next]

end StructConsumer

/-- `update_value` of the embedded sample, as an update of its struct. -/
def EmbeddedSample.consumer : StructConsumer (UInt64 × Vector UInt8 24) Unit UInt64 where
  layout := EmbeddedSample.layout
  update newValue state := .ok ((newValue, state.before.2), ())

end AdminAuthority
