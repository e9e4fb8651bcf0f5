import AdminAuthority.Model.Consumer
import AdminAuthority.Model.ManualSample
import AdminAuthority.Spec.Lifecycle
import Mathlib.Data.List.Forall2

/-! The rule for outputs that the repository records: exactly one post-state for every
account of an instruction, paired with it by position. -/

namespace AdminAuthority

variable [Lez]

/-- A post-state that can be the account's own. Only the data may differ, and only where
the instruction wrote to the account. -/
structure OwnPost (written : Prop) (pre post : Account) : Prop where
  nonce : post.nonce = pre.nonce
  balance : post.balance = pre.balance
  programOwner : post.programOwner = pre.programOwner
  data : ¬written → post.data = pre.data

/-- Every parameter has its own post-state, in its place. -/
def Instruction.Paired (i : Instruction) (accounts : Accounts) (out : SpelOutput) : Prop :=
  List.Forall₂ (fun x post => OwnPost (x ∈ i.writable) (accounts x).account post.account)
    i.params out.postStates

/-- What a run of statements may do to the accounts: give the writable ones other data. -/
def Rewritten (writable : List Ident) (s t : Accounts) : Prop :=
  ∀ x, t x = s x ∨ x ∈ writable ∧ ∃ d, t x = (s x).withData d

namespace ManualSample

/-- The two accounts that a swapped output exchanges look alike: to LEZ it then makes no
difference which is which. -/
def Call.Alike (accounts : Accounts) : Call → Prop
  | initializeProg => (accounts "caller").account = (accounts "prog_config").account
  | updateValue newValue =>
    OwnPost True (accounts "config").account (accounts "caller").account ∧
      (accounts "caller").bytes = LittleEndian.encode 8 newValue.toNat
  | adminTransfer _ => True
  | adminRenounce => True

end ManualSample
end AdminAuthority

/-! What the embedded reference program is for, without its bytes: a value that the
admin sets, next to an admin and a nominee that follow the lifecycle. -/

namespace AdminAuthority.EmbeddedSample
open Handover Lifecycle

structure ProgState where
  value : UInt64
  seat : AdminSeat

/-- The 96 bytes of a program state. -/
def ProgState.bytes (p : ProgState) : List UInt8 :=
  LittleEndian.encode 8 p.value.toNat ++ List.replicate 24 0 ++ AdminSeat.bytes p.seat

variable [Lez] [AuthorityCrate]

/-- One call on a program that has not been created yet. -/
def first : ProgCall → Except SpelError ProgState
  | .initializeProg caller =>
    if 96 ≤ Lez.dataMaxLength then
      match resolve .signer caller with
      | .ok id => .ok ⟨0, id, default⟩
      | .error e => .error (.ofAdmin e)
    else .error (.serializationError "data too large")
  | _ => .error (.ofAdmin .notInitialized)

/-- One call on a program that exists. -/
def next (p : ProgState) : ProgCall → Except SpelError ProgState
  | .initializeProg _ => .error (.accountAlreadyInitialized 1)
  | .updateValue caller newValue =>
    match authorise p.seat caller with
    | .ok () => .ok { p with value := newValue }
    | .error e => .error (.ofAdmin e)
  | .poke caller =>
    match authorise p.seat caller with
    | .ok () => .ok p
    | .error e => .error (.ofAdmin e)
  | .manage op =>
    match transition p.seat op with
    | .ok seat => .ok { p with seat }
    | .error e => .error (.ofAdmin e)

def progress (p : Option ProgState) (c : ProgCall) : Except SpelError ProgState :=
  match p with
  | some p => next p c
  | none => first c

/-- The program without its bytes. -/
def model : CallMachine (Option ProgState) ProgCall SpelError Unit where
  call p c :=
    match progress p c with
    | .ok q => (.ok (), some q)
    | .error e => (.error e, p)

/-- An account that holds a program state, or none. -/
def Represents (config : AccountWithMetadata) : Option ProgState → Prop
  | none => config.account = default
  | some p => config.bytes = p.bytes

end AdminAuthority.EmbeddedSample

/-! What a consumer program in embedded mode is for: fields that its admin changes, next
to a config that only the management instructions change. -/

namespace AdminAuthority

variable [Lez] [AuthorityCrate] {α : Type u} {β : Type v} {κ : Type w}

/-- The bytes of a struct. -/
def Layout.bytes (l : Layout α β) (s : Embedding α β) : List UInt8 :=
  l.before.encode s.before ++ s.admin.seat.bytes ++ l.after.encode s.after

/-- The program on the fields of its struct. -/
def StructConsumer.model (q : StructConsumer α β κ) :
    CallMachine (Embedding α β) (ConsumerCall κ) SpelError Unit where
  call s
    | .gated caller k =>
      match s.admin.assertAdmin caller with
      | .error e => (.error (.ofAdmin e), s)
      | .ok () =>
        match q.update k s with
        | .error e => (.error e, s)
        | .ok (before, after) =>
          if (q.layout.bytes ⟨before, s.admin, after⟩).length ≤ Lez.dataMaxLength then
            (.ok (), ⟨before, s.admin, after⟩)
          else (.error (.serializationError "data too large"), s)
    | .manage op =>
      ((op.change s.admin).1.mapError .ofAdmin, { s with admin := (op.change s.admin).2 })

/-- The signature and the role a call asks for: the nominee's to accept, the admin's for
everything else. -/
def ConsumerCall.Entitled (s : AdminSeat) : ConsumerCall κ → Prop
  | gated caller _ => s.holder ≠ default ∧ caller.isAuthorized = true ∧ caller.accountId = s.holder
  | manage (.accept nominee) =>
    s.holder ≠ default ∧ nominee.isAuthorized = true ∧ nominee.accountId = s.nominee
  | manage op => s.holder ≠ default ∧ (Lifecycle.signer op).isAuthorized = true ∧
      (Lifecycle.signer op).accountId = s.holder

/-- The instructions' own code leaves the admin and the nominee as they are. -/
def Consumer.KeepsSlot {L : Type u} (p : Consumer L κ) : Prop :=
  ∀ k config env s, (Block.exec (p.body k) ⟨config, p.locals⟩).result = .ok env →
    Lifecycle.stored config.bytes p.offset = .ok s →
      Lifecycle.stored env.config.bytes p.offset = .ok s

end AdminAuthority
