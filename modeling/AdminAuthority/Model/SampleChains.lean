import AdminAuthority.Model.Evolution
import AdminAuthority.Model.ManualSample

/-! The programs with instructions of their own, on chain: how a transaction brings such an
instruction onto it, the manual reference program, and the consumer fixture of the CI. -/

namespace AdminAuthority

/-- What the `#[account(..)]` of a parameter asks of its account. -/
structure Constraint where
  init : Bool
  signer : Bool
  pda : Option String

variable [Lez] [Build]

structure Constraint.Met (c : Constraint) (a : AccountWithMetadata) : Prop where
  init : c.init = true → a.account = default
  signer : c.signer = true → a.isAuthorized = true
  pda : ∀ text, c.pda = some text →
    a.accountId = Lez.forPublicPda Build.programId (Lez.seedFromStr text)

variable [AuthorityCrate]

/-- A transaction that LEZ and SPEL hand to an instruction: every account is passed as it
stands on chain, none is listed twice, and all constraints are met. -/
structure Instruction.Sent (i : Instruction) (constraints : List Constraint) (w : World)
    (accounts : Accounts) : Prop where
  onChain : ∀ x ∈ i.params, (accounts x).account = w (accounts x).accountId
  distinct : (i.params.map fun x => (accounts x).accountId).Nodup
  constraints : List.Forall₂ (fun x c => Constraint.Met c (accounts x)) i.params constraints

end AdminAuthority

/-! The manual reference program. -/

namespace AdminAuthority.ManualSample

/-- The constraints of an instruction's parameters, in order. -/
def Call.constraints : Call → List Constraint
  | initializeProg => [⟨true, false, some "admin_config"⟩, ⟨false, true, none⟩,
      ⟨true, false, some "program_config"⟩]
  | updateValue _ => [⟨false, false, some "admin_config"⟩, ⟨false, true, none⟩,
      ⟨false, false, some "program_config"⟩]
  | adminTransfer _ => [⟨false, false, some "admin_config"⟩, ⟨false, true, none⟩,
      ⟨false, false, none⟩]
  | adminRenounce => [⟨false, false, some "admin_config"⟩, ⟨false, true, none⟩]

variable [Lez] [Build] [AuthorityCrate] [ExecutionCheck]

/-- One step of the chain: a transaction that lands, or any other event that leaves the
admin config's data alone. SPEL may add claims to the accounts that a handler returns. -/
inductive Step (usizeMax : Nat) : World → Option Call → World → Prop
  | submit {w : World} {call : Call} {accounts : Accounts} {out : SpelOutput}
      {posts : List AccountPostState}
      (tx : call.instruction.Sent call.constraints w accounts)
      (hok : call.instruction.run usizeMax accounts = .ok (.ok out))
      (hposts : posts.map (·.account) = out.postStates.map (·.account))
      (hcheck : ExecutionCheck.validateExecution (call.instruction.params.map accounts) posts
        Build.programId = true) :
      Step usizeMax w (some call) (w.land (call.instruction.params.map accounts) posts)
  | elsewhere {w v : World} (hdata : (v configPda).data = (w configPda).data) :
      Step usizeMax w none v

abbrev Run (usizeMax : Nat) : World → World → Prop := Paths.Path (Step usizeMax) fun _ => True

end AdminAuthority.ManualSample

/-! The consumer fixture of the CI: a dedicated-mode program with a value of its own, next
to the five instructions of the library. -/

namespace AdminAuthority.Fixture
open Block

variable [Lez] [AuthorityCrate]

/-- `initialize`. The two programs write their value with the same statement. -/
def initializeProg : Instruction where
  params := ["config", "owner"]
  writable := ["config"]
  attrs := []
  body := [ManualSample.store ⟨0⟩]
  output := ["config", "owner"]

def updateValue (newValue : UInt64) : Instruction where
  params := ["admin_config", "caller", "config"]
  writable := ["config"]
  attrs := [[]]
  body := [ManualSample.store ⟨newValue⟩]
  output := ["admin_config", "caller", "config"]

/-- The program's own instructions with their arguments. -/
inductive Call where
  | initializeProg
  | updateValue (newValue : UInt64)

def Call.instruction : Call → Instruction
  | initializeProg => Fixture.initializeProg
  | updateValue newValue => Fixture.updateValue newValue

/-- The value that a call writes. -/
def Call.value : Call → UInt64
  | initializeProg => 0
  | updateValue newValue => newValue

def Call.constraints : Call → List Constraint
  | initializeProg => [⟨true, false, some "program_config"⟩, ⟨false, true, none⟩]
  | updateValue _ => [⟨false, false, some "admin_config"⟩, ⟨false, true, none⟩,
      ⟨false, false, some "program_config"⟩]

/-- SPEL claims the account that an instruction creates. -/
def claimed : List Constraint → List AccountPostState → List AccountPostState
  | c :: constraints, post :: posts =>
    (match c.init, c.pda with
      | true, some text => ⟨post.account, .claimed (.pda (Lez.seedFromStr text))⟩
      | _, _ => post) :: claimed constraints posts
  | _, posts => posts

variable [Build]

/-- Where the program's value lives. -/
def programPda : AccountId := Lez.forPublicPda Build.programId (Lez.seedFromStr "program_config")

/-- A transaction that calls one of the library's instructions or one of the program's own,
or any other event. -/
inductive Event where
  | admin (c : ConfigCall)
  | own (call : Call) (accounts : Accounts)
  | elsewhere

/-- One step of the chain. Other events leave the program's value alone, too. -/
inductive Step [ExecutionCheck] (usizeMax : Nat) : World → Event → World → Prop
  | admin {w v : World} {c : ConfigCall} (h : ChainStep w (.submit c) v) :
      Step usizeMax w (.admin c) v
  | own {w : World} {call : Call} {accounts : Accounts} {out : SpelOutput}
      (tx : call.instruction.Sent call.constraints w accounts)
      (hok : call.instruction.run usizeMax accounts = .ok (.ok out))
      (hcheck : ExecutionCheck.validateExecution (call.instruction.params.map accounts)
        (claimed call.constraints out.postStates) Build.programId = true) :
      Step usizeMax w (.own call accounts) (w.land (call.instruction.params.map accounts)
        (claimed call.constraints out.postStates))
  | elsewhere {w v : World} (h : ChainStep w .elsewhere v)
      (hdata : (v programPda).data = (w programPda).data) : Step usizeMax w .elsewhere v

abbrev Run [ExecutionCheck] (usizeMax : Nat) : World → World → Prop :=
  Paths.Path (Step usizeMax) fun _ => True

end AdminAuthority.Fixture
