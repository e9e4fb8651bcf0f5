import AdminAuthority.Lib.Paths
import AdminAuthority.Model.Chain

/-! The chain's steps one by one, with what causes each of them. -/

namespace AdminAuthority

variable [Lez] [Build]

/-- The account that a call of one of the five instructions asks a signature of. -/
def ConfigCall.caller : ConfigCall → AccountWithMetadata
  | adminInitialize caller => caller
  | manage (.transfer current _ _) _ => current
  | manage (.nominate current _) _ => current
  | manage (.accept nominee) _ => nominee
  | manage (.renounce current) _ => current

/-- A transaction that calls one of the five instructions, or any other event. -/
inductive ChainEvent where
  | submit (c : ConfigCall)
  | elsewhere

/-- The transaction carries the signature of the account that its call names as caller,
and that account has the given id. -/
def ChainEvent.SignedBy (id : AccountId) : ChainEvent → Prop
  | submit c => c.caller.isAuthorized = true ∧ c.caller.accountId = id
  | elsewhere => False

variable [AuthorityCrate] [ExecutionCheck]

/-- One step of the chain. A transaction that is refused is no step. -/
inductive ChainStep : World → ChainEvent → World → Prop
  | submit {w : World} {config : AccountWithMetadata} {c : ConfigCall} {out : SpelOutput}
      (tx : Submitted w config c) (hok : c.dispatch config = .ok out)
      (hcheck : ExecutionCheck.validateExecution (config :: c.accounts) out.postStates
        Build.programId = true) :
      ChainStep w (.submit c) (w.land (config :: c.accounts) out.postStates)
  | elsewhere {w v : World} (hdata : (v configPda).data = (w configPda).data)
      (howner : (v configPda).programOwner = (w configPda).programOwner)
      (howned : ∀ id, (w id).programOwner ≠ default → (v id).programOwner ≠ default) :
      ChainStep w .elsewhere v

/-- The chain moves on by steps whose events are all allowed. -/
abbrev Evolves (allowed : ChainEvent → Prop) : World → World → Prop := Paths.Path ChainStep allowed

theorem Reachable.step {w v : World} {e : ChainEvent} (h : Reachable w) (hs : ChainStep w e v) :
    Reachable v := by
  cases hs with
  | submit tx hok hcheck => exact .submit h tx hok hcheck
  | elsewhere hdata howner howned => exact .elsewhere h hdata howner howned

theorem Reachable.evolve {allowed : ChainEvent → Prop} {w v : World} (h : Reachable w)
    (hp : Evolves allowed w v) : Reachable v :=
  hp.invariant (fun _ _ _ hr _ hs => hr.step hs) h

/-- A chain is reachable when it comes from one without the config by any steps. -/
theorem reachable_iff {v : World} :
    Reachable v ↔ ∃ w : World, w configPda = default ∧ Evolves (fun _ => True) w v := by
  constructor
  · intro h
    induction h with
    | start h => exact ⟨_, h, .refl _⟩
    | submit _ tx hok hcheck ih =>
      obtain ⟨w, hw, hp⟩ := ih
      exact ⟨w, hw, .snoc hp trivial (.submit tx hok hcheck)⟩
    | elsewhere _ hdata howner howned ih =>
      obtain ⟨w, hw, hp⟩ := ih
      exact ⟨w, hw, .snoc hp trivial (.elsewhere hdata howner howned)⟩
  · intro h
    obtain ⟨w, hw, hp⟩ := h
    exact (Reachable.start hw).evolve hp

end AdminAuthority
