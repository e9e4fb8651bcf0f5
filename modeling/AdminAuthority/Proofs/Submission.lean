import AdminAuthority.Model.SampleChains
import AdminAuthority.Proofs.Chain
import AdminAuthority.Proofs.Gates

namespace AdminAuthority.Proofs
open AuthorityCrate Lifecycle Block ParsedFold

section
variable [Lez]

section
variable [Build]

/-- A first parameter pinned to the admin config's address is the admin config on chain. -/
theorem sent_config {i : Instruction} {constraints : List Constraint} {w : World}
    {accounts : Accounts} (tx : i.Sent constraints w accounts) {x : Ident} {params : List Ident}
    {c : Constraint} {rest : List Constraint} (hp : i.params = x :: params)
    (hc : constraints = c :: rest) (hpda : c.pda = some "admin_config") :
    (accounts x).account = w configPda := by
  have hmet := tx.constraints
  rw [hp, hc] at hmet
  have hid := (List.forall₂_cons.mp hmet).1.pda _ hpda
  rw [tx.onChain x (by simp [hp]), hid]
  rfl

/-- What stands at an address once a transaction has landed: what was there before, or
what the transaction puts out for the account it lists at that address. -/
theorem land_at {R : AccountWithMetadata → AccountPostState → Prop} {w : World}
    {pre : List AccountWithMetadata} {posts : List AccountPostState}
    (h : List.Forall₂ R pre posts) (id : AccountId) :
    w.land pre posts id = w id ∨
      ∃ a ∈ pre, ∃ post, R a post ∧ a.accountId = id ∧ w.land pre posts id = a.applied post := by
  induction h with
  | nil => exact .inl rfl
  | @cons a post pre posts hr _ ih =>
    simp only [World.land]
    by_cases hid : a.accountId = id
    · rw [if_pos hid]
      exact .inr ⟨a, List.mem_cons_self .., post, hr, hid, rfl⟩
    · rw [if_neg hid]
      rcases ih with he | ⟨b, hb, post', hr', hid', he⟩
      · exact .inl he
      · exact .inr ⟨b, List.mem_cons_of_mem a hb, post', hr', hid', he⟩

end

variable [AuthorityCrate]

/-- A single gate that does not pass is what the instruction ends with. -/
theorem gated_run {i : Instruction} {usizeMax : Nat} {args : List MetaNameValue} {g : GateArgs}
    (ha : i.attrs = [args]) (hg : requireAdminArgs usizeMax args = .ok g) {accounts : Accounts}
    {e : AdminError}
    (h : AdminConfig.gateAt (accounts g.configIdent) g.offset (accounts g.callerIdent) = .error e) :
    i.run usizeMax accounts = .ok (.error (.ofAdmin e)) := by
  have hparse : parseAll (requireAdminArgs usizeMax) [args] = .ok [g] := by
    rw [parseAll, hg]
    rfl
  have hp : Accounts.handler.prologue g accounts = .error (.ofAdmin e) :=
    prologue_error.mpr ⟨e, admits_error.mp h, rfl⟩
  rw [Instruction.run, ha, expand_ok Accounts.handler hparse]
  simp only [Except.map, List.reverse_singleton, List.map_cons, List.map_nil, List.cons_append,
    List.nil_append, exec_cons, ensure_error hp, andThen_fail]
  rfl

/-- An instruction behind one gate that goes through got past the gate. -/
theorem gated_ok {i : Instruction} {usizeMax : Nat} {args : List MetaNameValue} {g : GateArgs}
    (ha : i.attrs = [args]) (hg : requireAdminArgs usizeMax args = .ok g) {accounts : Accounts}
    {out : SpelOutput} (h : i.run usizeMax accounts = .ok (.ok out)) :
    AdminConfig.gateAt (accounts g.configIdent) g.offset (accounts g.callerIdent) = .ok () := by
  cases hgate : AdminConfig.gateAt (accounts g.configIdent) g.offset (accounts g.callerIdent) with
  | ok u => rfl
  | error e => cases (gated_run ha hg hgate).symm.trans h

end
end AdminAuthority.Proofs
