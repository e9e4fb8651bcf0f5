import AdminAuthority.Model.SampleChains
import AdminAuthority.Proofs.Diagram
import AdminAuthority.Proofs.ManualSample
import AdminAuthority.Proofs.OwnedReads
import AdminAuthority.Proofs.Submission

namespace AdminAuthority.Proofs
open Handover AuthorityCrate Lifecycle Block Fixture

section
variable [Lez]

/-- What a transaction puts out for one of its accounts when its instruction has given the
program's own account new data. -/
structure Posted (accounts : Accounts) (d : Data) (a : AccountWithMetadata)
    (post : AccountPostState) : Prop where
  programOwner : post.account.programOwner = a.account.programOwner
  data : post.account.data = a.account.data ∨ a = accounts "config" ∧ post.account.data = d
  claim : post.claim ≠ .none → a = accounts "config" ∧ post.account.data = d

theorem posted_config (accounts : Accounts) (d : Data) (claim : AutoClaim) :
    Posted accounts d (accounts "config")
      ⟨(Function.update accounts "config" ((accounts "config").withData d) "config").account,
        claim⟩ := by
  rw [Function.update_self]
  exact ⟨rfl, .inr ⟨rfl, rfl⟩, fun _ => ⟨rfl, rfl⟩⟩

theorem posted_other (accounts : Accounts) (d : Data) {x : Ident} (hx : x ≠ "config") :
    Posted accounts d (accounts x)
      (.ofAccount
        (Function.update accounts "config" ((accounts "config").withData d) x).account) := by
  rw [Function.update_of_ne hx]
  exact ⟨rfl, .inl rfl, fun h => absurd rfl h⟩

theorem fixture_posted (call : Call) (accounts : Accounts) (d : Data) :
    List.Forall₂ (Posted accounts d) (call.instruction.params.map accounts)
      (claimed call.constraints (call.instruction.finish
        (Function.update accounts "config" ((accounts "config").withData d))).postStates) := by
  cases call with
  | initializeProg =>
    exact .cons (posted_config accounts d _) (.cons (posted_other accounts d (by decide)) .nil)
  | updateValue newValue =>
    exact .cons (posted_other accounts d (by decide)) (.cons (posted_other accounts d (by decide))
      (.cons (posted_config accounts d _) .nil))

/-- What an instruction that goes through wrote, and where. -/
theorem fixture_run_ok [AuthorityCrate] {usizeMax : Nat} {call : Call} {accounts : Accounts}
    {out : SpelOutput} (h : call.instruction.run usizeMax accounts = .ok (.ok out)) :
    ∃ d : Data, d.bytes = LittleEndian.encode 8 call.value.toNat ∧
      out = call.instruction.finish
        (Function.update accounts "config" ((accounts "config").withData d)) := by
  obtain ⟨t, ht, rfl⟩ := run_ok h
  have hstore : (ManualSample.store ⟨call.value⟩ accounts).result = .ok t := by
    cases call with
    | initializeProg =>
      change ((ManualSample.store ⟨0⟩ accounts).andThen .next).result = .ok t at ht
      rwa [result_andThen_next] at ht
    | updateValue newValue =>
      change ((ManualSample.store ⟨newValue⟩ accounts).andThen .next).result = .ok t at ht
      rwa [result_andThen_next] at ht
  obtain ⟨d, hd, rfl⟩ := store_ok hstore
  exact ⟨d, hd, rfl⟩

variable [Build]

/-- The program's own account is pinned to its address. -/
theorem fixture_config {w : World} {call : Call} {accounts : Accounts}
    (tx : call.instruction.Sent call.constraints w accounts) :
    (accounts "config").accountId = programPda ∧ (accounts "config").account = w programPda := by
  have hid : (accounts "config").accountId = programPda := by
    have hmet := tx.constraints
    cases call with
    | initializeProg => exact (List.forall₂_cons.mp hmet).1.pda _ rfl
    | updateValue newValue =>
      have hrest := (List.forall₂_cons.mp (List.forall₂_cons.mp hmet).2).2
      exact (List.forall₂_cons.mp hrest).1.pda _ rfl
  have hmem : "config" ∈ call.instruction.params := by
    cases call with
    | initializeProg => exact List.mem_cons_self ..
    | updateValue newValue =>
      exact List.mem_cons_of_mem _ (List.mem_cons_of_mem _ (List.mem_cons_self ..))
  refine ⟨hid, ?_⟩
  rw [tx.onChain "config" hmem, hid]

/-- At every address, a transaction of the program's own leaves an owned account owned, and
the data as it was, unless it is the program's account. -/
theorem fixture_land {w : World} {call : Call} {accounts : Accounts} (d : Data)
    (tx : call.instruction.Sent call.constraints w accounts) (id : AccountId) :
    let v := w.land (call.instruction.params.map accounts) (claimed call.constraints
      (call.instruction.finish
        (Function.update accounts "config" ((accounts "config").withData d))).postStates)
    ((v id).data = (w id).data ∨ id = programPda ∧ (v id).data = d) ∧
      ((v id).programOwner = (w id).programOwner ∨
        id = programPda ∧ (v id).programOwner = Build.programId ∧ (v id).data = d) := by
  intro v
  have hv : v id = w id ∨ ∃ a ∈ call.instruction.params.map accounts, ∃ post,
      Posted accounts d a post ∧ a.accountId = id ∧ v id = a.applied post :=
    land_at (fixture_posted call accounts d) id
  rcases hv with he | ⟨a, ha, post, hpost, rfl, he⟩
  · rw [he]
    exact ⟨.inl rfl, .inl rfl⟩
  · obtain ⟨x, hx, rfl⟩ := List.mem_map.mp ha
    have hchain := tx.onChain x hx
    have hown : accounts x = accounts "config" → (accounts x).accountId = programPda := by
      intro h
      rw [h]
      exact (fixture_config tx).1
    rw [he]
    constructor
    · rw [applied_data, ← hchain]
      rcases hpost.data with hd | ⟨hc, hd⟩
      · exact .inl hd
      · exact .inr ⟨hown hc, hd⟩
    · rw [applied_owner, ← hchain, AccountPostState.settle]
      cases hc : post.claim with
      | none => exact .inl hpost.programOwner
      | claimed claim =>
        have hclaim : post.claim ≠ .none := by simp [hc]
        obtain ⟨hconfig, hd⟩ := hpost.claim hclaim
        exact .inr ⟨hown hconfig, rfl, (applied_data _ _).trans hd⟩

variable [AuthorityCrate]

/-- What a call of the program's own asks of the chain: to initialize, that the account does
not exist yet; to update, the signature of the admin stored at that moment. -/
def Admitted (w : World) (accounts : Accounts) : Call → Prop
  | .initializeProg => w programPda = default
  | .updateValue _ => ∃ s, w.seat = .ok s ∧ s.holder ≠ default ∧
      (accounts "caller").isAuthorized = true ∧ (accounts "caller").accountId = s.holder

variable [LawfulAuthority]

theorem fixture_admitted {usizeMax : Nat} {w : World} {call : Call} {accounts : Accounts}
    {out : SpelOutput} (tx : call.instruction.Sent call.constraints w accounts)
    (hok : call.instruction.run usizeMax accounts = .ok (.ok out)) : Admitted w accounts call := by
  cases call with
  | initializeProg =>
    have hd : (accounts "config").account = default :=
      (List.forall₂_cons.mp tx.constraints).1.init rfl
    exact (fixture_config tx).2.symm.trans hd
  | updateValue newValue =>
    have hparse : requireAdminArgs usizeMax [] = .ok ⟨"admin_config", "caller", 0⟩ := rfl
    have hgate : AdminConfig.gateAt (accounts "admin_config") 0 (accounts "caller") = .ok () :=
      gated_ok rfl hparse hok
    have hconfig : (accounts "admin_config").account = w configPda := sent_config tx rfl rfl rfl
    cases hs : w.seat with
    | error e =>
      have hstored : stored (accounts "admin_config").bytes 0 = .error e := by
        rw [AccountWithMetadata.bytes, hconfig]
        exact hs
      rw [AdminConfig.gateAt, from_account_at_error hstored] at hgate
      cases hgate
    | ok s =>
      have hstored : stored (accounts "admin_config").bytes 0 = .ok s := by
        rw [AccountWithMetadata.bytes, hconfig]
        exact hs
      rw [gate_at_authorise hstored] at hgate
      exact ⟨s, hs, authorise_ok.mp hgate⟩

variable [ExecutionCheck]

/-- To the library, a transaction of the program's own is something that happens elsewhere. -/
theorem fixture_own (hpda : programPda ≠ configPda) {usizeMax : Nat} {w v : World} {call : Call}
    {accounts : Accounts} (h : Step usizeMax w (.own call accounts) v) :
    ChainStep w .elsewhere v ∧ Admitted w accounts call ∧
      ((v programPda).data = (w programPda).data ∨
        (v programPda).data.bytes = LittleEndian.encode 8 call.value.toNat) := by
  cases h with
  | own tx hok hcheck =>
    obtain ⟨d, hd, rfl⟩ := fixture_run_ok hok
    have hland := fixture_land d tx
    refine ⟨.elsewhere ?_ ?_ ?_, fixture_admitted tx hok, ?_⟩
    · exact (hland configPda).1.resolve_right fun h => hpda h.1.symm
    · exact (hland configPda).2.resolve_right fun h => hpda h.1.symm
    · intro id hid
      rcases (hland id).2 with he | ⟨_, he, _⟩
      · rw [he]
        exact hid
      · rw [he]
        exact Build.deployed
    · rcases (hland programPda).1 with he | ⟨_, he⟩
      · exact .inl he
      · right
        rw [he, hd]

omit [LawfulAuthority] in
/-- The program's own value is eight bytes wherever it is written. -/
theorem fixture_small {usizeMax : Nat} {w v : World} {call : Call} {accounts : Accounts}
    (hs : SmallOthers w) (h : Step usizeMax w (.own call accounts) v) : SmallOthers v := by
  cases h with
  | own tx hok hcheck =>
    obtain ⟨d, hd, rfl⟩ := fixture_run_ok hok
    have hsmall : d.bytes.length < AdminConfig.SIZE := by
      rw [hd, LittleEndian.encode_length]
      decide
    intro id hid ho
    obtain ⟨hdata, howner⟩ := fixture_land d tx id
    rcases hdata with hdata | ⟨_, hdata⟩
    · rcases howner with howner | ⟨_, _, hwritten⟩
      · rw [hdata]
        exact hs id hid (howner.symm.trans ho)
      · rw [hwritten]
        exact hsmall
    · rw [hdata]
      exact hsmall

theorem fixture_step (hpda : programPda ≠ configPda) {usizeMax : Nat} {w v : World}
    {e : Fixture.Event} (h : Step usizeMax w e v) :
    Evolves (fun _ => True) w v := by
  cases e with
  | admin c =>
    cases h with
    | admin h => exact .single trivial h
  | own call accounts => exact .single trivial (fixture_own hpda h).1
  | elsewhere =>
    cases h with
    | elsewhere h _ => exact .single trivial h

theorem fixture_causes (hpda : programPda ≠ configPda) {usizeMax : Nat} {w v : World}
    {e : Fixture.Event} (hw : Sound w) (h : Step usizeMax w e v) :
    ((v configPda).data ≠ (w configPda).data → ∃ c, e = .admin c) ∧
      ((v programPda).data ≠ (w programPda).data → ∃ call accounts, e = .own call accounts ∧
        Admitted w accounts call ∧
          (v programPda).data.bytes = LittleEndian.encode 8 call.value.toNat) := by
  cases e with
  | admin c =>
    cases h with
    | admin h => exact ⟨fun _ => ⟨c, rfl⟩, fun hne => absurd (submit_other hw h hpda).1 hne⟩
  | own call accounts =>
    obtain ⟨hchain, hadmitted, hvalue⟩ := fixture_own hpda h
    refine ⟨fun hne => absurd (elsewhere_step hchain) hne, ?_⟩
    intro hne
    exact ⟨call, accounts, rfl, hadmitted, hvalue.resolve_left hne⟩
  | elsewhere =>
    cases h with
    | elsewhere h hdata =>
      exact ⟨fun hne => absurd (elsewhere_step h) hne, fun hne => absurd hdata hne⟩

/-- After a renounce no step changes a value that exists. -/
theorem fixture_frozen (hpda : programPda ≠ configPda) {usizeMax : Nat} {w v : World}
    {e : Fixture.Event} (hw : Sound w) (hr : w.phase = .renounced)
    (hvalue : (w programPda).data.bytes ≠ []) (h : Step usizeMax w e v) :
    (v configPda).data = (w configPda).data ∧ (v programPda).data = (w programPda).data := by
  obtain ⟨s, hs, hh⟩ := phase_renounced.mp hr
  have hadmits : ∀ accounts call, ¬Admitted w accounts call := by
    intro accounts call ha
    cases call with
    | initializeProg =>
      have hd : w programPda = default := ha
      rw [hd] at hvalue
      exact hvalue rfl
    | updateValue newValue =>
      obtain ⟨s', hs', hh', _⟩ := ha
      obtain rfl : s = s' := Except.ok.inj (hs.symm.trans hs')
      exact hh' hh
  obtain ⟨hconfig, hprog⟩ := fixture_causes hpda hw h
  constructor
  · by_contra hne
    obtain ⟨c, rfl⟩ := hconfig hne
    cases h with
    | admin h => exact renounced_refuses hw hr c _ h
  · by_contra hne
    obtain ⟨call, accounts, _, ha, _⟩ := hprog hne
    exact hadmits accounts call ha

/-- The consumer fixture as a whole. Its own instructions are nothing to the authority, so
its chain is one of the library's; its value changes only when it is created and in an
update signed by the admin of that moment, to what the call says; and after a renounce
both stay for good. -/
theorem fixture_safe (hpda : programPda ≠ configPda) {usizeMax : Nat} {w v : World}
    (hw : w configPda = default) (h : Run usizeMax w v) :
    Evolves (fun _ => True) w v ∧
      (∀ e u, Step usizeMax v e u →
        ((u configPda).data ≠ (v configPda).data → ∃ c, e = .admin c) ∧
        ((u programPda).data ≠ (v programPda).data → ∃ call accounts, e = .own call accounts ∧
          Admitted v accounts call ∧
            (u programPda).data.bytes = LittleEndian.encode 8 call.value.toNat)) ∧
      (v.phase = .renounced → (v programPda).data.bytes ≠ [] → ∀ u, Run usizeMax v u →
        (u configPda).data = (v configPda).data ∧ (u programPda).data = (v programPda).data) := by
  have hchain : Evolves (fun _ => True) w v :=
    (h.simulate (f := fun s => s) (I := fun _ => True)
      (fun _ _ _ _ _ hst => ⟨trivial, fixture_step hpda hst⟩) trivial).2
  have hsound := reachable_sound ((Reachable.start hw).evolve hchain)
  refine ⟨hchain, fun e u hst => fixture_causes hpda hsound hst, ?_⟩
  intro hr hvalue u hu
  have hall : Sound u ∧ u.phase = .renounced ∧ (u configPda).data = (v configPda).data ∧
      (u programPda).data = (v programPda).data := by
    refine hu.invariant (P := fun t => Sound t ∧ t.phase = .renounced ∧
      (t configPda).data = (v configPda).data ∧ (t programPda).data = (v programPda).data) ?_
      ⟨hsound, hr, rfl, rfl⟩
    intro s e t hs _ hst
    obtain ⟨hsound', hr', hc, hp⟩ := hs
    obtain ⟨hc', hp'⟩ := fixture_frozen hpda hsound' hr' (by rwa [hp]) hst
    have hevolves := fixture_step hpda hst
    refine ⟨?_, (phase_of_data hc').trans hr', hc'.trans hc, hp'.trans hp⟩
    exact hevolves.invariant (fun _ _ _ h _ hst => sound_step h hst) hsound'
  exact ⟨hall.2.2.1, hall.2.2.2⟩

end

open Reference in
/-- A key creates the value. To the library nothing happened. -/
theorem fixture_safe_created :
    let accounts : Accounts := fun x =>
      if x = "config" then ⟨default, false, programPda⟩ else acct 1 true
    let out := Fixture.initializeProg.finish
      (Function.update accounts "config"
        ((accounts "config").withData ⟨[0, 0, 0, 0, 0, 0, 0, 0], by decide⟩))
    let v := ledger.land (Fixture.initializeProg.params.map accounts)
      (claimed (Call.constraints .initializeProg) out.postStates)
    (v programPda).data.bytes = [0, 0, 0, 0, 0, 0, 0, 0] ∧ Evolves (fun _ => True) ledger v := by
  intro accounts out v
  have tx : Fixture.initializeProg.Sent (Call.constraints .initializeProg) ledger accounts := by
    refine ⟨?_, by decide, ?_⟩
    · intro x hx
      change x ∈ ["config", "owner"] at hx
      simp only [List.mem_cons, List.not_mem_nil, or_false] at hx
      rcases hx with rfl | rfl <;> rfl
    · refine .cons ⟨fun _ => rfl, nofun, ?_⟩ (.cons ⟨nofun, fun _ => rfl, nofun⟩ .nil)
      intro text h
      obtain rfl := Option.some.inj h
      rfl
  have hok : (Call.instruction .initializeProg).run 65535 accounts = .ok (.ok out) := rfl
  have hstep : Step 65535 ledger (.own .initializeProg accounts) v := .own tx hok rfl
  exact ⟨rfl, (fixture_safe (by decide) rfl (.single trivial hstep)).1⟩

section
variable [Lez] [Build] [AuthorityCrate] [LawfulAuthority] [ExecutionCheck]

/-- The fixture's value is too small to pass for a config. Where nobody else gives the
program a larger account, its owned reads are genuine in every run. -/
theorem fixture_owned_reads (hpda : programPda ≠ configPda) {usizeMax : Nat} {w v : World}
    (hw : w configPda = default) (hs : SmallOthers w)
    (h : Paths.Path (fun s e t => Step usizeMax s e t ∧ (e = .elsewhere → SmallOthers t))
      (fun _ => True) w v) {a : AccountWithMetadata} (ha : a.account = v a.accountId)
    (c : AdminConfig) :
    (AdminConfig.fromOwnedAccount a Build.programId = .ok c ↔
      a.accountId = configPda ∧ v.seat = .ok c.seat) ∧
    ∀ offset, AdminConfig.fromOwnedAccountAt a offset Build.programId = .ok c ↔
      a.accountId = configPda ∧ offset = 0 ∧ v.seat = .ok c.seat := by
  have hpath : Paths.Path SmallStep (fun _ => True) w v := by
    refine (h.simulate (f := fun s => s) (I := fun s => Sound s ∧ SmallOthers s) ?_
      ⟨start_sound hw, hs⟩).2
    intro s e t hinv _ hstep
    obtain ⟨hst, helse⟩ := hstep
    suffices hsmall : ∃ e', SmallStep s e' t by
      obtain ⟨e', he⟩ := hsmall
      exact ⟨small_step hinv.1 hinv.2 he, .single trivial he⟩
    cases e with
    | admin c =>
      cases hst with
      | admin h => exact ⟨.submit c, h, fun he => nomatch he⟩
    | own call accounts =>
      exact ⟨.elsewhere, (fixture_own hpda hst).1, fun _ => fixture_small hinv.2 hst⟩
    | elsewhere =>
      cases hst with
      | elsewhere h _ => exact ⟨.elsewhere, h, fun _ => helse rfl⟩
  exact owned_reads_genuine (.start hw) hs hpath ha c

end
end AdminAuthority.Proofs
