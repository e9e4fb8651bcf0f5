import AdminAuthority.Model.Chain
import AdminAuthority.Model.Reference
import AdminAuthority.Proofs.Initialization

namespace AdminAuthority.Proofs
open Handover AuthorityCrate Lifecycle CallMachine ExecutionCheck

section
variable [Lez] [Build]

/-- What every reachable chain has: the config is empty or 64 bytes that the program
owns, and its admin is another account, owned by some program. -/
structure Sound (w : World) : Prop where
  config : (w configPda).data.bytes = [] ∨
    ((w configPda).programOwner = Build.programId ∧ (w configPda).data.bytes.length = 64)
  admin : ∀ s, stored (w configPda).data.bytes 0 = .ok s → s.holder ≠ default →
    s.holder ≠ configPda ∧ (w s.holder).programOwner ≠ default

theorem applied_owner (pre : AccountWithMetadata) (post : AccountPostState) :
    (pre.applied post).programOwner = post.settle.programOwner := by
  unfold AccountWithMetadata.applied
  split <;> rfl

theorem applied_data (pre : AccountWithMetadata) (post : AccountPostState) :
    (pre.applied post).data = post.account.data := by
  unfold AccountWithMetadata.applied AccountPostState.settle
  split <;> split <;> rfl

/-- Accounts that come back as they went in keep their owner. -/
theorem land_unchanged_owner {w : World} {pre : List AccountWithMetadata}
    (hp : ∀ a ∈ pre, a.account = w a.accountId) (id : AccountId) :
    (w.land pre (pre.map (fun a => .ofAccount a.account)) id).programOwner =
      (w id).programOwner := by
  induction pre with
  | nil => rfl
  | cons a pre ih =>
    simp only [List.map_cons, World.land]
    split
    · rename_i hid
      subst hid
      rw [applied_owner, ← hp a (by simp)]
      rfl
    · exact ih (fun b hb => hp b (by simp [hb]))

theorem land_config {w : World} {config : AccountWithMetadata} {pre : List AccountWithMetadata}
    {post : AccountPostState} {posts : List AccountPostState} (h : config.accountId = configPda) :
    w.land (config :: pre) (post :: posts) configPda = config.applied post := by
  simp only [World.land, if_pos h]

theorem land_other_owner {w : World} {config : AccountWithMetadata} {pre : List AccountWithMetadata}
    {post : AccountPostState} {id : AccountId} (h : config.accountId = configPda)
    (hp : ∀ a ∈ pre, a.account = w a.accountId) (hid : id ≠ configPda) :
    (w.land (config :: pre) (post :: pre.map (fun a => .ofAccount a.account)) id).programOwner =
      (w id).programOwner := by
  have hne : config.accountId ≠ id := fun he => hid (he.symm.trans h)
  simp only [World.land, if_neg hne]
  exact land_unchanged_owner hp id

theorem submitted_account {w : World} {config a : AccountWithMetadata} {c : ConfigCall}
    (tx : Submitted w config c) (ha : a ∈ c.accounts) :
    a.account = w a.accountId ∧ a.accountId ≠ configPda := by
  refine ⟨tx.onChain a (by simp [ha]), ?_⟩
  have hd := tx.distinct
  simp only [List.map_cons, List.nodup_cons, List.mem_map, not_exists, not_and] at hd
  rw [← tx.pda]
  exact hd.1 a ha

theorem submitted_config {w : World} {config : AccountWithMetadata} {c : ConfigCall}
    (tx : Submitted w config c) : config.account = w configPda := by
  rw [← tx.pda]
  exact tx.onChain config (by simp)

/-- What a successful call on a sound chain does: the config comes first with new
data, every other account comes back as it went in, and each of them is owned. -/
structure Success (w : World) (config : AccountWithMetadata) (c : ConfigCall)
    (out : SpelOutput) (d : Data) (claim : AutoClaim) : Prop where
  posts : out.postStates = ⟨(config.withData d).account, claim⟩ ::
    c.accounts.map (fun a => .ofAccount a.account)
  length : d.bytes.length = 64
  config : config.account = default ∧ claim ≠ .none ∨
    config.account.programOwner = Build.programId
  owned : ∀ a ∈ c.accounts, a.account.programOwner ≠ default
  admin : ∀ s, stored d.bytes 0 = .ok s → s.holder ≠ default →
    s.holder ≠ configPda ∧ (w s.holder).programOwner ≠ default

/-- A successful output meets the rule of the check in every position. -/
theorem success_rules {w : World} {config : AccountWithMetadata} {c : ConfigCall} {out : SpelOutput}
    {d : Data} {claim : AutoClaim} (h : Success w config c out d claim) :
    List.Forall₂ PostRule (config :: c.accounts) out.postStates := by
  rw [h.posts]
  refine .cons ⟨rfl, rfl, rfl, ?_, ?_⟩ ?_
  · rcases h.config with ⟨hd, _⟩ | hp
    · exact .inr (.inr hd)
    · exact .inr (.inl hp)
  · intro ho
    rcases h.config with ⟨hd, _⟩ | hp
    · exact hd
    · exact absurd (hp.symm.trans ho) Build.deployed
  · rw [List.forall₂_map_right_iff, List.forall₂_same]
    intro a ha
    exact ⟨rfl, rfl, rfl, .inl rfl, fun ho => absurd ho (h.owned a ha)⟩

/-- A landed transaction keeps the chain sound. -/
theorem success_sound {w : World} {config : AccountWithMetadata} {c : ConfigCall}
    {out : SpelOutput} {d : Data} {claim : AutoClaim} (tx : Submitted w config c)
    (h : Success w config c out d claim) :
    Sound (w.land (config :: c.accounts) out.postStates) := by
  rw [h.posts]
  have hdata : (w.land (config :: c.accounts) (⟨(config.withData d).account, claim⟩ ::
      c.accounts.map (fun a => .ofAccount a.account)) configPda).data = d := by
    rw [land_config tx.pda, applied_data]
    rfl
  constructor
  · right
    rw [hdata]
    refine ⟨?_, h.length⟩
    rw [land_config tx.pda, applied_owner, AccountPostState.settle]
    rcases h.config with ⟨_, hc⟩ | hp
    · cases claim with
      | none => exact absurd rfl hc
      | claimed claim => rfl
    · cases claim with
      | none => exact hp
      | claimed claim => rfl
  · intro s hs hh
    rw [hdata] at hs
    obtain ⟨hne, hown⟩ := h.admin s hs hh
    refine ⟨hne, ?_⟩
    rw [land_other_owner tx.pda (fun a ha => (submitted_account tx ha).1) hne]
    exact hown

theorem start_sound {w : World} (h : w configPda = default) : Sound w := by
  refine ⟨.inl (by rw [h]; rfl), ?_⟩
  intro s hs
  rw [h] at hs
  cases hs

theorem elsewhere_sound {w v : World} (hw : Sound w)
    (hdata : (v configPda).data = (w configPda).data)
    (howner : (v configPda).programOwner = (w configPda).programOwner)
    (howned : ∀ id, (w id).programOwner ≠ default → (v id).programOwner ≠ default) : Sound v := by
  constructor
  · rw [hdata, howner]
    exact hw.config
  · rw [hdata]
    intro s hs hh
    obtain ⟨hne, ho⟩ := hw.admin s hs hh
    exact ⟨hne, howned _ ho⟩

variable [AuthorityCrate] [LawfulAuthority]

theorem initialize_success {w : World} {config caller : AccountWithMetadata} {out : SpelOutput}
    (tx : Submitted w config (.adminInitialize caller))
    (h : (ConfigCall.adminInitialize caller).dispatch config = .ok out) :
    ∃ d claim, Success w config (.adminInitialize caller) out d claim := by
  obtain ⟨hc, hi⟩ := dispatch_initialize h
  obtain ⟨_, ⟨_, hown, _⟩, d, hd, rfl⟩ := admin_initialize_ok hi
  obtain ⟨hon, hne⟩ := submitted_account tx (a := caller) (by simp [ConfigCall.accounts])
  refine ⟨d, _, rfl, by simp [hd], .inl ⟨hc, by simp⟩, ?_, ?_⟩
  · intro a ha
    obtain rfl : a = caller := by simpa [ConfigCall.accounts] using ha
    exact hown
  · intro s hs _
    obtain rfl : s = ⟨caller.accountId, default⟩ := Except.ok.inj (hs.symm.trans (stored_exact hd))
    exact ⟨hne, by rw [← hon]; exact hown⟩

theorem manage_success {w : World} (hw : Sound w) {config : AccountWithMetadata} {op : Operation}
    {offset : Nat} {out : SpelOutput} (tx : Submitted w config (.manage op offset))
    (h : op.instruct config offset = .ok out) :
    ∃ d claim, Success w config (.manage op offset) out d claim := by
  have hcw := submitted_config tx
  obtain ⟨s, t, hs, ht, _⟩ := call_ok h
  obtain ⟨hf, _⟩ := stored_ok.mp hs
  have hsound := hw.config
  rw [← hcw] at hsound
  have hset : config.account.programOwner = Build.programId ∧ config.bytes.length = 64 := by
    rcases hsound with hd | hp
    · rw [AccountWithMetadata.bytes, hd] at hf
      simp at hf
    · exact hp
  obtain rfl : offset = 0 := by have := hset.2; omega
  have hsw : stored (w configPda).data.bytes 0 = .ok s := by rw [← hcw]; exact hs
  have hon : ∀ a ∈ op.accounts, a.account = w a.accountId ∧ a.accountId ≠ configPda :=
    fun a ha => submitted_account tx ha
  have hown := allowed_owned ht (fun a ha => (hon a ha).1) (fun hh => (hw.admin s hsw hh).2)
  rw [instruct_step] at h
  have hst : step config.bytes 0 op = .ok t := step_ok.mpr ⟨s, hs, ht⟩
  simp only [hst, Except.ok.injEq] at h
  refine ⟨(config.install 0 t).account.data, .none, h ▸ rfl, ?_, .inr hset.1, hown, ?_⟩
  · exact (install_length config 0 t).trans hset.2
  · intro u hu hh
    obtain rfl : t = u := Except.ok.inj ((stored_install t hf).symm.trans hu)
    rcases allowed_holder ht with he | he | ⟨a, ha, he⟩
    · rw [he] at hh ⊢
      exact hw.admin s hsw hh
    · exact absurd he hh
    · rw [← he, ← (hon a ha).1]
      exact ⟨(hon a ha).2, hown a ha⟩

theorem dispatch_success {w : World} (hw : Sound w) {config : AccountWithMetadata} {c : ConfigCall}
    {out : SpelOutput} (tx : Submitted w config c) (h : c.dispatch config = .ok out) :
    ∃ d claim, Success w config c out d claim := by
  cases c with
  | adminInitialize caller => exact initialize_success tx h
  | manage op offset => exact manage_success hw tx h

/-- The admin can always renounce: its transaction is well formed and succeeds. -/
theorem admin_can_renounce {w : World} (hw : Sound w) {s : AdminSeat} (signed : Bool)
    (hs : stored (w configPda).data.bytes 0 = .ok s) (hh : s.holder ≠ default) :
    let config : AccountWithMetadata := ⟨w configPda, signed, configPda⟩
    let admin : AccountWithMetadata := ⟨w s.holder, true, s.holder⟩
    Submitted w config (.manage (.renounce admin) 0) ∧
      ∃ out, adminRenounce config admin 0 = .ok out := by
  intro config admin
  constructor
  · refine ⟨rfl, ?_, ?_⟩
    · simp [ConfigCall.accounts, Operation.accounts, config, admin]
    · simpa [ConfigCall.accounts, Operation.accounts, config, admin] using
        (hw.admin s hs hh).1.symm
  · have ha : authorise s admin = .ok () := authorise_ok.mpr ⟨hh, rfl, rfl⟩
    have hst : step config.bytes 0 (.renounce admin) = .ok ⟨default, default⟩ := by
      refine step_ok.mpr ⟨s, hs, ?_⟩
      exact transition_ok.mpr ⟨ha, rfl⟩
    have hi := instruct_step (.renounce admin) config 0
    rw [hst] at hi
    exact ⟨_, hi⟩

variable [ExecutionCheck]

theorem reachable_sound {w : World} (h : Reachable w) : Sound w := by
  induction h with
  | start h => exact start_sound h
  | submit _ tx hok _ ih =>
    obtain ⟨d, claim, hs⟩ := dispatch_success ih tx hok
    exact success_sound tx hs
  | elsewhere _ hdata howner howned ih => exact elsewhere_sound ih hdata howner howned

variable [LawfulCheck]

/-- On every chain that a run of the five instructions reaches, LEZ accepts each
output the library returns, one post-state for each account in order. A stored admin
is owned by some program, and a renounce that it authorises goes through. -/
theorem no_stranded_admin {w : World} (h : Reachable w) :
    (∀ config c out, Submitted w config c → c.dispatch config = .ok out →
      (∃ d claim, out.postStates = ⟨(config.withData d).account, claim⟩ ::
        c.accounts.map (fun a => .ofAccount a.account)) ∧
      validateExecution (config :: c.accounts) out.postStates Build.programId = true) ∧
    (∀ s, stored (w configPda).data.bytes 0 = .ok s → s.holder ≠ default →
      (w s.holder).programOwner ≠ default ∧ ∀ signed,
        let config : AccountWithMetadata := ⟨w configPda, signed, configPda⟩
        let admin : AccountWithMetadata := ⟨w s.holder, true, s.holder⟩
        ∃ out, adminRenounce config admin 0 = .ok out ∧
          validateExecution [config, admin] out.postStates Build.programId = true) := by
  have hw := reachable_sound h
  refine ⟨?_, ?_⟩
  · intro config c out tx hok
    obtain ⟨d, claim, hs⟩ := dispatch_success hw tx hok
    exact ⟨⟨d, claim, hs.posts⟩, LawfulCheck.accepts _ _ (success_rules hs)⟩
  · intro s hs hh
    refine ⟨(hw.admin s hs hh).2, ?_⟩
    intro signed config admin
    obtain ⟨tx, out, hok⟩ := admin_can_renounce hw signed hs hh
    obtain ⟨d, claim, hsucc⟩ := dispatch_success hw tx hok
    exact ⟨out, hok, LawfulCheck.accepts _ _ (success_rules hsucc)⟩

end

set_option maxRecDepth 4000 in
open Reference in
/-- The chain after one `admin_initialize` is reachable and its admin is owned. -/
theorem no_stranded_admin_initialized :
    let w : World := fun other => if other = Reference.id 1 then (acct 1 true).account else default
    let config : AccountWithMetadata := ⟨default, false, configPda⟩
    ∃ out : SpelOutput, Reachable (w.land [config, acct 1 true] out.postStates) ∧
      ((w.land [config, acct 1 true] out.postStates) (id 1)).programOwner ≠ default := by
  intro w config
  have hstart : Reachable w := .start rfl
  have tx : Submitted w config (.adminInitialize (acct 1 true)) := by
    refine ⟨rfl, ?_, by decide⟩
    intro a ha
    simp only [ConfigCall.accounts, List.mem_cons, List.not_mem_nil, or_false] at ha
    rcases ha with rfl | rfl <;> rfl
  have hok : (ConfigCall.adminInitialize (acct 1 true)).dispatch config = .ok ⟨[
      ⟨{ (dedicated ⟨id 1, default⟩).account with programOwner := default },
        .claimed (.pda (Lez.seedFromStr "admin_config"))⟩,
      ⟨(acct 1 true).account, .none⟩]⟩ := rfl
  have hr := Reachable.submit hstart tx hok rfl
  have hs := (no_stranded_admin hr).2 ⟨id 1, default⟩ rfl (by decide)
  exact ⟨_, hr, hs.1⟩

end AdminAuthority.Proofs
