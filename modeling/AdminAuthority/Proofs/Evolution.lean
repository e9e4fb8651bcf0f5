import AdminAuthority.Proofs.Chain
import AdminAuthority.Proofs.Codec
import AdminAuthority.Spec.Histories

namespace AdminAuthority.Proofs
open Handover AuthorityCrate Lifecycle CallMachine ExecutionCheck

section
variable [Lez] [Build]

theorem presented_iff {w : World} {config : AccountWithMetadata} {c : ConfigCall} :
    Submitted w config c ↔
      config.accountId = configPda ∧ config.account = w configPda ∧ Presented w c := by
  constructor
  · intro tx
    refine ⟨tx.pda, submitted_config tx, fun a ha => (submitted_account tx ha).1, ?_⟩
    have hd := tx.distinct
    rwa [List.map_cons, tx.pda] at hd
  · intro h
    obtain ⟨hid, haccount, hp⟩ := h
    refine ⟨hid, ?_, by rw [List.map_cons, hid]; exact hp.distinct⟩
    intro a ha
    rcases List.mem_cons.mp ha with rfl | ha
    · rw [haccount, hid]
    · exact hp.onChain a ha

/-- A call with one account besides the config is presented by that account's own state. -/
theorem presented_single {w : World} {c : ConfigCall} {id : AccountId}
    (hc : c.accounts = [⟨w id, true, id⟩]) (hid : id ≠ configPda) : Presented w c := by
  constructor
  · intro a ha
    rw [hc] at ha
    obtain rfl := List.mem_singleton.mp ha
    rfl
  · simpa [hc] using hid.symm

/-- The config after a landed transaction holds the data its first post-state has. -/
theorem land_seat {w : World} {config : AccountWithMetadata} {pre : List AccountWithMetadata}
    {account : Account} {claim : AutoClaim} {posts : List AccountPostState} {s : AdminSeat}
    (hid : config.accountId = configPda) (hs : stored account.data.bytes 0 = .ok s) :
    (w.land (config :: pre) (⟨account, claim⟩ :: posts)).seat = .ok s := by
  rw [World.seat, land_config hid, applied_data]
  exact hs

/-- The phase says as much as the diagram shows of the admin and the nominee. -/
theorem phase_initialized {w : World} :
    w.phase = .initialized ↔ ∃ s, w.seat = .ok s ∧ s.holder ≠ default := by
  unfold World.phase
  cases w.seat with
  | error e => simp
  | ok s =>
    by_cases hh : s.holder = default
    · simp [hh]
    · simp [hh]

theorem phase_renounced {w : World} :
    w.phase = .renounced ↔ ∃ s, w.seat = .ok s ∧ s.holder = default := by
  unfold World.phase
  cases w.seat with
  | error e => simp
  | ok s =>
    by_cases hh : s.holder = default
    · simp [hh]
    · simp [hh]

theorem phase_uninitialized {w : World} (h : Sound w) :
    w.phase = .uninitialized ↔ (w configPda).data.bytes = [] := by
  unfold World.phase World.seat
  constructor
  · intro hp
    rcases h.config with he | ⟨_, hl⟩
    · exact he
    · have hf : 0 + 64 ≤ (w configPda).data.bytes.length := by omega
      have hs : stored (w configPda).data.bytes 0 = .ok (.readAt _ 0 hf) :=
        stored_ok.mpr ⟨hf, (AdminSeat.bytes_readAt _ _ _).symm⟩
      rw [hs] at hp
      dsimp only at hp
      split at hp <;> cases hp
  · intro he
    rw [he]
    rfl

theorem seat_uninitialized {w : World} (h : (w configPda).data.bytes = []) :
    w.seat = .error .notInitialized := by
  rw [World.seat, h]
  rfl

variable [AuthorityCrate]

/-- The seat that a call which lands leaves. -/
def Leaves (w v : World) : ConfigCall → Prop
  | .adminInitialize caller => v.seat = .ok ⟨caller.accountId, default⟩
  | .manage op _ => ∃ s t, w.seat = .ok s ∧ transition s op = .ok t ∧ v.seat = .ok t

variable [LawfulAuthority] [ExecutionCheck]

/-- What a transaction that lands found and leaves. -/
theorem submit_step {w v : World} {c : ConfigCall} (hw : Sound w)
    (h : ChainStep w (.submit c) v) : Presented w c ∧ Permitted w c ∧ Leaves w v c := by
  cases h with
  | @submit config c out tx hok hcheck =>
    obtain ⟨hid, haccount, hp⟩ := presented_iff.mp tx
    refine ⟨hp, ?_⟩
    cases c with
    | adminInitialize caller =>
      obtain ⟨hd, hi⟩ := dispatch_initialize hok
      obtain ⟨hgenesis, he, d, hb, rfl⟩ := admin_initialize_ok hi
      have hmax : 64 ≤ Lez.dataMaxLength := by
        have hl := d.within
        rwa [hb, AdminSeat.bytes_length] at hl
      refine ⟨⟨haccount.symm.trans hd, hmax, hgenesis, he⟩, ?_⟩
      exact land_seat hid (stored_exact hb)
    | manage op offset =>
      have hi : op.instruct config offset = .ok out := hok
      obtain ⟨s, t, hs, ht, _⟩ := call_ok hi
      obtain ⟨hf, _⟩ := stored_ok.mp hs
      have hzero : offset = 0 := by
        have hc := hw.config
        rw [← haccount] at hc
        rcases hc with he | ⟨_, hl⟩
        · rw [AccountWithMetadata.bytes, he] at hf
          simp at hf
        · have hl' : config.bytes.length = 64 := hl
          omega
      subst hzero
      have hseat : w.seat = .ok s := by
        rw [World.seat, ← haccount]
        exact hs
      refine ⟨⟨rfl, s, t, hseat, ht⟩, s, t, hseat, ht, ?_⟩
      rw [instruct_step, step_ok.mpr ⟨s, hs, ht⟩] at hi
      obtain rfl := Except.ok.inj hi
      exact land_seat hid (stored_install t hf)

omit [LawfulAuthority] in
theorem elsewhere_step {w v : World} (h : ChainStep w .elsewhere v) :
    (v configPda).data = (w configPda).data := by
  cases h with
  | elsewhere hdata _ _ => exact hdata

theorem sound_step {w v : World} {e : ChainEvent} (hw : Sound w) (h : ChainStep w e v) :
    Sound v := by
  cases h with
  | submit tx hok _ =>
    obtain ⟨d, claim, hs⟩ := dispatch_success hw tx hok
    exact success_sound tx hs
  | elsewhere hdata howner howned => exact elsewhere_sound hw hdata howner howned

/-- The config PDA as a transaction passes it. -/
def configOn (w : World) : AccountWithMetadata := ⟨w configPda, false, configPda⟩

variable [LawfulCheck]

/-- What the library accepts, LEZ accepts too. -/
theorem submit_lands {w : World} {c : ConfigCall} {out : SpelOutput} (hw : Sound w)
    (hp : Presented w c) (h : c.dispatch (configOn w) = .ok out) :
    ∃ v, ChainStep w (.submit c) v := by
  have tx : Submitted w (configOn w) c := presented_iff.mpr ⟨rfl, rfl, hp⟩
  obtain ⟨d, claim, hs⟩ := dispatch_success hw tx h
  exact ⟨_, .submit tx h (LawfulCheck.accepts _ _ (success_rules hs))⟩

omit [ExecutionCheck] [LawfulCheck] in
/-- The checks of the diagram are all that `admin_initialize` makes. -/
theorem initialize_accepts {config caller : AccountWithMetadata} (hd : config.account = default)
    (hmax : 64 ≤ Lez.dataMaxLength)
    (hgenesis : ∀ key, Build.GENESIS = some key → caller.accountId = ⟨key⟩)
    (he : AuthorityCandidate.signer.Eligible caller) :
    ∃ out, (ConfigCall.adminInitialize caller).dispatch config = .ok out := by
  have hg : requireGenesis caller = .ok () := by
    unfold requireGenesis checkGenesis
    split
    · rename_i key hk
      rw [if_neg (fun hne => hne (hgenesis key hk))]
    · rfl
  have hv : validate .signer caller = .ok caller.accountId :=
    (LawfulAuthority.validate_ok_iff .signer caller _).mpr ⟨rfl, he⟩
  obtain ⟨c, hc, hseat⟩ := initialize_admin_ok he.1
  have hl : (AdminSeat.bytes c.seat).length ≤ Lez.dataMaxLength := by
    rw [AdminSeat.bytes_length]
    exact hmax
  have hb : AdminConfig.bootstrap config .signer caller =
      (.ok (), config.withData ⟨AdminSeat.bytes c.seat, hl⟩) := by
    simp only [AdminConfig.bootstrap, hv, hc, AdminConfig.writeTo, encode_seat, Data.tryFrom,
      dif_pos hl]
  rw [ConfigCall.dispatch, if_pos hd, adminInitialize, hg]
  simp only [hb]
  exact ⟨_, rfl⟩

theorem initialize_lands {w : World} {caller : AccountWithMetadata} (hw : Sound w)
    (hp : Presented w (.adminInitialize caller)) (h : Permitted w (.adminInitialize caller)) :
    ∃ v, ChainStep w (.submit (.adminInitialize caller)) v ∧
      v.seat = .ok ⟨caller.accountId, default⟩ := by
  obtain ⟨hd, hmax, hgenesis, he⟩ := h
  have hd' : (configOn w).account = default := hd
  obtain ⟨out, hok⟩ := initialize_accepts hd' hmax hgenesis he
  obtain ⟨v, hv⟩ := submit_lands hw hp hok
  exact ⟨v, hv, (submit_step hw hv).2.2⟩

theorem manage_lands {w : World} {op : Operation} {s t : AdminSeat} (hw : Sound w)
    (hp : Presented w (.manage op 0)) (hs : w.seat = .ok s) (ht : transition s op = .ok t) :
    ∃ v, ChainStep w (.submit (.manage op 0)) v ∧ v.seat = .ok t := by
  have hst : step (configOn w).bytes 0 op = .ok t := step_ok.mpr ⟨s, hs, ht⟩
  have hi := instruct_step op (configOn w) 0
  rw [hst] at hi
  obtain ⟨v, hv⟩ := submit_lands hw hp hi
  refine ⟨v, hv, ?_⟩
  obtain ⟨_, _, s', t', hs', ht', hseat⟩ := submit_step hw hv
  obtain rfl : s = s' := Except.ok.inj (hs.symm.trans hs')
  obtain rfl : t = t' := Except.ok.inj (ht.symm.trans ht')
  exact hseat

end

open Reference in
theorem ledger_initializes :
    ∃ v, ChainStep ledger (.submit (.adminInitialize (acct 1 true))) v ∧
      v.seat = .ok ⟨Reference.id 1, default⟩ := by
  have hid : Reference.id 1 ≠ configPda := by decide
  have hp : Presented ledger (.adminInitialize (acct 1 true)) :=
    presented_single rfl hid
  refine initialize_lands (start_sound rfl) hp ⟨rfl, by decide, ?_, by decide, by decide, rfl⟩
  intro key hk
  cases hk

open Reference in
/-- What somebody else's transaction can do meanwhile. -/
theorem third_created [Build] (w : World) : ChainStep w .elsewhere (withThird w) := by
  have hpda : configPda ≠ Reference.id 3 := by
    change (⟨Vector.replicate 32 212⟩ : AccountId) ≠ _
    decide
  have hconfig : withThird w configPda = w configPda := if_neg hpda
  refine .elsewhere (by rw [hconfig]) (by rw [hconfig]) ?_
  intro other ho
  by_cases he : other = Reference.id 3
  · have hcreated : withThird w other = (acct 3 true).account := if_pos he
    rw [hcreated]
    decide
  · have hsame : withThird w other = w other := if_neg he
    rwa [hsame]

end AdminAuthority.Proofs
