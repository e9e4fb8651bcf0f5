import AdminAuthority.Proofs.Diagram
import AdminAuthority.Proofs.Genesis

namespace AdminAuthority.Proofs
open Handover AuthorityCrate Lifecycle ExecutionCheck

section
variable [Build]

/-- A build whose environment spells a key carries that key. -/
theorem genesis_spelled {hex : String} (h : Genesis.GENESIS (some hex) = .ok Build.GENESIS) :
    ∃ key, Build.GENESIS = some key ∧ (⟨key⟩ : AccountId) ≠ default ∧
      Hex.render key.toList = hex.toLower := by
  cases hk : Genesis.genesisFromHex hex with
  | error panic =>
    rw [Genesis.GENESIS, hk] at h
    cases h
  | ok key =>
    rw [Genesis.GENESIS, hk] at h
    exact ⟨key, (Except.ok.inj h).symm, genesis_from_hex_renders hk⟩

variable [Lez]

theorem phase_start {w : World} (h : w configPda = default) : w.phase = .uninitialized := by
  rw [phase_uninitialized (start_sound h), h]
  rfl

/-- LEZ lets nobody take balance from an account that no program owns. -/
def NoDebit (w v : World) : Prop :=
  ∀ id, (w id).programOwner = default → (w id).balance ≤ (v id).balance

variable [AuthorityCrate] [LawfulAuthority] [ExecutionCheck]

/-- Behind every config that exists lies the `admin_initialize` that created it. -/
theorem first_admin {w v : World} (hw : w configPda = default)
    (h : Evolves (fun _ => True) w v) (hv : v.phase ≠ .uninitialized) :
    ∃ caller u u', Evolves (fun _ => True) w u ∧ u.phase = .uninitialized ∧
      ChainStep u (.submit (.adminInitialize caller)) u' ∧ Evolves (fun _ => True) u' v := by
  obtain ⟨u, e, u', hwu, hu, _, hst, hu', hrest⟩ := h.first_exit
    (P := fun u => u.phase = .uninitialized) (phase_start hw) hv
  have hsound := reachable_sound ((Reachable.start hw).evolve hwu)
  cases (step_phase hsound hst).resolve_left (fun he => hu' (he.trans hu)) with
  | @adminInitialize caller _ _ => exact ⟨caller, u, u', hwu, hu, hst, hrest⟩
  | adminRenounce hlive _ _ _ _ => cases hu.symm.trans hlive

/-- Who may initialize in a build with a genesis key. -/
theorem genesis_initializes {v u : World} {caller : AccountWithMetadata} {key : Vector UInt8 32}
    (hk : Build.GENESIS = some key) (hv : Sound v)
    (h : ChainStep v (.submit (.adminInitialize caller)) u) :
    caller.accountId = ⟨key⟩ ∧ caller.isAuthorized = true ∧ u.seat = .ok ⟨⟨key⟩, default⟩ := by
  obtain ⟨_, ⟨_, _, hgenesis, _, _, hsigned⟩, hleft⟩ := submit_step hv h
  have hid := hgenesis key hk
  have hseat : u.seat = .ok ⟨caller.accountId, default⟩ := hleft
  rw [hid] at hseat
  exact ⟨hid, hsigned, hseat⟩

/-- In a build whose environment spells a genesis key, nobody else ever becomes the first
admin, and nobody can keep the key from it while the config PDA is untouched. -/
theorem genesis_window [LawfulCheck] {hex : String}
    (henv : Genesis.GENESIS (some hex) = .ok Build.GENESIS) {w v : World}
    (hw : w configPda = default) (h : Evolves (fun _ => True) w v) :
    ∃ key : AccountId, Hex.render key.value.toList = hex.toLower ∧
      (∀ caller u, ChainStep v (.submit (.adminInitialize caller)) u →
        caller.accountId = key ∧ caller.isAuthorized = true ∧ u.seat = .ok ⟨key, default⟩) ∧
      (v configPda = default → 64 ≤ Lez.dataMaxLength → key ≠ configPda →
        (v key).programOwner ≠ default →
          ∃ u, ChainStep v (.submit (.adminInitialize ⟨v key, true, key⟩)) u) ∧
      (v.phase ≠ .uninitialized → ∃ caller u u', Evolves (fun _ => True) w u ∧
        ChainStep u (.submit (.adminInitialize caller)) u' ∧ Evolves (fun _ => True) u' v ∧
          caller.accountId = key ∧ caller.isAuthorized = true ∧
            u'.seat = .ok ⟨key, default⟩) := by
  obtain ⟨key, hk, hne, hspelled⟩ := genesis_spelled henv
  have hr : Reachable v := (Reachable.start hw).evolve h
  refine ⟨⟨key⟩, hspelled, ?_, ?_, ?_⟩
  · intro caller u hst
    exact genesis_initializes hk (reachable_sound hr) hst
  · intro hd hmax hpda howned
    have hp : Permitted v (.adminInitialize ⟨v ⟨key⟩, true, ⟨key⟩⟩) := by
      refine ⟨hd, hmax, ?_, hne, howned, rfl⟩
      intro key' hk'
      exact congrArg AccountId.mk (Option.some.inj (hk.symm.trans hk'))
    obtain ⟨u, hu, _⟩ := initialize_lands (reachable_sound hr) (presented_single rfl hpda) hp
    exact ⟨u, hu⟩
  · intro hphase
    obtain ⟨caller, u, u', hwu, _, hst, hrest⟩ := first_admin hw h hphase
    have hu := reachable_sound ((Reachable.start hw).evolve hwu)
    exact ⟨caller, u, u', hwu, hst, hrest, genesis_initializes hk hu hst⟩

end

open Reference in
/-- A build whose environment spells a key, after somebody else's transaction: only the key
can initialize, it can do so, and the config that then exists goes back to it. -/
theorem genesis_window_ledger :
    let key := Reference.id 1
    ∃ build : Build, build.GENESIS = some key.value ∧
      ChainStep ledger .elsewhere (withThird ledger) ∧
      (∀ caller u, ChainStep (withThird ledger) (.submit (.adminInitialize caller)) u →
        caller.accountId = key) ∧
      ∃ u, ChainStep (withThird ledger) (.submit (.adminInitialize ⟨ledger key, true, key⟩)) u ∧
        ∃ caller s s', Evolves (fun _ => True) ledger s ∧
          ChainStep s (.submit (.adminInitialize caller)) s' ∧ Evolves (fun _ => True) s' u ∧
            caller.accountId = key ∧ caller.isAuthorized = true ∧
              s'.seat = .ok ⟨key, default⟩ := by
  intro key
  let build : Build := ⟨Vector.replicate 8 7, by decide, some key.value⟩
  have hne : key ≠ default := by decide
  have hk : Genesis.genesisFromHex (Hex.render key.value.toList) = .ok key.value :=
    genesis_from_hex_ok.mpr ⟨render_genesis hne, by rw [Hex.asBytes_render, Hex.decode_encode]⟩
  have henv : Genesis.GENESIS (some (Hex.render key.value.toList)) = .ok build.GENESIS := by
    rw [Genesis.GENESIS, hk]
    rfl
  have hcheck : @LawfulCheck _ build _ := by
    constructor
    intro pre posts h
    have hp : List.Forall₂ (@PostRule _ instBuild) pre posts :=
      h.imp fun _ _ hr =>
        @PostRule.mk _ instBuild _ _ hr.nonce hr.programOwner hr.balance hr.data hr.unowned
    exact @LawfulCheck.accepts _ instBuild _ _ pre posts hp
  have hd : ledger configPda = default := rfl
  have hthird : Evolves (fun _ => True) ledger (withThird ledger) :=
    .single trivial (third_created ledger)
  have hsame : ∀ other : AccountId, Hex.render other.value.toList =
      (Hex.render key.value.toList).toLower → other = key := by
    intro other h
    rw [← (genesis_from_hex_renders hk).2] at h
    exact AccountId.bytes_injective (Hex.render_injective h)
  obtain ⟨key', hspelled, honly, hopen, _⟩ := genesis_window henv hd hthird
  obtain rfl := hsame key' hspelled
  obtain ⟨u, hu⟩ := hopen rfl (by decide) (by decide) (by decide)
  have hphase : u.phase ≠ .uninitialized := by
    have hlive : u.phase = .initialized := phase_initialized.mpr ⟨_, (honly _ u hu).2.2, hne⟩
    rw [hlive]
    decide
  obtain ⟨key'', hspelled', _, _, hcaused⟩ := genesis_window henv hd (.snoc hthird trivial hu)
  obtain rfl := hsame key'' hspelled'
  exact ⟨build, rfl, third_created ledger, fun caller u h => (honly caller u h).1, u, hu,
    hcaused hphase⟩

section
variable [Lez] [Build] [AuthorityCrate] [LawfulAuthority] [ExecutionCheck]

/-- While nothing is stored, only what happens elsewhere moves the chain, unless the
config PDA is the default account. -/
theorem untouched_step {w v : World} {e : ChainEvent} (hw : Sound w)
    (hu : w.phase = .uninitialized) (hne : w configPda ≠ default) (h : ChainStep w e v) :
    e = .elsewhere := by
  cases e with
  | elsewhere => rfl
  | submit c =>
    obtain ⟨_, hpermitted, _⟩ := submit_step hw h
    cases c with
    | adminInitialize caller => exact absurd hpermitted.1 hne
    | manage op offset =>
      obtain ⟨_, s, _, hs, _⟩ := hpermitted
      rw [seat_uninitialized ((phase_uninitialized hw).mp hu)] at hs
      cases hs

/-- The config PDA holds a balance and nothing else, and no program owns it. -/
structure Funded (w : World) : Prop where
  phase : w.phase = .uninitialized
  programOwner : (w configPda).programOwner = default
  balance : 0 < (w configPda).balance

omit [AuthorityCrate] [LawfulAuthority] [ExecutionCheck] in
theorem Funded.ne_default {w : World} (h : Funded w) : w configPda ≠ default := by
  intro hd
  have hb := h.balance
  rw [hd] at hb
  exact Nat.lt_irrefl 0 hb

theorem funded_step {w v : World} {e : ChainEvent} (hw : Sound w) (h : Funded w)
    (hst : ChainStep w e v) (hd : NoDebit w v) : Funded v := by
  obtain rfl := untouched_step hw h.phase h.ne_default hst
  cases hst with
  | elsewhere hdata howner _ =>
    constructor
    · rw [phase_of_data hdata, h.phase]
    · rw [howner, h.programOwner]
    · exact Nat.lt_of_lt_of_le h.balance (hd configPda h.programOwner)

/-- A balance sent to the config PDA before its `admin_initialize` blocks the program for
good: SPEL takes the account for an existing one, and the program never stores anything
in it. -/
theorem funded_config_blocked {w v : World} (hw : Reachable w) (hf : Funded w)
    (h : Paths.Path (fun s e t => ChainStep s e t ∧ NoDebit s t) (fun _ => True) w v) :
    v.phase = .uninitialized ∧ ∀ config c, Submitted v config c → c.dispatch config =
      match c with
      | .adminInitialize _ => .error (.accountAlreadyInitialized 0)
      | .manage _ _ => .error (.ofAdmin .notInitialized) := by
  have hall : Sound v ∧ Funded v := by
    refine h.invariant (P := fun u => Sound u ∧ Funded u) ?_ ⟨reachable_sound hw, hf⟩
    intro s e t hs _ hst
    exact ⟨sound_step hs.1 hst.1, funded_step hs.1 hs.2 hst.1 hst.2⟩
  obtain ⟨hsound, hfunded⟩ := hall
  refine ⟨hfunded.phase, ?_⟩
  intro config c tx
  have hc := submitted_config tx
  cases c with
  | adminInitialize caller =>
    exact if_neg fun hd => hfunded.ne_default (hc.symm.trans hd)
  | manage op offset =>
    have hs : stored config.bytes offset = .error .notInitialized := by
      rw [AccountWithMetadata.bytes, hc, (phase_uninitialized hsound).mp hfunded.phase]
      rfl
    change op.instruct config offset = _
    rw [instruct_step, step_refused hs]

end

open Reference in
/-- One unit of balance on the config PDA, and nobody can be the first admin. -/
theorem funded_config_blocked_gift :
    let w : World := fun other =>
      if other = configPda then { (default : Account) with balance := 1 } else ledger other
    (ConfigCall.adminInitialize (acct 1 true)).dispatch (configOn w) =
      .error (.accountAlreadyInitialized 0) := by
  intro w
  have hw : Reachable w :=
    .elsewhere (.start (w := ledger) rfl) rfl rfl (fun other h => by
      by_cases ho : other = configPda
      · subst ho
        exact absurd rfl h
      · have he : w other = ledger other := if_neg ho
        rwa [he])
  have hf : Funded w := ⟨rfl, rfl, Nat.zero_lt_one⟩
  have hid : Reference.id 1 ≠ configPda := by decide
  have hp : Presented w (.adminInitialize (acct 1 true)) :=
    presented_single rfl hid
  exact (funded_config_blocked hw hf (.refl w)).2 _ _ (presented_iff.mpr ⟨rfl, rfl, hp⟩)

end AdminAuthority.Proofs
