import AdminAuthority.Proofs.Diagram

namespace AdminAuthority.Proofs
open Handover AuthorityCrate Lifecycle ExecutionCheck

section
variable [Lez]

theorem caller_signer (op : Operation) (offset : Nat) :
    (ConfigCall.manage op offset).caller = signer op := by
  cases op <;> rfl

variable [Build]

/-- The event carries the signature of neither of two accounts. -/
def SignedByNeither (a b : AccountId) (e : ChainEvent) : Prop := ¬e.SignedBy a ∧ ¬e.SignedBy b

variable [AuthorityCrate] [LawfulAuthority] [ExecutionCheck]

/-- Without a signature of the admin or the nominee the seat stays as it is. -/
theorem seat_kept {w v : World} {e : ChainEvent} {s : AdminSeat} (hw : Sound w)
    (hs : w.seat = .ok s) (he : SignedByNeither s.holder s.nominee e) (h : ChainStep w e v) :
    v.seat = .ok s := by
  cases e with
  | elsewhere =>
    rw [World.seat, elsewhere_step h]
    exact hs
  | submit c =>
    obtain ⟨_, hpermitted, _⟩ := submit_step hw h
    cases c with
    | adminInitialize caller =>
      obtain ⟨hd, _⟩ := hpermitted
      rw [World.seat, hd] at hs
      cases hs
    | manage op offset =>
      obtain ⟨_, s', t, hs', ht⟩ := hpermitted
      obtain rfl : s = s' := Except.ok.inj (hs.symm.trans hs')
      obtain ⟨_, hsigned, hid⟩ := transition_caller ht
      rw [← caller_signer op offset] at hsigned hid
      rcases hid with hid | hid
      · exact absurd ⟨hsigned, hid⟩ he.1
      · exact absurd ⟨hsigned, hid⟩ he.2

theorem seat_stands {u v : World} {s : AdminSeat} (hu : Sound u) (hs : u.seat = .ok s)
    (h : Evolves (SignedByNeither s.holder s.nominee) u v) : Sound v ∧ v.seat = .ok s := by
  refine h.invariant (P := fun w => Sound w ∧ w.seat = .ok s) ?_ ⟨hu, hs⟩
  intro w e v hw he hst
  obtain ⟨hsound, hseat⟩ := hw
  exact ⟨sound_step hsound hst, seat_kept hsound hseat he hst⟩

/-- What a nomination that lands leaves. -/
theorem nomination_seat {w u : World} {admin : AccountWithMetadata} {nominee : AccountId}
    {offset : Nat} (hw : Sound w)
    (h : ChainStep w (.submit (.manage (.nominate admin nominee) offset)) u) :
    u.seat = .ok ⟨admin.accountId, nominee⟩ ∧ admin.accountId ≠ default := by
  obtain ⟨_, _, s, t, _, ht, hu⟩ := submit_step hw h
  obtain ⟨hc, rfl⟩ := transition_ok.mp ht
  obtain ⟨hh, _, hid⟩ := authorise_ok.mp hc
  rw [hid]
  exact ⟨hu, hh⟩

variable [LawfulCheck]

/-- Whoever signs, owns its account and is nominated can take the role. -/
theorem nominee_accepts {v : World} {s : AdminSeat} (hv : Sound v) (hs : v.seat = .ok s)
    (hh : s.holder ≠ default) (hn : s.nominee ≠ default) (hpda : s.nominee ≠ configPda)
    (howned : (v s.nominee).programOwner ≠ default) :
    ∃ v', ChainStep v (.submit (.manage (.accept ⟨v s.nominee, true, s.nominee⟩) 0)) v' ∧
      v'.seat = .ok ⟨s.nominee, default⟩ := by
  have ht : transition s (.accept ⟨v s.nominee, true, s.nominee⟩) = .ok ⟨s.nominee, default⟩ :=
    transition_ok.mpr ⟨authoriseNominee_ok.mpr ⟨hh, hn, rfl, rfl, howned⟩, rfl⟩
  exact manage_lands hv (presented_single rfl hpda) hs ht

/-- Once a nomination has landed, nothing that the admin and the nominee do not sign
themselves can take it back or take the role: whatever happens on the chain meanwhile,
the nominee can accept as soon as some program owns its account. -/
theorem handover_unblockable {w u v : World} {admin : AccountWithMetadata} {nominee : AccountId}
    {offset : Nat} (hw : Reachable w)
    (hn : ChainStep w (.submit (.manage (.nominate admin nominee) offset)) u)
    (hid : nominee ≠ default) (hpda : nominee ≠ configPda)
    (hs : Evolves (SignedByNeither admin.accountId nominee) u v) :
    v.seat = .ok ⟨admin.accountId, nominee⟩ ∧
      ((v nominee).programOwner ≠ default →
        ∃ v', ChainStep v (.submit (.manage (.accept ⟨v nominee, true, nominee⟩) 0)) v' ∧
          v'.seat = .ok ⟨nominee, default⟩) := by
  have hsound := reachable_sound hw
  obtain ⟨hseat, hadmin⟩ := nomination_seat hsound hn
  obtain ⟨hv, hstands⟩ := seat_stands (sound_step hsound hn) hseat hs
  exact ⟨hstands, fun howned => nominee_accepts hv hstands hadmin hid hpda howned⟩

end

open Reference in
/-- The admin nominates an id whose account does not exist yet. A program creates the account
in a transaction of somebody else's, and then the nominee accepts. -/
theorem handover_unblockable_nominated :
    ∃ w u v : World, ∃ admin nominee : AccountWithMetadata,
      ChainStep w (.submit (.manage (.nominate admin (Reference.id 3)) 0)) u ∧
      ChainStep u .elsewhere (withThird u) ∧
      (withThird u).seat = .ok ⟨Reference.id 1, Reference.id 3⟩ ∧
      ChainStep (withThird u) (.submit (.manage (.accept nominee) 0)) v ∧
      v.seat = .ok ⟨Reference.id 3, default⟩ := by
  obtain ⟨w, hw, hseat⟩ := ledger_initializes
  have hr : Reachable w := (Reachable.start rfl).step hw
  let admin : AccountWithMetadata := ⟨w (Reference.id 1), true, Reference.id 1⟩
  have ht : transition ⟨Reference.id 1, default⟩ (.nominate admin (Reference.id 3)) =
      .ok ⟨Reference.id 1, Reference.id 3⟩ := rfl
  have hp : Presented w (.manage (.nominate admin (Reference.id 3)) 0) :=
    presented_single rfl (by decide)
  obtain ⟨u, hu, _⟩ := manage_lands (reachable_sound hr) hp hseat ht
  have hquiet : SignedByNeither admin.accountId (Reference.id 3) .elsewhere :=
    ⟨fun h => h, fun h => h⟩
  obtain ⟨hstands, haccepts⟩ := handover_unblockable hr hu (by decide) (by decide)
    (.single hquiet (third_created u))
  have howned : (acct 3 true).account.programOwner ≠ default := by decide
  obtain ⟨v, hv, hseat'⟩ := haccepts howned
  exact ⟨w, u, v, admin, _, hu, third_created u, hstands, hv, hseat'⟩

end AdminAuthority.Proofs
