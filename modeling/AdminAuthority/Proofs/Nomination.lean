import AdminAuthority.Model.Reference
import AdminAuthority.Proofs.Outputs
import AdminAuthority.Proofs.Transition

namespace AdminAuthority.Proofs
open Handover AuthorityCrate Lifecycle CallMachine

section
variable [Lez]

/-- A second seat leaves no trace of the first. -/
theorem install_install {a : AccountWithMetadata} {offset : Nat} (s t : AdminSeat)
    (h : offset + 64 ≤ a.bytes.length) :
    (a.install offset s).install offset t = a.install offset t := by
  have hf : offset + (AdminSeat.bytes s).length ≤ a.bytes.length := by simpa using h
  have hl : (AdminSeat.bytes t).length = (AdminSeat.bytes s).length := by simp
  have hbytes : ((a.install offset s).install offset t).bytes = (a.install offset t).bytes := by
    rw [install_bytes (by simpa using h), install_bytes h, install_bytes h,
      Window.splice_splice hf hl]
  have hdata : ((a.install offset s).install offset t).account.data =
      (a.install offset t).account.data := data_ext hbytes
  change a.withData ((a.install offset s).install offset t).account.data = _
  rw [hdata]
  rfl

/-- The account as it was, or with another nominee next to the same admin. -/
def OnlyNominated (offset : Nat) (config mid : AccountWithMetadata) : Prop :=
  mid = config ∨ ∃ s n, stored config.bytes offset = .ok s ∧
    mid = config.install offset ⟨s.holder, n⟩

theorem only_nominated_stored {offset : Nat} {config mid : AccountWithMetadata}
    (h : OnlyNominated offset config mid) {s : AdminSeat}
    (hs : stored config.bytes offset = .ok s) :
    ∃ n, stored mid.bytes offset = .ok ⟨s.holder, n⟩ ∧
      ∀ t, mid.install offset t = config.install offset t := by
  obtain ⟨hf, _⟩ := stored_ok.mp hs
  rcases h with rfl | ⟨s', n, hs', rfl⟩
  · exact ⟨s.nominee, hs, fun _ => rfl⟩
  · obtain rfl : s = s' := Except.ok.inj (hs.symm.trans hs')
    exact ⟨n, stored_install _ hf, fun t => install_install _ t hf⟩

theorem only_nominated_refused {offset : Nat} {config mid : AccountWithMetadata}
    (h : OnlyNominated offset config mid) {e : AdminError}
    (hs : stored config.bytes offset = .error e) : mid = config := by
  rcases h with rfl | ⟨s, n, hs', rfl⟩
  · rfl
  · cases hs.symm.trans hs'

variable [AuthorityCrate]

/-- Nothing but an acceptance looks at the nominee. -/
theorem transition_holder {s : AdminSeat} {op : Operation} (hop : op.byAdmin = true)
    (n : AccountId) : transition ⟨s.holder, n⟩ op = transition s op := by
  cases op with
  | accept nominee => cases hop
  | transfer current candidate newAccount => rfl
  | nominate current newAdmin => rfl
  | renounce current => rfl

variable [LawfulAuthority]

/-- When an operation succeeds, and with what account. -/
theorem performs {op : Operation} {a out : AccountWithMetadata} {offset : Nat} :
    op.performAt a offset = (.ok (), out) ↔
      ∃ s t, stored a.bytes offset = .ok s ∧ transition s op = .ok t ∧
        out = a.install offset t := by
  rw [perform_at_step]
  cases hst : step a.bytes offset op with
  | error e =>
    constructor
    · intro h
      cases h
    · intro h
      obtain ⟨s, t, hs, ht, _⟩ := h
      cases hst.symm.trans (step_ok.mpr ⟨s, hs, ht⟩)
  | ok t =>
    obtain ⟨s, hs, ht⟩ := step_ok.mp hst
    constructor
    · intro h
      exact ⟨s, t, hs, ht, (congrArg Prod.snd h).symm⟩
    · intro h
      obtain ⟨s', t', hs', ht', rfl⟩ := h
      obtain rfl : s = s' := Except.ok.inj (hs.symm.trans hs')
      obtain rfl : t = t' := Except.ok.inj (ht.symm.trans ht')
      rfl

/-- A co-signed transfer is a nomination and its acceptance in one: it succeeds exactly when
the two do one after the other, and leaves the same account. -/
theorem transfer_in_two_steps (config current newAccount out : AccountWithMetadata)
    (offset : Nat) :
    AdminConfig.performTransferAt config offset current .signer newAccount = (.ok (), out) ↔
      ∃ mid,
        AdminConfig.performNominateAt config offset current newAccount.accountId = (.ok (), mid) ∧
          AdminConfig.performAcceptAt mid offset newAccount = (.ok (), out) := by
  change (Operation.transfer current .signer newAccount).performAt config offset = _ ↔
    ∃ mid, (Operation.nominate current newAccount.accountId).performAt config offset = _ ∧
      (Operation.accept newAccount).performAt mid offset = _
  constructor
  · intro h
    obtain ⟨s, t, hs, ht, rfl⟩ := performs.mp h
    obtain ⟨hf, _⟩ := stored_ok.mp hs
    obtain ⟨hc, hv, hn⟩ := transition_ok.mp ht
    obtain ⟨hid, hne, howned, hsigned⟩ := validate_ok hv
    obtain ⟨hh, _⟩ := authorise_ok.mp hc
    let named : AdminSeat := ⟨s.holder, newAccount.accountId⟩
    have hmid : transition s (.nominate current newAccount.accountId) = .ok named :=
      transition_ok.mpr ⟨hc, rfl⟩
    have hout : transition named (.accept newAccount) = .ok t := by
      refine transition_ok.mpr ⟨authoriseNominee_ok.mpr ⟨hh, hne, hsigned, rfl, howned⟩, ?_⟩
      cases t
      simp_all [named]
    refine ⟨config.install offset named, performs.mpr ⟨s, named, hs, hmid, rfl⟩, ?_⟩
    exact performs.mpr ⟨named, t, stored_install named hf, hout, (install_install named t hf).symm⟩
  · intro h
    obtain ⟨mid, hnominate, haccept⟩ := h
    obtain ⟨s, named, hs, hmid, rfl⟩ := performs.mp hnominate
    obtain ⟨hf, _⟩ := stored_ok.mp hs
    obtain ⟨hc, rfl⟩ := transition_ok.mp hmid
    obtain ⟨named', t, hnamed, hout, rfl⟩ := performs.mp haccept
    obtain rfl := Except.ok.inj ((stored_install _ hf).symm.trans hnamed)
    obtain ⟨hcheck, rfl⟩ := transition_ok.mp hout
    obtain ⟨_, hne, hsigned, _, howned⟩ := authoriseNominee_ok.mp hcheck
    have hv : validate .signer newAccount = .ok newAccount.accountId :=
      (LawfulAuthority.validate_ok_iff .signer newAccount _).mpr ⟨rfl, hne, howned, hsigned⟩
    have ht : transition s (.transfer current .signer newAccount) =
        .ok ⟨newAccount.accountId, default⟩ := transition_ok.mpr ⟨hc, hv, rfl⟩
    exact performs.mpr ⟨s, _, hs, ht, install_install _ _ hf⟩

end

open Reference in
theorem transfer_in_two_steps_embedded :
    ∃ mid, AdminConfig.performNominateAt (embedded ⟨id 1, default⟩) 8 (acct 1 true) (id 2) =
        (.ok (), mid) ∧
      AdminConfig.performAcceptAt mid 8 (acct 2 true) = (.ok (), embedded ⟨id 2, default⟩) :=
  (transfer_in_two_steps (embedded ⟨id 1, default⟩) (acct 1 true) (acct 2 true)
    (embedded ⟨id 2, default⟩) 8).mp rfl

section
variable [Lez] [AuthorityCrate] [LawfulAuthority]

theorem nominate_keeps {offset : Nat} {config mid : AccountWithMetadata}
    (h : OnlyNominated offset config mid) (current : AccountWithMetadata) (newAdmin : AccountId) :
    OnlyNominated offset config ((Operation.nominate current newAdmin).performAt mid offset).2 := by
  rw [perform_at_step]
  cases hst : step mid.bytes offset (.nominate current newAdmin) with
  | error e => exact h
  | ok t =>
    obtain ⟨m, hm, ht⟩ := step_ok.mp hst
    obtain ⟨_, rfl⟩ := transition_ok.mp ht
    cases hs : stored config.bytes offset with
    | error e =>
      obtain rfl := only_nominated_refused h hs
      cases hs.symm.trans hm
    | ok s =>
      obtain ⟨n, hn, hinstall⟩ := only_nominated_stored h hs
      obtain rfl := Except.ok.inj (hn.symm.trans hm)
      exact .inr ⟨s, newAdmin, hs, hinstall _⟩

theorem nominations_keep (offset : Nat) (config : AccountWithMetadata)
    (nominations : List (AccountWithMetadata × AccountId)) :
    OnlyNominated offset config ((managedAt offset).run config
      (nominations.map fun n => .nominate n.1 n.2)) := by
  suffices hall : ∀ mid, OnlyNominated offset config mid → OnlyNominated offset config
      ((managedAt offset).run mid (nominations.map fun n => .nominate n.1 n.2)) from
    hall config (.inl rfl)
  induction nominations with
  | nil => exact fun _ h => h
  | cons n nominations ih => exact fun mid h => ih _ (nominate_keeps h n.1 n.2)

/-- Nominations move nothing. After any number of them, by anybody and for anybody, a
transfer, a nomination, a renounce and a gate end as if none had been made, and those that
succeed leave the same account. -/
theorem nominations_inert (offset : Nat) (config : AccountWithMetadata)
    (nominations : List (AccountWithMetadata × AccountId)) :
    let mid := (managedAt offset).run config (nominations.map fun n => .nominate n.1 n.2)
    (∀ op : Operation, op.byAdmin = true →
      (op.performAt mid offset).1 = (op.performAt config offset).1 ∧
        ((op.performAt config offset).1 = .ok () →
          (op.performAt mid offset).2 = (op.performAt config offset).2)) ∧
    ∀ signer, AdminConfig.gateAt mid offset signer = AdminConfig.gateAt config offset signer := by
  intro mid
  have hmid : OnlyNominated offset config mid := nominations_keep offset config nominations
  cases hs : stored config.bytes offset with
  | error e =>
    have he : mid = config := only_nominated_refused hmid hs
    rw [he]
    exact ⟨fun op _ => ⟨rfl, fun _ => rfl⟩, fun signer => rfl⟩
  | ok s =>
    obtain ⟨n, hn, hinstall⟩ := only_nominated_stored hmid hs
    constructor
    · intro op hop
      rw [perform_at_step, perform_at_step, step_stored hn, step_stored hs, transition_holder hop]
      cases transition s op with
      | error e => exact ⟨rfl, fun h => nomatch h⟩
      | ok t => exact ⟨rfl, fun _ => hinstall t⟩
    · intro signer
      rw [gate_at_authorise hn, gate_at_authorise hs]
      rfl

end

open Reference in
/-- Two nominations before a renounce. -/
theorem nominations_inert_renounce :
    let config := embedded ⟨id 1, default⟩
    let mid := (managedAt 8).run config
      [.nominate (acct 1 true) (id 2), .nominate (acct 1 true) (id 3)]
    AdminConfig.performRenounceAt mid 8 (acct 1 true) =
      (.ok (), embedded ⟨default, default⟩) := by
  intro config mid
  have hdone : AdminConfig.performRenounceAt config 8 (acct 1 true) =
      (.ok (), embedded ⟨default, default⟩) := rfl
  have h := (nominations_inert 8 config [(acct 1 true, Reference.id 2),
    (acct 1 true, Reference.id 3)]).1 (.renounce (acct 1 true)) rfl
  refine Prod.ext (h.1.trans (congrArg Prod.fst hdone)) ?_
  exact (h.2 (congrArg Prod.fst hdone)).trans (congrArg Prod.snd hdone)

end AdminAuthority.Proofs
