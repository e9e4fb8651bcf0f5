import AdminAuthority.Proofs.Slot

namespace AdminAuthority.Proofs
open Handover AuthorityCrate Lifecycle

variable [Lez]

theorem authorise_ok {s : AdminSeat} {signer : AccountWithMetadata} :
    authorise s signer = .ok () ↔
      s.holder ≠ default ∧ signer.isAuthorized = true ∧ signer.accountId = s.holder := by
  unfold authorise
  split
  · simp_all
  · split
    · simp_all
    · split <;> simp_all

theorem authoriseNominee_ok {s : AdminSeat} {signer : AccountWithMetadata} :
    authoriseNominee s signer = .ok () ↔
      s.holder ≠ default ∧ s.nominee ≠ default ∧ signer.isAuthorized = true ∧
        signer.accountId = s.nominee ∧ signer.account.programOwner ≠ default := by
  unfold authoriseNominee
  split
  · simp_all
  · split
    · simp_all
    · split
      · simp_all
      · split
        · simp_all
        · split <;> simp_all

variable [AuthorityCrate]

/-- Everything a step the lifecycle allows can be, with the conditions it met. -/
def Allowed (s : AdminSeat) (op : Operation) (t : AdminSeat) : Prop :=
  match op with
  | .transfer current candidate newAccount => authorise s current = .ok () ∧
      validate candidate newAccount = .ok t.holder ∧ t.nominee = default
  | .nominate current newAdmin => authorise s current = .ok () ∧ t = ⟨s.holder, newAdmin⟩
  | .accept nominee => authoriseNominee s nominee = .ok () ∧ t = ⟨s.nominee, default⟩
  | .renounce current => authorise s current = .ok () ∧ t = ⟨default, default⟩

theorem transition_ok {s t : AdminSeat} {op : Operation} :
    transition s op = .ok t ↔ Allowed s op t := by
  cases op with
  | transfer current candidate newAccount =>
    simp only [transition, Allowed, resolve, bind, Except.bind, pure, Except.pure]
    cases authorise s current with
    | error e => simp
    | ok u =>
      cases validate candidate newAccount with
      | error e => simp
      | ok next =>
        cases t
        simp [eq_comm]
  | nominate current newAdmin =>
    simp only [transition, Allowed, bind, Except.bind, pure, Except.pure]
    cases authorise s current <;> simp [eq_comm]
  | accept nominee =>
    simp only [transition, Allowed, bind, Except.bind, pure, Except.pure]
    cases authoriseNominee s nominee <;> simp [eq_comm]
  | renounce current =>
    simp only [transition, Allowed, bind, Except.bind, pure, Except.pure]
    cases authorise s current <;> simp [eq_comm]

variable [LawfulAuthority]

theorem assert_ok {c : AdminConfig} {signer : AccountWithMetadata}
    (h : authorise c.seat signer = .ok ()) : assert c.slot signer = .ok () := by
  rw [← assert_authorise] at h
  cases ha : assert c.slot signer with
  | ok u => rfl
  | error e => simp [ha, Except.mapError] at h

theorem validate_ok {candidate : AdminCandidate} {newAccount : AccountWithMetadata} {id : AccountId}
    (h : validate candidate newAccount = .ok id) :
    newAccount.accountId = id ∧ candidate.Eligible newAccount := by
  obtain ⟨rfl, he⟩ := (LawfulAuthority.validate_ok_iff candidate newAccount id).mp h
  exact ⟨rfl, he⟩

/-- A candidate that validates resolves to an id that is not the sentinel. -/
theorem validate_ne_default {candidate : AdminCandidate} {newAccount : AccountWithMetadata}
    {next : AccountId} (h : validate candidate newAccount = .ok next) : next ≠ default := by
  obtain ⟨rfl, hid, _⟩ := (LawfulAuthority.validate_ok_iff candidate newAccount next).mp h
  exact hid

/-- An in-memory operation reports exactly what the lifecycle prescribes. -/
theorem change_result (op : Operation) (c : AdminConfig) :
    (op.change c).1 = (transition c.seat op).map (fun _ => ()) := by
  cases op with
  | transfer current candidate newAccount =>
    simp only [Operation.change, AdminConfig.transfer, transition, ← assert_authorise, resolve]
    cases assert c.slot current with
    | error e => rfl
    | ok u =>
      cases hv : validate candidate newAccount with
      | error e => exact congrArg Except.error (of_authority_failure e)
      | ok next =>
        have ht := (LawfulAuthority.transferTo_ok c.slot next (validate_ne_default hv)).1
        simp [ht, Except.mapError, Except.map, bind, Except.bind, pure, Except.pure]
  | nominate current newAdmin =>
    simp only [Operation.change, AdminConfig.nominate, transition, ← assert_authorise]
    cases assert c.slot current <;> rfl
  | accept nominee =>
    simp only [Operation.change, transition, accept_authorise]
    cases authoriseNominee c.seat nominee <;> rfl
  | renounce current =>
    simp only [Operation.change, AdminConfig.renounce, transition, ← assert_authorise]
    cases assert c.slot current <;> rfl

/-- A successful in-memory operation leaves the prescribed admin and nominee. -/
theorem change_seat {op : Operation} {c : AdminConfig} {s : AdminSeat}
    (h : transition c.seat op = .ok s) : (op.change c).2.seat = s := by
  have hr := change_result op c
  rw [h] at hr
  have ha := transition_ok.mp h
  cases op with
  | transfer current candidate newAccount =>
    obtain ⟨hc, hv, hn⟩ := ha
    simp only [Operation.change, AdminConfig.transfer, assert_ok hc, hv]
    have ht := (LawfulAuthority.transferTo_ok c.slot _ (validate_ne_default hv)).2
    cases s
    cases hn
    exact ht
  | nominate current newAdmin =>
    obtain ⟨hc, rfl⟩ := ha
    simp only [Operation.change, AdminConfig.nominate, assert_ok hc]
    exact LawfulAuthority.nominate_seat c.slot newAdmin
  | accept nominee =>
    obtain ⟨hc, rfl⟩ := ha
    obtain ⟨hh, _, _, hid, _⟩ := authoriseNominee_ok.mp hc
    have hl : ¬isRenounced c.slot = true := fun h =>
      hh ((LawfulAuthority.isRenounced_iff c.slot).mp h)
    simp only [Operation.change, AdminConfig.accept, if_neg hl] at hr ⊢
    cases hok : (AuthorityCrate.accept c.slot nominee).1 with
    | error e => simp [hok, Except.mapError, Except.map] at hr
    | ok u => rw [← hid]; exact LawfulAuthority.accept_ok c.slot nominee hok
  | renounce current =>
    obtain ⟨hc, rfl⟩ := ha
    simp only [Operation.change, AdminConfig.renounce, assert_ok hc]
    exact LawfulAuthority.renounce_seat c.slot

/-- What the lifecycle allows, the handover protocol permits, with the same effect. -/
theorem transition_act {s t : AdminSeat} {op : Operation} (h : transition s op = .ok t) :
    s.Permits default (act op) ∧ s.after default (act op) = t := by
  have ha := transition_ok.mp h
  cases op with
  | transfer current candidate newAccount =>
    obtain ⟨hc, hv, hn⟩ := ha
    obtain ⟨hh, _, hid⟩ := authorise_ok.mp hc
    obtain ⟨hnext, hne, _⟩ := (LawfulAuthority.validate_ok_iff candidate newAccount _).mp hv
    refine ⟨⟨hh, hid, hne⟩, ?_⟩
    cases t
    simp_all [act, Seat.after]
  | nominate current newAdmin =>
    obtain ⟨hc, rfl⟩ := ha
    obtain ⟨hh, _, hid⟩ := authorise_ok.mp hc
    exact ⟨⟨hh, hid⟩, rfl⟩
  | accept nominee =>
    obtain ⟨hc, rfl⟩ := ha
    obtain ⟨hh, hn, _, hid, _⟩ := authoriseNominee_ok.mp hc
    exact ⟨⟨hh, hn, hid⟩, by simp [act, Seat.after, hid]⟩
  | renounce current =>
    obtain ⟨hc, rfl⟩ := ha
    obtain ⟨hh, _, hid⟩ := authorise_ok.mp hc
    exact ⟨⟨hh, hid⟩, rfl⟩

/-- The accounts of an allowed operation are owned, given that the admin is. -/
theorem allowed_owned {w : AccountId → Account} {op : Operation} {s t : AdminSeat}
    (h : transition s op = .ok t)
    (hon : ∀ a ∈ op.accounts, a.account = w a.accountId)
    (hadmin : s.holder ≠ default → (w s.holder).programOwner ≠ default) :
    ∀ a ∈ op.accounts, a.account.programOwner ≠ default := by
  have hcaller : ∀ signer ∈ op.accounts, authorise s signer = .ok () →
      signer.account.programOwner ≠ default := by
    intro signer hm ha
    obtain ⟨hh, _, hid⟩ := authorise_ok.mp ha
    rw [hon signer hm, hid]
    exact hadmin hh
  have ha := transition_ok.mp h
  intro a hm
  cases op with
  | transfer current candidate newAccount =>
    obtain ⟨hc, hv, _⟩ := ha
    simp only [Operation.accounts, List.mem_cons, List.not_mem_nil, or_false] at hm
    rcases hm with rfl | rfl
    · exact hcaller a (by simp [Operation.accounts]) hc
    · exact (validate_ok hv).2.2.1
  | nominate current newAdmin =>
    obtain rfl : a = current := by simpa [Operation.accounts] using hm
    exact hcaller a (by simp [Operation.accounts]) ha.1
  | accept nominee =>
    obtain rfl : a = nominee := by simpa [Operation.accounts] using hm
    exact (authoriseNominee_ok.mp ha.1).2.2.2.2
  | renounce current =>
    obtain rfl : a = current := by simpa [Operation.accounts] using hm
    exact hcaller a (by simp [Operation.accounts]) ha.1

/-- The next admin is the old one, none, or one of the operation's own accounts. -/
theorem allowed_holder {op : Operation} {s t : AdminSeat} (h : transition s op = .ok t) :
    t.holder = s.holder ∨ t.holder = default ∨ ∃ a ∈ op.accounts, a.accountId = t.holder := by
  have ha := transition_ok.mp h
  cases op with
  | transfer current candidate newAccount =>
    obtain ⟨_, hv, _⟩ := ha
    exact .inr (.inr ⟨newAccount, by simp [Operation.accounts], (validate_ok hv).1⟩)
  | nominate current newAdmin =>
    obtain ⟨_, rfl⟩ := ha
    exact .inl rfl
  | accept nominee =>
    obtain ⟨hc, rfl⟩ := ha
    obtain ⟨_, _, _, hid, _⟩ := authoriseNominee_ok.mp hc
    exact .inr (.inr ⟨nominee, by simp [Operation.accounts], hid⟩)
  | renounce current =>
    obtain ⟨_, rfl⟩ := ha
    exact .inr (.inl rfl)

end AdminAuthority.Proofs
