import AdminAuthority.Model.Reference
import AdminAuthority.Proofs.Bootstrap
import AdminAuthority.Spec.Histories

namespace AdminAuthority.Proofs
open Handover AuthorityCrate Lifecycle CallMachine

section
variable [Lez]

theorem act_nominate {op : Operation} {holder nominee : AccountId}
    (h : act op = .nominate holder nominee) :
    ∃ current : AccountWithMetadata,
      op = .nominate current nominee ∧ current.accountId = holder := by
  cases op with
  | nominate current newAdmin =>
    simp only [act, Act.nominate.injEq] at h
    exact ⟨current, by rw [h.2], h.1⟩
  | transfer current candidate newAccount => simp [act] at h
  | accept nominee => simp [act] at h
  | renounce current => simp [act] at h

variable [Build] [AuthorityCrate]

theorem call_error {offset : Nat} {config : AccountWithMetadata} {op : Operation} {e : SpelError}
    (h : op.instruct config offset = .error e) :
    ((instructionsAt offset).call config op).2 = config := by
  change config.landed (op.instruct config offset) = config
  rw [h]
  rfl

variable [LawfulAuthority]

/-- What a successful management instruction found, was allowed and left. -/
theorem call_ok {offset : Nat} {config : AccountWithMetadata} {op : Operation} {out : SpelOutput}
    (h : op.instruct config offset = .ok out) :
    ∃ s t, stored config.bytes offset = .ok s ∧ transition s op = .ok t ∧
      ((instructionsAt offset).call config op).2 = config.install offset t := by
  rw [instruct_step] at h
  have hl := landed_step op config offset
  cases hst : step config.bytes offset op with
  | error e => simp [hst] at h
  | ok t =>
    rw [hst] at hl
    obtain ⟨s, hs, ht⟩ := step_ok.mp hst
    exact ⟨s, t, hs, ht, hl⟩

/-- A run leaves what the acts of its successful calls leave, and each of them was
permitted when it happened. -/
theorem run_replay {offset : Nat} {start : AccountWithMetadata} {s : AdminSeat}
    (hs : stored start.bytes offset = .ok s) (ops : List Operation) :
    stored ((instructionsAt offset).run start ops).bytes offset =
        .ok (s.replay default (((instructionsAt offset).accepted start ops).map act)) ∧
      s.Legal default (((instructionsAt offset).accepted start ops).map act) := by
  induction ops generalizing start s with
  | nil => exact ⟨hs, trivial⟩
  | cons op ops ih =>
    have hc : ((instructionsAt offset).call start op).1 = op.instruct start offset := rfl
    rw [run_cons, accepted, hc]
    cases hi : op.instruct start offset with
    | error e =>
      rw [call_error hi]
      exact ih hs
    | ok out =>
      obtain ⟨s', t, hs', ht, hl⟩ := call_ok hi
      obtain rfl : s = s' := Except.ok.inj (hs.symm.trans hs')
      obtain ⟨hp, ha⟩ := transition_act ht
      rw [hl]
      obtain ⟨hr, hlegal⟩ := ih (stored_install t (stored_ok.mp hs).1)
      simp only [List.map_cons, Seat.replay, List.foldl_cons, Seat.Legal, ha]
      exact ⟨hr, hp, hlegal⟩

/-- Behind a standing nominee lies the nomination that named it. -/
theorem nominated_of_standing {offset : Nat} {start : AccountWithMetadata} {s t : AdminSeat}
    (hs : stored start.bytes offset = .ok s) (hn : s.nominee = default) {past : List Operation}
    (ht : stored ((instructionsAt offset).run start past).bytes offset = .ok t)
    (hne : t.nominee ≠ default) : Nominated offset start past t.holder t.nominee := by
  obtain ⟨hr, hlegal⟩ := run_replay hs past
  have htr : t = s.replay default (((instructionsAt offset).accepted start past).map act) :=
    Except.ok.inj (ht.symm.trans hr)
  obtain ⟨xs, hxs, _⟩ := Seat.nominee_source hn hlegal (by rwa [← htr])
  rw [← htr] at hxs
  obtain ⟨earlierOps, last, hacc, rfl, hlast⟩ := List.map_eq_append_iff.mp hxs
  obtain ⟨op, rfl, hop⟩ := List.map_eq_singleton_iff.mp hlast
  obtain ⟨current, rfl, hid⟩ := act_nominate hop
  obtain ⟨earlier, since, out, rfl, _, hok, hnone⟩ := accepted_last _ hacc
  have hi : (Operation.nominate current t.nominee).instruct
      ((instructionsAt offset).run start earlier) offset = .ok out := hok
  obtain ⟨_, _, _, htrans, _⟩ := call_ok hi
  have ha : current.isAuthorized = true := (authorise_ok.mp (transition_ok.mp htrans).1).2.1
  refine ⟨earlier, since, current, out, rfl, ha, hid, hok, ?_⟩
  rw [run_append]
  exact hnone

/-- Whoever accepts signed for itself and was nominated by the standing admin. -/
theorem accept_nominated {offset : Nat} {start nominee : AccountWithMetadata} {s t : AdminSeat}
    {out : SpelOutput} (hs : stored start.bytes offset = .ok s) (hn : s.nominee = default)
    {past : List Operation}
    (ht : stored ((instructionsAt offset).run start past).bytes offset = .ok t)
    (h : (Operation.accept nominee).instruct ((instructionsAt offset).run start past) offset =
      .ok out) :
    nominee.isAuthorized = true ∧ nominee.account.programOwner ≠ default ∧
      Nominated offset start past t.holder nominee.accountId := by
  obtain ⟨t', u, ht', htrans, _⟩ := call_ok h
  obtain rfl : t = t' := Except.ok.inj (ht.symm.trans ht')
  obtain ⟨_, hne, hsigned, hid, hown⟩ := authoriseNominee_ok.mp (transition_ok.mp htrans).1
  rw [hid]
  exact ⟨hsigned, hown, nominated_of_standing hs hn ht hne⟩

/-- One call that changes the admin is a transfer, an accept or a renounce, by the
account that each of them asks for. -/
theorem call_moves {offset : Nat} {start : AccountWithMetadata} {s t u : AdminSeat}
    {op : Operation} (hs : stored start.bytes offset = .ok s) (hn : s.nominee = default)
    {past : List Operation}
    (ht : stored ((instructionsAt offset).run start past).bytes offset = .ok t)
    (hu : stored ((instructionsAt offset).run start (past ++ [op])).bytes offset = .ok u)
    (hne : t.holder ≠ u.holder) :
    t.holder ≠ default ∧ Moves offset start past op t.holder u.holder := by
  rw [run_append, run_cons, run_nil] at hu
  cases hi : op.instruct ((instructionsAt offset).run start past) offset with
  | error e =>
    rw [call_error hi, ht] at hu
    cases hu
    exact absurd rfl hne
  | ok out =>
    obtain ⟨t', v, ht', htrans, hl⟩ := call_ok hi
    obtain rfl : t = t' := Except.ok.inj (ht.symm.trans ht')
    rw [hl, stored_install v (stored_ok.mp ht).1] at hu
    obtain rfl : v = u := Except.ok.inj hu
    obtain ⟨hp, hafter⟩ := transition_act htrans
    have hh := (Seat.holder_change hp (by rw [hafter]; exact hne.symm)).1
    refine ⟨hh, ?_⟩
    have ha := transition_ok.mp htrans
    cases op with
    | transfer current candidate newAccount =>
      obtain ⟨hc, hv, _⟩ := ha
      obtain ⟨_, hsigned, hid⟩ := authorise_ok.mp hc
      obtain ⟨hnext, he⟩ := validate_ok hv
      exact ⟨hsigned, hid, hnext, he⟩
    | nominate current newAdmin =>
      obtain ⟨_, rfl⟩ := ha
      exact absurd rfl hne
    | accept nominee =>
      obtain ⟨hc, rfl⟩ := ha
      obtain ⟨_, _, _, hid, _⟩ := authoriseNominee_ok.mp hc
      obtain ⟨hsigned, hown, hnom⟩ := accept_nominated hs hn ht hi
      rw [hid] at hnom
      exact ⟨hsigned, hid, hown, hnom⟩
    | renounce current =>
      obtain ⟨hc, rfl⟩ := ha
      obtain ⟨_, hsigned, hid⟩ := authorise_ok.mp hc
      exact ⟨hsigned, hid, rfl⟩

/-- Calls at an offset that the data does not reach are all refused. -/
theorem run_misplaced {offset : Nat} {start : AccountWithMetadata} (hne : start.bytes ≠ [])
    (h : start.bytes.length < offset + 64) (ops : List Operation) :
    (instructionsAt offset).run start ops = start ∧
      (instructionsAt offset).accepted start ops = [] := by
  induction ops with
  | nil => exact ⟨rfl, rfl⟩
  | cons op ops ih =>
    have hi : op.instruct start offset = .error (.ofAdmin .slotOutOfBounds) := by
      rw [instruct_step]
      simp [step_refused (stored_short hne h)]
    have hc : ((instructionsAt offset).call start op).1 = op.instruct start offset := rfl
    rw [run_cons, accepted, hc, hi, call_error hi]
    exact ih

/-- A slot is born with its admin and no nominee, where its later calls look for it
or beyond their reach. -/
theorem born_seat {admin : AccountId} {offset home : Nat}
    {start : AccountWithMetadata} (h : Born admin offset home start) :
    stored start.bytes home = .ok ⟨admin, default⟩ ∧
      (offset = home ∨ (start.bytes ≠ [] ∧ start.bytes.length < offset + 64)) := by
  cases h with
  | @dedicated config caller out h hid =>
    obtain ⟨_, _, d, hd, rfl⟩ := admin_initialize_ok h
    subst hid
    have hb : (config.landed (.ok ⟨[⟨(config.withData d).account,
        .claimed (.pda (Lez.seedFromStr "admin_config"))⟩, ⟨caller.account, .none⟩]⟩)).bytes =
        AdminSeat.bytes ⟨caller.accountId, default⟩ := hd
    refine ⟨stored_exact hb, ?_⟩
    rcases Nat.eq_zero_or_pos offset with rfl | hpos
    · exact .inl rfl
    · refine .inr ⟨?_, ?_⟩
      · intro he
        have hl := congrArg List.length (hb.symm.trans he)
        simp at hl
      · rw [hb, AdminSeat.bytes_length]
        omega
  | embedded h hid =>
    obtain ⟨_, hf, rfl⟩ := bootstrap_at_ok h
    subst hid
    exact ⟨stored_install _ hf, .inl rfl⟩

/-- From its first admin on, a run's stored admin and nominee are what its
successful calls alone leave. Each change of the admin is signed by the standing
admin, or by a nominee whose nomination by the standing admin is the last
successful call. -/
theorem admin_provenance {admin : AccountId} {offset home : Nat} {start : AccountWithMetadata}
    (h : Born admin offset home start) (past : List Operation) :
    stored ((instructionsAt offset).run start past).bytes home =
        .ok (Seat.replay default ⟨admin, default⟩
          (((instructionsAt offset).accepted start past).map act)) ∧
      (∀ op t u, stored ((instructionsAt offset).run start past).bytes home = .ok t →
        stored ((instructionsAt offset).run start (past ++ [op])).bytes home = .ok u →
        t.holder ≠ u.holder →
          t.holder ≠ default ∧ Moves offset start past op t.holder u.holder) ∧
      (∀ nominee out,
        (Operation.accept nominee).instruct ((instructionsAt offset).run start past) offset =
          .ok out →
        ∃ t, stored ((instructionsAt offset).run start past).bytes home = .ok t ∧
          nominee.isAuthorized = true ∧ nominee.account.programOwner ≠ default ∧
          Nominated offset start past t.holder nominee.accountId) := by
  obtain ⟨hs, rfl | ⟨hne, hshort⟩⟩ := born_seat h
  · have hr := (run_replay hs past).1
    refine ⟨hr, fun op t u ht hu hc => call_moves hs rfl ht hu hc, ?_⟩
    intro nominee out hi
    exact ⟨_, hr, accept_nominated hs rfl hr hi⟩
  · obtain ⟨hrun, hacc⟩ := run_misplaced hne hshort past
    rw [hrun, hacc]
    refine ⟨hs, ?_, ?_⟩
    · intro op t u ht hu hc
      rw [(run_misplaced hne hshort (past ++ [op])).1] at hu
      apply absurd _ hc
      exact congrArg Seat.holder (Except.ok.inj (ht.symm.trans hu))
    · intro nominee out hi
      obtain ⟨_, _, hst, _⟩ := call_ok hi
      simp [stored_short hne hshort] at hst

end

set_option maxRecDepth 4000 in
open Reference in
/-- A handover by nomination, with a refused intruder between its two steps. -/
theorem admin_provenance_handover :
    Born (id 1) 0 0 (dedicated ⟨id 1, default⟩) ∧
      stored ((instructionsAt 0).run (dedicated ⟨id 1, default⟩) [.nominate (acct 1 true) (id 2),
        .accept (acct 3 true), .accept (acct 2 true)]).bytes 0 = .ok ⟨id 2, default⟩ := by
  have hi : adminInitialize (holding []) (acct 1 true) = .ok ⟨[
      ⟨{ (dedicated ⟨id 1, default⟩).account with programOwner := default },
        .claimed (.pda (Lez.seedFromStr "admin_config"))⟩,
      ⟨(acct 1 true).account, .none⟩]⟩ := rfl
  have hb : Born (id 1) 0 0 (dedicated ⟨id 1, default⟩) := .dedicated hi rfl
  obtain ⟨hr, _, _⟩ := admin_provenance hb [.nominate (acct 1 true) (id 2),
    .accept (acct 3 true), .accept (acct 2 true)]
  exact ⟨hb, hr.trans rfl⟩

end AdminAuthority.Proofs
