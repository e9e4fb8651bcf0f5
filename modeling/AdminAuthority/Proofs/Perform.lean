import AdminAuthority.Model.Calls
import AdminAuthority.Model.Reference
import AdminAuthority.Proofs.Transition

namespace AdminAuthority.Proofs
open Handover AuthorityCrate Lifecycle

section

theorem stored_ok {bytes : List UInt8} {offset : Nat} {s : AdminSeat} :
    stored bytes offset = .ok s ↔
      offset + 64 ≤ bytes.length ∧ Window.read bytes offset 64 = s.bytes := by
  unfold stored
  split
  · rename_i he
    simp [he]
  · split
    · rename_i hf
      simp only [Except.ok.injEq, hf, true_and]
      constructor
      · rintro rfl
        exact (AdminSeat.bytes_readAt _ _ _).symm
      · intro h
        apply AdminSeat.bytes_injective
        simpa using h
    · rename_i hf
      simp [hf]

/-- The stored admin and nominee depend on the window alone. -/
theorem stored_window {xs ys : List UInt8} {o p : Nat} (hx : o + 64 ≤ xs.length)
    (hy : p + 64 ≤ ys.length) (h : Window.read xs o 64 = Window.read ys p 64) :
    stored xs o = stored ys p := by
  have hs : stored xs o = .ok (.readAt xs o hx) :=
    stored_ok.mpr ⟨hx, (AdminSeat.bytes_readAt _ _ _).symm⟩
  rw [hs]
  exact (stored_ok.mpr ⟨hy, by rw [AdminSeat.bytes_readAt, h]⟩).symm

theorem stored_short {bytes : List UInt8} {offset : Nat} (hne : bytes ≠ [])
    (h : bytes.length < offset + 64) : stored bytes offset = .error .slotOutOfBounds := by
  rw [stored, if_neg hne, dif_neg (by omega)]

theorem stored_exact {bytes : List UInt8} {s : AdminSeat} (h : bytes = s.bytes) :
    stored bytes 0 = .ok s := by
  subst h
  refine stored_ok.mpr ⟨by simp, ?_⟩
  have hr := Window.read_all s.bytes
  rwa [AdminSeat.bytes_length] at hr

variable [Lez]

theorem splice_bytes {d : Data} {offset : Nat} {ys : List UInt8}
    (h : offset + ys.length ≤ d.bytes.length) :
    (d.splice offset ys).bytes = Window.splice d.bytes offset ys := by
  rw [Data.splice, dif_pos h]

theorem tryFrom_splice {d : Data} {offset : Nat} {ys : List UInt8}
    (h : offset + ys.length ≤ d.bytes.length) :
    Data.tryFrom (Window.splice d.bytes offset ys) = some (d.splice offset ys) := by
  rw [← splice_bytes h, Data.tryFrom_bytes]

theorem install_bytes {a : AccountWithMetadata} {offset : Nat} {s : AdminSeat}
    (h : offset + 64 ≤ a.bytes.length) :
    (a.install offset s).bytes = Window.splice a.bytes offset s.bytes :=
  splice_bytes (by simpa using h)

@[simp] theorem install_length (a : AccountWithMetadata) (offset : Nat) (s : AdminSeat) :
    (a.install offset s).bytes.length = a.bytes.length := by
  by_cases h : offset + 64 ≤ a.bytes.length
  · rw [install_bytes h, Window.splice_length (by simpa using h)]
  · simp [AccountWithMetadata.install, Data.splice, h, AccountWithMetadata.withData_self]

/-- What was installed is what the window then holds. -/
theorem stored_install {a : AccountWithMetadata} {offset : Nat} (s : AdminSeat)
    (h : offset + 64 ≤ a.bytes.length) : stored (a.install offset s).bytes offset = .ok s := by
  refine stored_ok.mpr ⟨by simpa using h, ?_⟩
  have hr : Window.read (Window.splice a.bytes offset s.bytes) offset s.bytes.length = s.bytes :=
    Window.read_splice (by simpa using h)
  rw [AdminSeat.bytes_length] at hr
  rw [install_bytes h, hr]

theorem stored_uncreated {a : AccountWithMetadata} (h : a.account = default) (offset : Nat) :
    stored a.bytes offset = .error .notInitialized := by
  rw [AccountWithMetadata.bytes, h]
  rfl

/-- A caller is turned away for what is stored, or by the admin that is. -/
theorem verdict_error {bytes : List UInt8} {offset : Nat} {signer : AccountWithMetadata}
    {e : AdminError} : verdict bytes offset signer = .error e ↔
      stored bytes offset = .error e ∨
        ∃ s, stored bytes offset = .ok s ∧ authorise s signer = .error e := by
  unfold verdict
  cases stored bytes offset with
  | error e' => simp [bind, Except.bind]
  | ok s => simp [bind, Except.bind]

variable [AuthorityCrate]

theorem step_stored {bytes : List UInt8} {offset : Nat} {s : AdminSeat}
    (h : stored bytes offset = .ok s) (op : Operation) :
    step bytes offset op = transition s op := by
  simp [step, h, bind, Except.bind]

theorem step_refused {bytes : List UInt8} {offset : Nat} {e : AdminError}
    (h : stored bytes offset = .error e) (op : Operation) : step bytes offset op = .error e := by
  simp [step, h, bind, Except.bind]

theorem step_ok {bytes : List UInt8} {offset : Nat} {op : Operation} {t : AdminSeat} :
    step bytes offset op = .ok t ↔ ∃ s, stored bytes offset = .ok s ∧ transition s op = .ok t := by
  cases h : stored bytes offset with
  | error e => simp [step_refused h]
  | ok s => simp [step_stored h]

variable [LawfulAuthority]

theorem from_account_at_error {a : AccountWithMetadata} {offset : Nat} {e : AdminError}
    (h : stored a.bytes offset = .error e) : AdminConfig.fromAccountAt a offset = .error e := by
  unfold stored at h
  unfold AdminConfig.fromAccountAt AdminConfig.decodeAt
  split at h
  · rename_i he
    simpa [he] using h
  · split at h
    · cases h
    · rename_i hne hf
      cases h
      rw [if_neg (by simpa using hne), LawfulAuthority.readAt_short _ _ (by omega)]
      rfl

theorem from_account_at_ok {a : AccountWithMetadata} {offset : Nat} {s : AdminSeat}
    (h : stored a.bytes offset = .ok s) :
    ∃ c, AdminConfig.fromAccountAt a offset = .ok c ∧ c.seat = s := by
  obtain ⟨hf, hr⟩ := stored_ok.mp h
  obtain ⟨slot, hs, hb⟩ := LawfulAuthority.readAt_ok a.bytes offset hf
  have hne : ¬a.bytes.isEmpty = true := by
    intro he
    simp only [List.isEmpty_iff] at he
    simp [he] at hf
  refine ⟨⟨slot⟩, ?_, AdminSeat.bytes_injective (hb.trans hr)⟩
  rw [AdminConfig.fromAccountAt, AdminConfig.decodeAt, if_neg hne, hs]

/-- A gate is the check on a caller, on what its window holds. -/
theorem gate_at_authorise {offset : Nat} {b : AccountWithMetadata} {s : AdminSeat}
    (h : stored b.bytes offset = .ok s) (signer : AccountWithMetadata) :
    AdminConfig.gateAt b offset signer = authorise s signer := by
  obtain ⟨c, hc, rfl⟩ := from_account_at_ok h
  simp only [AdminConfig.gateAt, hc]
  exact assert_authorise c signer

theorem gate_at_verdict (b : AccountWithMetadata) (offset : Nat) (signer : AccountWithMetadata) :
    AdminConfig.gateAt b offset signer = verdict b.bytes offset signer := by
  cases h : stored b.bytes offset with
  | error e =>
    simp only [AdminConfig.gateAt, from_account_at_error h, verdict, h, bind, Except.bind]
  | ok s => simp only [gate_at_authorise h, verdict, h, bind, Except.bind]

/-- The windowed write is a splice, and cannot outgrow the account. -/
theorem write_to_at_fits (c : AdminConfig) {a : AccountWithMetadata} {offset : Nat}
    (h : offset + 64 ≤ a.bytes.length) :
    c.writeToAt a offset = (.ok (), a.install offset c.seat) := by
  have ht : Data.tryFrom (Window.splice a.bytes offset (AuthorityCrate.seat c.slot).bytes) =
      some (a.account.data.splice offset c.seat.bytes) := tryFrom_splice (by simpa using h)
  simp only [AdminConfig.writeToAt, LawfulAuthority.writeAt_ok c.slot _ _ h, ht]
  rfl

/-- Each `perform_*_at` function is the documented step on the account's bytes:
it installs the prescribed next state, or refuses and leaves the account alone. -/
theorem perform_at_step (op : Operation) (a : AccountWithMetadata) (offset : Nat) :
    op.performAt a offset =
      match step a.bytes offset op with
      | .ok s => (.ok (), a.install offset s)
      | .error e => (.error e, a) := by
  rw [Operation.performAt_change, AdminConfig.performAt]
  cases hs : stored a.bytes offset with
  | error e => simp [from_account_at_error hs, step_refused hs]
  | ok s =>
    obtain ⟨c, hc, rfl⟩ := from_account_at_ok hs
    have hr := change_result op c
    simp only [hc, step_stored hs]
    cases ht : transition c.seat op with
    | error e =>
      rw [ht] at hr
      cases hp : op.change c with
      | mk result next =>
        rw [hp] at hr
        change result = _ at hr
        subst hr
        rfl
    | ok t =>
      rw [ht] at hr
      have hn := change_seat ht
      cases hp : op.change c with
      | mk result next =>
        rw [hp] at hr hn
        change result = _ at hr
        subst hr
        simp only at hn
        subst hn
        exact write_to_at_fits next (stored_ok.mp hs).1

theorem perform_at_ok {op : Operation} {a : AccountWithMetadata} {offset : Nat}
    (h : (op.performAt a offset).1 = .ok ()) :
    ∃ s t, stored a.bytes offset = .ok s ∧ transition s op = .ok t ∧
      (op.performAt a offset).2 = a.install offset t := by
  rw [perform_at_step] at h ⊢
  cases hst : step a.bytes offset op with
  | error e => simp [hst] at h
  | ok t =>
    obtain ⟨s, hs, ht⟩ := step_ok.mp hst
    exact ⟨s, t, hs, ht, rfl⟩

/-- The four windowed operations refine the documented lifecycle on raw bytes:
they report what it prescribes, a success leaves the prescribed state in the
window, and a refusal leaves the account as it was. -/
theorem perform_at_refines_lifecycle (op : Operation) (a : AccountWithMetadata) (offset : Nat) :
    (op.performAt a offset).1 = (step a.bytes offset op).map (fun _ => ()) ∧
      (∀ s, step a.bytes offset op = .ok s →
        Window.read (op.performAt a offset).2.bytes offset 64 = s.bytes ∧
        stored (op.performAt a offset).2.bytes offset = .ok s) ∧
      (∀ e, step a.bytes offset op = .error e → (op.performAt a offset).2 = a) := by
  rw [perform_at_step]
  cases hs : step a.bytes offset op with
  | error e =>
    refine ⟨rfl, ?_, fun _ _ => rfl⟩
    intro s h
    cases h
  | ok t =>
    refine ⟨rfl, ?_, ?_⟩
    · intro s h
      cases h
      obtain ⟨_, hst, _⟩ := step_ok.mp hs
      have hi := stored_install t (stored_ok.mp hst).1
      exact ⟨(stored_ok.mp hi).2, hi⟩
    · intro e h
      cases h

end

open Reference in
/-- The admin's nomination lands at offset 8, and its transfers to candidates that do not
qualify are refused, each with the candidate's own error. -/
theorem perform_at_refines_lifecycle_embedded :
    let config := embedded ⟨id 1, default⟩
    let nominate := Operation.nominate (acct 1 true) (id 2)
    let transfer := Operation.transfer (acct 1 true)
    let unowned := { acct 2 false with isAuthorized := true }
    ((nominate.performAt config 8).1 = .ok () ∧
      stored (nominate.performAt config 8).2.bytes 8 = .ok ⟨id 1, id 2⟩) ∧
    (transfer .signer (acct 2 false)).performAt config 8 = (.error .invalidCandidate, config) ∧
    (transfer .signer unowned).performAt config 8 = (.error .unownedSigner, config) ∧
    (transfer (.pda Build.programId (Reference.id 3).value) (acct 2 false)).performAt config 8 =
      (.error .candidateMismatch, config) ∧
    (transfer (.pda Build.programId (Reference.id 2).value) (acct 2 false)).performAt config 8 =
      (.error .undeployedPda, config) := by
  intro config nominate transfer unowned
  have hs : step config.bytes 8 nominate = .ok ⟨id 1, id 2⟩ := rfl
  obtain ⟨hr, hok, _⟩ := perform_at_refines_lifecycle nominate config 8
  have hrefused : ∀ candidate newAccount e,
      step config.bytes 8 (transfer candidate newAccount) = .error e →
        (transfer candidate newAccount).performAt config 8 = (.error e, config) := by
    intro candidate newAccount e he
    obtain ⟨hresult, _, hsame⟩ :=
      perform_at_refines_lifecycle (transfer candidate newAccount) config 8
    refine Prod.ext ?_ (hsame e he)
    rw [hresult, he]
    rfl
  refine ⟨⟨?_, (hok _ hs).2⟩, ?_, ?_, ?_, ?_⟩
  · rw [hr, hs]
    rfl
  · exact hrefused _ _ _ rfl
  · exact hrefused _ _ _ rfl
  · exact hrefused _ _ _ rfl
  · exact hrefused _ _ _ rfl

end AdminAuthority.Proofs
