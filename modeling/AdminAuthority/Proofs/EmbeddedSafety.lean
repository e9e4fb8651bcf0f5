import AdminAuthority.Proofs.EmbeddedSample
import AdminAuthority.Proofs.Terminal

namespace AdminAuthority.Proofs
open Handover AuthorityCrate Lifecycle CallMachine EmbeddedSample

theorem state_value (p : ProgState) :
    Window.read p.bytes 0 8 = LittleEndian.encode 8 p.value.toNat := by
  rw [Window.read, List.drop_zero, ProgState.bytes, List.append_assoc]
  exact List.take_left' (by simp)

theorem state_padding (p : ProgState) : Window.read p.bytes 8 24 = List.replicate 24 0 := by
  rw [Window.read, ProgState.bytes, List.append_assoc, List.drop_left' (by simp)]
  exact List.take_left' (by simp)

theorem state_slot (p : ProgState) : Window.read p.bytes 32 64 = AdminSeat.bytes p.seat :=
  (stored_ok.mp (state_stored p)).2

/-- Two programs with one seat, or neither created. -/
def SameSeat (p q : Option ProgState) : Prop := p.map ProgState.seat = q.map ProgState.seat

section
variable [Lez]

/-- The calls that are not an `update_value`. -/
def keepsValue : ProgCall → Bool
  | .updateValue _ _ => false
  | _ => true

/-- The slot window of an account, read off the program state it represents. -/
theorem represents_slot {a b : AccountWithMetadata} {p q : Option ProgState}
    (ha : Represents a p) (hb : Represents b q) (h : SameSeat p q) :
    Window.read a.bytes 32 64 = Window.read b.bytes 32 64 := by
  cases p with
  | none =>
    cases q with
    | none =>
      have hd : a.account = b.account := Eq.trans ha (Eq.symm hb)
      rw [AccountWithMetadata.bytes, AccountWithMetadata.bytes, hd]
    | some q => cases h
  | some p =>
    cases q with
    | none => cases h
    | some q =>
      have hs : p.seat = q.seat := Option.some.inj h
      have ha' : a.bytes = p.bytes := ha
      have hb' : b.bytes = q.bytes := hb
      rw [ha', hb', state_slot, state_slot, hs]

variable [AuthorityCrate]

/-- The account exists: it has its 96 bytes, and they decode. -/
def Created (config : AccountWithMetadata) : Prop :=
  config.bytes.length = 96 ∧ ∃ state, ProgConfig.fromAccount config = .ok state

/-- What one call may do to a created account. -/
structure CallSafe [Build] (config : AccountWithMetadata) (c : ProgCall) : Prop where
  created : Created (program.call config c).2
  padding : Window.read (program.call config c).2.bytes 8 24 = Window.read config.bytes 8 24
  value : Window.read (program.call config c).2.bytes 0 8 ≠ Window.read config.bytes 0 8 →
    ∃ caller newValue, c = .updateValue caller newValue ∧ (program.call config c).1 = .ok ()
  update : ∀ caller newValue, c = .updateValue caller newValue →
    (program.call config c).1 = .ok () →
      caller.isAuthorized = true ∧
      (∃ s, stored config.bytes 32 = .ok s ∧ s.holder ≠ default ∧ caller.accountId = s.holder) ∧
      Window.read (program.call config c).2.bytes 0 8 = LittleEndian.encode 8 newValue.toNat
  slot : Window.read (program.call config c).2.bytes 32 64 ≠ Window.read config.bytes 32 64 →
    ∃ op, c = .manage op

/-- Everything a successful call on an existing program can be. -/
theorem next_ok {p q : ProgState} {c : ProgCall} (h : next p c = .ok q) :
    (∃ caller newValue, c = .updateValue caller newValue ∧ authorise p.seat caller = .ok () ∧
        q = { p with value := newValue }) ∨
      (∃ caller, c = .poke caller ∧ q = p) ∨
      (∃ op t, c = .manage op ∧ transition p.seat op = .ok t ∧ q = { p with seat := t }) := by
  cases c with
  | initializeProg caller => cases h
  | updateValue caller newValue =>
    simp only [next] at h
    split at h
    · rename_i ha
      exact .inl ⟨caller, newValue, rfl, ha, (Except.ok.inj h).symm⟩
    · cases h
  | poke caller =>
    simp only [next] at h
    split at h
    · exact .inr (.inl ⟨caller, rfl, (Except.ok.inj h).symm⟩)
    · cases h
  | manage op =>
    simp only [next] at h
    split at h
    · rename_i t ht
      exact .inr (.inr ⟨op, t, rfl, ht, (Except.ok.inj h).symm⟩)
    · cases h

theorem next_renounce {p q : ProgState} {current : AccountWithMetadata}
    (h : next p (.manage (.renounce current)) = .ok q) : q.seat.holder = default := by
  rcases next_ok h with ⟨_, _, hc, _, _⟩ | ⟨_, hc, _⟩ | ⟨_, t, hc, ht, rfl⟩
  · cases hc
  · cases hc
  · cases hc
    obtain ⟨_, rfl⟩ := transition_ok.mp ht
    rfl

/-- Nothing succeeds on a program without an admin. -/
theorem next_vacant {p : ProgState} (h : p.seat.holder = default) (c : ProgCall) :
    ∃ e, next p c = .error e := by
  cases c with
  | initializeProg caller => exact ⟨_, rfl⟩
  | updateValue caller newValue => simp [next, authorise_vacant h]
  | poke caller => simp [next, authorise_vacant h]
  | manage op => simp [next, transition_vacant h]

theorem same_seat_call {p q : Option ProgState} (h : SameSeat p q) (c : ProgCall) :
    (model.call p c).1 = (model.call q c).1 ∧ SameSeat (model.call p c).2 (model.call q c).2 := by
  cases p with
  | none =>
    cases q with
    | none => exact ⟨rfl, rfl⟩
    | some q => cases h
  | some p =>
    cases q with
    | none => cases h
    | some q =>
      have hs : p.seat = q.seat := Option.some.inj h
      cases c with
      | initializeProg caller => exact ⟨rfl, h⟩
      | updateValue caller newValue =>
        simp only [model, progress, next, hs]
        cases authorise q.seat caller with
        | error e => exact ⟨rfl, h⟩
        | ok u => exact ⟨rfl, rfl⟩
      | poke caller =>
        simp only [model, progress, next, hs]
        cases authorise q.seat caller with
        | error e => exact ⟨rfl, h⟩
        | ok u => exact ⟨rfl, h⟩
      | manage op =>
        simp only [model, progress, next, hs]
        cases transition q.seat op with
        | error e => exact ⟨rfl, h⟩
        | ok t => exact ⟨rfl, rfl⟩

theorem update_keeps_seat {p q : Option ProgState} (h : SameSeat p q) {c : ProgCall}
    (hc : keepsValue c = false) : SameSeat (model.call p c).2 q := by
  cases c with
  | updateValue caller newValue =>
    cases p with
    | none => exact h
    | some p =>
      simp only [model, progress, next]
      cases authorise p.seat caller with
      | error e => exact h
      | ok u => exact h
  | initializeProg caller => cases hc
  | poke caller => cases hc
  | manage op => cases hc

/-- The admin and the nominee develop as if no value had ever been set. -/
theorem run_same_seat (calls : List ProgCall) :
    SameSeat (model.run none calls) (model.run none (calls.filter keepsValue)) :=
  run_filter model keepsValue (R := SameSeat) (fun _ _ c h _ => (same_seat_call h c).2)
    (fun _ _ _ h hc => update_keeps_seat h hc) rfl calls

theorem run_vacant_model {p : ProgState} (h : p.seat.holder = default) (calls : List ProgCall) :
    model.run (some p) calls = some p := by
  induction calls with
  | nil => rfl
  | cons c calls ih =>
    obtain ⟨e, he⟩ := next_vacant h c
    have hc : model.call (some p) c = (.error e, some p) := by simp [model, progress, he]
    rw [run_cons, hc]
    exact ih

variable [LawfulAuthority]

omit [LawfulAuthority] in
theorem not_created {config : AccountWithMetadata} (h : config.account = default) :
    ¬Created config := by
  intro h
  obtain ⟨hl, _⟩ := h
  rw [AccountWithMetadata.bytes, h] at hl
  cases hl

theorem created_of_state {config : AccountWithMetadata} {p : ProgState}
    (h : config.bytes = p.bytes) : Created config := by
  obtain ⟨state, hs, _⟩ := from_account_state h
  exact ⟨by rw [h, state_length], state, hs⟩

variable [Build]

theorem call_safe {config : AccountWithMetadata} {p : ProgState} (h : config.bytes = p.bytes)
    (c : ProgCall) : CallSafe config c := by
  obtain ⟨q, hq, hcase⟩ := call_state h c
  constructor
  · exact created_of_state hq
  · rw [hq, h, state_padding, state_padding]
  · intro hne
    rw [hq, h, state_value, state_value] at hne
    rcases hcase with ⟨hok, hn⟩ | ⟨_, _, _, rfl⟩
    · rcases next_ok hn with ⟨caller, newValue, rfl, _, _⟩ | ⟨_, _, rfl⟩ | ⟨_, _, _, _, rfl⟩
      · exact ⟨caller, newValue, rfl, hok⟩
      · exact absurd rfl hne
      · exact absurd rfl hne
    · exact absurd rfl hne
  · rintro caller newValue rfl hok
    rcases hcase with ⟨_, hn⟩ | ⟨_, he, _, _⟩
    · rcases next_ok hn with ⟨_, _, hc, ha, rfl⟩ | ⟨_, hc, _⟩ | ⟨_, _, hc, _, _⟩
      · cases hc
        obtain ⟨hh, hs, hid⟩ := authorise_ok.mp ha
        refine ⟨hs, ⟨p.seat, by rw [h]; exact state_stored p, hh, hid⟩, ?_⟩
        rw [hq, state_value]
      · cases hc
      · cases hc
    · cases hok.symm.trans he
  · intro hne
    rw [hq, h, state_slot, state_slot] at hne
    rcases hcase with ⟨_, hn⟩ | ⟨_, _, _, rfl⟩
    · rcases next_ok hn with ⟨_, _, _, _, rfl⟩ | ⟨_, _, rfl⟩ | ⟨op, _, rfl, _, _⟩
      · exact absurd rfl hne
      · exact absurd rfl hne
      · exact ⟨op, rfl⟩
    · exact absurd rfl hne

/-- After a renounce nothing succeeds any more, and the bytes stay. -/
theorem renounced_forever {config current : AccountWithMetadata} {p : ProgState}
    (h : config.bytes = p.bytes)
    (hok : (program.call config (.manage (.renounce current))).1 = .ok ()) (later : List ProgCall) :
    (program.run config (.manage (.renounce current) :: later)).bytes =
        (program.run config [.manage (.renounce current)]).bytes ∧
      ∀ c, ∃ e, (program.call
        (program.run config (.manage (.renounce current) :: later)) c).1 = .error e := by
  obtain ⟨q, hq, ⟨_, hn⟩ | ⟨_, he, _, _⟩⟩ := call_state h (.manage (.renounce current))
  · have hv := next_renounce hn
    have hs : Represents (program.call config (.manage (.renounce current))).2 (some q) := hq
    have hr := (lockstep program model refines hs later).2
    rw [run_vacant_model hv later] at hr
    refine ⟨hr.trans hq.symm, ?_⟩
    intro c
    obtain ⟨e, hne⟩ := next_vacant hv c
    refine ⟨e, ?_⟩
    rw [run_cons, (next_refines hr c).1]
    simp [model, progress, hne]
  · cases hok.symm.trans he

/-- The embedded reference program over whole runs. Its account is created once with
96 bytes that always decode; the padding never changes, the value only in an
`update_value` signed by the stored admin, to its argument, the slot only in the four
admin instructions and as if no value were ever set; and after a renounce all bytes
stay, since every call fails. -/
theorem embedded_program_safe {start : AccountWithMetadata} (h : start.account = default)
    (past : List ProgCall) :
    ((program.run start past).account = default ∨ Created (program.run start past)) ∧
      (Created (program.run start past) → ∀ c, CallSafe (program.run start past) c) ∧
      Window.read (program.run start past).bytes 32 64 =
        Window.read (program.run start (past.filter keepsValue)).bytes 32 64 ∧
      (∀ op, (program.call (program.run start past) (.manage op)).1 =
        (program.call (program.run start (past.filter keepsValue)) (.manage op)).1) ∧
      (∀ current later,
        (program.call (program.run start past) (.manage (.renounce current))).1 = .ok () →
          (program.run start (past ++ .manage (.renounce current) :: later)).bytes =
              (program.run start (past ++ [.manage (.renounce current)])).bytes ∧
            ∀ c, ∃ e, (program.call
              (program.run start (past ++ .manage (.renounce current) :: later)) c).1 = .error e) := by
  have hr := (program_refines h past).2
  have hf := (program_refines h (past.filter keepsValue)).2
  have hsame := run_same_seat past
  refine ⟨?_, ?_, represents_slot hr hf hsame, ?_, ?_⟩
  · cases hp : model.run none past with
    | none =>
      rw [hp] at hr
      exact .inl hr
    | some p =>
      rw [hp] at hr
      exact .inr (created_of_state hr)
  · intro hc c
    cases hp : model.run none past with
    | none =>
      rw [hp] at hr
      exact absurd hc (not_created hr)
    | some p =>
      rw [hp] at hr
      exact call_safe hr c
  · intro op
    rw [(refines _ _ (.manage op) hr).1, (refines _ _ (.manage op) hf).1]
    exact (same_seat_call hsame (.manage op)).1
  · intro current later hok
    rw [run_append, run_append]
    cases hp : model.run none past with
    | none =>
      rw [hp] at hr
      have he := (first_refines hr (.manage (.renounce current))).1
      cases hok.symm.trans he
    | some p =>
      rw [hp] at hr
      exact renounced_forever hr hok later

end

open Reference in
/-- A created account holds its 96 bytes after two updates, one of them refused. The other
one is its value, and neither leaves a trace in the slot. -/
theorem embedded_program_safe_updates :
    let start := holding []
    let create := ProgCall.initializeProg (acct 1 true)
    let nominate := ProgCall.manage (.nominate (acct 1 true) (Reference.id 2))
    let calls := [create, .updateValue (acct 1 true) 7, .updateValue (acct 2 true) 9, nominate]
    Created (program.run start calls) ∧
      (program.run start calls).bytes.length = 96 ∧
      (program.run start calls).bytes.take 8 = [7, 0, 0, 0, 0, 0, 0, 0] ∧
      Window.read (program.run start calls).bytes 32 64 =
        Window.read (program.run start [create, nominate]).bytes 32 64 := by
  intro start create nominate calls
  have hd : start.account = default := rfl
  have hl : (program.run start calls).bytes.length = 96 := by decide +kernel
  have hv : (program.run start calls).bytes.take 8 = [7, 0, 0, 0, 0, 0, 0, 0] := by
    decide +kernel
  have hk : calls.filter keepsValue = [create, nominate] := rfl
  obtain ⟨hcreated, _, hs, _⟩ := embedded_program_safe hd calls
  rw [hk] at hs
  refine ⟨?_, hl, hv, hs⟩
  apply hcreated.resolve_left
  intro hdefault
  rw [AccountWithMetadata.bytes, hdefault] at hl
  cases hl

end AdminAuthority.Proofs
