import AdminAuthority.Proofs.EmbeddedSample
import AdminAuthority.Proofs.Layout

namespace AdminAuthority.Proofs
open Handover AuthorityCrate Lifecycle CallMachine Block

section
variable [Lez] [AuthorityCrate] {L : Type u} {κ : Type v}

theorem transition_entitled {s t : AdminSeat} {op : Operation} (h : transition s op = .ok t) :
    (ConsumerCall.manage op : ConsumerCall κ).Entitled s := by
  have ha := transition_ok.mp h
  cases op with
  | transfer current candidate newAccount =>
    obtain ⟨hc, _⟩ := ha
    exact authorise_ok.mp hc
  | nominate current newAdmin =>
    obtain ⟨hc, _⟩ := ha
    exact authorise_ok.mp hc
  | accept nominee =>
    obtain ⟨hc, _⟩ := ha
    obtain ⟨hh, _, hs, hid, _⟩ := authoriseNominee_ok.mp hc
    exact ⟨hh, hs, hid⟩
  | renounce current =>
    obtain ⟨hc, _⟩ := ha
    exact authorise_ok.mp hc

omit [AuthorityCrate] in
theorem vacant_entitles_none {s : AdminSeat} (h : s.holder = default) (c : ConsumerCall κ) :
    ¬c.Entitled s := by
  intro he
  cases c with
  | gated caller k => exact he.1 h
  | manage op => cases op <;> exact he.1 h

variable [LawfulAuthority] [Build]

theorem outsider_refused (p : Consumer L κ) {config : AccountWithMetadata} {s : AdminSeat}
    (hs : stored config.bytes p.offset = .ok s) {c : ConsumerCall κ} (hc : ¬c.Entitled s) :
    ∃ e, p.program.call config c = (.error e, config) := by
  cases c with
  | gated caller k =>
    simp only [Consumer.program, handle_gated, gate_at_authorise hs]
    cases ha : authorise s caller with
    | error e => exact ⟨_, rfl⟩
    | ok u => exact absurd (authorise_ok.mp ha) hc
  | manage op =>
    simp only [Consumer.program, manage_step, step_stored hs]
    cases ht : transition s op with
    | error e => exact ⟨_, rfl⟩
    | ok t => exact absurd (transition_entitled ht) hc

theorem outsiders_refused (p : Consumer L κ) {config : AccountWithMetadata} {s : AdminSeat}
    (hs : stored config.bytes p.offset = .ok s) (calls : List (ConsumerCall κ))
    (hc : ∀ c ∈ calls, ¬c.Entitled s) :
    p.program.run config calls = config ∧
      ∀ r ∈ p.program.results config calls, ∃ e, r = .error e := by
  induction calls with
  | nil => exact ⟨rfl, fun r hr => nomatch hr⟩
  | cons c calls ih =>
    obtain ⟨e, he⟩ := outsider_refused p hs (hc c (List.mem_cons_self ..))
    obtain ⟨hrun, hresults⟩ := ih fun d hd => hc d (List.mem_cons_of_mem c hd)
    rw [run_cons, results, he]
    refine ⟨hrun, ?_⟩
    intro r hr
    rcases List.mem_cons.mp hr with rfl | hr
    · exact ⟨e, rfl⟩
    · exact hresults r hr

/-- In every consumer program, whatever the bodies of its instructions do, calls without the
signature of the stored admin, or of the stored nominee where it accepts, change nothing
however many they are; and once there is no admin, no call at all does. -/
theorem outsiders_change_nothing (p : Consumer L κ) {config : AccountWithMetadata}
    {s : AdminSeat} (hs : stored config.bytes p.offset = .ok s) :
    (∀ calls : List (ConsumerCall κ), (∀ c ∈ calls, ¬c.Entitled s) →
      p.program.run config calls = config ∧
        ∀ r ∈ p.program.results config calls, ∃ e, r = .error e) ∧
    (s.holder = default → ∀ calls : List (ConsumerCall κ),
      p.program.run config calls = config ∧
        ∀ r ∈ p.program.results config calls, ∃ e, r = .error e) := by
  refine ⟨outsiders_refused p hs, ?_⟩
  intro hv calls
  exact outsiders_refused p hs calls fun c _ => vacant_entitles_none hv c

end

open Reference in
/-- Somebody without a role, and the nominee, try what is not theirs to do. -/
theorem outsiders_change_nothing_attempts :
    let p := EmbeddedSample.consumer.consumer
    let config := holding (EmbeddedSample.layout.bytes
      ⟨(7, Vector.replicate 24 0), ⟨(⟨id 1, id 2⟩ : AdminSeat)⟩, ()⟩)
    p.program.run config [.gated (acct 3 true) 9, .gated (acct 2 true) 9,
      .manage (.renounce (acct 2 true)), .manage (.accept (acct 3 true))] = config := by
  intro p config
  have hs : stored config.bytes p.offset = .ok ⟨Reference.id 1, Reference.id 2⟩ :=
    layout_stored rfl
  refine ((outsiders_change_nothing p hs).1 _ ?_).1
  intro c hc he
  simp only [List.mem_cons, List.not_mem_nil, or_false] at hc
  rcases hc with rfl | rfl | rfl | rfl
  · exact absurd he.2.2 (by decide)
  · exact absurd he.2.2 (by decide)
  · exact absurd he.2.2 (by decide)
  · exact absurd he.2.2 (by decide)

section
variable [Lez] [AuthorityCrate] {α : Type u} {β : Type v} {κ : Type w}

theorem struct_body_unread (q : StructConsumer α β κ) {config : AccountWithMetadata}
    {e : SpelError} (h : q.layout.fromAccount config = .error e) (k : κ) :
    (exec (q.consumer.body k) ⟨config, q.consumer.locals⟩).result = .error e := by
  change (exec [q.load, q.change k, q.save, .next] ⟨config, none⟩).result = .error e
  simp only [exec_cons, StructConsumer.load, attempt, h, andThen_fail]
  rfl

/-- The statements of an instruction, once the struct is read: update, then write back. -/
theorem struct_body (q : StructConsumer α β κ) {config : AccountWithMetadata}
    {s : Embedding α β} (h : q.layout.fromAccount config = .ok s) (k : κ) :
    (exec (q.consumer.body k) ⟨config, q.consumer.locals⟩).result =
      match q.update k s with
      | .error e => .error e
      | .ok (before, after) =>
        match q.layout.writeTo ⟨before, s.admin, after⟩ config with
        | (.ok (), start) => .ok ⟨start, some ⟨before, s.admin, after⟩⟩
        | (.error e, _) => .error e := by
  change (exec [q.load, q.change k, q.save, .next] ⟨config, none⟩).result = _
  simp only [exec_cons, StructConsumer.load, StructConsumer.change, attempt, h, andThen_next]
  cases q.update k s with
  | error e => rfl
  | ok fields =>
    simp only [andThen_next, exec_cons, StructConsumer.save, attempt]
    cases q.layout.writeTo ⟨fields.1, s.admin, fields.2⟩ config with
    | mk result start => cases result <;> rfl

variable [LawfulAuthority]

/-- No update of the struct's own fields writes into the slot. -/
theorem struct_keeps_slot (q : StructConsumer α β κ) : q.consumer.KeepsSlot := by
  intro k config env t hok hs
  cases hread : q.layout.fromAccount config with
  | error e =>
    rw [struct_body_unread q hread k] at hok
    cases hok
  | ok s =>
    have hstored := layout_stored (layout_from_account.mp hread)
    obtain rfl : t = s.admin.seat := Except.ok.inj (hs.symm.trans hstored)
    rw [struct_body q hread k] at hok
    cases hu : q.update k s with
    | error e =>
      rw [hu] at hok
      cases hok
    | ok fields =>
      cases hw : q.layout.writeTo ⟨fields.1, s.admin, fields.2⟩ config with
      | mk result start =>
        simp only [hu, hw] at hok
        cases result with
        | error e => cases hok
        | ok u =>
          obtain rfl := Except.ok.inj hok
          have hwritten := layout_stored (layout_write_ok hw)
          exact hwritten

end

section
variable [Lez] [AuthorityCrate] {L : Type u} {κ : Type v} [LawfulAuthority] [Build]

/-- Two accounts with one admin and nominee in the window. -/
def SameStored (p : Consumer L κ) (a b : AccountWithMetadata) : Prop :=
  ∃ s, stored a.bytes p.offset = .ok s ∧ stored b.bytes p.offset = .ok s

omit [LawfulAuthority] in
theorem gated_keeps_stored {p : Consumer L κ} (hp : p.KeepsSlot) {config : AccountWithMetadata}
    {s : AdminSeat} (hs : stored config.bytes p.offset = .ok s) (caller : AccountWithMetadata)
    (k : κ) : stored (p.program.call config (.gated caller k)).2.bytes p.offset = .ok s := by
  simp only [Consumer.program, handle_gated]
  cases AdminConfig.gateAt config p.offset caller with
  | error e => exact hs
  | ok u =>
    simp only [Macros.handle]
    cases he : (exec (p.body k) ⟨config, p.locals⟩).result with
    | error e => exact hs
    | ok env => exact hp k config env s he hs

theorem manage_same {p : Consumer L κ} {a b : AccountWithMetadata} (h : SameStored p a b)
    (op : Operation) :
    (p.program.call a (.manage op)).1 = (p.program.call b (.manage op)).1 ∧
      SameStored p (p.program.call a (.manage op)).2 (p.program.call b (.manage op)).2 := by
  obtain ⟨s, ha, hb⟩ := h
  simp only [Consumer.program, manage_step, step_stored ha, step_stored hb]
  cases transition s op with
  | error e => exact ⟨rfl, s, ha, hb⟩
  | ok t =>
    exact ⟨rfl, t, stored_install t (stored_ok.mp ha).1, stored_install t (stored_ok.mp hb).1⟩

theorem run_same_stored {p : Consumer L κ} (hp : p.KeepsSlot) {config : AccountWithMetadata}
    {s : AdminSeat} (hs : stored config.bytes p.offset = .ok s) (calls : List (ConsumerCall κ)) :
    SameStored p (p.program.run config calls)
      (p.program.run config (calls.filter ConsumerCall.isManage)) := by
  refine run_filter p.program ConsumerCall.isManage (R := SameStored p) ?_ ?_ ⟨s, hs, hs⟩ calls
  · intro a b c h hc
    cases c with
    | gated caller k => cases hc
    | manage op => exact (manage_same h op).2
  · intro a b c h hc
    cases c with
    | gated caller k =>
      obtain ⟨t, ha, hb⟩ := h
      exact ⟨t, gated_keeps_stored hp ha caller k, hb⟩
    | manage op => cases hc

/-- Where no body writes into the slot, the gated calls of a run leave no trace in the
authority: what is stored, how the next management call ends and whom the next gate lets
pass are as if the management calls had been the only ones. -/
theorem authority_ignores_gated {p : Consumer L κ} (hp : p.KeepsSlot)
    {config : AccountWithMetadata} {s : AdminSeat} (hs : stored config.bytes p.offset = .ok s)
    (calls : List (ConsumerCall κ)) :
    let a := p.program.run config calls
    let b := p.program.run config (calls.filter ConsumerCall.isManage)
    stored a.bytes p.offset = stored b.bytes p.offset ∧
      (∀ op, (p.program.call a (.manage op)).1 = (p.program.call b (.manage op)).1) ∧
      ∀ signer, AdminConfig.gateAt a p.offset signer = AdminConfig.gateAt b p.offset signer := by
  intro a b
  have h : SameStored p a b := run_same_stored hp hs calls
  obtain ⟨t, ha, hb⟩ := h
  refine ⟨ha.trans hb.symm, fun op => (manage_same ⟨t, ha, hb⟩ op).1, ?_⟩
  intro signer
  rw [gate_at_authorise ha, gate_at_authorise hb]

end

open Reference in
/-- Two updates between a nomination and its acceptance. -/
theorem authority_ignores_gated_updates :
    let p := EmbeddedSample.consumer.consumer
    let config := holding (EmbeddedSample.layout.bytes
      ⟨(7, Vector.replicate 24 0), ⟨(⟨id 1, default⟩ : AdminSeat)⟩, ()⟩)
    let nominate : ConsumerCall UInt64 := .manage (.nominate (acct 1 true) (Reference.id 2))
    let accept : ConsumerCall UInt64 := .manage (.accept (acct 2 true))
    stored (p.program.run config
        [.gated (acct 1 true) 8, nominate, .gated (acct 2 true) 9, accept]).bytes p.offset =
      stored (p.program.run config [nominate, accept]).bytes p.offset := by
  intro p config nominate accept
  have hs : stored config.bytes p.offset = .ok ⟨Reference.id 1, default⟩ := layout_stored rfl
  have hk : [.gated (acct 1 true) 8, nominate, .gated (acct 2 true) 9, accept].filter
      ConsumerCall.isManage = [nominate, accept] := rfl
  have hp : p.KeepsSlot := struct_keeps_slot EmbeddedSample.consumer
  have h := (authority_ignores_gated hp hs
    [.gated (acct 1 true) 8, nominate, .gated (acct 2 true) 9, accept]).1
  rw [hk] at h
  exact h

section
variable [Lez] [AuthorityCrate] {α : Type u} {β : Type v} {κ : Type w} [LawfulAuthority] [Build]

/-- Each call does to the account's bytes what the model does to the struct. -/
theorem struct_call_refines (q : StructConsumer α β κ) (config : AccountWithMetadata)
    (s : Embedding α β) (c : ConsumerCall κ) (h : q.layout.fromAccount config = .ok s) :
    (q.consumer.program.call config c).1 = (q.model.call s c).1 ∧
      q.layout.fromAccount (q.consumer.program.call config c).2 = .ok (q.model.call s c).2 := by
  have hb := layout_from_account.mp h
  cases c with
  | gated caller k =>
    have hg : AdminConfig.gateAt config q.consumer.offset caller = s.admin.assertAdmin caller := by
      have hr : AdminConfig.fromAccountAt config q.consumer.offset = .ok s.admin := layout_reads hb
      rw [AdminConfig.gateAt, hr]
    simp only [Consumer.program, handle_gated, hg, StructConsumer.model]
    cases s.admin.assertAdmin caller with
    | error e => exact ⟨rfl, h⟩
    | ok u =>
      simp only [Macros.handle, struct_body q h k]
      cases q.update k s with
      | error e => exact ⟨rfl, h⟩
      | ok fields =>
        by_cases hl : (q.layout.bytes ⟨fields.1, s.admin, fields.2⟩).length ≤ Lez.dataMaxLength
        · simp only [layout_write_fits hl, if_pos hl, true_and]
          exact layout_from_account.mpr rfl
        · simp only [layout_write_large hl, if_neg hl, true_and]
          exact h
  | manage op =>
    obtain ⟨hr, hl⟩ := layout_performs op hb
    have hoffset : q.consumer.offset = q.layout.ADMIN_SLOT_OFFSET := rfl
    simp only [Consumer.program, manage_step, hoffset]
    rw [perform_at_step] at hr hl
    change _ = (op.change s.admin).1.mapError SpelError.ofAdmin ∧
      q.layout.fromAccount _ = .ok { s with admin := (op.change s.admin).2 }
    rw [← hr, layout_from_account, ← hl]
    cases step config.bytes q.layout.ADMIN_SLOT_OFFSET op with
    | error e => exact ⟨rfl, rfl⟩
    | ok t => exact ⟨rfl, rfl⟩

/-- A consumer program on bytes is the program on the fields of its struct, whatever they
are: over every run the two report the same results, and the account decodes to the
fields, with the config in their midst as the operations alone leave it. -/
theorem struct_consumer_refines (q : StructConsumer α β κ) {config : AccountWithMetadata}
    {s : Embedding α β} (h : q.layout.fromAccount config = .ok s) (calls : List (ConsumerCall κ)) :
    q.consumer.program.results config calls = q.model.results s calls ∧
      q.layout.fromAccount (q.consumer.program.run config calls) = .ok (q.model.run s calls) :=
  lockstep q.consumer.program q.model (R := fun config s => q.layout.fromAccount config = .ok s)
    (struct_call_refines q) h calls

end

open Reference in
/-- An update, a nomination, the nominee's update too early, its acceptance and its update. -/
theorem struct_consumer_refines_handover :
    let config := holding (EmbeddedSample.layout.bytes
      ⟨(7, Vector.replicate 24 0), ⟨(⟨id 1, default⟩ : AdminSeat)⟩, ()⟩)
    EmbeddedSample.layout.fromAccount (EmbeddedSample.consumer.consumer.program.run config
        [.gated (acct 1 true) 8, .manage (.nominate (acct 1 true) (Reference.id 2)),
          .gated (acct 2 true) 9, .manage (.accept (acct 2 true)), .gated (acct 2 true) 10]) =
      .ok ⟨(10, Vector.replicate 24 0), ⟨(⟨id 2, default⟩ : AdminSeat)⟩, ()⟩ := by
  intro config
  have h : EmbeddedSample.layout.fromAccount config =
      .ok ⟨(7, Vector.replicate 24 0), ⟨(⟨id 1, default⟩ : AdminSeat)⟩, ()⟩ :=
    layout_from_account.mpr rfl
  exact (struct_consumer_refines EmbeddedSample.consumer h _).2

section
variable [Lez] [AuthorityCrate] [LawfulAuthority]

theorem prog_config_from_account (config : AccountWithMetadata) :
    EmbeddedSample.layout.fromAccount config =
      (ProgConfig.fromAccount config).map ProgConfig.embedding := by
  rw [Layout.fromAccount, ProgConfig.fromAccount, prog_config_from_slice]
  cases ProgConfig.tryFromSlice config.bytes <;> rfl

theorem prog_config_write_to (c : ProgConfig) (config : AccountWithMetadata) :
    c.writeTo config = EmbeddedSample.layout.writeTo c.embedding config := by
  rw [ProgConfig.writeTo, prog_config_to_vec]
  cases hv : EmbeddedSample.layout.toVec c.embedding with
  | none => simp only [Layout.writeTo, hv]
  | some bytes => cases hd : Data.tryFrom bytes <;> simp only [Layout.writeTo, hv, hd]

variable [Build]

/-- The embedded sample's `update_value` is an update of its struct. -/
theorem embedded_sample_updates (config caller : AccountWithMetadata) (newValue : UInt64) :
    EmbeddedSample.program.call config (.updateValue caller newValue) =
      EmbeddedSample.consumer.consumer.program.call config (.gated caller newValue) := by
  have hoffset : EmbeddedSample.consumer.consumer.offset = EmbeddedSample.offset := rfl
  simp only [EmbeddedSample.program, EmbeddedSample.updateValue, Consumer.program, handle_gated,
    hoffset]
  cases AdminConfig.gateAt config EmbeddedSample.offset caller with
  | error e => rfl
  | ok u =>
    have hread := prog_config_from_account config
    simp only [Macros.handle]
    cases hc : ProgConfig.fromAccount config with
    | error e =>
      rw [hc] at hread
      rw [struct_body_unread EmbeddedSample.consumer hread newValue]
      simp only [exec_cons, EmbeddedSample.load, attempt, hc, andThen_fail]
      rfl
    | ok c =>
      rw [hc] at hread
      have hw := prog_config_write_to { c with value := newValue } config
      rw [struct_body EmbeddedSample.consumer hread newValue]
      simp only [exec_cons, EmbeddedSample.load, EmbeddedSample.setValue,
        EmbeddedSample.saveState, EmbeddedSample.save, attempt, hc, andThen_next, Option.map_some,
        hw]
      have hu : EmbeddedSample.consumer.update newValue c.embedding =
          .ok ((newValue, c.padding), ()) := rfl
      have hlayout : EmbeddedSample.consumer.layout.writeTo
          ⟨(newValue, c.padding), c.embedding.admin, ()⟩ config =
            EmbeddedSample.layout.writeTo { c with value := newValue }.embedding config := rfl
      simp only [hu, hlayout]
      cases EmbeddedSample.layout.writeTo { c with value := newValue }.embedding config with
      | mk result start => cases result <;> rfl

end

end AdminAuthority.Proofs
