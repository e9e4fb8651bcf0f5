import AdminAuthority.Model.Reference
import AdminAuthority.Model.SharedAccount
import AdminAuthority.Proofs.Bootstrap

namespace AdminAuthority.Proofs
open Handover AuthorityCrate Lifecycle CallMachine

section
variable [Lez] [AuthorityCrate]

/-- The admin and nominee a slot call installs, or its error. -/
def outcome (bytes : List UInt8) (offset : Nat) : SlotCall → Except AdminError AdminSeat
  | .bootstrap candidate newAccount =>
    match validate candidate newAccount with
    | .error e => .error (.ofAuthority e)
    | .ok id => if offset + 64 ≤ bytes.length then .ok ⟨id, default⟩ else .error .slotOutOfBounds
  | .operate op => step bytes offset op

theorem outcome_fits {bytes : List UInt8} {offset : Nat} {c : SlotCall} {s : AdminSeat}
    (h : outcome bytes offset c = .ok s) : offset + 64 ≤ bytes.length := by
  cases c with
  | bootstrap candidate newAccount =>
    simp only [outcome] at h
    split at h
    · cases h
    · split at h
      · assumption
      · cases h
  | operate op =>
    obtain ⟨_, hs, _⟩ := step_ok.mp h
    exact (stored_ok.mp hs).1

/-- A slot call looks at nothing but its own window and whether it fits. -/
theorem outcome_window {xs ys : List UInt8} {offset : Nat} (hl : xs.length = ys.length)
    (hf : offset + 64 ≤ ys.length) (h : Window.read xs offset 64 = Window.read ys offset 64)
    (c : SlotCall) : outcome xs offset c = outcome ys offset c := by
  cases c with
  | bootstrap candidate newAccount => simp only [outcome, hl]
  | operate op =>
    have hs : stored xs offset = stored ys offset := stored_window (by omega) hf h
    simp only [outcome, step, hs]

variable [LawfulAuthority]

theorem slot_call_outcome (c : SlotCall) (a : AccountWithMetadata) (offset : Nat) :
    c.callAt a offset =
      match outcome a.bytes offset c with
      | .ok s => (.ok (), a.install offset s)
      | .error e => (.error e, a) := by
  cases c with
  | bootstrap candidate newAccount =>
    have hb := bootstrap_at_step a offset candidate newAccount
    rw [SlotCall.callAt, hb, outcome]
    cases validate candidate newAccount with
    | error e => rfl
    | ok id => by_cases hf : offset + 64 ≤ a.bytes.length <;> simp [hf]
  | operate op => exact perform_at_step op a offset

/-- Whatever a slot call does, it does to its own window. -/
theorem slot_call_frame (c : SlotCall) (a : AccountWithMetadata) (offset : Nat) :
    ∃ d : Data, (c.callAt a offset).2 = a.withData d ∧ d.bytes.length = a.bytes.length ∧
      (∀ p n, Window.Apart offset 64 p n → Window.read d.bytes p n = Window.read a.bytes p n) ∧
      ∀ k, ¬(offset ≤ k ∧ k < offset + 64) → d.bytes[k]? = a.bytes[k]? := by
  rw [slot_call_outcome]
  cases ho : outcome a.bytes offset c with
  | error e => exact ⟨a.account.data, rfl, rfl, fun _ _ _ => rfl, fun _ _ => rfl⟩
  | ok s =>
    have hf : offset + s.bytes.length ≤ a.bytes.length := by simpa using outcome_fits ho
    have hd : (a.account.data.splice offset s.bytes).bytes = Window.splice a.bytes offset s.bytes :=
      splice_bytes hf
    refine ⟨a.account.data.splice offset s.bytes, rfl, ?_, ?_, ?_⟩
    · rw [hd, Window.splice_length hf]
    · intro p n hapart
      rw [hd, Window.read_splice_apart hf (by simpa using hapart)]
    · intro k hk
      rw [hd, Window.getElem?_splice hf, if_neg (by simpa using hk)]

end

section
variable {ι : Type u} {offset : ι → Nat}

theorem write_keeps (w : ConsumerWrite offset) (xs : List UInt8) (i : ι) :
    Window.read (w.write xs) (offset i) 64 = Window.read xs (offset i) 64 := by
  apply List.ext_getElem?
  intro k
  rw [Window.getElem?_read, Window.getElem?_read]
  split
  · rename_i hk
    have hb : w.byte (offset i + k) = none := by
      cases hb : w.byte (offset i + k) with
      | none => rfl
      | some b => exact absurd ⟨by omega, by omega⟩ (w.free (offset i + k) (by simp [hb]) i)
    simp [ConsumerWrite.write, hb]
  · rfl

variable [Lez]

/-- Two accounts of one length whose data agrees on the slot `i`. -/
structure SameSlot (offset : ι → Nat) (i : ι) (a b : AccountWithMetadata) : Prop where
  length : a.bytes.length = b.bytes.length
  fits : offset i + 64 ≤ b.bytes.length
  slot : Window.read a.bytes (offset i) 64 = Window.read b.bytes (offset i) 64

/-- Two accounts of one length whose data agrees outside all slots. -/
structure SameConsumer (offset : ι → Nat) (a b : AccountWithMetadata) : Prop where
  length : a.bytes.length = b.bytes.length
  free : ∀ k, Free offset k → a.bytes[k]? = b.bytes[k]?

theorem consumer_keeps_slot {i : ι} {a b : AccountWithMetadata} (h : SameSlot offset i a b)
    (w : ConsumerWrite offset) : SameSlot offset i (a.rewritten w) b :=
  ⟨(w.write_length a.bytes).trans h.length, h.fits, (write_keeps w a.bytes i).trans h.slot⟩

theorem consumer_same {a b : AccountWithMetadata} (h : SameConsumer offset a b)
    (w : ConsumerWrite offset) : SameConsumer offset (a.rewritten w) (b.rewritten w) := by
  refine ⟨(w.write_length a.bytes).trans (h.length.trans (w.write_length b.bytes).symm), ?_⟩
  intro k hk
  change (w.write a.bytes)[k]? = (w.write b.bytes)[k]?
  simp [ConsumerWrite.write, h.free k hk]

variable [AuthorityCrate] [LawfulAuthority]

theorem same_slot_call {i : ι} {a b : AccountWithMetadata} (h : SameSlot offset i a b)
    (c : SlotCall) :
    (c.callAt a (offset i)).1 = (c.callAt b (offset i)).1 ∧
      SameSlot offset i (c.callAt a (offset i)).2 (c.callAt b (offset i)).2 := by
  have hf := h.fits
  have hfa : offset i + 64 ≤ a.bytes.length := by rw [h.length]; exact hf
  have ho := outcome_window h.length hf h.slot c
  rw [slot_call_outcome, slot_call_outcome, ho]
  cases outcome b.bytes (offset i) c with
  | error e => exact ⟨rfl, h⟩
  | ok s =>
    refine ⟨rfl, ⟨by simp [h.length], by simpa using hf, ?_⟩⟩
    have ha := (stored_ok.mp (stored_install s hfa)).2
    have hb := (stored_ok.mp (stored_install s hf)).2
    exact ha.trans hb.symm

theorem other_slot_call {i j : ι} {a b : AccountWithMetadata} (h : SameSlot offset i a b)
    (hij : Window.Apart (offset j) 64 (offset i) 64) (c : SlotCall) :
    SameSlot offset i (c.callAt a (offset j)).2 b := by
  obtain ⟨d, hd, hl, hread, _⟩ := slot_call_frame c a (offset j)
  rw [hd]
  exact ⟨hl.trans h.length, h.fits, (hread _ _ hij).trans h.slot⟩

theorem slot_call_keeps_free {a b : AccountWithMetadata} (h : SameConsumer offset a b) (i : ι)
    (c : SlotCall) : SameConsumer offset (c.callAt a (offset i)).2 b := by
  obtain ⟨d, hd, hl, _, hout⟩ := slot_call_frame c a (offset i)
  rw [hd]
  exact ⟨hl.trans h.length, fun k hk => (hout k (hk i)).trans (h.free k hk)⟩

/-- No call changes anything but the data, and that keeps its length. -/
theorem shared_call_frame (a : AccountWithMetadata) (c : SharedCall offset) :
    ∃ d : Data, ((sharedAccount offset).call a c).2 = a.withData d ∧
      d.bytes.length = a.bytes.length := by
  cases c with
  | slot i c =>
    obtain ⟨d, hd, hl, _, _⟩ := slot_call_frame c a (offset i)
    exact ⟨d, hd, hl⟩
  | consumer w => exact ⟨_, rfl, w.write_length a.bytes⟩

theorem shared_run_frame (a : AccountWithMetadata) (calls : List (SharedCall offset)) :
    ∃ d : Data, (sharedAccount offset).run a calls = a.withData d ∧
      d.bytes.length = a.bytes.length := by
  refine run_invariant (sharedAccount offset)
    (P := fun b => ∃ d : Data, b = a.withData d ∧ d.bytes.length = a.bytes.length)
    ?_ ⟨a.account.data, rfl, rfl⟩ calls
  rintro b c ⟨d, rfl, hl⟩
  obtain ⟨e, he, hle⟩ := shared_call_frame (a.withData d) c
  exact ⟨e, he, hle.trans hl⟩

variable [DecidableEq ι]

/-- A slot comes out of a run as it comes out of its own calls alone. -/
theorem run_same_slot (hd : ∀ i j, i ≠ j → Window.Apart (offset i) 64 (offset j) 64)
    {a : AccountWithMetadata} {i : ι} (hf : offset i + 64 ≤ a.bytes.length)
    (calls : List (SharedCall offset)) :
    SameSlot offset i ((sharedAccount offset).run a calls)
      ((sharedAccount offset).run a (calls.filter (SharedCall.addresses i))) := by
  refine run_filter (sharedAccount offset) (SharedCall.addresses i) (R := SameSlot offset i)
    ?_ ?_ ⟨rfl, hf, rfl⟩ calls
  · intro b c k hbc hk
    cases k with
    | slot j c' =>
      obtain rfl : j = i := of_decide_eq_true hk
      exact (same_slot_call hbc c').2
    | consumer w => cases hk
  · intro b c k hbc hk
    cases k with
    | slot j c' =>
      have hji : j ≠ i := of_decide_eq_false hk
      exact other_slot_call hbc (hd j i hji) c'
    | consumer w => exact consumer_keeps_slot hbc w

omit [DecidableEq ι] in
/-- The consumer's bytes come out of a run as its own writes alone leave them. -/
theorem run_same_consumer (a : AccountWithMetadata) (calls : List (SharedCall offset)) :
    SameConsumer offset ((sharedAccount offset).run a calls)
      ((sharedAccount offset).run a (calls.filter SharedCall.isConsumer)) := by
  refine run_filter (sharedAccount offset) SharedCall.isConsumer (R := SameConsumer offset)
    ?_ ?_ ⟨rfl, fun _ _ => rfl⟩ calls
  · intro b c k hbc hk
    cases k with
    | slot j c' => cases hk
    | consumer w => exact consumer_same hbc w
  · intro b c k hbc hk
    cases k with
    | slot j c' => exact slot_call_keeps_free hbc j c'
    | consumer w => cases hk

/-- Slots in disjoint windows of one account do not notice each other, nor the
consumer: each call reports what it reports when only its own slot's calls run, each
slot ends with what these leave, every other byte with what the consumer's writes
alone leave, and nothing else about the account ever changes. -/
theorem slots_independent (hd : ∀ i j, i ≠ j → Window.Apart (offset i) 64 (offset j) 64)
    {a : AccountWithMetadata} (hf : ∀ i, offset i + 64 ≤ a.bytes.length)
    (calls : List (SharedCall offset)) :
    (∀ i c, ((sharedAccount offset).call ((sharedAccount offset).run a calls) (.slot i c)).1 =
        ((sharedAccount offset).call ((sharedAccount offset).run a
          (calls.filter (SharedCall.addresses i))) (.slot i c)).1) ∧
      (∀ i, Window.read ((sharedAccount offset).run a calls).bytes (offset i) 64 =
        Window.read ((sharedAccount offset).run a
          (calls.filter (SharedCall.addresses i))).bytes (offset i) 64) ∧
      (∀ k, Free offset k → ((sharedAccount offset).run a calls).bytes[k]? =
        ((sharedAccount offset).run a (calls.filter SharedCall.isConsumer)).bytes[k]?) ∧
      ∃ d : Data, (sharedAccount offset).run a calls = a.withData d ∧
        d.bytes.length = a.bytes.length := by
  refine ⟨?_, ?_, (run_same_consumer a calls).free, shared_run_frame a calls⟩
  · intro i c
    exact (same_slot_call (run_same_slot hd (hf i) calls) c).1
  · intro i
    exact (run_same_slot hd (hf i) calls).slot

end

/-- Two slots in one account of 144 bytes, at 8 and at 80. -/
def twoSlots (second : Bool) : Nat := if second then 80 else 8

theorem two_slots_apart (i j : Bool) (h : i ≠ j) :
    Window.Apart (twoSlots i) 64 (twoSlots j) 64 := by
  cases i <;> cases j <;> simp_all [twoSlots, Window.Apart]

/-- The consumer's write over the eight bytes between the two slots. -/
def gap : ConsumerWrite twoSlots where
  byte k := if 72 ≤ k ∧ k < 80 then some 0xAA else none
  free k hk i := by
    cases i <;> simp [twoSlots] at hk ⊢ <;> omega

set_option maxRecDepth 4000 in
open Reference in
/-- The gap between two slots can be overwritten while both are in use. -/
theorem slots_independent_two :
    let a := holding (List.replicate 144 0)
    let calls := [.slot false (.bootstrap .signer (acct 1 true)), .consumer gap,
      .slot true (.bootstrap .signer (acct 2 true)),
      .slot false (.operate (.renounce (acct 1 true)))]
    Window.read ((sharedAccount twoSlots).run a calls).bytes 80 64 =
      AdminSeat.bytes ⟨id 2, default⟩ := by
  intro a calls
  have hl : a.bytes.length = 144 := List.length_replicate
  have hf : ∀ i, twoSlots i + 64 ≤ a.bytes.length := by
    intro i
    cases i <;> simp [twoSlots, hl]
  exact ((slots_independent two_slots_apart hf calls).2.1 true).trans rfl

end AdminAuthority.Proofs
