import AdminAuthority.Proofs.BornInitialized
import AdminAuthority.Proofs.Initialization
import AdminAuthority.Spec.Programs

namespace AdminAuthority.Proofs
open Handover AuthorityCrate Lifecycle CallMachine Block EmbeddedSample

theorem state_length (p : ProgState) : p.bytes.length = 96 := by
  simp [ProgState.bytes]

theorem state_stored (p : ProgState) : stored p.bytes EmbeddedSample.offset = .ok p.seat := by
  refine stored_ok.mpr ⟨by simp [state_length, EmbeddedSample.offset], ?_⟩
  have hr := Window.read_append (LittleEndian.encode 8 p.value.toNat ++ List.replicate 24 0)
    (AdminSeat.bytes p.seat) []
  simpa [ProgState.bytes, EmbeddedSample.offset] using hr

section
variable [Lez]

/-- Installing a seat changes the seat of the state and nothing else. -/
theorem install_state {config : AccountWithMetadata} {p : ProgState} (h : config.bytes = p.bytes)
    (t : AdminSeat) :
    (config.install EmbeddedSample.offset t).bytes = { p with seat := t }.bytes := by
  have hl : config.bytes.length = 96 := by rw [h, state_length]
  rw [install_bytes (by simp [hl, EmbeddedSample.offset]), h]
  have hs : Window.splice (LittleEndian.encode 8 p.value.toNat ++ List.replicate 24 0 ++
      AdminSeat.bytes p.seat ++ []) _ t.bytes = _ :=
    Window.splice_append _ (AdminSeat.bytes p.seat) [] (by simp)
  simpa [ProgState.bytes, EmbeddedSample.offset] using hs

variable [AuthorityCrate]

theorem save_step {c : ProgConfig} {bytes : List UInt8} (hv : c.toVec = some bytes)
    (env : SampleEnv) :
    save c env =
      if h : bytes.length ≤ Lez.dataMaxLength then
        .next { env with config := env.config.withData ⟨bytes, h⟩ }
      else .fail (.serializationError "data too large") := by
  simp only [save, attempt, ProgConfig.writeTo, hv, Data.tryFrom]
  by_cases h : bytes.length ≤ Lez.dataMaxLength <;> simp [h]

/-- The body of `initialize`, before the macro puts the bootstrap into it. -/
def initializeBody : List (Stmt SampleEnv SpelError) :=
  [save ⟨0, Vector.replicate 24 0, ⟨defaultSlot⟩⟩, finish]

theorem handle_initialize_eq (config caller : AccountWithMetadata) :
    (exec (initializeProg caller) ⟨config, none⟩).result =
      ((save ⟨0, Vector.replicate 24 0, ⟨defaultSlot⟩⟩ ⟨config, none⟩).andThen fun env =>
        (bootstrapStmt EmbeddedSample.offset caller env).andThen finish).result := by
  have hne : initializeBody ≠ [] := by simp [initializeBody]
  refine (exec_bootstrapped EmbeddedSample.offset caller hne ⟨config, none⟩).trans ?_
  simp only [initializeBody, List.dropLast_cons_cons, List.dropLast_singleton, exec_cons]
  cases save ⟨0, Vector.replicate 24 0, ⟨defaultSlot⟩⟩ ⟨config, none⟩ <;> rfl

variable [LawfulAuthority]

theorem to_vec_state {c : ProgConfig} {p : ProgState} (hv : c.value = p.value)
    (hp : c.padding = Vector.replicate 24 0) (ha : c.admin.seat = p.seat) :
    c.toVec = some p.bytes := by
  rw [ProgConfig.toVec, LawfulAuthority.toVec_eq, hv, hp]
  change some (_ ++ _ ++ AdminSeat.bytes c.admin.seat) = _
  rw [ha]
  rfl

/-- The program's own decoder reads a state's 96 bytes back, its slot included. -/
theorem from_account_state {config : AccountWithMetadata} {p : ProgState}
    (h : config.bytes = p.bytes) :
    ∃ c, ProgConfig.fromAccount config = .ok c ∧ c.value = p.value ∧
      c.padding = Vector.replicate 24 0 ∧ c.admin.seat = p.seat := by
  obtain ⟨slot, hs, hb⟩ := LawfulAuthority.tryFromSlice_ok (p.bytes.drop 32)
    (by simp [state_length])
  have hdrop : p.bytes.drop 32 = AdminSeat.bytes p.seat := List.drop_left' (by simp)
  have hvalue : p.bytes.take 8 = LittleEndian.encode 8 p.value.toNat := by
    rw [ProgState.bytes, List.append_assoc]
    exact List.take_left' (by simp)
  have hpad : (p.bytes.drop 8).take 24 = List.replicate 24 0 := by
    rw [ProgState.bytes, List.append_assoc, List.drop_left' (by simp)]
    exact List.take_left' (by simp)
  have hl : 32 ≤ config.bytes.length := by rw [h, state_length]; omega
  have hf : ProgConfig.tryFromSlice config.bytes =
      some ⟨p.value, Vector.replicate 24 0, ⟨slot⟩⟩ := by
    rw [ProgConfig.tryFromSlice, dif_pos hl]
    simp only [h, hs, hvalue, hpad, LittleEndian.decode_encode_uint64]
    rfl
  refine ⟨_, by rw [ProgConfig.fromAccount, hf], rfl, rfl, ?_⟩
  exact AdminSeat.bytes_injective (hb.trans hdrop)

theorem handle_update {config : AccountWithMetadata} {p : ProgState} (h : config.bytes = p.bytes)
    (newValue : UInt64) :
    ∃ d : Data, d.bytes = { p with value := newValue }.bytes ∧
      Macros.handle none [load, setValue newValue, saveState, finish] config =
        (.ok (), config.withData d) := by
  obtain ⟨c, hc, _, hp, ha⟩ := from_account_state h
  have hl : ({ p with value := newValue } : ProgState).bytes.length ≤ Lez.dataMaxLength := by
    rw [state_length, ← state_length p, ← h]
    exact config.account.data.within
  have hv : ProgConfig.toVec { c with value := newValue } =
      some ({ p with value := newValue } : ProgState).bytes := to_vec_state rfl hp ha
  refine ⟨⟨_, hl⟩, rfl, ?_⟩
  simp [Macros.handle, load, setValue, saveState, save, finish, attempt, hc, ProgConfig.writeTo, hv,
    Data.tryFrom, hl, Flow.result]

theorem gate_state {config : AccountWithMetadata} {p : ProgState} (h : config.bytes = p.bytes)
    (caller : AccountWithMetadata) :
    AdminConfig.gateAt config EmbeddedSample.offset caller = authorise p.seat caller :=
  gate_at_authorise (by rw [h, state_stored]) caller

theorem gate_uncreated {config : AccountWithMetadata} (h : config.account = default)
    (caller : AccountWithMetadata) :
    AdminConfig.gateAt config EmbeddedSample.offset caller = .error .notInitialized := by
  rw [AdminConfig.gateAt, from_account_at_error (stored_uncreated h EmbeddedSample.offset)]

/-- The expanded `initialize` writes a zero state and installs the caller over it. -/
theorem handle_initialize (config caller : AccountWithMetadata) :
    (∀ p, first (.initializeProg caller) = .ok p →
      ∃ d : Data, d.bytes = p.bytes ∧
        Macros.handle none (initializeProg caller) config = (.ok (), config.withData d)) ∧
    (∀ e, first (.initializeProg caller) = .error e →
      Macros.handle none (initializeProg caller) config = (.error e, config)) := by
  let zero : ProgState := ⟨0, default, default⟩
  have hv : ProgConfig.toVec ⟨0, Vector.replicate 24 0, ⟨defaultSlot⟩⟩ = some zero.bytes :=
    to_vec_state rfl rfl LawfulAuthority.defaultSlot_seat
  rw [Macros.handle, handle_initialize_eq, save_step hv, first]
  by_cases hl : 96 ≤ Lez.dataMaxLength
  · have hz : zero.bytes.length ≤ Lez.dataMaxLength := by rw [state_length]; exact hl
    have hb : (config.withData ⟨zero.bytes, hz⟩).bytes = zero.bytes := rfl
    have hf : EmbeddedSample.offset + 64 ≤ (config.withData ⟨zero.bytes, hz⟩).bytes.length := by
      simp [hb, state_length, EmbeddedSample.offset]
    have hboot := bootstrap_at_fits hf .signer caller
    simp only [dif_pos hz, if_pos hl, andThen_next, bootstrapStmt, attempt, hboot, resolve]
    cases validate .signer caller with
    | error e => simp [Flow.result, of_authority_failure]
    | ok id =>
      refine ⟨?_, by simp⟩
      intro p hp
      cases hp
      exact ⟨_, install_state hb ⟨id, default⟩, rfl⟩
  · have hz : ¬zero.bytes.length ≤ Lez.dataMaxLength := by rw [state_length]; exact hl
    simp [hl, hz, Flow.result]

variable [Build]

/-- Before the account exists, the program does what the model's first call does. -/
theorem first_refines {config : AccountWithMetadata} (h : config.account = default) (c : ProgCall) :
    (program.call config c).1 = (model.call none c).1 ∧
      Represents (program.call config c).2 (model.call none c).2 := by
  have hg := gate_uncreated h
  cases c with
  | initializeProg caller =>
    obtain ⟨hok, herror⟩ := handle_initialize config caller
    simp only [program, create, if_pos h, model, progress]
    cases hf : first (.initializeProg caller) with
    | error e =>
      rw [herror e hf]
      exact ⟨rfl, h⟩
    | ok p =>
      obtain ⟨d, hd, hh⟩ := hok p hf
      rw [hh]
      exact ⟨rfl, hd⟩
  | updateValue caller newValue =>
    simp only [program, updateValue, handle_gated, hg]
    exact ⟨rfl, h⟩
  | poke caller =>
    simp only [program, poke, handle_gated, hg]
    exact ⟨rfl, h⟩
  | manage op =>
    simp only [program, manage_step, step_refused (stored_uncreated h EmbeddedSample.offset)]
    exact ⟨rfl, h⟩

/-- Once it exists, each call does to the 96 bytes what the model does to its state. -/
theorem next_refines {config : AccountWithMetadata} {p : ProgState} (h : config.bytes = p.bytes)
    (c : ProgCall) :
    (program.call config c).1 = (model.call (some p) c).1 ∧
      Represents (program.call config c).2 (model.call (some p) c).2 := by
  have hg := gate_state h
  cases c with
  | initializeProg caller =>
    have hne : config.account ≠ default := by
      intro hd
      have hl := congrArg List.length h
      rw [state_length, AccountWithMetadata.bytes, hd] at hl
      cases hl
    have hc : program.call config (.initializeProg caller) =
        (.error (.accountAlreadyInitialized 1), config) := if_neg hne
    rw [hc]
    exact ⟨rfl, h⟩
  | updateValue caller newValue =>
    simp only [program, updateValue, handle_gated, hg, model, progress, next]
    cases authorise p.seat caller with
    | error e => exact ⟨rfl, h⟩
    | ok u =>
      obtain ⟨d, hd, hh⟩ := handle_update h newValue
      simp only [hh, true_and]
      exact hd
  | poke caller =>
    simp only [program, poke, handle_gated, hg, model, progress, next]
    cases authorise p.seat caller with
    | error e => exact ⟨rfl, h⟩
    | ok u => exact ⟨rfl, h⟩
  | manage op =>
    have hs : stored config.bytes EmbeddedSample.offset = .ok p.seat := by rw [h, state_stored]
    simp only [program, manage_step, step_stored hs, model, progress, next]
    cases transition p.seat op with
    | error e => exact ⟨rfl, h⟩
    | ok t => exact ⟨rfl, install_state h t⟩

theorem refines (config : AccountWithMetadata) (p : Option ProgState) (c : ProgCall)
    (h : Represents config p) :
    (program.call config c).1 = (model.call p c).1 ∧
      Represents (program.call config c).2 (model.call p c).2 := by
  cases p with
  | none => exact first_refines h c
  | some p => exact next_refines h c

/-- The program and its model answer every run alike. -/
theorem program_refines {start : AccountWithMetadata} (h : start.account = default)
    (calls : List ProgCall) :
    program.results start calls = model.results none calls ∧
      Represents (program.run start calls) (model.run none calls) := by
  have hs : Represents start none := h
  exact lockstep program model refines hs calls

/-- What a call on a created account finds, reports and leaves. -/
theorem call_state {config : AccountWithMetadata} {p : ProgState} (h : config.bytes = p.bytes)
    (c : ProgCall) :
    ∃ q, (program.call config c).2.bytes = q.bytes ∧
      ((program.call config c).1 = .ok () ∧ next p c = .ok q ∨
        ∃ e, (program.call config c).1 = .error e ∧ next p c = .error e ∧ q = p) := by
  obtain ⟨hr, hs⟩ := next_refines h c
  simp only [model, progress] at hr hs
  cases hn : next p c with
  | error e =>
    simp only [hn] at hr hs
    exact ⟨p, hs, .inr ⟨e, hr, rfl, rfl⟩⟩
  | ok q =>
    simp only [hn] at hr hs
    exact ⟨q, hs, .inl ⟨hr, rfl⟩⟩

end
end AdminAuthority.Proofs
