import AdminAuthority.Model.Calls
import AdminAuthority.Model.Reference
import AdminAuthority.Proofs.Dedicated

namespace AdminAuthority.Proofs
open Handover AuthorityCrate Lifecycle CallMachine

section
variable [Lez]

/-- One dedicated config and one embedded between fixed consumer bytes. -/
structure Mirrors (before after : List UInt8) (a b : AccountWithMetadata) : Prop where
  exact : a.bytes.length = 64
  around : b.bytes = before ++ a.bytes ++ after

variable {before after : List UInt8} {a b : AccountWithMetadata}

theorem mirrors_fits (h : Mirrors before after a b) : before.length + 64 ≤ b.bytes.length := by
  rw [h.around]
  simp only [List.length_append, h.exact]
  omega

theorem mirrors_stored (h : Mirrors before after a b) :
    stored b.bytes before.length = stored a.bytes 0 := by
  apply stored_window (mirrors_fits h) (by have := h.exact; omega)
  have hr := Window.read_append before a.bytes after
  have ha := Window.read_all a.bytes
  rw [h.exact] at hr ha
  rw [h.around, hr, ha]

theorem mirrors_install (h : Mirrors before after a b) (s : AdminSeat) :
    Mirrors before after (a.install 0 s) (b.install before.length s) := by
  have ha := h.exact
  constructor
  · simpa using ha
  · rw [install_bytes (mirrors_fits h), install_bytes (by omega), h.around,
      Window.splice_append before a.bytes after (by simp [ha]),
      Window.splice_all (by simp [ha])]

variable [AuthorityCrate] [LawfulAuthority]

/-- One operation keeps the two modes in step. -/
theorem mirrors_perform (h : Mirrors before after a b) (op : Operation) :
    (op.perform a).1 = (op.performAt b before.length).1 ∧
      Mirrors before after (op.perform a).2 (op.performAt b before.length).2 := by
  rw [perform_exact op h.exact, perform_at_step, perform_at_step]
  have hs : step b.bytes before.length op = step a.bytes 0 op := by
    simp only [step, mirrors_stored h]
  rw [hs]
  cases step a.bytes 0 op with
  | error e => exact ⟨rfl, h⟩
  | ok s => exact ⟨rfl, mirrors_install h s⟩

theorem mirrors_gate (h : Mirrors before after a b) (signer : AccountWithMetadata) :
    AdminConfig.gate a signer = AdminConfig.gateAt b before.length signer := by
  obtain ⟨c, hc, hs⟩ := from_account_exact h.exact
  rw [gate_at_authorise ((mirrors_stored h).trans hs)]
  simp only [AdminConfig.gate, hc]
  exact assert_authorise c signer

theorem mirrors_request (h : Mirrors before after a b) (r : Request) :
    (dedicatedMode.call a r).1 = ((embeddedMode before.length).call b r).1 ∧
      Mirrors before after (dedicatedMode.call a r).2 ((embeddedMode before.length).call b r).2 := by
  cases r with
  | manage op => exact mirrors_perform h op
  | gate signer => exact ⟨mirrors_gate h signer, h⟩

/-- An embedded slot answers every run as the dedicated config would, wherever it
lies and whatever surrounds it, and leaves the surroundings alone. -/
theorem embedded_simulates_dedicated (h : a.bytes.length = 64)
    (hb : b.bytes = before ++ a.bytes ++ after) (requests : List Request) :
    (embeddedMode before.length).results b requests = dedicatedMode.results a requests ∧
      ((embeddedMode before.length).run b requests).bytes =
        before ++ (dedicatedMode.run a requests).bytes ++ after := by
  obtain ⟨hr, hm⟩ := lockstep dedicatedMode (embeddedMode before.length)
    (R := Mirrors before after) (fun _ _ r h => mirrors_request h r) ⟨h, hb⟩ requests
  exact ⟨hr.symm, hm.around⟩

end

open Reference in
theorem embedded_simulates_dedicated_handover :
    let requests := [.manage (.nominate (acct 1 true) (id 2)), .manage (.accept (acct 2 true)),
      .gate (acct 1 true)]
    (embeddedMode 8).results (embedded ⟨id 1, default⟩) requests =
      dedicatedMode.results (dedicated ⟨id 1, default⟩) requests := by
  have hb : (embedded ⟨id 1, default⟩).bytes = List.replicate 8 0xAA ++
      (dedicated ⟨id 1, default⟩).bytes ++ List.replicate 8 0xAA := rfl
  exact (embedded_simulates_dedicated (AdminSeat.bytes_length _) hb _).1

end AdminAuthority.Proofs
