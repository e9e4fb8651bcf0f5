import AdminAuthority.Lib.Border
import AdminAuthority.Model.Reference
import AdminAuthority.Proofs.Codec

namespace AdminAuthority.Proofs
open Handover AuthorityCrate Lifecycle AdminConfig

/-- The admin and the nominee of the probe. -/
def probeSeat : AdminSeat := ⟨⟨Vector.replicate 32 0xA5⟩, ⟨Vector.replicate 32 0x5A⟩⟩

theorem probe_runs :
    AdminSeat.bytes probeSeat = List.replicate 32 0xA5 ++ List.replicate 32 0x5A := by
  simp [probeSeat, AdminSeat.bytes, AccountId.bytes]

theorem probe_borderless : Window.Borderless (AdminSeat.bytes probeSeat) := by
  rw [probe_runs]
  exact Window.borderless_runs (by decide) (by decide) (by decide)

section
variable [Lez] [AuthorityCrate] [LawfulAuthority]

theorem probe_ok : ∃ c, probe = .ok c ∧ c.seat = probeSeat := by
  have hne : probeSeat.holder ≠ default := by decide
  obtain ⟨c, hc, hseat⟩ := initialize_admin_ok hne
  have hp : initializeAdmin ⟨Vector.replicate 32 0xA5⟩ = .ok c := hc
  refine ⟨⟨AuthorityCrate.nominate c.slot ⟨Vector.replicate 32 0x5A⟩⟩, ?_, ?_⟩
  · rw [probe, hp]
  · have hn := LawfulAuthority.nominate_seat c.slot ⟨Vector.replicate 32 0x5A⟩
    have hh : holder c.slot = probeSeat.holder := congrArg Seat.holder hseat
    rw [hh] at hn
    exact hn

/-- The probe stands out at its own offset alone: no overlapping window reads the
same, whatever the neighbouring bytes are. -/
theorem probe_exposes_shift :
    ∃ c bytes, probe = .ok c ∧ c.encode = .ok bytes ∧ bytes.length = 64 ∧
      ∀ before after : List UInt8,
        (∀ offset, offset ≠ before.length → offset < before.length + 64 →
          before.length < offset + 64 → offset + 64 ≤ (before ++ bytes ++ after).length →
            Window.read (before ++ bytes ++ after) offset 64 ≠ bytes) ∧
        ∀ a : AccountWithMetadata, a.bytes = before ++ bytes ++ after →
          fromAccountAt a before.length = .ok c := by
  obtain ⟨c, hc, hseat⟩ := probe_ok
  have hl := AdminSeat.bytes_length probeSeat
  refine ⟨c, AdminSeat.bytes probeSeat, hc, by rw [encode_seat, hseat], hl, ?_⟩
  intro before after
  have htrue := Window.read_append before (AdminSeat.bytes probeSeat) after
  constructor
  · intro offset hne hlt hgt _ heq
    rw [← hl] at heq hlt hgt
    exact hne (probe_borderless.occurs_once heq htrue hlt hgt)
  · intro a ha
    have hfit : before.length + SIZE ≤ a.bytes.length := by
      rw [ha]
      simp only [List.length_append, hl, SIZE]
      omega
    rw [fromAccountAt, decode_at_window hfit, ha]
    rw [hl] at htrue
    apply decode_ok.mpr
    rw [hseat]
    exact htrue.symm

end

open Reference in
/-- One byte too far, the window ends in a neighbour's byte and differs. -/
theorem probe_exposes_shift_by_one :
    Window.read (embedded probeSeat).bytes 9 64 ≠ AdminSeat.bytes probeSeat := by
  obtain ⟨c, bytes, hc, hb, _, h⟩ := probe_exposes_shift
  have hprobe : probe = .ok ⟨(probeSeat : AdminSeat)⟩ := rfl
  obtain rfl := Except.ok.inj (hc.symm.trans hprobe)
  have hbytes : bytes = AdminSeat.bytes probeSeat := Except.ok.inj (hb.symm.trans rfl)
  have hw := (h (List.replicate 8 0xAA) (List.replicate 8 0xAA)).1 9 (by decide) (by decide)
    (by decide) (by rw [hbytes]; decide)
  rw [hbytes] at hw
  exact hw

end AdminAuthority.Proofs
