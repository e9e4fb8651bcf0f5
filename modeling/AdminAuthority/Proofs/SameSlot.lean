import AdminAuthority.Model.EmbeddedSample
import AdminAuthority.Model.Handlers
import AdminAuthority.Model.Reference
import AdminAuthority.Proofs.Arguments
import AdminAuthority.Proofs.Bootstrap

namespace AdminAuthority.Proofs
open Handover AuthorityCrate Lifecycle

/-- What the framework stamps into the attributes of the embedded sample. -/
def stampedArgs : List MetaNameValue := [
  ⟨⟨false, [⟨"admin_config", true⟩]⟩, .path ⟨false, [⟨"config", true⟩]⟩⟩,
  ⟨⟨false, [⟨"offset", true⟩]⟩, .lit (.int 32)⟩]

theorem stamped_initialize :
    adminInitializeArgs stampedArgs = .ok ⟨"config", "caller", .lit (.int 32)⟩ := rfl

theorem stamped_gate {usizeMax : Nat} (h : 32 ≤ usizeMax) :
    requireAdminArgs usizeMax stampedArgs = .ok ⟨"config", "caller", 32⟩ := by
  have hconfig : gateStep usizeMax ⟨"admin_config", "caller", 0⟩
      ⟨⟨false, [⟨"admin_config", true⟩]⟩, .path ⟨false, [⟨"config", true⟩]⟩⟩ =
        .ok ⟨"config", "caller", 0⟩ := rfl
  have hoffset : gateStep usizeMax ⟨"config", "caller", 0⟩
      ⟨⟨false, [⟨"offset", true⟩]⟩, .lit (.int 32)⟩ = .ok ⟨"config", "caller", 32⟩ := if_pos h
  simp only [requireAdminArgs, stampedArgs, List.foldlM_cons, List.foldlM_nil, hconfig, bind,
    Except.bind, hoffset, pure, Except.pure]

section
variable [Lez] [AuthorityCrate]

/-- The bodies of the embedded sample are what its attributes make of the written ones. -/
theorem embedded_sample_expands {usizeMax : Nat} (h : 32 ≤ usizeMax)
    (caller : AccountWithMetadata) (newValue : UInt64) :
    (Env.handler "caller" caller).adminInitialize Expr.literalValue stampedArgs
        [EmbeddedSample.save ⟨0, Vector.replicate 24 0, ⟨AuthorityCrate.defaultSlot⟩⟩,
          EmbeddedSample.finish] = .ok (EmbeddedSample.initializeProg caller) ∧
      (Env.handler "caller" caller).requireAdmin usizeMax stampedArgs
        [EmbeddedSample.load, EmbeddedSample.setValue newValue, EmbeddedSample.saveState,
          EmbeddedSample.finish] = .ok (EmbeddedSample.updateValue caller newValue) := by
  have hne : ("config" : Ident) ≠ "caller" := by decide
  constructor
  · exact Handler.admin_initialize_env stamped_initialize hne Expr.literalValue caller _
  · exact Handler.require_admin_env (stamped_gate h) hne caller _

variable [LawfulAuthority]

/-- After a windowed bootstrap the caller is the admin there and nobody is nominated,
whatever the window held before. -/
theorem bootstrap_at_stored {config start caller : AccountWithMetadata} {offset : Nat}
    (h : AdminConfig.bootstrapAt config offset .signer caller = (.ok (), start)) :
    caller.accountId ≠ default ∧ stored start.bytes offset = .ok ⟨caller.accountId, default⟩ := by
  obtain ⟨⟨hid, _⟩, hf, rfl⟩ := bootstrap_at_ok h
  exact ⟨hid, stored_install _ hf⟩

theorem bootstrap_at_gate {config start caller : AccountWithMetadata} {offset : Nat}
    (h : AdminConfig.bootstrapAt config offset .signer caller = (.ok (), start))
    (signer : AccountWithMetadata) :
    AdminConfig.gateAt start offset signer = .ok () ↔
      signer.isAuthorized = true ∧ signer.accountId = caller.accountId := by
  obtain ⟨hid, hs⟩ := bootstrap_at_stored h
  rw [gate_at_authorise hs, authorise_ok]
  constructor
  · intro h
    obtain ⟨_, hsigned, he⟩ := h
    exact ⟨hsigned, he⟩
  · intro h
    obtain ⟨hsigned, he⟩ := h
    exact ⟨hid, hsigned, he⟩

/-- A bootstrap and a gate that are given the same arguments meet at the same slot, and
the gate then lets the caller of the bootstrap pass and nobody else. -/
theorem bootstrap_meets_gate (usizeMax : Nat) (value : Expr → Nat)
    (hv : ∀ n ≤ usizeMax, value (.lit (.int n)) = n) {args : List MetaNameValue}
    {r : InitializeArgs} {g : GateArgs} (hr : adminInitializeArgs args = .ok r)
    (hg : requireAdminArgs usizeMax args = .ok g) :
    r.configIdent = g.configIdent ∧ r.callerIdent = g.callerIdent ∧ value r.offset = g.offset ∧
      ∀ config caller start : AccountWithMetadata,
        r.bootstrap value config caller = (.ok (), start) →
        (∀ signer, g.check start signer = .ok () ↔
          signer.isAuthorized = true ∧ signer.accountId = caller.accountId) ∧
        Window.read start.bytes g.offset 64 = AdminSeat.bytes ⟨caller.accountId, default⟩ ∧
        ∃ c, AdminConfig.fromAccountAt start g.offset = .ok c ∧ c.nominee = none := by
  obtain ⟨hconfig, hcaller, hoffset, hle⟩ := resolved_agree hr hg
  have hvalue : value r.offset = g.offset := by rw [hoffset, hv g.offset hle]
  refine ⟨hconfig, hcaller, hvalue, ?_⟩
  intro config caller start hb
  rw [InitializeArgs.bootstrap, hvalue] at hb
  obtain ⟨_, hs⟩ := bootstrap_at_stored hb
  obtain ⟨c, hc, hseat⟩ := from_account_at_ok hs
  refine ⟨bootstrap_at_gate hb, (stored_ok.mp hs).2, c, hc, (pending_eq_none c.slot).mpr ?_⟩
  exact congrArg Seat.nominee hseat

end

open Reference in
/-- A window full of a former admin and nominee, and arguments that repeat a key. -/
theorem bootstrap_meets_gate_stale :
    let args : List MetaNameValue := [
      ⟨⟨false, [⟨"offset", true⟩]⟩, .lit (.int 32)⟩,
      ⟨⟨false, [⟨"admin_config", true⟩]⟩, .path ⟨false, [⟨"prog_config", true⟩]⟩⟩,
      ⟨⟨false, [⟨"offset", true⟩]⟩, .lit (.int 8)⟩]
    let start := embedded ⟨id 1, default⟩
    requireAdminArgs 65535 args = .ok ⟨"prog_config", "caller", 8⟩ ∧
      AdminConfig.bootstrapAt (embedded ⟨id 3, id 4⟩) 8 .signer (acct 1 true) = (.ok (), start) ∧
      ∀ signer, AdminConfig.gateAt start 8 signer = .ok () ↔
        signer.isAuthorized = true ∧ signer.accountId = Reference.id 1 := by
  intro args start
  have hr : adminInitializeArgs args = .ok ⟨"prog_config", "caller", .lit (.int 8)⟩ := rfl
  have hg : requireAdminArgs 65535 args = .ok ⟨"prog_config", "caller", 8⟩ := rfl
  have hb : AdminConfig.bootstrapAt (embedded ⟨id 3, id 4⟩) 8 .signer (acct 1 true) =
      (.ok (), start) := rfl
  refine ⟨hg, hb, ?_⟩
  have h := bootstrap_meets_gate 65535 Expr.literalValue (fun _ _ => rfl) hr hg
  exact (h.2.2.2 (embedded ⟨id 3, id 4⟩) (acct 1 true) start hb).1

end AdminAuthority.Proofs
