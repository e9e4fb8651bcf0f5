import AdminAuthority.Lib.CallMachine
import AdminAuthority.Model.Reference
import AdminAuthority.Proofs.Independence
import AdminAuthority.Proofs.Chain
import AdminAuthority.Proofs.EmbeddedSafety
import AdminAuthority.Proofs.Modes
import AdminAuthority.Proofs.Atomicity
import AdminAuthority.Proofs.Codec
import AdminAuthority.Proofs.Probe
import AdminAuthority.Proofs.ArgumentLoops
import AdminAuthority.Proofs.Gates
import AdminAuthority.Proofs.SameSlot
import AdminAuthority.Proofs.Genesis
import AdminAuthority.Proofs.ManualSample
import AdminAuthority.Proofs.TwoStep
import AdminAuthority.Proofs.FirstAdmin
import AdminAuthority.Proofs.Consumer
import AdminAuthority.Proofs.Nomination
import AdminAuthority.Proofs.ManualChain
import AdminAuthority.Proofs.Fixture
import AdminAuthority.Proofs.Marker
