import TokenSync.Agent.Script
import TokenSync.Main
import TokenSync.Proofs.Bodies
import TokenSync.Proofs.Convergence
import TokenSync.Proofs.Course
import TokenSync.Proofs.Effect
import TokenSync.Proofs.Idempotence
import TokenSync.Proofs.Independence
import TokenSync.Proofs.Noninterference
import TokenSync.Proofs.Overrides
import TokenSync.Proofs.Secrecy
import TokenSync.Proofs.Segmentation
import TokenSync.Proofs.UpdateReport
import TokenSync.Proofs.Validation
import TokenSync.Proofs.VersionOrder
import TokenSync.Proofs.VersionText
import TokenSync.Proofs.VersionWidth
import TokenSync.Proofs.Listing
import TokenSync.Proofs.Overlay
import TokenSync.Proofs.Comparison
import TokenSync.Proofs.Shapes
import TokenSync.Proofs.Precedence
import TokenSync.Proofs.FileDefaults
