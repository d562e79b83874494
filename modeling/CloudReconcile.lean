import CloudReconcile.Main
import CloudReconcile.Proofs.Crd.Pauses
import CloudReconcile.Proofs.Kinds.Address
import CloudReconcile.Proofs.Kinds.Adopting
import CloudReconcile.Proofs.Kinds.Lossless
import CloudReconcile.Proofs.Operator.Availability
import CloudReconcile.Proofs.Operator.Comparing
import CloudReconcile.Proofs.Operator.Custody
import CloudReconcile.Proofs.Operator.Evidence
import CloudReconcile.Proofs.Operator.Failure
import CloudReconcile.Proofs.Operator.Layers
import CloudReconcile.Proofs.Operator.Refusal
import CloudReconcile.Proofs.Operator.Rest
import CloudReconcile.Proofs.Operator.Settings
import CloudReconcile.Proofs.Operator.Telling
import CloudReconcile.Proofs.Reconcile.Crowd
import CloudReconcile.Proofs.Reconcile.Frame
import CloudReconcile.Proofs.Reconcile.Looking
import CloudReconcile.Proofs.Reconcile.Reports
import CloudReconcile.Proofs.Remote.Growth
import CloudReconcile.Proofs.Remote.Putting
import CloudReconcile.Proofs.Status.LastWrite
import CloudReconcile.Proofs.Tick.Deadlines
import CloudReconcile.Scenario.World
