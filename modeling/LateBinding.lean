import LateBinding.Locking
import LateBinding.Scenario.Execution
import LateBinding.Proofs.Registration.Acceptance
import LateBinding.Proofs.Registration.Inheritance
import LateBinding.Proofs.Registration.Refusal
import LateBinding.Proofs.Registration.Kinds
import LateBinding.Proofs.Object.Shape
import LateBinding.Proofs.Instantiation
import LateBinding.Proofs.Invoke.Agreement
import LateBinding.Proofs.Invoke.Supported
import LateBinding.Proofs.Invoke.Intake
import LateBinding.Proofs.Invoke.Marshalling
import LateBinding.Proofs.Invoke.Obstacle
import LateBinding.Proofs.Invoke.Lending
import LateBinding.Proofs.Invoke.Precedence
import LateBinding.Proofs.Invoke.Dispatch
import LateBinding.Proofs.Invoke.Rejection
import LateBinding.Proofs.Invoke.Delivery
import LateBinding.Proofs.Invoke.Override
import LateBinding.Proofs.Object.Keeping
import LateBinding.Proofs.Object.Reachable
import LateBinding.Proofs.Invoke.Aliasing
import LateBinding.Proofs.Invoke.Confinement
import LateBinding.Proofs.Invoke.Access
import LateBinding.Proofs.Invoke.Placement
import LateBinding.Proofs.Invoke.Construction
import LateBinding.Proofs.Invoke.Independence
import LateBinding.Proofs.Invoke.Boxing
import LateBinding.Proofs.Locking
import LateBinding.Proofs.Naming
import LateBinding.Proofs.TypeName
import LateBinding.Proofs.Fingerprint.Identity
import LateBinding.Proofs.Fingerprint.Folding
import LateBinding.Proofs.Fingerprint.Order
