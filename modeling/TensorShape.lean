import TensorShape.Diagnostic.Lookup
import TensorShape.Proofs.Axis.Spelling
import TensorShape.Proofs.Broadcast.Composition
import TensorShape.Proofs.Broadcast.FirstFlaw
import TensorShape.Proofs.Broadcast.FirstViolation
import TensorShape.Proofs.Broadcast.Grouping
import TensorShape.Proofs.Broadcast.Indexing
import TensorShape.Proofs.Broadcast.Target
import TensorShape.Proofs.Checked.Faults
import TensorShape.Proofs.Checked.Mapping
import TensorShape.Proofs.Checked.Operations
import TensorShape.Proofs.Diagnostic.Template
import TensorShape.Proofs.Dot.Associativity
import TensorShape.Proofs.Dot.FirstFlaw
import TensorShape.Proofs.Dot.Symmetry
import TensorShape.Proofs.ElementCount
import TensorShape.Proofs.Ending.Complaint
import TensorShape.Proofs.Ending.Messages
import TensorShape.Proofs.Ending.Recording
import TensorShape.Proofs.Independence
import TensorShape.Proofs.Operand
import TensorShape.Proofs.Padding.Composition
import TensorShape.Proofs.Padding.Elements
import TensorShape.Proofs.Permutation.Broadcast
import TensorShape.Proofs.Permutation.Removal
import TensorShape.Proofs.Reinsertion
import TensorShape.Proofs.ResolvedAxes
import TensorShape.Proofs.Slicing.Composition
import TensorShape.Proofs.StagedRemoval
import TensorShape.Proofs.UnitAxes
import TensorShape.Proofs.Window.Balance
import TensorShape.Proofs.Window.Counting
import TensorShape.Proofs.Window.Fusion
import TensorShape.Proofs.Window.Stacking
