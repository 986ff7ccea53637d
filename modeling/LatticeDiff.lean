import LatticeDiff.Cursor.Session
import LatticeDiff.Evaluator.Session
import LatticeDiff.Stencil.Accuracy
import LatticeDiff.Survey
import LatticeDiff.Proofs.Estimate.Pointwise
import LatticeDiff.Proofs.Region.Membership
import LatticeDiff.Proofs.Estimate.Reading
import LatticeDiff.Proofs.Estimate.Formula
import LatticeDiff.Proofs.Estimate.Matrix
import LatticeDiff.Proofs.Evaluator.Evaluate
import LatticeDiff.Proofs.Arg.Coordinates
import LatticeDiff.Proofs.Stencil.Table
import LatticeDiff.Proofs.Evaluator.Construction
import LatticeDiff.Proofs.Arg.Axis
import LatticeDiff.Proofs.Arg.Rounding
import LatticeDiff.Proofs.Evaluator.Gradient
import LatticeDiff.Proofs.Evaluator.Hessian
import LatticeDiff.Proofs.Evaluator.InPlace
import LatticeDiff.Proofs.Evaluator.Placement
import LatticeDiff.Proofs.Evaluator.PositionSafety
import LatticeDiff.Proofs.Survey.Fields
import LatticeDiff.Proofs.Estimate.Trace
import LatticeDiff.Proofs.Evaluator.Footprint
import LatticeDiff.Proofs.Stencil.AccuracyOrder
import LatticeDiff.Proofs.Stencil.PolynomialFields
import LatticeDiff.Proofs.Evaluator.Repositioning
import LatticeDiff.Proofs.Evaluator.Symmetry
import LatticeDiff.Proofs.Evaluator.ReadOrder
import LatticeDiff.Proofs.Survey.Tiling
import LatticeDiff.Proofs.Evaluator.Copies
import LatticeDiff.Proofs.Stencil.OrderBound
import LatticeDiff.Proofs.Stencil.Uniqueness
import LatticeDiff.Proofs.Arg.Elementwise
import LatticeDiff.Proofs.Cursor.Session
import LatticeDiff.Proofs.Evaluator.Retaking
import LatticeDiff.Proofs.Evaluator.PartialResults
import LatticeDiff.Proofs.Region.Listing
import LatticeDiff.Proofs.Cursor.Nesting
import LatticeDiff.Proofs.Region.Expansion
import LatticeDiff.Proofs.Evaluator.Drifts
import LatticeDiff.Proofs.Evaluator.Cropping
import LatticeDiff.Proofs.Evaluator.Transposition
import LatticeDiff.Proofs.Stencil.Lookup
import LatticeDiff.Proofs.Kind.Recognition
import LatticeDiff.Proofs.Stencil.Reflection
import LatticeDiff.Proofs.Evaluator.Building
import LatticeDiff.Proofs.Evaluator.SingleAxis
import LatticeDiff.Proofs.Grid.Broadcast
import LatticeDiff.Proofs.Grid.Sampling
import LatticeDiff.Proofs.Grid.Nesting
import LatticeDiff.Proofs.Field.Sampling
