import PlanarSketch.Block
import PlanarSketch.Catalogue
import PlanarSketch.Conflict
import PlanarSketch.Constraint
import PlanarSketch.Constraint.Kind
import PlanarSketch.Constraint.Record
import PlanarSketch.Decimal.Text
import PlanarSketch.Descent
import PlanarSketch.Diagnosis
import PlanarSketch.Document
import PlanarSketch.Document.Agreement
import PlanarSketch.Document.Number
import PlanarSketch.Document.Reader
import PlanarSketch.Document.Shown
import PlanarSketch.Document.Spelled
import PlanarSketch.Document.Writer
import PlanarSketch.Engine
import PlanarSketch.Engine.Double
import PlanarSketch.Engine.Rotation
import PlanarSketch.Entity
import PlanarSketch.Entity.Kind
import PlanarSketch.Entity.Record
import PlanarSketch.Fault
import PlanarSketch.Fault.Message
import PlanarSketch.Identifier
import PlanarSketch.Inference
import PlanarSketch.Journal
import PlanarSketch.Journal.Line
import PlanarSketch.Layout
import PlanarSketch.Mark
import PlanarSketch.Options
import PlanarSketch.Options.Record
import PlanarSketch.Proofs.Conflict.Contradictions
import PlanarSketch.Proofs.Conflict.Namings
import PlanarSketch.Proofs.Conflict.Pairs
import PlanarSketch.Proofs.Conflict.Symmetry
import PlanarSketch.Proofs.Conflict.Turns
import PlanarSketch.Proofs.Descent.Affine
import PlanarSketch.Proofs.Descent.Invariants
import PlanarSketch.Proofs.Descent.Monotone
import PlanarSketch.Proofs.Descent.Progress
import PlanarSketch.Proofs.Descent.Reordering
import PlanarSketch.Proofs.Descent.Shortening
import PlanarSketch.Proofs.Descent.Walk
import PlanarSketch.Proofs.Diagnosis.Statuses
import PlanarSketch.Proofs.Double.Grid
import PlanarSketch.Proofs.Double.Products
import PlanarSketch.Proofs.Double.Ranks
import PlanarSketch.Proofs.Double.Rounding
import PlanarSketch.Proofs.Double.Zeros
import PlanarSketch.Proofs.Engine.Exactness
import PlanarSketch.Proofs.Engine.Reordering
import PlanarSketch.Proofs.Engine.RowSpaces
import PlanarSketch.Proofs.Engine.SingleEquation
import PlanarSketch.Proofs.Exact
import PlanarSketch.Proofs.Exact.Motion
import PlanarSketch.Proofs.Exact.Plane
import PlanarSketch.Proofs.Fault.Identity
import PlanarSketch.Proofs.Inference.Acceptance
import PlanarSketch.Proofs.Inference.Completeness
import PlanarSketch.Proofs.Inference.Implications
import PlanarSketch.Proofs.Inference.Nearness
import PlanarSketch.Proofs.Inference.Repetition
import PlanarSketch.Proofs.Inference.Suggestions
import PlanarSketch.Proofs.Layout.Relocation
import PlanarSketch.Proofs.Layout.Tiling
import PlanarSketch.Proofs.Linear.Grids
import PlanarSketch.Proofs.Outcome
import PlanarSketch.Proofs.Registry.Freshness
import PlanarSketch.Proofs.Registry.Pools
import PlanarSketch.Proofs.Registry.Restoring
import PlanarSketch.Proofs.Relation.Affine
import PlanarSketch.Proofs.Relation.Binding
import PlanarSketch.Proofs.Relation.Branches
import PlanarSketch.Proofs.Relation.Divisors
import PlanarSketch.Proofs.Relation.Entries
import PlanarSketch.Proofs.Relation.Partials
import PlanarSketch.Proofs.Relation.Reads
import PlanarSketch.Proofs.Relation.Rebinding
import PlanarSketch.Proofs.Relation.Sites
import PlanarSketch.Proofs.Relation.Supports
import PlanarSketch.Proofs.Relation.Targets
import PlanarSketch.Proofs.Relation.Translations
import PlanarSketch.Proofs.Relation.Vocabulary
import PlanarSketch.Proofs.Relation.Zeros
import PlanarSketch.Proofs.Sketch.Atomicity
import PlanarSketch.Proofs.Sketch.Coherence
import PlanarSketch.Proofs.Sketch.Loading
import PlanarSketch.Proofs.Sketch.Restoring
import PlanarSketch.Proofs.Sketch.Resumption
import PlanarSketch.Proofs.Sketch.Sessions
import PlanarSketch.Proofs.Sketch.Untouched
import PlanarSketch.Proofs.Solve.Acceptance
import PlanarSketch.Proofs.Solve.Affine
import PlanarSketch.Proofs.Solve.Again
import PlanarSketch.Proofs.Solve.Alternatives
import PlanarSketch.Proofs.Solve.Answers
import PlanarSketch.Proofs.Solve.Blocks
import PlanarSketch.Proofs.Solve.Bystanders
import PlanarSketch.Proofs.Solve.ClosedForms
import PlanarSketch.Proofs.Solve.Conclusion
import PlanarSketch.Proofs.Solve.Contradiction
import PlanarSketch.Proofs.Solve.Counts
import PlanarSketch.Proofs.Solve.Definedness
import PlanarSketch.Proofs.Solve.Faithful
import PlanarSketch.Proofs.Solve.Figures
import PlanarSketch.Proofs.Solve.Flattening
import PlanarSketch.Proofs.Solve.Floating
import PlanarSketch.Proofs.Solve.Identity
import PlanarSketch.Proofs.Solve.Nearest
import PlanarSketch.Proofs.Solve.Order
import PlanarSketch.Proofs.Solve.Points
import PlanarSketch.Proofs.Solve.Preparation
import PlanarSketch.Proofs.Solve.Readings
import PlanarSketch.Proofs.Solve.References
import PlanarSketch.Proofs.Solve.Report
import PlanarSketch.Proofs.Solve.Termination
import PlanarSketch.Proofs.Solve.Unmoved
import PlanarSketch.Proofs.Solve.Verdicts
import PlanarSketch.Proofs.Solve.WriteBack
import PlanarSketch.Proofs.System.Affine
import PlanarSketch.Proofs.System.Agreement
import PlanarSketch.Proofs.System.Collapse
import PlanarSketch.Proofs.System.Columns
import PlanarSketch.Proofs.System.Norms
import PlanarSketch.Proofs.System.Renaming
import PlanarSketch.Proofs.System.Rows
import PlanarSketch.Proofs.System.Sparsity
import PlanarSketch.Proofs.ThreePointArc
import PlanarSketch.Proofs.Tiles
import PlanarSketch.Registry
import PlanarSketch.Registry.Record
import PlanarSketch.Relation
import PlanarSketch.Relation.Residual
import PlanarSketch.Relation.Slope
import PlanarSketch.Scalar.Double
import PlanarSketch.Sketch
import PlanarSketch.Sketch.Arguments
import PlanarSketch.Sketch.Script
import PlanarSketch.Solution
import PlanarSketch.Solution.Record
import PlanarSketch.Solve
import PlanarSketch.System
import PlanarSketch.Text.Digit
import PlanarSketch.Text.Lines
import PlanarSketch.Text.Piece
import PlanarSketch.Text.Quoted
import PlanarSketch.Tolerance
