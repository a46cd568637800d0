import StructuralLint.Main
import StructuralLint.Symbol.Definition
import StructuralLint.Proofs.Check.BareRaise
import StructuralLint.Proofs.Symbol.Agreement
import StructuralLint.Proofs.Symbol.Comprehension
import StructuralLint.Proofs.Tree.Ownership
import StructuralLint.Proofs.Symbol.Naming
import StructuralLint.Proofs.Analysis.Source
import StructuralLint.Proofs.Analysis.Project
import StructuralLint.Proofs.Report.Gate
import StructuralLint.Proofs.Analysis.Since
import StructuralLint.Proofs.History.FileName
import StructuralLint.Proofs.Worktree.Links
import StructuralLint.Proofs.Analysis.Collecting
import StructuralLint.Proofs.Tree.Attributes
import StructuralLint.Proofs.Tree.Opening
import StructuralLint.Proofs.Check.Raises
import StructuralLint.Proofs.Analysis.Distinct
import StructuralLint.Proofs.Symbol.Defining
import StructuralLint.Proofs.Symbol.Definitions
import StructuralLint.Proofs.Symbol.Given
import StructuralLint.Proofs.Symbol.Regions
import StructuralLint.Proofs.Symbol.Signatures
import StructuralLint.Proofs.Symbol.Drawing
import StructuralLint.Proofs.Symbol.Shown
import StructuralLint.Proofs.Report.Ranking
import StructuralLint.Proofs.Signature.Positional
import StructuralLint.Proofs.Clause.Chains
import StructuralLint.Proofs.Expression.DottedName
import StructuralLint.Proofs.Definition.Decorators
import StructuralLint.Proofs.Definition.Methods
import StructuralLint.Proofs.Symbol.SourceOrder
import StructuralLint.Proofs.Tree.Traversal
import StructuralLint.Proofs.Text.Columns
import StructuralLint.Proofs.Token.Stream
