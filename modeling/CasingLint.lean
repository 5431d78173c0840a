import CasingLint.Main
import CasingLint.Rename
import CasingLint.Proofs.Name.Idempotence
import CasingLint.Proofs.Edit.Rewriting
import CasingLint.Proofs.SyntaxTree.Bindings
import CasingLint.Proofs.SyntaxTree.Layout
import CasingLint.Proofs.Rule.Naming
import CasingLint.Proofs.Fix.Exactness
import CasingLint.Proofs.SyntaxTree.Relocation
import CasingLint.Proofs.Fix.Convergence
import CasingLint.Proofs.Rename
import CasingLint.Proofs.Rule.Completion
import CasingLint.Proofs.Settings.Load
import CasingLint.Proofs.Analysis
import CasingLint.Proofs.CommandLine.Fixing
import CasingLint.Proofs.SyntaxTree.Addresses
import CasingLint.Proofs.SyntaxTree.Preorder
import CasingLint.Proofs.SyntaxTree.Nesting
import CasingLint.Proofs.Analysis.Pipeline
import CasingLint.Proofs.Rename.Safety
import CasingLint.Proofs.CommandLine.Pool
import CasingLint.Proofs.CommandLine.Repetition
import CasingLint.Proofs.Settings.Merge
import CasingLint.Proofs.Settings.Running
import CasingLint.Proofs.Settings.Saving
import CasingLint.Proofs.Report.Validity
import CasingLint.Proofs.CommandLine.Mending
import CasingLint.Proofs.Catalogue.History
import CasingLint.Proofs.Catalogue.Walk
import CasingLint.Proofs.Catalogue.Sources
import CasingLint.Proofs.Edit.Order
import CasingLint.Proofs.Edit.Simultaneous
import CasingLint.Proofs.Name.Language
import CasingLint.Proofs.Name.Letters
import CasingLint.Proofs.Name.Absorption
import CasingLint.Proofs.Suppression
import CasingLint.Proofs.Suppression.Comment
import CasingLint.Proofs.Position.Inversion
import CasingLint.Proofs.Escape.Spelling
import CasingLint.Proofs.Diff.Legibility
import CasingLint.Proofs.Name.Pieces
import CasingLint.Proofs.Path.Ascent
import CasingLint.Proofs.Settings.Search
import CasingLint.Proofs.Store.Trees
import CasingLint.Proofs.Store.Collection
import CasingLint.Proofs.Value.Reordering
import CasingLint.Proofs.Settings.Precedence
import CasingLint.Proofs.Fix.Repetition
import CasingLint.Proofs.Modifier
