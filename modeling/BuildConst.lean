import BuildConst.CommandLine.Program
import BuildConst.Main
import BuildConst.Files.Disk
import BuildConst.Proofs.Compilation
import BuildConst.Proofs.Agreement
import BuildConst.Proofs.Table.FirstDefinition
import BuildConst.Proofs.Layering
import BuildConst.Proofs.Strategies
import BuildConst.Proofs.Redeclaration
import BuildConst.Proofs.Reordering
import BuildConst.Proofs.Inspection
import BuildConst.Proofs.Source.Scope
import BuildConst.Proofs.Repetition
import BuildConst.Proofs.Answers
import BuildConst.Proofs.Language
import BuildConst.Proofs.Precedence
import BuildConst.Proofs.Value.Number
import BuildConst.Proofs.Visibility
import BuildConst.Proofs.Declaration.Ending
import BuildConst.Proofs.Container.Grammar
import BuildConst.Proofs.Value.Items
import BuildConst.Proofs.Image.Document
import BuildConst.Proofs.Diagnostic.Report
