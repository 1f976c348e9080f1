import Narrowing.Ty.Tagged
import Narrowing.Runner
import Narrowing.Demo
import Narrowing.Reading.Script
import Narrowing.Reading.Diagnostic
import Narrowing.Cli.Response
import Narrowing.Main
import Narrowing.Proofs.Ty.Canonical
import Narrowing.Proofs.Run.Scope
import Narrowing.Proofs.Run.Steps
import Narrowing.Proofs.Ty.Structure
import Narrowing.Proofs.Run.Declarations
import Narrowing.Proofs.Run.Members
import Narrowing.Proofs.Ty.Reference
import Narrowing.Proofs.Run.Similar
import Narrowing.Proofs.Rules.Settings
import Narrowing.Proofs.Rules.Tests
import Narrowing.Proofs.Run.Settings
import Narrowing.Proofs.Run.Nodes
import Narrowing.Proofs.Run.Accounting
import Narrowing.Proofs.Run.Plain
import Narrowing.Proofs.Run.Branches
import Narrowing.Proofs.Rules.Tags
import Narrowing.Proofs.Run.Agreement
import Narrowing.Proofs.Symbols.Index
import Narrowing.Proofs.Run.Order
import Narrowing.Proofs.Run.Schemas
import Narrowing.Proofs.Run.Moments
import Narrowing.Proofs.Reading.Reports
import Narrowing.Proofs.Reading.Scripts
import Narrowing.Proofs.Run.Stages
import Narrowing.Proofs.Run.Widening
import Narrowing.Proofs.Run.Renaming
import Narrowing.Proofs.Cli.Outputs
import Narrowing.Proofs.Ty.Legible
import Narrowing.Proofs.Reading.References
import Narrowing.Proofs.Run.FirstDeclarations
import Narrowing.Proofs.Schema.Content
