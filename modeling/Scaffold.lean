import Scaffold.Files.Disk
import Scaffold.Main
import Scaffold.Proofs.Blueprint
import Scaffold.Proofs.Blueprint.Insertions
import Scaffold.Proofs.View
import Scaffold.Proofs.Expansion.ValueObjects
import Scaffold.Proofs.Generation.Places
import Scaffold.Proofs.Generation.Recovery
import Scaffold.Proofs.Source.Constructors
import Scaffold.Proofs.Source.ExternalTypes
import Scaffold.Proofs.Source.Interfaces
import Scaffold.Proofs.Source.References
import Scaffold.Proofs.Source.Signatures
import Scaffold.Proofs.Generation.DryRun
import Scaffold.Proofs.Source.Columns
import Scaffold.Proofs.Generation.Separate
import Scaffold.Proofs.Source.Declarations
import Scaffold.Proofs.Source.Imports
import Scaffold.Proofs.Generation.Accounting
import Scaffold.Proofs.Derivation
import Scaffold.Proofs.Expansion.Events
import Scaffold.Proofs.Expansion.Stock
import Scaffold.Proofs.Template.Cuts
import Scaffold.Proofs.Name.ClassNames
import Scaffold.Proofs.Settings.Suggestion
import Scaffold.Proofs.Settings.WarningLines
import Scaffold.Proofs.Declaration.Spellings
import Scaffold.Proofs.SchemaText
import Scaffold.Proofs.Settings.Layers
import Scaffold.Proofs.Name.Stretches
