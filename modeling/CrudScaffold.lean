import CrudScaffold.Definition.FieldList
import CrudScaffold.Main
import CrudScaffold.Proofs.CommandLine.Judging
import CrudScaffold.Proofs.Definition.Items
import CrudScaffold.Proofs.Definition.Meaning
import CrudScaffold.Proofs.Definition.Rejoining
import CrudScaffold.Proofs.Entity.Loading
import CrudScaffold.Proofs.Generation.Confined
import CrudScaffold.Proofs.Generation.Imports
import CrudScaffold.Proofs.Generation.Order
import CrudScaffold.Proofs.Generation.Prefix
import CrudScaffold.Proofs.Generation.Rendering
import CrudScaffold.Proofs.Generation.Resume
import CrudScaffold.Proofs.Name.Alike
import CrudScaffold.Proofs.Schema.FieldLine
import CrudScaffold.Proofs.Schema.Lines
import CrudScaffold.Proofs.Settings.Saved
import CrudScaffold.Proofs.Source.RecordMarkup
import CrudScaffold.Proofs.Source.Sample
import CrudScaffold.Proofs.Source.Validators
import CrudScaffold.Proofs.Specification
import CrudScaffold.Script.World
import CrudScaffold.Source.Listing
import CrudScaffold.Template.Filter
