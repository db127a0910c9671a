import ManifestEdit.Main
import ManifestEdit.Directive.RuleKey
import ManifestEdit.Pattern.Error
import ManifestEdit.Proofs.Pattern.Filling
import ManifestEdit.Proofs.Links.Rules
import ManifestEdit.Proofs.Links.Report
import ManifestEdit.Proofs.Apply.Passes
import ManifestEdit.Proofs.Apply.ClosedForm
import ManifestEdit.Proofs.Number.Exact
import ManifestEdit.Proofs.Json.Strings
import ManifestEdit.Proofs.Json.Values
import ManifestEdit.Proofs.Number.ReadBack
import ManifestEdit.Proofs.Json.Bounds
import ManifestEdit.Proofs.Json.Parsed
import ManifestEdit.Proofs.Json.RoundTrip
import ManifestEdit.Proofs.Shape.Reading
import ManifestEdit.Proofs.Shape.Regular
import ManifestEdit.Proofs.Shape.Canonical
import ManifestEdit.Proofs.Shape.Kinds
import ManifestEdit.Proofs.Document.Writing
import ManifestEdit.Proofs.Shape.Records
import ManifestEdit.Proofs.Shape.Settled
import ManifestEdit.Proofs.Shape.ReadsBack
import ManifestEdit.Proofs.Document.Parts
import ManifestEdit.Proofs.Manifest.Parts
import ManifestEdit.Proofs.Directive.Parts
import ManifestEdit.Proofs.Document.Rendering
import ManifestEdit.Proofs.RoundTrip
import ManifestEdit.Proofs.Manifest.Durable
import ManifestEdit.Proofs.Manifest.Reread
import ManifestEdit.Proofs.Manifest.Edits
import ManifestEdit.Proofs.Apply.Overrides
import ManifestEdit.Proofs.Apply.Alike
import ManifestEdit.Proofs.Directive.Plain
import ManifestEdit.Proofs.Session
import ManifestEdit.Proofs.Apply.Reached
import ManifestEdit.Proofs.Apply.Report
import ManifestEdit.Proofs.Apply.Unchanged
import ManifestEdit.Proofs.Apply.Undone
import ManifestEdit.Proofs.Shape.Writable
import ManifestEdit.Proofs.Document.Content
import ManifestEdit.Proofs.Shape.Restored
import ManifestEdit.Proofs.Shape.Respelled
import ManifestEdit.Proofs.Manifest.Respelled
import ManifestEdit.Proofs.Apply.Local
import ManifestEdit.Proofs.Apply.Repeated
import ManifestEdit.Proofs.Shape.Shuffled
import ManifestEdit.Proofs.Action
import ManifestEdit.Proofs.Files.Store
import ManifestEdit.Proofs.Files.Text
import ManifestEdit.Proofs.Run.Loading
import ManifestEdit.Proofs.Run.Exporting
import ManifestEdit.Proofs.CommandLine
import ManifestEdit.Proofs.Apply.Shuffled
import ManifestEdit.Proofs.Run.Failing
import ManifestEdit.Proofs.Apply.Effective
import ManifestEdit.Proofs.Pattern.Inclusion
import ManifestEdit.Proofs.Pattern.Overlaps
import ManifestEdit.Proofs.Apply.Dropped
import ManifestEdit.Proofs.Links.Reordered
import ManifestEdit.Proofs.Links.Policies
import ManifestEdit.Proofs.Links.Repeated
import ManifestEdit.Proofs.Links.Accounted
import ManifestEdit.Proofs.Apply.Removals
import ManifestEdit.Proofs.Apply.OwnKeys
import ManifestEdit.Proofs.Directive.Grammar
import ManifestEdit.Proofs.Directive.Keys
import ManifestEdit.Proofs.Manifest.Views
import ManifestEdit.Proofs.Shape.Paths
import ManifestEdit.Proofs.Shape.Report
