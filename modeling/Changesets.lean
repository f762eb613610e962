import Changesets.Assembly
import Changesets.Changeset.Wire
import Changesets.Proofs.Json.RoundTrip
import Changesets.Proofs.Grouping.Cover
import Changesets.Proofs.Diff.Append
import Changesets.Proofs.Diff.Canonical
import Changesets.Proofs.Assembly.Outcome
import Changesets.Proofs.Assembly.HeadRef
import Changesets.Proofs.Assembly.Rendering
import Changesets.Proofs.Assembly.Precedence
import Changesets.Proofs.Assembly.Content
import Changesets.Proofs.Assembly.Isolation
import Changesets.Proofs.Assembly.Publication
import Changesets.Proofs.Assembly.Inert
import Changesets.Proofs.Assembly.SentValue
import Changesets.Proofs.Grouping.Fault
import Changesets.Proofs.Diff.Position
import Changesets.Proofs.Grouping.PathStyle
import Changesets.Proofs.Diff.QuotedNames
import Changesets.Proofs.Glob
import Changesets.Proofs.Publication.Key
import Changesets.Proofs.Publication.Acceptance
import Changesets.Proofs.Publication.Meaning
import Changesets.Proofs.Assembly.Features
import Changesets.Proofs.Grouping.FirstConflict
import Changesets.Proofs.Grouping.Overlap
import Changesets.Proofs.Service.CalendarDate
import Changesets.Proofs.Service.SemanticVersion
import Changesets.Proofs.Service.Version
import Changesets.Proofs.Task.SearchResults
import Changesets.Proofs.Template.Plain
import Changesets.Proofs.Assembly.PlainTexts
import Changesets.Proofs.Json.Ordered
import Changesets.Proofs.Json.Stated
import Changesets.Proofs.Publication.Overrides
import Changesets.Proofs.Task.Declaration
import Changesets.Proofs.Assembly.Declared
