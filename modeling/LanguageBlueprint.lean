import LanguageBlueprint.Json.Write
import LanguageBlueprint.Blueprint.Edit
import LanguageBlueprint.Configuration.Settings
import LanguageBlueprint.Desk
import LanguageBlueprint.Http.Remote
import LanguageBlueprint.Http.Router
import LanguageBlueprint.Proofs.Json.Layout
import LanguageBlueprint.Proofs.Json.Faithful
import LanguageBlueprint.Proofs.Json.Sorting
import LanguageBlueprint.Proofs.Exchange.RoundTrip
import LanguageBlueprint.Proofs.Desk.Interleaving
import LanguageBlueprint.Proofs.Review.Verdict
import LanguageBlueprint.Proofs.Review.Rule
import LanguageBlueprint.Proofs.Store.Tables
import LanguageBlueprint.Proofs.Text.ByteOrder
import LanguageBlueprint.Proofs.Text.Tokens
import LanguageBlueprint.Proofs.Studio.Catalogue
import LanguageBlueprint.Proofs.Generation.Packing
import LanguageBlueprint.Proofs.Studio.Downloads
import LanguageBlueprint.Proofs.Desk.Forwarding
import LanguageBlueprint.Proofs.Time.Reading
import LanguageBlueprint.Proofs.Url.Endpoint
import LanguageBlueprint.Proofs.Http.Mounting
import LanguageBlueprint.Proofs.Http.Relay
import LanguageBlueprint.Proofs.Http.Interchange
import LanguageBlueprint.Proofs.Studio.Regeneration
import LanguageBlueprint.Proofs.Http.Integrity
import LanguageBlueprint.Proofs.Blueprint.Rearranging
import LanguageBlueprint.Proofs.Blueprint.Precedence
import LanguageBlueprint.Proofs.Review.Report
import LanguageBlueprint.Proofs.Review.Reordering
import LanguageBlueprint.Proofs.Review.Addition
import LanguageBlueprint.Proofs.Blueprint.Undoing
import LanguageBlueprint.Proofs.Blueprint.Locality
import LanguageBlueprint.Proofs.Blueprint.Handles
import LanguageBlueprint.Proofs.Generation.Outcome
import LanguageBlueprint.Proofs.Generation.Contents
import LanguageBlueprint.Proofs.Generation.Comments
import LanguageBlueprint.Proofs.Generation.Entries
import LanguageBlueprint.Proofs.Http.Disposition
import LanguageBlueprint.Proofs.Store.Tampering
import LanguageBlueprint.Proofs.Review.Removal
import LanguageBlueprint.Proofs.Generation.OperatorTable
import LanguageBlueprint.Proofs.Configuration.Layers
import LanguageBlueprint.Proofs.Text.Slugs
