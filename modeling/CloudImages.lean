import CloudImages.Client.Overrides
import CloudImages.Definition.Draft
import CloudImages.Proofs.Batch.Drafts
import CloudImages.Proofs.Batch.Isolation
import CloudImages.Proofs.Batch.Persistence
import CloudImages.Proofs.Batch.Pools
import CloudImages.Proofs.Batch.Truncation
import CloudImages.Proofs.Client.Runs
import CloudImages.Proofs.Definition.Causes
import CloudImages.Proofs.Json.DepthLimit
import CloudImages.Proofs.Pool.Agreement
import CloudImages.Proofs.Json.Alike
import CloudImages.Proofs.Definition.Alike
import CloudImages.Proofs.Definition.Unread
import CloudImages.Proofs.Definition.Reordered
import CloudImages.Proofs.Batch.Reordered
import CloudImages.Proofs.Client.Overrides
import CloudImages.Proofs.Pool.RoundTrip
import CloudImages.Proofs.Definition.Messages
import CloudImages.Proofs.Batch.Messages
import CloudImages.Proofs.Definition.Quoting
import CloudImages.Proofs.Client.Uri
import CloudImages.Proofs.Json.Defaults
import CloudImages.Proofs.Json.QuotedIntegers
