import SqlBind.About
import SqlBind.Fault.Course
import SqlBind.Proofs.Fault.Lifetime
import SqlBind.Session
import SqlBind.Value.Members
import SqlBind.Proofs.Value.Keys
import SqlBind.Proofs.Config.Holding
import SqlBind.Proofs.Config.Sharing
import SqlBind.Proofs.Rewrite.Alignment
import SqlBind.Proofs.Rewrite.Concatenation
import SqlBind.Proofs.Rewrite.OnePass
import SqlBind.Proofs.Rewrite.Outcome
import SqlBind.Proofs.Rewrite.Staged
import SqlBind.Proofs.Rewrite.Reported
import SqlBind.Proofs.Rewrite.Shape
import SqlBind.Proofs.Rewrite.Relevance
import SqlBind.Proofs.Rewrite.Merge
import SqlBind.Proofs.Rewrite.Naturality
import SqlBind.Proofs.Rewrite.Renaming
import SqlBind.Proofs.Rewrite.Supplied
import SqlBind.Proofs.Rewrite.Introspection
import SqlBind.Proofs.Log.Attachment
import SqlBind.Proofs.Log.Filters
import SqlBind.Proofs.Log.Managed
import SqlBind.Proofs.Log.Records
import SqlBind.Proofs.Log.Structured
import SqlBind.Proofs.Log.OneLine
import SqlBind.Proofs.Log.Backlog
import SqlBind.Proofs.Json.Scalars
import SqlBind.Proofs.Json.Documents
import SqlBind.Proofs.Json.Readback
import SqlBind.Proofs.Json.Readable
import SqlBind.Proofs.Json.Refusal
import SqlBind.Proofs.Json.Line
import SqlBind.Proofs.Json.Verdict
import SqlBind.Proofs.Text.Utf8
