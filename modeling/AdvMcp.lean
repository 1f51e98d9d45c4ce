import AdvMcp.Access.Cache
import AdvMcp.Access.Listing
import AdvMcp.Access.Lookups
import AdvMcp.Access.Restrict
import AdvMcp.Access.Sync
import AdvMcp.Access.Synced
import AdvMcp.Audit.Event
import AdvMcp.Audit.Purge
import AdvMcp.Lib.Alike
import AdvMcp.Lib.Base64
import AdvMcp.Lib.BatchLoop
import AdvMcp.Lib.Batched
import AdvMcp.Lib.Closure
import AdvMcp.Lib.Decimal
import AdvMcp.Lib.Faults
import AdvMcp.Lib.Firsts
import AdvMcp.Lib.Groups
import AdvMcp.Lib.Holes
import AdvMcp.Lib.Items
import AdvMcp.Lib.Journal
import AdvMcp.Lib.Lanes
import AdvMcp.Lib.Locking
import AdvMcp.Lib.Loop
import AdvMcp.Lib.Monitor
import AdvMcp.Lib.Pager
import AdvMcp.Lib.Prefix
import AdvMcp.Lib.Ranking
import AdvMcp.Lib.Reconcile
import AdvMcp.Lib.Regex
import AdvMcp.Lib.Runs
import AdvMcp.Lib.Savepoint
import AdvMcp.Lib.Silent
import AdvMcp.Lib.Sorting
import AdvMcp.Lib.Table
import AdvMcp.OAuth.Authorize
import AdvMcp.OAuth.Batches
import AdvMcp.OAuth.Change
import AdvMcp.OAuth.Failures
import AdvMcp.OAuth.Family
import AdvMcp.OAuth.Gc
import AdvMcp.OAuth.Grants
import AdvMcp.OAuth.Inv
import AdvMcp.OAuth.Lineage
import AdvMcp.OAuth.Machine
import AdvMcp.OAuth.Possession
import AdvMcp.OAuth.Race
import AdvMcp.OAuth.Redirects
import AdvMcp.OAuth.Registered
import AdvMcp.OAuth.Replay
import AdvMcp.OAuth.Scope
import AdvMcp.OAuth.ScopeAlgebra
import AdvMcp.OAuth.Store
import AdvMcp.OAuth.Usable
import AdvMcp.Py.Class
import AdvMcp.Py.Exc
import AdvMcp.Py.Value
import AdvMcp.Read.Aggregate
import AdvMcp.Read.Arguments
import AdvMcp.Read.Capabilities
import AdvMcp.Read.Caps
import AdvMcp.Read.Catalog
import AdvMcp.Read.Compare
import AdvMcp.Read.CrossTab
import AdvMcp.Read.Domain
import AdvMcp.Read.Formatters
import AdvMcp.Read.Orm
import AdvMcp.Read.Paging
import AdvMcp.Read.Rendered
import AdvMcp.Read.Secrecy
import AdvMcp.Read.Silence
import AdvMcp.Read.SmartDefaults
import AdvMcp.Read.SmartFields
import AdvMcp.Read.UriSchema
import AdvMcp.Read.Validation
import AdvMcp.Rpc.Parity
import AdvMcp.Rpc.Proxy
import AdvMcp.Rpc.Trail
import AdvMcp.Server.Atomic
import AdvMcp.Server.AuthFailure
import AdvMcp.Server.Ceiling
import AdvMcp.Server.Contents
import AdvMcp.Server.Credential
import AdvMcp.Server.Deactivated
import AdvMcp.Server.Doors
import AdvMcp.Server.Entitled
import AdvMcp.Server.Executed
import AdvMcp.Server.Flow
import AdvMcp.Server.Front
import AdvMcp.Server.Handler
import AdvMcp.Server.Index
import AdvMcp.Server.Isolated
import AdvMcp.Server.Issued
import AdvMcp.Server.Links
import AdvMcp.Server.Outcome
import AdvMcp.Server.Reported
import AdvMcp.Server.Residue
import AdvMcp.Server.Resources
import AdvMcp.Server.Rest
import AdvMcp.Server.Sanitizer
import AdvMcp.Server.Scrub
import AdvMcp.Server.Sliding
import AdvMcp.Server.Throttle
import AdvMcp.Server.ToolList
import AdvMcp.Server.ToolTable
import AdvMcp.Server.Wire
import AdvMcp.Tools.Addressing
import AdvMcp.Tools.Affected
import AdvMcp.Tools.Attach
import AdvMcp.Tools.Coerce
import AdvMcp.Tools.Confined
import AdvMcp.Tools.Mutations
import AdvMcp.Tools.Pipeline
import AdvMcp.Tools.Refs
import AdvMcp.Tools.Run
import AdvMcp.Tools.Served
