import ScriptDeps.Cache
import ScriptDeps.Log.Template
import ScriptDeps.Main
import ScriptDeps.Proofs.Gather
import ScriptDeps.Proofs.Tree.Place
import ScriptDeps.Proofs.Scope.Rules
import ScriptDeps.Proofs.Scope.Table
import ScriptDeps.Proofs.Scope.Free
import ScriptDeps.Proofs.Cluster.Sharing
import ScriptDeps.Proofs.Tree.Postorder
import ScriptDeps.Proofs.Cache.Transparency
import ScriptDeps.Proofs.Require.Escape
import ScriptDeps.Proofs.Require.Calls
import ScriptDeps.Proofs.Analysis
import ScriptDeps.Proofs.Source.Reading
import ScriptDeps.Proofs.Parse.Token
import ScriptDeps.Proofs.Parse.Stack
import ScriptDeps.Proofs.Parse.Parser
import ScriptDeps.Proofs.Text.Utf8
import ScriptDeps.Proofs.Require.Order
import ScriptDeps.Proofs.Scope.Hidden
import ScriptDeps.Proofs.Respelling
import ScriptDeps.Proofs.Require.Restored
import ScriptDeps.Proofs.Cache.Recency
import ScriptDeps.Proofs.Cluster.Delivery
import ScriptDeps.Proofs.Require.Callee
import ScriptDeps.Proofs.Spans
import ScriptDeps.Proofs.Module.Resolution
import ScriptDeps.Proofs.Cluster.Fetch
import ScriptDeps.Proofs.Files.Tree
import ScriptDeps.Proofs.Json.Members
import ScriptDeps.Proofs.Program.Report
import ScriptDeps.Proofs.Cluster.Secrecy
import ScriptDeps.Proofs.Program.Secrecy
import ScriptDeps.Proofs.Text.Parts
import ScriptDeps.Proofs.Cluster.Percent
import ScriptDeps.Proofs.Cluster.Address
import ScriptDeps.Proofs.Tree.Rearranged
import ScriptDeps.Proofs.Scope.Hoisted
import ScriptDeps.Proofs.Scope.Locals
import ScriptDeps.Proofs.Scope.Blocks
import ScriptDeps.Proofs.Require.Items
import ScriptDeps.Proofs.Require.StringValue
import ScriptDeps.Proofs.Require.Comments
import ScriptDeps.Proofs.Grammar.Names
import ScriptDeps.Proofs.Parse.Names
import ScriptDeps.Proofs.Parse.Linked
import ScriptDeps.Proofs.Parse.Ways
import ScriptDeps.Proofs.Parse.Soundness
import ScriptDeps.Proofs.Scope.PureNames
import ScriptDeps.Proofs.Sorting
import ScriptDeps.Proofs.Module.RoundTrip
import ScriptDeps.Proofs.Files.Scripts
import ScriptDeps.Proofs.Text.Synchrony
import ScriptDeps.Proofs.Text.Kept
import ScriptDeps.Proofs.Syntax.Tokens
import ScriptDeps.Proofs.Syntax.Faithful
import ScriptDeps.Proofs.Syntax.Gaps
import ScriptDeps.Proofs.Syntax.Faults
import ScriptDeps.Proofs.Scope.Keys
import ScriptDeps.Proofs.Cache.Capacity
import ScriptDeps.Proofs.Json.Grammar
import ScriptDeps.Proofs.Json.Strings
import ScriptDeps.Proofs.Json.Numbers
import ScriptDeps.Proofs.Json.Reading
import ScriptDeps.Proofs.Json.Failures
import ScriptDeps.Proofs.Cluster.LineEnds
import ScriptDeps.Proofs.Cluster.Profile
import ScriptDeps.Proofs.Program.Configuration
