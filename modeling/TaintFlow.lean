import TaintFlow.Taint.Session
import TaintFlow.Main
import TaintFlow.Program.Draft.Codec
import TaintFlow.Program.Index.Codec
import TaintFlow.Command.Analysis
import TaintFlow.Proofs.Taint.Chains
import TaintFlow.Proofs.Taint.Exactness
import TaintFlow.Proofs.Taint.Soundness
import TaintFlow.Proofs.Taint.Attribution
import TaintFlow.Proofs.Taint.Validation
import TaintFlow.Proofs.Taint.AccessPaths
import TaintFlow.Proofs.Taint.CallStrings
import TaintFlow.Proofs.Taint.Globals
import TaintFlow.Proofs.Flow.Definitions
import TaintFlow.Proofs.Flow.Closure
import TaintFlow.Proofs.Flow.Feeds
import TaintFlow.Proofs.Flow.Reversal
import TaintFlow.Proofs.Rules.Transmission
import TaintFlow.Proofs.Taint.Limits
import TaintFlow.Proofs.Program.RoundTrip
import TaintFlow.Proofs.Taint.Sessions
import TaintFlow.Proofs.Settings.RoundTrip
import TaintFlow.Proofs.Taint.Matching
import TaintFlow.Proofs.Taint.Capacity
import TaintFlow.Proofs.Taint.Termination
import TaintFlow.Proofs.Taint.Truncation
import TaintFlow.Proofs.Program.Constancy
import TaintFlow.Proofs.Rules.SensitiveSource
import TaintFlow.Proofs.Rules.Masking
import TaintFlow.Proofs.Rules.Guards
import TaintFlow.Proofs.Program.ReverseIndex
import TaintFlow.Proofs.Program.Drafts
import TaintFlow.Proofs.Taint.Messages
import TaintFlow.Proofs.Taint.Reconstruction
import TaintFlow.Proofs.Text.Distance
import TaintFlow.Proofs.Settings.Acceptance
import TaintFlow.Proofs.Taint.Records
