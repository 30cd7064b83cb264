import Nfs3Rpc.Proof.Csuite.XdrBuf
import Nfs3Rpc.Proof.Builtin.Exchange
import Nfs3Rpc.Format.Records
import Nfs3Rpc.Proof.SimpleRpc.Records
import Nfs3Rpc.Format.Messages
import Nfs3Rpc.Proof.SimpleRpc.Replies
import Nfs3Rpc.Proof.SimpleRpc.Calls
import Nfs3Rpc.Proof.SimpleRpc.Lengths
import Nfs3Rpc.Format.Clients
import Nfs3Rpc.Proof.SimpleRpc.Clients
import Nfs3Rpc.Proof.SimpleRpc.Answers
import Nfs3Rpc.Proof.SimpleRpc.Late
import Nfs3Rpc.Proof.SimpleRpc.Headers
import Nfs3Rpc.Format.Csuite.Arguments
import Nfs3Rpc.Format.Csuite.Results
import Nfs3Rpc.Format.Csuite.Wire
import Nfs3Rpc.Proof.Csuite.Attributes
import Nfs3Rpc.Proof.Csuite.Arguments
import Nfs3Rpc.Proof.Csuite.Results
import Nfs3Rpc.Proof.Csuite.Directory
import Nfs3Rpc.Proof.Csuite.RoundTrip
import Nfs3Rpc.Format.Csuite.Complete
import Nfs3Rpc.Proof.Csuite.Complete
import Nfs3Rpc.Proof.Csuite.Truncated
import Nfs3Rpc.Format.Suites
import Nfs3Rpc.Proof.Suites.SameBytes
import Nfs3Rpc.Proof.Suites.Accepts
import Nfs3Rpc.Proof.Suites.IoResults
import Nfs3Rpc.Proof.Suites.NewObjects
import Nfs3Rpc.Proof.Suites.Entriesplus
import Nfs3Rpc.Construction.Tirpc.Results
import Nfs3Rpc.Format.Tirpc
import Nfs3Rpc.Proof.Tirpc.Filters
import Nfs3Rpc.Proof.Tirpc.MemoryLibrary
import Nfs3Rpc.Proof.Tirpc.SameOutput
import Nfs3Rpc.Proof.Tirpc.Settable
import Nfs3Rpc.Proof.Tirpc.Listings
import Nfs3Rpc.Proof.Tirpc.Verifiers
import Nfs3Rpc.Proof.Tirpc.Decoding
import Nfs3Rpc.Proof.Tirpc.LostEntries
import Nfs3Rpc.Construction.SimpleRpc.Descriptors
import Nfs3Rpc.Format.Descriptors
import Nfs3Rpc.Proof.SimpleRpc.Descriptors
import Nfs3Rpc.Encoding.Queues
import Nfs3Rpc.Format.Queues
import Nfs3Rpc.Proof.Suites.Queues
import Nfs3Rpc.Encoding.Cuts
import Nfs3Rpc.Proof.Builtin.Cuts
import Nfs3Rpc.Format.Truncation
import Nfs3Rpc.Proof.Builtin.Truncation
import Nfs3Rpc.Encoding.Alike
import Nfs3Rpc.Format.Priors
import Nfs3Rpc.Proof.Builtin.Priors
import Nfs3Rpc.Construction.Builtin.Mount
import Nfs3Rpc.Encoding.Recursion
import Nfs3Rpc.Format.Mount
import Nfs3Rpc.Format.Recursion
import Nfs3Rpc.Proof.Builtin.Depth
import Nfs3Rpc.Proof.Builtin.Mount
import Nfs3Rpc.Proof.Builtin.MountReplies
import Nfs3Rpc.Proof.Builtin.Exports
import Nfs3Rpc.Format.Builds
import Nfs3Rpc.Proof.Tirpc.SuiteBytes
import Nfs3Rpc.Proof.Tirpc.WriteArguments
import Nfs3Rpc.Format.Csuite.Memory
import Nfs3Rpc.Proof.Csuite.WriteArguments
import Nfs3Rpc.Encoding.Triples
import Nfs3Rpc.Format.Csuite.Walk
import Nfs3Rpc.Proof.Csuite.Walk
import Nfs3Rpc.Proof.Csuite.Chains
import Nfs3Rpc.Proof.Csuite.Listings
import Nfs3Rpc.Proof.Csuite.Handles
import Nfs3Rpc.Construction.Tirpc.Mount
import Nfs3Rpc.Encoding.Grammars
import Nfs3Rpc.Format.Tirpc.Mount
import Nfs3Rpc.Proof.Tirpc.Mount
import Nfs3Rpc.Proof.Tirpc.MountReplies
import Nfs3Rpc.Construction.Csuite.Lockd
import Nfs3Rpc.Proof.Csuite.Lockd
import Nfs3Rpc.Encoding.Hosts
import Nfs3Rpc.Construction.Builtin.Host
import Nfs3Rpc.Construction.Csuite.Host
import Nfs3Rpc.Proof.Builtin.Host
import Nfs3Rpc.Proof.Csuite.Host
import Nfs3Rpc.Proof.Suites.Bounds
import Nfs3Rpc.Construction.Builtin.Native
import Nfs3Rpc.Construction.Csuite.Native
import Nfs3Rpc.Proof.Builtin.Native
import Nfs3Rpc.Proof.Csuite.Native
import Nfs3Rpc.Proof.Suites.Natives
import Nfs3Rpc.Construction.Csuite.Growth
import Nfs3Rpc.Format.Csuite.Growth
import Nfs3Rpc.Proof.Csuite.Growth
import Nfs3Rpc.Proof.Csuite.Capacities
import Nfs3Rpc.Encoding.Mirrors
import Nfs3Rpc.Proof.Builtin.Mirrors
import Nfs3Rpc.Proof.Csuite.Mirrors
import Nfs3Rpc.Format.Hosts
import Nfs3Rpc.Proof.Suites.Hosts
import Nfs3Rpc.Proof.Csuite.Blocks
import Nfs3Rpc.Construction.SimpleRpc.Interface
import Nfs3Rpc.Format.Sessions
import Nfs3Rpc.Proof.SimpleRpc.Sessions
import Nfs3Rpc.Construction.Csuite.Server
import Nfs3Rpc.Format.Csuite.Server
import Nfs3Rpc.Proof.Csuite.Server
import Nfs3Rpc.Proof.Csuite.Requests
import Nfs3Rpc.Proof.Csuite.Bodies
import Nfs3Rpc.Proof.Csuite.Helpers
import Nfs3Rpc.Proof.Csuite.Turns
import Nfs3Rpc.Format.Csuite.Mount
import Nfs3Rpc.Proof.Csuite.Mount
import Nfs3Rpc.Format.Csuite.Ports
import Nfs3Rpc.Proof.Csuite.Ports
import Nfs3Rpc.Resources.Blocks
import Nfs3Rpc.Construction.Csuite.Types
import Nfs3Rpc.Format.Csuite.Types
import Nfs3Rpc.Proof.Csuite.Types
import Nfs3Rpc.Encoding.Scripts
import Nfs3Rpc.Format.Remote
import Nfs3Rpc.Proof.Builtin.Remote
