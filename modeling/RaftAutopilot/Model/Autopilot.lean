import RaftAutopilot.Model.Types

/-! # What a pass reads and what it does

A pass reads the `Autopilot`: the reconciliation switch, the delegate's
config, Raft configuration and known servers, the state snapshot, and the
promoter. Its effects are the calls it makes to the consensus adapter and the
delegate, recorded in order. The adapter's answer to each call is a
`Responder`, a function of the calls made before it, so a statement over every
responder covers every pattern of adapter failures. Each `range` over a map
gets its own `RangeOrder` through a `RangeSite`.
-/
namespace RaftAutopilot

/-- A call out of the core: to the consensus adapter, or `RemoveFailedServer`
of the delegate with the known-server record found under `id`. -/
inductive Call
  | addVoter (id : ServerID) (address : ServerAddress)
  | demoteVoter (id : ServerID)
  | leadershipTransfer (id : ServerID) (address : ServerAddress)
  | removeServer (id : ServerID)
  | removeFailedServer (id : ServerID) (server : Server)
  deriving DecidableEq, Repr

/-- The server a removal call takes out, by its configuration ID. -/
def Call.removedID : Call → Option ServerID
  | .removeServer id => some id
  | .removeFailedServer id _ => some id
  | _ => none

/-- The error the consensus adapter returns for a call, given the calls before it. -/
abbrev Responder := List Call → Call → Option String

/-- How a pass ends: Go's `error` result (`none` is `nil`), or a run-time panic. -/
inductive PassEnd
  | returned (err : Option String)
  | panicked
  deriving DecidableEq, Repr

/-- `Promoter`, with the two methods the passes call. -/
structure Promoter where
  calculatePromotionsAndDemotions : Config → State → RaftChanges
  filterFailedServerRemovals : Config → Option State → FailedServers → FailedServers

/-- What a pass reads from the `Autopilot`, its delegate and its promoter. -/
structure Autopilot where
  reconciliationEnabled : Bool
  autopilotConfig : Option Config
  raftConfiguration : Except String (List RaftServer)
  knownServers : GoMap Server
  state : Option State
  promoter : Promoter

/-- The `range` statements over maps in a prune pass whose order is observable. -/
inductive RangeSite
  | knownServers
  | convert (b : Bucket)
  | removeStaleNonVoters
  | adjudicate (b : Bucket)
  deriving DecidableEq, Repr

end RaftAutopilot
