import RaftAutopilot.Model.GoMap

/-! # The autopilot value model

The records of `types.go` with the fields the reconcile and prune passes read.
Go's string-typed enumerations (`NodeStatus`, `NodeType`, `RaftState`) stay
strings: the delegate and the promoter may hand back any value, and the code
only ever compares with its named constants. `uint64` fields are `UInt64`, and
`Config.MinQuorum`, a Go `uint`, is 64 bits wide as on every 64-bit target.
-/
namespace RaftAutopilot

/-- `raft.ServerAddress`. -/
abbrev ServerAddress := String

abbrev NodeStatus := String
abbrev NodeType := String
abbrev RaftState := String

def nodeAlive : NodeStatus := "alive"
def nodeVoter : NodeType := "voter"
def raftLeader : RaftState := "leader"
def raftVoter : RaftState := "voter"
def raftNonVoter : RaftState := "non-voter"
def raftStaging : RaftState := "staging"

/-- `RaftState.IsPotentialVoter`. -/
def RaftState.isPotentialVoter (s : RaftState) : Bool :=
  s == raftVoter || s == raftStaging || s == raftLeader

/-- `raft.ServerSuffrage`. -/
inductive Suffrage
  | voter
  | nonvoter
  | staging
  deriving DecidableEq, Repr

/-- `raft.Server`, one entry of the Raft configuration. -/
structure RaftServer where
  suffrage : Suffrage
  id : ServerID
  deriving DecidableEq, Repr

/-- `Config`. -/
structure Config where
  cleanupDeadServers : Bool
  lastContactThreshold : Int
  maxTrailingLogs : UInt64
  minQuorum : UInt64
  deriving DecidableEq, Repr

/-- `Server`, as the delegate knows it. -/
structure Server where
  id : ServerID
  address : ServerAddress
  nodeStatus : NodeStatus
  nodeType : NodeType
  deriving DecidableEq, Repr

/-- `ServerStats`; `LastContact` is a `time.Duration` in nanoseconds. -/
structure ServerStats where
  lastContact : Int
  lastTerm : UInt64
  lastIndex : UInt64
  deriving DecidableEq, Repr

/-- `ServerHealth`. -/
structure ServerHealth where
  healthy : Bool
  deriving DecidableEq, Repr

/-- `ServerState`. -/
structure ServerState where
  server : Server
  state : RaftState
  stats : ServerStats
  health : ServerHealth
  deriving DecidableEq, Repr

def ServerState.hasVotingRights (s : ServerState) : Bool :=
  s.state == raftVoter || s.state == raftLeader

/-- A server with voting rights is in a potential-voter state; staging is the
one potential-voter state without them. -/
theorem RaftState.isPotentialVoter_iff (s : ServerState) :
    RaftState.isPotentialVoter s.state = true ↔ s.hasVotingRights = true ∨ s.state = raftStaging := by
  simp only [RaftState.isPotentialVoter, ServerState.hasVotingRights, Bool.or_eq_true, beq_iff_eq]
  tauto

/-- `isHealthy`. The trailing-logs sum is `uint64` addition, which wraps. -/
def ServerState.isHealthy (s : ServerState) (lastTerm leaderLastIndex : UInt64) (conf : Config) :
    Bool :=
  if leaderLastIndex == 0 || lastTerm == 0 then false
  else if s.server.nodeStatus != nodeAlive then false
  else if s.stats.lastContact > conf.lastContactThreshold || s.stats.lastContact < 0 then false
  else if s.stats.lastTerm != lastTerm then false
  else if s.stats.lastIndex + conf.maxTrailingLogs < leaderLastIndex then false
  else true

/-- `State`, the snapshot both passes read. -/
structure State where
  servers : GoMap ServerState
  leader : ServerID

/-- `RaftChanges`, the promoter's change set. -/
structure RaftChanges where
  promotions : List ServerID
  demotions : List ServerID
  leader : ServerID
  deriving DecidableEq, Repr

/-- `VoterEligibility`. Its pointer is never shared between two maps that both
survive categorization, so a value stands for it. -/
structure VoterEligibility where
  currentVoter : Bool
  potentialVoter : Bool
  deriving DecidableEq, Repr

/-- `RaftServerEligibility`, also called `RaftServers` by the prune pass. -/
abbrev RaftServerEligibility := GoMap VoterEligibility
abbrev RaftServers := RaftServerEligibility

/-- `FilterVoters`: the entries whose `currentVoter` is `isCurrentVoter`. -/
def RaftServerEligibility.filterVoters (s : RaftServerEligibility) (isCurrentVoter : Bool) :
    RaftServerEligibility :=
  ⟨s.entries.filter (fun e => e.2.currentVoter == isCurrentVoter),
    s.nodupKeys.sublist ((List.filter_sublist _).map _)⟩

/-- The six buckets of `CategorizedServers`. -/
inductive Bucket
  | staleNonVoters
  | staleVoters
  | failedNonVoters
  | failedVoters
  | healthyNonVoters
  | healthyVoters
  deriving DecidableEq, Repr

structure CategorizedServers where
  staleNonVoters : RaftServerEligibility
  staleVoters : RaftServerEligibility
  failedNonVoters : RaftServerEligibility
  failedVoters : RaftServerEligibility
  healthyNonVoters : RaftServerEligibility
  healthyVoters : RaftServerEligibility

def CategorizedServers.bucket (c : CategorizedServers) : Bucket → RaftServerEligibility
  | .staleNonVoters => c.staleNonVoters
  | .staleVoters => c.staleVoters
  | .failedNonVoters => c.failedNonVoters
  | .failedVoters => c.failedVoters
  | .healthyNonVoters => c.healthyNonVoters
  | .healthyVoters => c.healthyVoters

/-- `c` with bucket `b` replaced: the struct field that aliases the map a
callee mutates. -/
def CategorizedServers.setBucket (c : CategorizedServers) : Bucket → RaftServerEligibility →
    CategorizedServers
  | .staleNonVoters, s => { c with staleNonVoters := s }
  | .staleVoters, s => { c with staleVoters := s }
  | .failedNonVoters, s => { c with failedNonVoters := s }
  | .failedVoters, s => { c with failedVoters := s }
  | .healthyNonVoters, s => { c with healthyNonVoters := s }
  | .healthyVoters, s => { c with healthyVoters := s }

@[simp] theorem CategorizedServers.bucket_setBucket (c : CategorizedServers) (b b' : Bucket)
    (s : RaftServerEligibility) :
    (c.setBucket b s).bucket b' = if b' = b then s else c.bucket b' := by
  cases b <;> cases b' <;> rfl

/-- `PotentialVoters`: the potential voters of the four non-stale buckets. -/
def CategorizedServers.potentialVoters (c : CategorizedServers) : Int :=
  c.failedNonVoters.count (·.potentialVoter) + c.failedVoters.count (·.potentialVoter) +
    c.healthyNonVoters.count (·.potentialVoter) + c.healthyVoters.count (·.potentialVoter)

/-- The stale buckets, which `PotentialVoters` does not read. -/
def Bucket.isStale : Bucket → Bool
  | .staleNonVoters | .staleVoters => true
  | _ => false

/-- `PotentialVoters` as a function of one bucket: the rest of `c`, plus that
bucket's potential voters unless it is stale. -/
theorem CategorizedServers.potentialVoters_setBucket (c : CategorizedServers) (b : Bucket)
    (s : RaftServerEligibility) :
    (c.setBucket b s).potentialVoters = (c.setBucket b .empty).potentialVoters +
      if b.isStale then 0 else (s.count (·.potentialVoter) : Int) := by
  cases b <;> simp [setBucket, potentialVoters, Bucket.isStale, GoMap.count, GoMap.empty] <;> omega

@[simp] theorem CategorizedServers.setBucket_bucket (c : CategorizedServers) (b : Bucket) :
    c.setBucket b (c.bucket b) = c := by
  cases b <;> rfl

/-- Buckets that hold only entries of another's count no more potential voters. -/
theorem CategorizedServers.potentialVoters_le {c₁ c₂ : CategorizedServers}
    (h : ∀ b k v, (c₁.bucket b).lookup k = some v → (c₂.bucket b).lookup k = some v) :
    c₁.potentialVoters ≤ c₂.potentialVoters := by
  have h₁ := GoMap.count_le_of_sub (·.potentialVoter) (h .failedNonVoters)
  have h₂ := GoMap.count_le_of_sub (·.potentialVoter) (h .failedVoters)
  have h₃ := GoMap.count_le_of_sub (·.potentialVoter) (h .healthyNonVoters)
  have h₄ := GoMap.count_le_of_sub (·.potentialVoter) (h .healthyVoters)
  simp only [potentialVoters, bucket] at *
  omega

/-- `FailedServers`, the removal candidates as the promoter sees them. -/
structure FailedServers where
  staleNonVoters : List ServerID
  staleVoters : List ServerID
  failedNonVoters : List Server
  failedVoters : List Server
  deriving DecidableEq, Repr

end RaftAutopilot
