import RaftAutopilot.Model.Types

/-! # The health check

`isHealthy` compares `LastIndex + MaxTrailingLogs` with the leader's last index
in `uint64` arithmetic, so the sum wraps past `2^64 - 1`. The documentation has
it saturate there, which against a `uint64` index is the same as adding
exactly. The two checks agree while the sum fits in 64 bits, and the wrap only
ever turns a healthy verdict into an unhealthy one.
-/
namespace RaftAutopilot

/-- `isHealthy` as its documentation states it: the trailing-logs sum is exact. -/
def ServerState.healthyBySpec (s : ServerState) (lastTerm leaderLastIndex : UInt64)
    (conf : Config) : Bool :=
  leaderLastIndex != 0 && lastTerm != 0 && s.server.nodeStatus == nodeAlive &&
    decide (0 ≤ s.stats.lastContact) && decide (s.stats.lastContact ≤ conf.lastContactThreshold) &&
    s.stats.lastTerm == lastTerm &&
    decide (leaderLastIndex.toNat ≤ s.stats.lastIndex.toNat + conf.maxTrailingLogs.toNat)

theorem toNat_uint64_add (a b : UInt64) : (a + b).toNat = (a.toNat + b.toNat) % UInt64.size :=
  BitVec.toNat_add _ _

/-- `isHealthy` holds exactly when every check passes, the trailing-logs sum
taken mod `2^64`. -/
theorem isHealthy_iff (s : ServerState) (lastTerm leaderLastIndex : UInt64) (conf : Config) :
    s.isHealthy lastTerm leaderLastIndex conf = true ↔
      leaderLastIndex ≠ 0 ∧ lastTerm ≠ 0 ∧ s.server.nodeStatus = nodeAlive ∧
        0 ≤ s.stats.lastContact ∧ s.stats.lastContact ≤ conf.lastContactThreshold ∧
        s.stats.lastTerm = lastTerm ∧
        leaderLastIndex.toNat ≤ (s.stats.lastIndex.toNat + conf.maxTrailingLogs.toNat) % UInt64.size := by
  have hsum : ¬s.stats.lastIndex + conf.maxTrailingLogs < leaderLastIndex ↔
      leaderLastIndex.toNat ≤ (s.stats.lastIndex.toNat + conf.maxTrailingLogs.toNat) % UInt64.size := by
    rw [← toNat_uint64_add]
    exact Nat.not_lt
  simp only [ServerState.isHealthy, Bool.if_false_left, Bool.and_eq_true, Bool.not_eq_true',
    decide_eq_false_iff_not, decide_eq_true_eq, Bool.or_eq_true, beq_iff_eq, bne_iff_ne, ne_eq,
    not_or, not_not, not_lt, hsum, and_true, and_assoc, and_left_comm]

theorem healthyBySpec_iff (s : ServerState) (lastTerm leaderLastIndex : UInt64) (conf : Config) :
    s.healthyBySpec lastTerm leaderLastIndex conf = true ↔
      leaderLastIndex ≠ 0 ∧ lastTerm ≠ 0 ∧ s.server.nodeStatus = nodeAlive ∧
        0 ≤ s.stats.lastContact ∧ s.stats.lastContact ≤ conf.lastContactThreshold ∧
        s.stats.lastTerm = lastTerm ∧
        leaderLastIndex.toNat ≤ s.stats.lastIndex.toNat + conf.maxTrailingLogs.toNat := by
  simp [ServerState.healthyBySpec, and_assoc]

section Agreement

variable (s : ServerState) (lastTerm leaderLastIndex : UInt64) (conf : Config)

/-- While the trailing-logs sum fits in 64 bits the code is the documented check. -/
theorem isHealthy_eq_healthyBySpec
    (h : s.stats.lastIndex.toNat + conf.maxTrailingLogs.toNat < UInt64.size) :
    s.isHealthy lastTerm leaderLastIndex conf = s.healthyBySpec lastTerm leaderLastIndex conf := by
  rw [Bool.eq_iff_iff, isHealthy_iff, healthyBySpec_iff, Nat.mod_eq_of_lt h]

theorem isHealthy_eq_healthyBySpec_live_voter :
    let srv : ServerState := ⟨⟨"A", "10.0.0.1:8300", nodeAlive, nodeVoter⟩, raftVoter, ⟨0, 1, 1⟩, ⟨true⟩⟩
    let conf : Config := ⟨true, 10, 5, 0⟩
    srv.stats.lastIndex.toNat + conf.maxTrailingLogs.toNat < UInt64.size ∧
      srv.isHealthy 1 2 conf = srv.healthyBySpec 1 2 conf :=
  ⟨by decide, isHealthy_eq_healthyBySpec _ _ _ _ (by decide)⟩

/-- The wrap only lowers the sum: a server the code finds healthy is healthy by
the documentation. -/
theorem healthyBySpec_of_isHealthy (h : s.isHealthy lastTerm leaderLastIndex conf = true) :
    s.healthyBySpec lastTerm leaderLastIndex conf = true := by
  obtain ⟨h₁, h₂, h₃, h₄, h₅, h₆, h₇⟩ := (isHealthy_iff _ _ _ _).1 h
  exact (healthyBySpec_iff _ _ _ _).2 ⟨h₁, h₂, h₃, h₄, h₅, h₆, h₇.trans (Nat.mod_le _ _)⟩

theorem healthyBySpec_of_isHealthy_live_voter :
    let srv : ServerState := ⟨⟨"A", "10.0.0.1:8300", nodeAlive, nodeVoter⟩, raftVoter, ⟨0, 1, 1⟩, ⟨true⟩⟩
    let conf : Config := ⟨true, 10, 5, 0⟩
    srv.isHealthy 1 2 conf = true ∧ srv.healthyBySpec 1 2 conf = true :=
  ⟨by decide, healthyBySpec_of_isHealthy _ _ _ _ (by decide)⟩

end Agreement

/-- With `MaxTrailingLogs` at the `uint64` maximum, the value that switches the
check off, the sum wraps to zero: a live server in the leader's term, one entry
behind the leader's index, is unhealthy though by the documentation it is
healthy. -/
theorem isHealthy_maxTrailingLogs_wraps :
    let s : ServerState := ⟨⟨"A", "10.0.0.1:8300", nodeAlive, nodeVoter⟩, raftVoter, ⟨0, 1, 1⟩, ⟨true⟩⟩
    let conf : Config := ⟨true, 10, 18446744073709551615, 0⟩
    s.isHealthy 1 2 conf = false ∧ s.healthyBySpec 1 2 conf = true := by
  decide

end RaftAutopilot
