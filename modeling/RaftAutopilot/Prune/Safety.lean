import RaftAutopilot.Prune.Pass

/-! # What one pruning pass may remove

Every removal of a pass comes from the promoter-filtered stale and failed
buckets, so it takes out an unknown or not-alive configuration server that the
promoter's answer lists, and no server twice. The voters it takes out are
bounded per class by the failure tolerance of the potential voters, not of
the Raft voters; potential voters are held to `MinQuorum`, whatever the
failed-server loops' fresh reads of the known servers return, and stale voters
are not held to it at all.
A pass panics only in convertToFailedServers, when there is no snapshot and a
failed bucket to look up.
-/
namespace RaftAutopilot

theorem filterFailedServers_ok {a : Autopilot} {order : RangeSite → RangeOrder} {conf : Config}
    {c : CategorizedServers} {f : FailedServers} (h : a.filterFailedServers order = .ok (conf, c, f)) :
    a.autopilotConfig = some conf ∧ ∃ servers, a.raftConfiguration = .ok servers ∧
      c = categorize servers a.knownServers (order .knownServers) := by
  simp only [Autopilot.filterFailedServers] at h
  split at h
  · cases h
  split at h
  · cases h
  rename_i conf' hconf
  split at h
  · cases h
  split at h
  · cases h
  rename_i c' hcat
  split at h
  · cases h
  cases h
  refine ⟨hconf, ?_⟩
  cases hr : a.raftConfiguration with
  | error e => simp [categorizeServers, hr, Except.map] at hcat
  | ok servers =>
    simp only [categorizeServers, hr, Except.map, Except.ok.injEq] at hcat
    exact ⟨servers, rfl, hcat.symm⟩

theorem pruneDeadServersReading_calls (a : Autopilot) (rereads : Nat → GoMap Server)
    (order : RangeSite → RangeOrder) (resp : Responder) :
    (pruneDeadServersReading a rereads order resp).1 = match a.filterFailedServers order with
      | .error _ => []
      | .ok (conf, c, f) => (removeDeadServers conf rereads order resp
          (c.convertFromFailedServers f)).1 := by
  rcases h : a.filterFailedServers order with e | ⟨conf, c, f⟩ <;> simp [pruneDeadServersReading, h]

theorem pruneDeadServers_calls (a : Autopilot) (order : RangeSite → RangeOrder) (resp : Responder) :
    (pruneDeadServers a order resp).1 = match a.filterFailedServers order with
      | .error _ => []
      | .ok (conf, c, f) => (removeDeadServers conf (fun _ => a.knownServers) order resp
          (c.convertFromFailedServers f)).1 :=
  pruneDeadServersReading_calls a _ order resp

theorem knownBucket_eq (status : NodeStatus) (currentVoter : Bool) :
    knownBucket status currentVoter = if status = nodeAlive then
      (if currentVoter then .healthyVoters else .healthyNonVoters)
      else (if currentVoter then .failedVoters else .failedNonVoters) := rfl

section Buckets

variable {c : CategorizedServers} {servers : List RaftServer} {known : GoMap Server}
  {id : ServerID} {v : VoterEligibility}

theorem Categorizes.stale_lookup (hc : Categorizes c servers known) {b : Bucket}
    (hb : b = .staleNonVoters ∨ b = .staleVoters) (h : (c.bucket b).lookup id = some v) :
    id ∈ servers.map (·.id) ∧ known.lookup id = none ∧
      (b = .staleVoters ↔ lastSuffrage servers id = some .voter) := by
  have hk : known.lookup id = none := by
    cases hk : known.lookup id with
    | none => rfl
    | some srv =>
      have := (hc.placed b id v srv h hk).1
      rw [knownBucket_eq] at this
      rcases hb with rfl | rfl <;> split_ifs at this
  refine ⟨(hc.covers id).1 ⟨b, GoMap.mem_keys_iff.2 ⟨v, h⟩⟩, hk, ?_⟩
  rw [← hc.currentVoter b id v h, (hc.stale b id v h hk).1]
  cases v.currentVoter <;> simp

theorem Categorizes.failed_lookup (hc : Categorizes c servers known) {b : Bucket}
    (hb : b = .failedNonVoters ∨ b = .failedVoters) (h : (c.bucket b).lookup id = some v)
    {srv : Server} (hk : known.lookup id = some srv) :
    id ∈ servers.map (·.id) ∧ srv.nodeStatus ≠ nodeAlive ∧
      (b = .failedVoters ↔ lastSuffrage servers id = some .voter) ∧
      v.potentialVoter = (srv.nodeType == nodeVoter) := by
  obtain ⟨hb', hp⟩ := hc.placed b id v srv h hk
  rw [knownBucket_eq] at hb'
  have ha : srv.nodeStatus ≠ nodeAlive := fun ha => by
    rcases hb with rfl | rfl <;> simp [ha] at hb' <;> split_ifs at hb'
  refine ⟨(hc.covers id).1 ⟨b, GoMap.mem_keys_iff.2 ⟨v, h⟩⟩, ha, ?_, hp⟩
  rw [← hc.currentVoter b id v h, hb']
  cases v.currentVoter <;> simp [ha]

theorem Categorizes.known_of_failed (hc : Categorizes c servers known) {b : Bucket}
    (hb : b = .failedNonVoters ∨ b = .failedVoters) (h : (c.bucket b).lookup id = some v) :
    (known.lookup id).isSome := by
  cases hk : known.lookup id with
  | none =>
    have := (hc.stale b id v h hk).1
    rcases hb with rfl | rfl <;> split_ifs at this
  | some => rfl

end Buckets

/-- Where the server a call removes must come from: for removeServer, a
configuration ID the delegate does not know, listed by the promoter among the
stale servers of its suffrage; for RemoveFailedServer, a configuration ID the
delegate knows as not alive, listed among the failed servers of its suffrage. -/
def RemovalSource (servers : List RaftServer) (known : GoMap Server) (f : FailedServers) :
    Call → Prop
  | .removeServer id => id ∈ servers.map (·.id) ∧ known.lookup id = none ∧
      id ∈ (if lastSuffrage servers id = some .voter then f.staleVoters else f.staleNonVoters)
  | .removeFailedServer id srv => id ∈ servers.map (·.id) ∧ known.lookup id = some srv ∧
      srv.nodeStatus ≠ nodeAlive ∧
      id ∈ (if lastSuffrage servers id = some .voter then f.failedVoters else f.failedNonVoters).map
        (·.id)
  | _ => False

section Plan

variable {c : CategorizedServers} {servers : List RaftServer} {known : GoMap Server}
  {conf : Config} {order : RangeSite → RangeOrder} {f : FailedServers}

theorem plan_removalSource (hc : Categorizes c servers known) {call : Call}
    (h : call ∈ (planRemovals conf order (c.convertFromFailedServers f)).calls known) :
    RemovalSource servers known f call := by
  rcases mem_calls h with ⟨id, rfl, hid⟩ | ⟨id, srv, rfl, hk, hid⟩
  · rcases hid with hid | hid <;> obtain ⟨v, hv⟩ := planRemovals_mem hid <;>
      obtain ⟨hr, hcv⟩ := convertFromFailedServers_lookup_some hv
    · obtain ⟨hm, hk, hsv⟩ := hc.stale_lookup (.inl rfl) hcv
      have : lastSuffrage servers id ≠ some .voter := fun h' => by simpa using hsv.2 h'
      exact ⟨hm, hk, by simpa [this, FailedServers.retains] using hr⟩
    · obtain ⟨hm, hk, hsv⟩ := hc.stale_lookup (.inr rfl) hcv
      exact ⟨hm, hk, by simpa [hsv.1 rfl, FailedServers.retains] using hr⟩
  · rcases hid with hid | hid <;> obtain ⟨v, hv⟩ := planRemovals_mem hid <;>
      obtain ⟨hr, hcv⟩ := convertFromFailedServers_lookup_some hv
    · obtain ⟨hm, ha, hfv, -⟩ := hc.failed_lookup (.inl rfl) hcv hk
      have : lastSuffrage servers id ≠ some .voter := fun h' => by simpa using hfv.2 h'
      exact ⟨hm, hk, ha, by simpa [this, FailedServers.retains] using hr⟩
    · obtain ⟨hm, ha, hfv, -⟩ := hc.failed_lookup (.inr rfl) hcv hk
      exact ⟨hm, hk, ha, by simpa [hfv.1 rfl, FailedServers.retains] using hr⟩

theorem plan_ids_nodup (hc : Categorizes c servers known) :
    let plan := planRemovals conf order (c.convertFromFailedServers f)
    (plan.staleNonVoters ++ plan.staleVoters ++ plan.failedNonVoters ++ plan.failedVoters).Nodup := by
  intro plan
  have hd : ∀ {b₁ b₂ id}, id ∈ plan.get b₁ → id ∈ plan.get b₂ → b₁ = b₂ := fun h₁ h₂ => by
    obtain ⟨v₁, h₁⟩ := planRemovals_mem h₁
    obtain ⟨v₂, h₂⟩ := planRemovals_mem h₂
    exact hc.disjoint _ _ _ (GoMap.mem_keys_iff.2 ⟨v₁, (convertFromFailedServers_lookup_some h₁).2⟩)
      (GoMap.mem_keys_iff.2 ⟨v₂, (convertFromFailedServers_lookup_some h₂).2⟩)
  have hn := @planRemovals_nodup conf order (c.convertFromFailedServers f)
  show (plan.get .staleNonVoters ++ plan.get .staleVoters ++ plan.get .failedNonVoters ++
    plan.get .failedVoters).Nodup
  simp only [List.nodup_append, List.disjoint_append_left, hn, true_and]
  refine ⟨⟨?_, ?_, ?_⟩, ⟨?_, ?_⟩, ?_⟩ <;> intro _ h₁ h₂ <;> cases hd h₁ h₂

/-- The failed servers the plan removes were all known at categorization. -/
theorem plan_failed_known (hc : Categorizes c servers known) :
    ∀ id ∈ (planRemovals conf order (c.convertFromFailedServers f)).failedNonVoters ++
      (planRemovals conf order (c.convertFromFailedServers f)).failedVoters,
      (known.lookup id).isSome := by
  intro id hid
  rcases List.mem_append.1 hid with h | h
  · obtain ⟨v, hv⟩ := @planRemovals_mem conf order _ .failedNonVoters id h
    exact hc.known_of_failed (.inl rfl) (convertFromFailedServers_lookup_some hv).2
  · obtain ⟨v, hv⟩ := @planRemovals_mem conf order _ .failedVoters id h
    exact hc.known_of_failed (.inr rfl) (convertFromFailedServers_lookup_some hv).2

end Plan

/-- Every call of a pass removes a server from the promoter-filtered stale or
failed buckets (never a healthy one), and no server is removed twice. -/
theorem pruneDeadServers_removal_sources (a : Autopilot) (order : RangeSite → RangeOrder)
    (resp : Responder) :
    match a.filterFailedServers order with
    | .error _ => (pruneDeadServers a order resp).1 = []
    | .ok (_, _, f) => ∃ servers, a.raftConfiguration = .ok servers ∧
        (∀ call ∈ (pruneDeadServers a order resp).1, RemovalSource servers a.knownServers f call) ∧
        (∀ call ∈ (pruneDeadServers a order resp).1, ∀ id ∈ call.removedID, ∀ srv,
          a.knownServers.lookup id = some srv → srv.nodeStatus ≠ nodeAlive) ∧
        ((pruneDeadServers a order resp).1.filterMap Call.removedID).Nodup := by
  rw [pruneDeadServers_calls]
  rcases h : a.filterFailedServers order with e | ⟨conf, c, f⟩
  · rfl
  obtain ⟨-, servers, hcfg, rfl⟩ := filterFailedServers_ok h
  have hc := categorize_categorizes servers a.knownServers (order .knownServers)
  have hpre := removeDeadServers_prefix_plan conf a.knownServers order resp
    ((categorize servers a.knownServers (order .knownServers)).convertFromFailedServers f)
  have hsrc := fun call (hm : call ∈ _) => plan_removalSource hc (hpre.subset hm)
  refine ⟨servers, hcfg, hsrc, fun call hm id hid srv hk => ?_,
    (plan_ids_nodup hc).sublist ((hpre.sublist.filterMap _).trans (calls_removedIDs _ _))⟩
  have := hsrc call hm
  cases call <;> simp only [Call.removedID, Option.mem_def, Option.some.injEq,
    reduceCtorEq] at hid <;> subst hid <;> simp_all [RemovalSource]

/-! ## Voters and potential voters removed -/

/-- The number of configuration IDs the delegate knows with NodeType voter,
which is what PotentialVoters counts after categorization. -/
def knownVoterCount (servers : List RaftServer) (known : GoMap Server) : Nat :=
  (servers.map (·.id)).dedup.countP fun id => (known.lookup id).any (·.nodeType == nodeVoter)

/-- A `removeServer` call for an ID whose configuration entry is a voter. -/
def Call.removesStaleVoter (servers : List RaftServer) : Call → Bool
  | .removeServer id => lastSuffrage servers id == some .voter
  | _ => false

/-- A `RemoveFailedServer` call for an ID whose configuration entry is a voter. -/
def Call.removesFailedVoter (servers : List RaftServer) : Call → Bool
  | .removeFailedServer id _ => lastSuffrage servers id == some .voter
  | _ => false

/-- A `RemoveFailedServer` call for an ID `known` lists with NodeType voter: a
potential voter, when `known` is the map categorization read. -/
def Call.removesPotentialVoter (known : GoMap Server) : Call → Bool
  | .removeFailedServer id _ => (known.lookup id).any (·.nodeType == nodeVoter)
  | _ => false

section Counts

variable {c : CategorizedServers} {servers : List RaftServer} {known : GoMap Server}
  {conf : Config} {order : RangeSite → RangeOrder} {f : FailedServers}

theorem Categorizes.potentialVoter_eq (hc : Categorizes c servers known) {b : Bucket}
    {id : ServerID} {v : VoterEligibility} (h : (c.bucket b).lookup id = some v) :
    v.potentialVoter = (known.lookup id).any (·.nodeType == nodeVoter) := by
  cases hk : known.lookup id with
  | none => exact (hc.stale b id v h hk).2
  | some srv => exact (hc.placed b id v srv h hk).2

/-- The non-voter buckets hold no configuration voter. -/
theorem Categorizes.not_voter (hc : Categorizes c servers known) {b : Bucket}
    (hb : b = .staleNonVoters ∨ b = .failedNonVoters ∨ b = .healthyNonVoters) {id : ServerID}
    {v : VoterEligibility} (h : (c.bucket b).lookup id = some v) :
    lastSuffrage servers id ≠ some .voter := by
  intro hs
  have hv := (hc.currentVoter b id v h).2 hs
  cases hk : known.lookup id with
  | none =>
    have := (hc.stale b id v h hk).1
    rw [hv] at this
    rcases hb with rfl | rfl | rfl <;> cases this
  | some srv =>
    have := (hc.placed b id v srv h hk).1
    rw [hv] at this
    simp only [knownBucket, ↓reduceIte] at this
    split_ifs at this <;> rcases hb with rfl | rfl | rfl <;> cases this

theorem convertFromFailedServers_potentialVoters_le (hc : Categorizes c servers known) :
    (c.convertFromFailedServers f).potentialVoters ≤ knownVoterCount servers known :=
  hc.potentialVoters ▸
    CategorizedServers.potentialVoters_le fun _ _ _ h => (convertFromFailedServers_lookup_some h).2

/-- A test of the plan's IDs through their filtered bucket entries is a test
through the categorization. -/
theorem plan_countP_congr {b : Bucket} {g : VoterEligibility → Bool} {q : ServerID → Bool}
    (hq : ∀ id v, (c.bucket b).lookup id = some v → g v = q id) :
    ((planRemovals conf order (c.convertFromFailedServers f)).get b).countP
        (fun id => (((c.convertFromFailedServers f).bucket b).lookup id).any g) =
      ((planRemovals conf order (c.convertFromFailedServers f)).get b).countP q := by
  refine List.countP_congr fun id hid => ?_
  obtain ⟨v, hv⟩ := planRemovals_mem hid
  simp [hv, hq id v (convertFromFailedServers_lookup_some hv).2]

theorem plan_nonVoters_countP (hc : Categorizes c servers known) {b : Bucket}
    (hb : b = .staleNonVoters ∨ b = .failedNonVoters ∨ b = .healthyNonVoters) :
    ((planRemovals conf order (c.convertFromFailedServers f)).get b).countP
      (fun id => lastSuffrage servers id == some .voter) = 0 := by
  refine List.countP_eq_zero.2 fun id hid h => ?_
  obtain ⟨v, hv⟩ := planRemovals_mem hid
  exact hc.not_voter hb (convertFromFailedServers_lookup_some hv).2 (by simpa using h)

/-- The configuration voters the plan takes from one bucket: at most the
failure tolerance of the known voters. -/
theorem plan_voters_le (hc : Categorizes c servers known) (b : Bucket) :
    (((planRemovals conf order (c.convertFromFailedServers f)).get b).countP
      (fun id => lastSuffrage servers id == some .voter) : Int) ≤
      getFailureTolerance (knownVoterCount servers known) := by
  have h₀ := getFailureTolerance_nonneg (Int.ofNat_nonneg (knownVoterCount servers known))
  by_cases hb : b = .staleNonVoters
  · rw [plan_nonVoters_countP hc (.inl hb)]; exact h₀
  have hle := @planRemovals_currentVoters_le conf order (c.convertFromFailedServers f) b hb
  rw [plan_countP_congr fun id v h =>
    Bool.eq_iff_iff.2 ((hc.currentVoter b id v h).trans beq_iff_eq.symm)] at hle
  have := getFailureTolerance_mono (@convertFromFailedServers_potentialVoters_le c servers known f hc)
  omega

theorem calls_countP_removesStaleVoter (plan : RemovalPlan) :
    (plan.calls known).countP (Call.removesStaleVoter servers) =
      (plan.get .staleNonVoters).countP (fun id => lastSuffrage servers id == some .voter) +
        (plan.get .staleVoters).countP (fun id => lastSuffrage servers id == some .voter) := by
  simp [RemovalPlan.calls, RemovalPlan.get, List.countP_append, List.countP_map,
    removeFailedServers_countP, Function.comp_def, Call.removesStaleVoter]
  constructor <;> intro id _ <;> cases known.lookup id <;> rfl

theorem calls_countP_removesFailedVoter (plan : RemovalPlan) :
    (plan.calls known).countP (Call.removesFailedVoter servers) ≤
      (plan.get .failedNonVoters).countP (fun id => lastSuffrage servers id == some .voter) +
        (plan.get .failedVoters).countP (fun id => lastSuffrage servers id == some .voter) := by
  have h := fun l : List ServerID => @List.countP_mono_left _
    (fun id => (known.lookup id).any fun _ => lastSuffrage servers id == some .voter)
    (fun id => lastSuffrage servers id == some .voter) l fun id _ h => by
      cases hk : known.lookup id <;> simp_all
  have h₁ := h plan.failedNonVoters
  have h₂ := h plan.failedVoters
  simp only [RemovalPlan.calls, RemovalPlan.get, List.countP_append, List.countP_map,
    removeFailedServers_countP, Function.comp_def, Call.removesFailedVoter] at h₁ h₂ ⊢
  simp
  omega

theorem calls_countP_removesPotentialVoter (plan : RemovalPlan) :
    (plan.calls known).countP (Call.removesPotentialVoter known) =
      (plan.get .failedNonVoters).countP (fun id => (known.lookup id).any (·.nodeType == nodeVoter)) +
        (plan.get .failedVoters).countP (fun id => (known.lookup id).any (·.nodeType == nodeVoter)) := by
  simp [RemovalPlan.calls, RemovalPlan.get, List.countP_append, List.countP_map,
    removeFailedServers_countP, Function.comp_def, Call.removesPotentialVoter]
  congr 1 <;> exact List.countP_congr fun id _ => by cases known.lookup id <;> rfl

/-- The potential voters the plan removes leave at least the smaller of the
known voters and `int(MinQuorum)`. -/
theorem plan_potentialVoters_minQuorum (hc : Categorizes c servers known) :
    min (knownVoterCount servers known : Int) (uintToInt conf.minQuorum) ≤
      knownVoterCount servers known -
        ((planRemovals conf order (c.convertFromFailedServers f)).calls known).countP
          (Call.removesPotentialVoter known) := by
  have q := @planRemovals_minQuorum conf order (c.convertFromFailedServers f)
  rw [plan_countP_congr fun id v h => hc.potentialVoter_eq h,
    plan_countP_congr fun id v h => hc.potentialVoter_eq h] at q
  have := @convertFromFailedServers_potentialVoters_le c servers known f hc
  rw [calls_countP_removesPotentialVoter]
  omega

end Counts

/-- A pass removes at most the failure tolerance of the known voters in stale
voters, and at most as many again in failed voters. -/
theorem pruneDeadServers_voterRemovals_le (a : Autopilot) (order : RangeSite → RangeOrder)
    (resp : Responder) :
    match a.raftConfiguration with
    | .error _ => (pruneDeadServers a order resp).1 = []
    | .ok servers =>
      let tol := getFailureTolerance (knownVoterCount servers a.knownServers)
      ((pruneDeadServers a order resp).1.countP (Call.removesStaleVoter servers) : Int) ≤ tol ∧
        ((pruneDeadServers a order resp).1.countP (Call.removesFailedVoter servers) : Int) ≤ tol := by
  rw [pruneDeadServers_calls]
  rcases h : a.filterFailedServers order with e | ⟨conf, c, f⟩
  · cases a.raftConfiguration
    · rfl
    · simpa using getFailureTolerance_nonneg (Int.ofNat_nonneg (knownVoterCount _ a.knownServers))
  obtain ⟨-, servers, hcfg, rfl⟩ := filterFailedServers_ok h
  have hc := categorize_categorizes servers a.knownServers (order .knownServers)
  have hpre := (removeDeadServers_prefix_plan conf a.knownServers order resp
    ((categorize servers a.knownServers (order .knownServers)).convertFromFailedServers f)).sublist
  have s₁ := hpre.countP_le (Call.removesStaleVoter servers)
  have s₂ := hpre.countP_le (Call.removesFailedVoter servers)
  rw [calls_countP_removesStaleVoter, plan_nonVoters_countP hc (.inl rfl)] at s₁
  have f₁ := @calls_countP_removesFailedVoter servers a.knownServers (planRemovals conf order
    ((categorize servers a.knownServers (order .knownServers)).convertFromFailedServers f))
  rw [plan_nonVoters_countP hc (.inr (.inl rfl))] at f₁
  have v₁ := @plan_voters_le _ servers a.knownServers conf order f hc .staleVoters
  have v₂ := @plan_voters_le _ servers a.knownServers conf order f hc .failedVoters
  simp only [hcfg]
  omega

/-- A configuration with one voter, A, which has failed, and two alive
non-voters of NodeType voter: the pass removes A. -/
theorem pruneDeadServers_removes_sole_voter :
    let servers : List RaftServer := [⟨.voter, "A"⟩, ⟨.nonvoter, "B"⟩, ⟨.nonvoter, "C"⟩]
    let srv : ServerID → NodeStatus → Server := fun id st => ⟨id, id, st, nodeVoter⟩
    let a : Autopilot :=
      { reconciliationEnabled := true
        autopilotConfig := some ⟨true, 0, 0, 0⟩
        raftConfiguration := .ok servers
        knownServers := ((GoMap.empty.insert "A" (srv "A" "failed")).insert "B" (srv "B" nodeAlive)).insert
          "C" (srv "C" nodeAlive)
        state := some ⟨GoMap.empty.insert "A" ⟨srv "A" "failed", raftVoter, ⟨0, 0, 0⟩, ⟨false⟩⟩, "B"⟩
        promoter := ⟨fun _ _ => ⟨[], [], ""⟩, fun _ _ failed => failed⟩ }
    let calls := (pruneDeadServers a (fun _ => .id) (fun _ _ => none)).1
    calls = [.removeFailedServer "A" (srv "A" "failed")] ∧
      (servers.countP (·.suffrage == .voter) - 1) / 2 < calls.countP (Call.removesFailedVoter servers) := by
  decide

/-- Whatever the later reads of the known servers return, the potential voters a
pass removes leave at least the smaller of the known voters and
`int(MinQuorum)`: once a potential voter goes, at least `int(MinQuorum)` known
voters remain. -/
theorem pruneDeadServersReading_potentialVoters_minQuorum (a : Autopilot)
    (rereads : Nat → GoMap Server) (order : RangeSite → RangeOrder) (resp : Responder) :
    match a.filterFailedServers order with
    | .error _ => (pruneDeadServersReading a rereads order resp).1 = []
    | .ok (conf, _, _) => ∃ servers, a.raftConfiguration = .ok servers ∧
        min (knownVoterCount servers a.knownServers : Int) (uintToInt conf.minQuorum) ≤
          knownVoterCount servers a.knownServers -
            (pruneDeadServersReading a rereads order resp).1.countP
              (Call.removesPotentialVoter a.knownServers) := by
  rw [pruneDeadServersReading_calls]
  rcases h : a.filterFailedServers order with e | ⟨conf, c, f⟩
  · rfl
  obtain ⟨-, servers, hcfg, rfl⟩ := filterFailedServers_ok h
  have hc := categorize_categorizes servers a.knownServers (order .knownServers)
  have := @removeDeadServers_countP_le (Call.removesPotentialVoter a.knownServers)
    (fun _ _ _ => rfl) a.knownServers rereads conf order resp _
    (@plan_failed_known _ servers a.knownServers conf order f hc)
  have := @plan_potentialVoters_minQuorum _ servers a.knownServers conf order f hc
  dsimp only
  exact ⟨servers, hcfg, by omega⟩

/-- The fourth voter D is stale and `MinQuorum` is 4: the pass removes D,
leaving three voters. A stale server is never a potential voter, so it never
meets the `MinQuorum` check, though `MinQuorum` is documented as the number of
servers autopilot will not prune below. -/
theorem pruneDeadServers_stale_voter_below_minQuorum :
    let servers : List RaftServer := [⟨.voter, "A"⟩, ⟨.voter, "B"⟩, ⟨.voter, "C"⟩, ⟨.voter, "D"⟩]
    let srv : ServerID → Server := fun id => ⟨id, id, nodeAlive, nodeVoter⟩
    let a : Autopilot :=
      { reconciliationEnabled := true
        autopilotConfig := some ⟨true, 0, 0, 4⟩
        raftConfiguration := .ok servers
        knownServers := ((GoMap.empty.insert "A" (srv "A")).insert "B" (srv "B")).insert "C" (srv "C")
        state := none
        promoter := ⟨fun _ _ => ⟨[], [], ""⟩, fun _ _ failed => failed⟩ }
    let calls := (pruneDeadServers a (fun _ => .id) (fun _ _ => none)).1
    calls = [.removeServer "D"] ∧
      (servers.countP (·.suffrage == .voter) : Int) - calls.countP (Call.removesStaleVoter servers) <
        (4 : UInt64).toNat := by
  decide

/-! ## Panics -/

theorem pruneDeadServers_panicked (a : Autopilot) (order : RangeSite → RangeOrder) (resp : Responder) :
    (pruneDeadServers a order resp).2 = .panicked ↔ a.filterFailedServers order = .error .panicked := by
  rcases h : a.filterFailedServers order with e | ⟨conf, c, f⟩ <;>
    simp [pruneDeadServers, pruneDeadServersReading, h]

/-- Steps 1–2 panic exactly when the pass gets past its switches and the
configuration with no snapshot and a failed server in the categorization. -/
theorem filterFailedServers_eq_panicked (a : Autopilot) (order : RangeSite → RangeOrder) :
    a.filterFailedServers order = .error .panicked ↔
      a.reconciliationEnabled = true ∧
        (∃ conf, a.autopilotConfig = some conf ∧ conf.cleanupDeadServers = true) ∧
        ∃ servers, a.raftConfiguration = .ok servers ∧ a.state = none ∧
          let c := categorize servers a.knownServers (order .knownServers)
          (c.failedNonVoters.keys ≠ [] ∨ c.failedVoters.keys ≠ []) := by
  unfold Autopilot.filterFailedServers
  cases a.reconciliationEnabled
  · simp
  cases a.autopilotConfig with
  | none => simp
  | some conf =>
    by_cases hcl : conf.cleanupDeadServers = true
    swap
    · simp [hcl]
    cases a.raftConfiguration with
    | error e => simp [categorizeServers, Except.map, hcl]
    | ok servers =>
      simp only [categorizeServers, Except.map, hcl, Bool.not_true, Bool.false_eq_true, ↓reduceIte,
        Option.some.injEq, Except.ok.injEq, exists_eq_left', true_and]
      rw [← convertToFailedServers_eq_none _ _ order]
      cases (categorize servers a.knownServers (order .knownServers)).convertToFailedServers
        a.state order <;> simp

/-- With a snapshot, a pass never panics. -/
theorem pruneDeadServers_not_panicked {a : Autopilot} (h : a.state ≠ none)
    (order : RangeSite → RangeOrder) (resp : Responder) :
    (pruneDeadServers a order resp).2 ≠ .panicked := by
  rw [Ne, pruneDeadServers_panicked, filterFailedServers_eq_panicked]
  rintro ⟨-, -, _, -, hs, -⟩
  exact h hs

/-- With no snapshot, a delegate that knows the only configuration server as
failed makes every pass panic in convertToFailedServers, before any call,
whatever the map orders and the adapter's answers. -/
theorem pruneDeadServers_nil_state_panics :
    let a : Autopilot :=
      { reconciliationEnabled := true
        autopilotConfig := some ⟨true, 0, 0, 0⟩
        raftConfiguration := .ok [⟨.voter, "A"⟩]
        knownServers := GoMap.empty.insert "A" ⟨"A", "10.0.0.1:8300", "failed", nodeVoter⟩
        state := none
        promoter := ⟨fun _ _ => ⟨[], [], ""⟩, fun _ _ failed => failed⟩ }
    ∀ order resp, pruneDeadServers a order resp = ([], .panicked) := by
  intro a order resp
  have hA : ((categorize [⟨.voter, "A"⟩] a.knownServers (order .knownServers)).bucket
      .failedVoters).lookup "A" = some ⟨true, true⟩ := by
    rw [categorize_lookup]
    decide
  have hkeys : "A" ∈ (categorize [⟨.voter, "A"⟩] a.knownServers (order .knownServers)).failedVoters.keys :=
    GoMap.mem_keys_iff.2 ⟨_, hA⟩
  have h : a.filterFailedServers order = .error .panicked :=
    (filterFailedServers_eq_panicked a order).2 ⟨rfl, ⟨_, rfl, rfl⟩, _, rfl, rfl,
      .inr fun he => List.not_mem_nil _ (he ▸ hkeys)⟩
  simp [pruneDeadServers, pruneDeadServersReading, h]

end RaftAutopilot
