import RaftAutopilot.Prune.Categorize
import RaftAutopilot.Prune.FailedServers
import RaftAutopilot.Prune.Adjudicate

/-! # The dead-server pruning pass

`pruneDeadServers` categorizes the servers, lets the promoter filter the
candidates, then removes stale non-voters, stale voters, failed non-voters and
failed voters in that order, adjudicating the last three. Only a failed
`removeServer` call stops it early; the adjudications depend on the buckets
alone. The failed-server loops read `a.delegate.KnownServers()` again for every
ID they accepted and skip an ID the delegate no longer lists, so the pass
takes the maps those reads return as a parameter (`pruneDeadServersReading`);
`pruneDeadServers` is the pass whose every read returns the map categorization
read. That pass issues a prefix of the calls of its `RemovalPlan`, and all of
them when every `removeServer` call succeeds.
-/
namespace RaftAutopilot

/-- `for _, id := range ids { if err := a.removeServer(id); err != nil { return err } }`,
after the calls `tr`. -/
def removeServers (resp : Responder) (tr : List Call) : List ServerID → List Call × Option String
  | [] => (tr, none)
  | id :: ids =>
    match resp tr (.removeServer id) with
    | some err => (tr ++ [.removeServer id], some err)
    | none => removeServers resp (tr ++ [.removeServer id]) ids

/-- `RemoveFailedServer` of the record `known` holds for each ID it lists: a
failed-server loop whose every read of the known servers returns `known`. -/
def removeFailedServers (known : GoMap Server) (ids : List ServerID) : List Call :=
  ids.filterMap fun id => (known.lookup id).map (.removeFailedServer id)

/-- A failed-server removal loop from the `j`-th read of the known servers on:
each pass of its body reads `srv, found := a.delegate.KnownServers()[id]` afresh,
`rereads j` being the map that read returns, and calls `RemoveFailedServer(srv)`
when found. -/
def removeFailedServersReading (rereads : Nat → GoMap Server) : Nat → List ServerID → List Call
  | _, [] => []
  | j, id :: ids =>
    match (rereads j).lookup id with
    | some srv => .removeFailedServer id srv :: removeFailedServersReading rereads (j + 1) ids
    | none => removeFailedServersReading rereads (j + 1) ids

/-- `adjudicateRemoval(a.logger, servers.PotentialVoters, servers.<b>, conf.MinQuorum)`:
the provider reads `servers`, whose bucket `b` is the map adjudicated. It
returns the accepted IDs and `servers` with that bucket as it is left. -/
def adjudicateBucket (conf : Config) (order : RangeSite → RangeOrder) (servers : CategorizedServers)
    (b : Bucket) : List ServerID × CategorizedServers :=
  let r := adjudicateRemoval (fun s => (servers.setBucket b s).potentialVoters) (servers.bucket b)
    conf.minQuorum (order (.adjudicate b))
  (r.1, servers.setBucket b r.2)

/-- Step 3 of pruneDeadServers, from the buckets the promoter's filter left; its
failed-server loops make the reads `rereads 0`, `rereads 1`, … in turn. -/
def removeDeadServers (conf : Config) (rereads : Nat → GoMap Server) (order : RangeSite → RangeOrder)
    (resp : Responder) (servers : CategorizedServers) : List Call × Option String :=
  match removeServers resp [] ((servers.staleNonVoters.range (order .removeStaleNonVoters)).map Prod.fst) with
  | (tr, some err) => (tr, some err)
  | (tr, none) =>
    let staleVoters := adjudicateBucket conf order servers .staleVoters
    match removeServers resp tr staleVoters.1 with
    | (tr, some err) => (tr, some err)
    | (tr, none) =>
      let failedNonVoters := adjudicateBucket conf order staleVoters.2 .failedNonVoters
      let failedVoters := adjudicateBucket conf order failedNonVoters.2 .failedVoters
      (tr ++ removeFailedServersReading rereads 0 failedNonVoters.1 ++
        removeFailedServersReading rereads failedNonVoters.1.length failedVoters.1, none)

/-- Steps 1–2 of pruneDeadServers: the config, the categorized buckets and the
promoter's answer, or how the pass ends before any removal. -/
def Autopilot.filterFailedServers (a : Autopilot) (order : RangeSite → RangeOrder) :
    Except PassEnd (Config × CategorizedServers × FailedServers) :=
  if !a.reconciliationEnabled then .error (.returned none) else
  match a.autopilotConfig with
  | none => .error (.returned none)
  | some conf =>
    if !conf.cleanupDeadServers then .error (.returned none) else
    match categorizeServers a.raftConfiguration a.knownServers (order .knownServers) with
    | .error err => .error (.returned (some err))
    | .ok servers =>
      match servers.convertToFailedServers a.state order with
      | none => .error .panicked
      | some failed => .ok (conf, servers, a.promoter.filterFailedServerRemovals conf a.state failed)

/-- pruneDeadServers, the `j`-th read of `a.delegate.KnownServers()` after the one
categorization makes returning `rereads j`. -/
def pruneDeadServersReading (a : Autopilot) (rereads : Nat → GoMap Server)
    (order : RangeSite → RangeOrder) (resp : Responder) : List Call × PassEnd :=
  match a.filterFailedServers order with
  | .error e => ([], e)
  | .ok (conf, servers, failed) =>
    let r := removeDeadServers conf rereads order resp (servers.convertFromFailedServers failed)
    (r.1, .returned r.2)

/-- pruneDeadServers while the delegate's known servers stay as categorization
read them: every later read returns `a.knownServers`. -/
def pruneDeadServers (a : Autopilot) (order : RangeSite → RangeOrder) (resp : Responder) :
    List Call × PassEnd :=
  pruneDeadServersReading a (fun _ => a.knownServers) order resp

/-! ## The removal plan -/

/-- The removals a pass decides on, per class, in issue order. -/
structure RemovalPlan where
  staleNonVoters : List ServerID
  staleVoters : List ServerID
  failedNonVoters : List ServerID
  failedVoters : List ServerID

def planRemovals (conf : Config) (order : RangeSite → RangeOrder) (servers : CategorizedServers) :
    RemovalPlan :=
  let staleVoters := adjudicateBucket conf order servers .staleVoters
  let failedNonVoters := adjudicateBucket conf order staleVoters.2 .failedNonVoters
  let failedVoters := adjudicateBucket conf order failedNonVoters.2 .failedVoters
  ⟨(servers.staleNonVoters.range (order .removeStaleNonVoters)).map Prod.fst, staleVoters.1,
    failedNonVoters.1, failedVoters.1⟩

/-- The plan's calls, its failed-server loops reading `rereads`. -/
def RemovalPlan.callsReading (plan : RemovalPlan) (rereads : Nat → GoMap Server) : List Call :=
  plan.staleNonVoters.map .removeServer ++ plan.staleVoters.map .removeServer ++
    removeFailedServersReading rereads 0 plan.failedNonVoters ++
    removeFailedServersReading rereads plan.failedNonVoters.length plan.failedVoters

/-- The plan's calls while every read of the known servers returns `known`. -/
def RemovalPlan.calls (plan : RemovalPlan) (known : GoMap Server) : List Call :=
  plan.staleNonVoters.map .removeServer ++ plan.staleVoters.map .removeServer ++
    removeFailedServers known plan.failedNonVoters ++ removeFailedServers known plan.failedVoters

theorem removeFailedServersReading_const (known : GoMap Server) (j : Nat) (ids : List ServerID) :
    removeFailedServersReading (fun _ => known) j ids = removeFailedServers known ids := by
  induction ids generalizing j with
  | nil => rfl
  | cons id ids ih =>
    cases h : known.lookup id <;>
      simp [removeFailedServersReading, removeFailedServers, List.filterMap_cons, h, ih]

theorem RemovalPlan.callsReading_const (plan : RemovalPlan) (known : GoMap Server) :
    plan.callsReading (fun _ => known) = plan.calls known := by
  simp only [RemovalPlan.callsReading, RemovalPlan.calls, removeFailedServersReading_const]

/-- The loop issues every call, or stops at a failing one after a prefix of them. -/
theorem removeServers_cases (resp : Responder) (tr : List Call) (ids : List ServerID) :
    removeServers resp tr ids = (tr ++ ids.map .removeServer, none) ∨
      ∃ pre err, removeServers resp tr ids = (tr ++ pre, some err) ∧ pre <+: ids.map .removeServer := by
  induction ids generalizing tr with
  | nil => exact .inl (by simp [removeServers])
  | cons id ids ih =>
    cases h : resp tr (.removeServer id) with
    | some err => exact .inr ⟨[.removeServer id], err, by simp [removeServers, h], by simp⟩
    | none =>
      rcases ih (tr ++ [.removeServer id]) with h' | ⟨pre, err, h', hp⟩
      · exact .inl (by simp [removeServers, h, h'])
      · exact .inr ⟨.removeServer id :: pre, err, by simp [removeServers, h, h'], by simpa using hp⟩

theorem removeServers_of_ok {resp : Responder} (h : ∀ tr id, resp tr (.removeServer id) = none)
    (tr : List Call) (ids : List ServerID) :
    removeServers resp tr ids = (tr ++ ids.map .removeServer, none) := by
  induction ids generalizing tr with
  | nil => simp [removeServers]
  | cons id ids ih => simp [removeServers, h, ih]

/-- The pass stops inside its `removeServer` calls, whatever the later reads of
the known servers return, or issues them all and then its failed-server loops. -/
theorem removeDeadServers_cases (conf : Config) (order : RangeSite → RangeOrder)
    (resp : Responder) (servers : CategorizedServers) :
    (∃ pre, pre <+: ((planRemovals conf order servers).staleNonVoters ++
        (planRemovals conf order servers).staleVoters).map .removeServer ∧
        ∀ rereads, (removeDeadServers conf rereads order resp servers).1 = pre) ∨
      ∀ rereads, (removeDeadServers conf rereads order resp servers).1 =
        (planRemovals conf order servers).callsReading rereads := by
  rcases removeServers_cases resp []
    ((servers.staleNonVoters.range (order .removeStaleNonVoters)).map Prod.fst) with
    h₁ | ⟨pre₁, err, h₁, hp₁⟩
  · rcases removeServers_cases resp
      ([] ++ ((servers.staleNonVoters.range (order .removeStaleNonVoters)).map Prod.fst).map .removeServer)
      (adjudicateBucket conf order servers .staleVoters).1 with h₂ | ⟨pre₂, err, h₂, hp₂⟩
    · refine .inr fun rereads => ?_
      simp only [removeDeadServers, h₁, h₂]
      simp [planRemovals, RemovalPlan.callsReading]
    · refine .inl ⟨[] ++ ((servers.staleNonVoters.range (order .removeStaleNonVoters)).map
        Prod.fst).map .removeServer ++ pre₂, ?_, fun rereads => ?_⟩
      · rw [List.nil_append, List.map_append]
        exact (List.prefix_append_right_inj _).2 hp₂
      · simp only [removeDeadServers, h₁, h₂]
  · refine .inl ⟨pre₁, hp₁.trans (by simp [planRemovals]), fun rereads => ?_⟩
    simp only [removeDeadServers, h₁, List.nil_append]

/-- While every read returns `known`, the pass issues a prefix of its plan's calls. -/
theorem removeDeadServers_prefix_plan (conf : Config) (known : GoMap Server)
    (order : RangeSite → RangeOrder) (resp : Responder) (servers : CategorizedServers) :
    (removeDeadServers conf (fun _ => known) order resp servers).1 <+:
      (planRemovals conf order servers).calls known := by
  rcases removeDeadServers_cases conf order resp servers with ⟨pre, hp, h⟩ | h
  · exact h _ ▸ hp.trans (by simp [RemovalPlan.calls, List.append_assoc])
  · exact h _ ▸ (RemovalPlan.callsReading_const _ known).symm ▸ List.prefix_refl _

/-- When every `removeServer` call succeeds, the pass issues its whole plan. -/
theorem removeDeadServers_of_ok (conf : Config) (rereads : Nat → GoMap Server)
    (order : RangeSite → RangeOrder) {resp : Responder}
    (h : ∀ tr id, resp tr (.removeServer id) = none) (servers : CategorizedServers) :
    (removeDeadServers conf rereads order resp servers).1 =
      (planRemovals conf order servers).callsReading rereads := by
  simp [removeDeadServers, planRemovals, RemovalPlan.callsReading, removeServers_of_ok h]

/-! ## What the plan removes -/

/-- The IDs the plan removes from bucket `b`. -/
def RemovalPlan.get (plan : RemovalPlan) : Bucket → List ServerID
  | .staleNonVoters => plan.staleNonVoters
  | .staleVoters => plan.staleVoters
  | .failedNonVoters => plan.failedNonVoters
  | .failedVoters => plan.failedVoters
  | _ => []

section Plan

variable {conf : Config} {order : RangeSite → RangeOrder} {servers : CategorizedServers}

/-- The IDs a bucket's adjudication accepts, at the tolerance of the PotentialVoters
it starts from. -/
theorem adjudicateBucket_fst (b : Bucket) :
    (adjudicateBucket conf order servers b).1 =
      (adjudicateFrom (fun s => (servers.setBucket b s).potentialVoters) conf.minQuorum
        ((servers.bucket b).range (order (.adjudicate b))) (servers.bucket b)
        (getFailureTolerance servers.potentialVoters)).1 := by
  simp [adjudicateBucket, adjudicateRemoval]

/-- A bucket PotentialVoters counts is adjudicated by the counting loop, started
at PotentialVoters and its tolerance. -/
theorem adjudicateBucket_eq_counting {b : Bucket} (hs : b.isStale = false) :
    (adjudicateBucket conf order servers b).1 =
      adjudicateCounting conf.minQuorum ((servers.bucket b).range (order (.adjudicate b)))
        servers.potentialVoters (getFailureTolerance servers.potentialVoters) := by
  have hp : ∀ s', (servers.setBucket b s').potentialVoters =
      (servers.setBucket b .empty).potentialVoters + s'.count (·.potentialVoter) := fun s' => by
    simp [CategorizedServers.potentialVoters_setBucket servers b s', hs]
  rw [adjudicateBucket_fst, adjudicateFrom_eq_counting hp _ _ _ (visits_range _ _),
    CategorizedServers.setBucket_bucket]

theorem adjudicateBucket_mem {b : Bucket} {id : ServerID}
    (h : id ∈ (adjudicateBucket conf order servers b).1) :
    ∃ v, (servers.bucket b).lookup id = some v := by
  obtain ⟨e, he, rfl⟩ := List.mem_map.1 ((adjudicateFrom_sublist _ _ _).subset h)
  exact ⟨e.2, (visits_range _ _).2 e he⟩

theorem adjudicateBucket_nodup (b : Bucket) : (adjudicateBucket conf order servers b).1.Nodup :=
  (visits_range _ _).1.sublist (adjudicateFrom_sublist _ _ _)

theorem planRemovals_mem {b : Bucket} {id : ServerID}
    (h : id ∈ (planRemovals conf order servers).get b) :
    ∃ v, (servers.bucket b).lookup id = some v := by
  cases b <;> simp only [planRemovals, RemovalPlan.get, List.not_mem_nil] at h
  · obtain ⟨e, he, rfl⟩ := List.mem_map.1 h
    exact ⟨e.2, (visits_range _ _).2 e he⟩
  · exact adjudicateBucket_mem h
  · simpa [adjudicateBucket] using adjudicateBucket_mem h
  · simpa [adjudicateBucket] using adjudicateBucket_mem h

theorem planRemovals_nodup (b : Bucket) : ((planRemovals conf order servers).get b).Nodup := by
  cases b <;> simp only [planRemovals, RemovalPlan.get, List.nodup_nil]
  · exact (visits_range _ _).1
  all_goals exact adjudicateBucket_nodup _

/-- Adjudicating a bucket takes its accepted potential voters off PotentialVoters,
and nothing when the bucket is stale. -/
theorem adjudicateBucket_potentialVoters (b : Bucket) :
    (adjudicateBucket conf order servers b).2.potentialVoters +
      (if b.isStale then 0 else (((adjudicateBucket conf order servers b).1.countP fun id =>
        ((servers.bucket b).lookup id).any (·.potentialVoter) : Nat) : Int)) =
      servers.potentialVoters := by
  have e₁ := servers.potentialVoters_setBucket b
    (adjudicateRemoval (fun s => (servers.setBucket b s).potentialVoters) (servers.bucket b)
      conf.minQuorum (order (.adjudicate b))).2
  have e₂ := servers.potentialVoters_setBucket b (servers.bucket b)
  have hv := visits_range (servers.bucket b) (order (.adjudicate b))
  have hc := @adjudicateFrom_count (fun s => (servers.setBucket b s).potentialVoters) conf.minQuorum
    (servers.bucket b) _ hv.2 (servers.bucket b) (getFailureTolerance servers.potentialVoters) hv
  rw [CategorizedServers.setBucket_bucket] at e₂
  simp only [adjudicateBucket, adjudicateRemoval, CategorizedServers.setBucket_bucket] at e₁ hc ⊢
  split_ifs at e₁ e₂ ⊢ <;> omega

theorem adjudicateBucket_potentialVoters_le (b : Bucket) :
    (adjudicateBucket conf order servers b).2.potentialVoters ≤ servers.potentialVoters := by
  have := @adjudicateBucket_potentialVoters conf order servers b
  split_ifs at this <;> omega

@[simp] theorem adjudicateBucket_bucket {b b' : Bucket} (h : b' ≠ b) :
    (adjudicateBucket conf order servers b).2.bucket b' = servers.bucket b' := by
  simp [adjudicateBucket, h]

/-- Adjudication keeps PotentialVoters at or above the smaller of its start and
`int(MinQuorum)`. -/
theorem adjudicateBucket_quorum (b : Bucket) :
    min servers.potentialVoters (uintToInt conf.minQuorum) ≤
      (adjudicateBucket conf order servers b).2.potentialVoters := by
  cases hs : b.isStale
  · have hp : ∀ s', (servers.setBucket b s').potentialVoters =
        (servers.setBucket b .empty).potentialVoters + s'.count (·.potentialVoter) := fun s' => by
      simp [CategorizedServers.potentialVoters_setBucket servers b s', hs]
    have := @adjudicateFrom_quorum _ conf.minQuorum _ hp _ (servers.bucket b)
      (getFailureTolerance servers.potentialVoters) (visits_range _ (order (.adjudicate b)))
    simpa [adjudicateBucket, adjudicateRemoval] using this
  · have := @adjudicateBucket_potentialVoters conf order servers b
    simp only [hs, ↓reduceIte, Int.add_zero] at this
    omega

/-- The current voters accepted from a bucket, at most the failure tolerance of
PotentialVoters. -/
theorem adjudicateBucket_currentVoters_le (b : Bucket) :
    (((adjudicateBucket conf order servers b).1.countP fun id =>
      ((servers.bucket b).lookup id).any (·.currentVoter) : Nat) : Int) ≤
      max (getFailureTolerance servers.potentialVoters) 0 := by
  have := @adjudicateFrom_currentVoters_le (fun s => (servers.setBucket b s).potentialVoters)
    conf.minQuorum (servers.bucket b) _ (visits_range _ (order (.adjudicate b))).2 (servers.bucket b)
    (getFailureTolerance servers.potentialVoters)
  simpa [adjudicateBucket, adjudicateRemoval] using this

/-- Every adjudicated bucket of the plan loses at most the failure tolerance of
the PotentialVoters the pass starts from in current voters. -/
theorem planRemovals_currentVoters_le {b : Bucket} (hb : b ≠ .staleNonVoters) :
    ((((planRemovals conf order servers).get b).countP fun id =>
      ((servers.bucket b).lookup id).any (·.currentVoter) : Nat) : Int) ≤
      max (getFailureTolerance servers.potentialVoters) 0 := by
  have h₁ := @adjudicateBucket_potentialVoters_le conf order servers .staleVoters
  have h₂ := @adjudicateBucket_potentialVoters_le conf order
    (adjudicateBucket conf order servers .staleVoters).2 .failedNonVoters
  have mono : ∀ {n m : Int}, n ≤ m →
      max (getFailureTolerance n) 0 ≤ max (getFailureTolerance m) 0 := fun h => by
    have := getFailureTolerance_mono h; omega
  cases b
  · exact absurd rfl hb
  · exact adjudicateBucket_currentVoters_le _
  · have := @adjudicateBucket_currentVoters_le conf order
      (adjudicateBucket conf order servers .staleVoters).2 .failedNonVoters
    simp only [adjudicateBucket_bucket (show Bucket.failedNonVoters ≠ .staleVoters by decide)]
      at this
    exact this.trans (mono h₁)
  · have := @adjudicateBucket_currentVoters_le conf order (adjudicateBucket conf order
      (adjudicateBucket conf order servers .staleVoters).2 .failedNonVoters).2 .failedVoters
    simp only [ne_eq, reduceCtorEq, not_false_eq_true, adjudicateBucket_bucket] at this
    exact this.trans (mono (h₂.trans h₁))
  all_goals simp [RemovalPlan.get]

/-- The potential voters the plan takes from the failed buckets leave at least
the smaller of the starting PotentialVoters and `int(MinQuorum)`. -/
theorem planRemovals_minQuorum :
    min servers.potentialVoters (uintToInt conf.minQuorum) ≤ servers.potentialVoters -
      ((((planRemovals conf order servers).get .failedNonVoters).countP fun id =>
          ((servers.bucket .failedNonVoters).lookup id).any (·.potentialVoter)) +
        (((planRemovals conf order servers).get .failedVoters).countP fun id =>
          ((servers.bucket .failedVoters).lookup id).any (·.potentialVoter)) : Nat) := by
  have q₁ := @adjudicateBucket_quorum conf order servers .staleVoters
  have q₂ := @adjudicateBucket_quorum conf order
    (adjudicateBucket conf order servers .staleVoters).2 .failedNonVoters
  have q₃ := @adjudicateBucket_quorum conf order (adjudicateBucket conf order
    (adjudicateBucket conf order servers .staleVoters).2 .failedNonVoters).2 .failedVoters
  have e₁ := @adjudicateBucket_potentialVoters conf order servers .staleVoters
  have e₂ := @adjudicateBucket_potentialVoters conf order
    (adjudicateBucket conf order servers .staleVoters).2 .failedNonVoters
  have e₃ := @adjudicateBucket_potentialVoters conf order (adjudicateBucket conf order
    (adjudicateBucket conf order servers .staleVoters).2 .failedNonVoters).2 .failedVoters
  simp only [Bucket.isStale, ↓reduceIte, ne_eq, reduceCtorEq, not_false_eq_true,
    adjudicateBucket_bucket, Int.add_zero] at e₁ e₂ e₃
  simp only [planRemovals, RemovalPlan.get, CategorizedServers.bucket] at e₂ e₃ ⊢
  omega

/-- Buckets as categorization leaves them: the stale voters are current voters
and no potential voters, and each failed bucket is uniform in currentVoter. -/
structure UniformBuckets (s : CategorizedServers) : Prop where
  staleVoters : ∀ k v, s.staleVoters.lookup k = some v →
    v.currentVoter = true ∧ v.potentialVoter = false
  failedNonVoters : ∀ k v, s.failedNonVoters.lookup k = some v → v.currentVoter = false
  failedVoters : ∀ k v, s.failedVoters.lookup k = some v → v.currentVoter = true

theorem range_forall {m : RaftServers} {o : RangeOrder} {q : VoterEligibility → Prop}
    (h : ∀ k v, m.lookup k = some v → q v) : ∀ e ∈ m.range o, q e.2 :=
  fun e he => h e.1 e.2 (GoMap.lookup_eq_some_iff.2 (GoMap.mem_range.1 he))

/-- How many entries adjudication accepts from a bucket whose entries all have
currentVoter = `voters`, at PotentialVoters `pv`: the non-potential entries and
as many potential ones as the headroom above `int(minQuorum)` allows, current
voters only up to the failure tolerance, and none when it is below one. -/
def adjudicatedSize (voters : Bool) (pv : Int) (minQuorum : UInt64)
    (bucket : RaftServerEligibility) : Int :=
  let tol := getFailureTolerance pv
  let potential := min (bucket.count (·.potentialVoter) : Int) (max 0 (pv - uintToInt minQuorum))
  if tol < 1 then 0
  else if voters then min tol (bucket.count (!·.potentialVoter) + potential)
  else bucket.count (!·.potentialVoter) + potential

/-- The potential voters adjudication accepts from a bucket of non-voters. -/
def acceptedPotential (pv : Int) (minQuorum : UInt64) (bucket : RaftServerEligibility) : Int :=
  if getFailureTolerance pv < 1 then 0
  else min (bucket.count (·.potentialVoter) : Int) (max 0 (pv - uintToInt minQuorum))

/-- The sizes of the plan's parts, from bucket counts and PotentialVoters alone. -/
def planSize (conf : Config) (s : CategorizedServers) : Bucket → Int
  | .staleNonVoters => s.staleNonVoters.count fun _ => true
  | .staleVoters => adjudicatedSize true s.potentialVoters conf.minQuorum s.staleVoters
  | .failedNonVoters => adjudicatedSize false s.potentialVoters conf.minQuorum s.failedNonVoters
  | .failedVoters =>
    adjudicatedSize true
      (s.potentialVoters - acceptedPotential s.potentialVoters conf.minQuorum s.failedNonVoters)
      conf.minQuorum s.failedVoters
  | _ => 0

/-- Adjudicating a bucket of current voters accepts, up to the tolerance, its
non-potential entries and as many potential ones as the headroom above
`int(MinQuorum)` allows; a stale bucket must hold no potential voter. -/
theorem adjudicateBucket_voters_length {b : Bucket}
    (hc : ∀ k v, (servers.bucket b).lookup k = some v →
      v.currentVoter = true ∧ (b.isStale = true → v.potentialVoter = false)) :
    ((adjudicateBucket conf order servers b).1.length : Int) =
      adjudicatedSize true servers.potentialVoters conf.minQuorum (servers.bucket b) := by
  have hv := visits_range (servers.bucket b) (order (.adjudicate b))
  have hcv : ∀ e ∈ (servers.bucket b).range (order (.adjudicate b)), e.2.currentVoter = true :=
    range_forall fun k v h => (hc k v h).1
  have c₁ : ((servers.bucket b).range (order (.adjudicate b))).countP
      (fun e => !e.2.potentialVoter) = (servers.bucket b).count (!·.potentialVoter) :=
    GoMap.countP_range _ _ fun v : VoterEligibility => !v.potentialVoter
  have c₂ : ((servers.bucket b).range (order (.adjudicate b))).countP
      (fun e => e.2.potentialVoter) = (servers.bucket b).count (·.potentialVoter) :=
    GoMap.countP_range _ _ _
  simp only [adjudicateBucket, adjudicateRemoval, CategorizedServers.setBucket_bucket,
    adjudicatedSize, ↓reduceIte]
  cases hs : b.isStale
  · have hp : ∀ s', (servers.setBucket b s').potentialVoters =
        (servers.setBucket b .empty).potentialVoters + s'.count (·.potentialVoter) := fun s' => by
      simp [CategorizedServers.potentialVoters_setBucket servers b s', hs]
    rw [adjudicateFrom_voters_length hp _ _ _ hv hcv, CategorizedServers.setBucket_bucket, c₁, c₂]
  · have hpv : ∀ e ∈ (servers.bucket b).range (order (.adjudicate b)), e.2.potentialVoter = false :=
      range_forall fun k v h => (hc k v h).2 hs
    have hq : (servers.bucket b).count (·.potentialVoter) = 0 :=
      List.countP_eq_zero.2 fun e he => by
        simpa using (hc e.1 e.2 (GoMap.lookup_eq_some_iff.2 he)).2 hs
    have hp : ∀ s' : RaftServers, (s'.count (·.potentialVoter) : Int) =
        0 + s'.count (·.potentialVoter) := fun s' => (Int.zero_add _).symm
    rw [adjudicateFrom_provider_congr (fun s' => (s'.count (·.potentialVoter) : Int)) _ _ _ hpv,
      adjudicateFrom_voters_length hp _ _ _ hv hcv, c₁, c₂, hq]
    simp

/-- Adjudicating a bucket of non-voters accepts all its non-potential entries
and as many potential ones as the headroom allows, or nothing when the
tolerance is spent; PotentialVoters drops by the potential ones. -/
theorem adjudicateBucket_nonVoters {b : Bucket} (hs : b.isStale = false)
    (hc : ∀ k v, (servers.bucket b).lookup k = some v → v.currentVoter = false) :
    ((adjudicateBucket conf order servers b).1.length : Int) =
        adjudicatedSize false servers.potentialVoters conf.minQuorum (servers.bucket b) ∧
      (adjudicateBucket conf order servers b).2.potentialVoters = servers.potentialVoters -
        acceptedPotential servers.potentialVoters conf.minQuorum (servers.bucket b) := by
  have hv := visits_range (servers.bucket b) (order (.adjudicate b))
  have hp : ∀ s', (servers.setBucket b s').potentialVoters =
      (servers.setBucket b .empty).potentialVoters + s'.count (·.potentialVoter) := fun s' => by
    simp [CategorizedServers.potentialVoters_setBucket servers b s', hs]
  simp only [adjudicateBucket, adjudicateRemoval, CategorizedServers.setBucket_bucket,
    adjudicatedSize, acceptedPotential, Bool.false_eq_true, ↓reduceIte]
  split_ifs with ht
  · simp [adjudicateFrom_of_lt_one _ _ ht]
  · have := @adjudicateFrom_nonVoters _ conf.minQuorum _ hp _ _ _
      (show 1 ≤ getFailureTolerance servers.potentialVoters by omega) hv (range_forall hc)
    have c₁ : ((servers.bucket b).range (order (.adjudicate b))).countP
        (fun e => !e.2.potentialVoter) = (servers.bucket b).count (!·.potentialVoter) :=
      GoMap.countP_range _ _ fun v : VoterEligibility => !v.potentialVoter
    have c₂ : ((servers.bucket b).range (order (.adjudicate b))).countP
        (fun e => e.2.potentialVoter) = (servers.bucket b).count (·.potentialVoter) :=
      GoMap.countP_range _ _ _
    rwa [CategorizedServers.setBucket_bucket, c₁, c₂] at this

theorem adjudicateBucket_stale_potentialVoters {b : Bucket} (hb : b.isStale = true) :
    (adjudicateBucket conf order servers b).2.potentialVoters = servers.potentialVoters := by
  simpa [hb] using @adjudicateBucket_potentialVoters conf order servers b

/-- The plan's parts have the sizes `planSize` reads off the buckets. -/
theorem planRemovals_length (hu : UniformBuckets servers) (b : Bucket) :
    (((planRemovals conf order servers).get b).length : Int) = planSize conf servers b := by
  have hsv := @adjudicateBucket_stale_potentialVoters conf order servers .staleVoters rfl
  have n := @adjudicateBucket_nonVoters conf order (adjudicateBucket conf order servers .staleVoters).2
    .failedNonVoters rfl fun k v hk =>
      hu.failedNonVoters k v (by rwa [adjudicateBucket_bucket (by decide)] at hk)
  rw [hsv] at n
  cases b
  · simp [planRemovals, RemovalPlan.get, planSize, GoMap.count,
      (servers.staleNonVoters.range_perm _).length_eq]
  · exact @adjudicateBucket_voters_length conf order servers .staleVoters fun k v hk =>
      ⟨(hu.staleVoters k v hk).1, fun _ => (hu.staleVoters k v hk).2⟩
  · simpa [planSize] using n.1
  · have := @adjudicateBucket_voters_length conf order (adjudicateBucket conf order
      (adjudicateBucket conf order servers .staleVoters).2 .failedNonVoters).2 .failedVoters
      fun k v hk => ⟨hu.failedVoters k v (by simpa using hk), by simp [Bucket.isStale]⟩
    rw [n.2] at this
    simpa [planSize] using this
  all_goals simp [planRemovals, RemovalPlan.get, planSize]

/-- Buckets with the same entries have the same plan sizes. -/
theorem planSize_congr {s₁ s₂ : CategorizedServers}
    (h : ∀ b k, (s₁.bucket b).lookup k = (s₂.bucket b).lookup k) (b : Bucket) :
    planSize conf s₁ b = planSize conf s₂ b := by
  have hc : ∀ b, (s₁.bucket b).count = (s₂.bucket b).count := fun b =>
    funext fun g => GoMap.count_congr g (h b)
  have h₁ := hc .staleNonVoters
  have h₂ := hc .staleVoters
  have h₃ := hc .failedNonVoters
  have h₄ := hc .failedVoters
  have h₅ := hc .healthyNonVoters
  have h₆ := hc .healthyVoters
  simp only [CategorizedServers.bucket] at h₁ h₂ h₃ h₄ h₅ h₆
  have hpv : s₁.potentialVoters = s₂.potentialVoters := by
    simp only [CategorizedServers.potentialVoters, h₃, h₄, h₅, h₆]
  cases b <;> simp only [planSize, adjudicatedSize, acceptedPotential, hpv, h₁, h₂, h₃, h₄]

end Plan

theorem removeFailedServers_countP (known : GoMap Server) (ids : List ServerID) (p : Call → Bool) :
    (removeFailedServers known ids).countP p =
      ids.countP fun id => (known.lookup id).any fun srv => p (.removeFailedServer id srv) := by
  simp only [removeFailedServers, List.countP_filterMap]
  congr 1
  funext id
  cases known.lookup id <;> rfl

theorem mem_calls {plan : RemovalPlan} {known : GoMap Server} {c : Call}
    (h : c ∈ plan.calls known) :
    (∃ id, c = .removeServer id ∧ (id ∈ plan.get .staleNonVoters ∨ id ∈ plan.get .staleVoters)) ∨
      ∃ id srv, c = .removeFailedServer id srv ∧ known.lookup id = some srv ∧
        (id ∈ plan.get .failedNonVoters ∨ id ∈ plan.get .failedVoters) := by
  simp only [RemovalPlan.calls, removeFailedServers, List.mem_append, List.mem_map,
    List.mem_filterMap, Option.map_eq_some'] at h
  rcases h with ((⟨id, h, rfl⟩ | ⟨id, h, rfl⟩) | ⟨id, h, srv, hs, rfl⟩) | ⟨id, h, srv, hs, rfl⟩
  · exact .inl ⟨id, rfl, .inl h⟩
  · exact .inl ⟨id, rfl, .inr h⟩
  · exact .inr ⟨id, srv, rfl, hs, .inl h⟩
  · exact .inr ⟨id, srv, rfl, hs, .inr h⟩

theorem calls_removedIDs (plan : RemovalPlan) (known : GoMap Server) :
    ((plan.calls known).filterMap Call.removedID).Sublist
      (plan.staleNonVoters ++ plan.staleVoters ++ plan.failedNonVoters ++ plan.failedVoters) := by
  have hf : ∀ l, ((removeFailedServers known l).filterMap Call.removedID).Sublist l := fun l => by
    induction l with
    | nil => simp [removeFailedServers]
    | cons id l ih =>
      cases hk : known.lookup id <;>
        simp_all [removeFailedServers, List.filterMap_cons, Call.removedID]
  simp only [RemovalPlan.calls, List.filterMap_append]
  refine ((List.Sublist.append ?_ ?_).append (hf _)).append (hf _) <;>
    simp [List.filterMap_map, Call.removedID, Function.comp_def]

/-! ## Reading the known servers afresh -/

section Rereads

variable {p : Call → Bool}
  (hp : ∀ id srv srv', p (.removeFailedServer id srv) = p (.removeFailedServer id srv'))
  {known : GoMap Server} (rereads : Nat → GoMap Server)
include hp

/-- Counted by a test that looks only at the removed ID, a loop reading the
known servers afresh makes at most the calls of one reading `known`, which
lists every ID, and as many when every read still lists every ID. -/
theorem removeFailedServersReading_countP (j : Nat) {ids : List ServerID}
    (hk : ∀ id ∈ ids, (known.lookup id).isSome) :
    (removeFailedServersReading rereads j ids).countP p ≤ (removeFailedServers known ids).countP p ∧
      ((∀ j, ∀ id ∈ ids, ((rereads j).lookup id).isSome) →
        (removeFailedServersReading rereads j ids).countP p =
          (removeFailedServers known ids).countP p) := by
  induction ids generalizing j with
  | nil => simp [removeFailedServersReading, removeFailedServers]
  | cons id ids ih =>
    obtain ⟨s₀, hs₀⟩ := Option.isSome_iff_exists.1 (hk id (List.mem_cons_self _ _))
    obtain ⟨ih₁, ih₂⟩ := ih (j + 1) fun id h => hk id (List.mem_cons_of_mem _ h)
    have hf : removeFailedServers known (id :: ids) =
        .removeFailedServer id s₀ :: removeFailedServers known ids := by
      simp [removeFailedServers, hs₀]
    rw [hf, List.countP_cons]
    cases hr : (rereads j).lookup id with
    | none =>
      simp only [removeFailedServersReading, hr]
      refine ⟨by omega, fun h => ?_⟩
      simpa [hr] using h j id (List.mem_cons_self _ _)
    | some srv =>
      simp only [removeFailedServersReading, hr, List.countP_cons, hp id srv s₀]
      exact ⟨by omega, fun h => by rw [ih₂ fun j id hm => h j id (List.mem_cons_of_mem _ hm)]⟩

theorem RemovalPlan.callsReading_countP (plan : RemovalPlan)
    (hk : ∀ id ∈ plan.failedNonVoters ++ plan.failedVoters, (known.lookup id).isSome) :
    (plan.callsReading rereads).countP p ≤ (plan.calls known).countP p ∧
      ((∀ j, ∀ id ∈ plan.failedNonVoters ++ plan.failedVoters, ((rereads j).lookup id).isSome) →
        (plan.callsReading rereads).countP p = (plan.calls known).countP p) := by
  have l₁ := removeFailedServersReading_countP hp rereads 0 fun id h => hk id (List.mem_append_left _ h)
  have l₂ := removeFailedServersReading_countP hp rereads plan.failedNonVoters.length
    fun id h => hk id (List.mem_append_right _ h)
  simp only [RemovalPlan.callsReading, RemovalPlan.calls, List.countP_append]
  refine ⟨by omega, fun h => ?_⟩
  rw [l₁.2 fun j id hm => h j id (List.mem_append_left _ hm),
    l₂.2 fun j id hm => h j id (List.mem_append_right _ hm)]

variable (conf : Config) (order : RangeSite → RangeOrder) (resp : Responder)
  (servers : CategorizedServers)
  (hk : ∀ id ∈ (planRemovals conf order servers).failedNonVoters ++
    (planRemovals conf order servers).failedVoters, (known.lookup id).isSome)
include hk

/-- Whatever the later reads return, the pass makes at most the plan's calls,
counted by a test that looks only at the removed ID. -/
theorem removeDeadServers_countP_le :
    (removeDeadServers conf rereads order resp servers).1.countP p ≤
      ((planRemovals conf order servers).calls known).countP p := by
  rcases removeDeadServers_cases conf order resp servers with ⟨pre, hpre, h⟩ | h
  · rw [h]
    exact (hpre.sublist.trans (by simp [RemovalPlan.calls, List.append_assoc])).countP_le _
  · rw [h]
    exact (RemovalPlan.callsReading_countP hp rereads _ hk).1

/-- It makes them all when every `removeServer` call succeeds and every read
still lists the plan's failed IDs. -/
theorem removeDeadServers_countP_of_ok (h : ∀ tr id, resp tr (.removeServer id) = none)
    (hr : ∀ j, ∀ id ∈ (planRemovals conf order servers).failedNonVoters ++
      (planRemovals conf order servers).failedVoters, ((rereads j).lookup id).isSome) :
    (removeDeadServers conf rereads order resp servers).1.countP p =
      ((planRemovals conf order servers).calls known).countP p := by
  rw [removeDeadServers_of_ok conf rereads order h]
  exact (RemovalPlan.callsReading_countP hp rereads _ hk).2 hr

end Rereads

end RaftAutopilot
