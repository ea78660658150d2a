import RaftAutopilot.Model.Autopilot

/-! # The promoter's view of the removal candidates

pruneDeadServers hands the stale and failed buckets to the promoter as a
`FailedServers` value and rebuilds the buckets from its answer. Going out,
every failed ID is looked up in the state snapshot, which panics when there is
no snapshot. Coming back, each bucket keeps only its own entries under the IDs
the answer lists, whatever else the answer holds.
-/
namespace RaftAutopilot

/-- A failed-server loop of convertToFailedServers: the `Server` of every visited
ID the state tracks. A non-empty loop reads `state.Servers`, a nil dereference
when there is no snapshot (`none`, a panic). -/
def failedServerRecords : Option State → List ServerID → Option (List Server)
  | _, [] => some []
  | none, _ :: _ => none
  | some st, ids => some (ids.filterMap fun id => (st.servers.lookup id).map (·.server))

def CategorizedServers.convertToFailedServers (s : CategorizedServers) (state : Option State)
    (order : RangeSite → RangeOrder) : Option FailedServers := do
  let failedNonVoters ← failedServerRecords state
    ((s.failedNonVoters.range (order (.convert .failedNonVoters))).map Prod.fst)
  let failedVoters ← failedServerRecords state
    ((s.failedVoters.range (order (.convert .failedVoters))).map Prod.fst)
  pure
    { staleNonVoters := (s.staleNonVoters.range (order (.convert .staleNonVoters))).map Prod.fst
      staleVoters := (s.staleVoters.range (order (.convert .staleVoters))).map Prod.fst
      failedNonVoters
      failedVoters }

/-- A loop of convertFromFailedServers: the entries of `bucket` under the listed IDs. -/
def retainListed (bucket : RaftServerEligibility) (ids : List ServerID) : RaftServerEligibility :=
  ids.foldl (fun acc id => match bucket.lookup id with
    | some v => acc.insert id v
    | none => acc) .empty

def CategorizedServers.convertFromFailedServers (s : CategorizedServers) (servers : FailedServers) :
    CategorizedServers :=
  { s with
    staleNonVoters := retainListed s.staleNonVoters servers.staleNonVoters
    staleVoters := retainListed s.staleVoters servers.staleVoters
    failedNonVoters := retainListed s.failedNonVoters (servers.failedNonVoters.map (·.id))
    failedVoters := retainListed s.failedVoters (servers.failedVoters.map (·.id)) }

/-- Whether the promoter's answer keeps `id` in bucket `b`; healthy buckets are not filtered. -/
def FailedServers.retains (f : FailedServers) : Bucket → ServerID → Bool
  | .staleNonVoters, id => id ∈ f.staleNonVoters
  | .staleVoters, id => id ∈ f.staleVoters
  | .failedNonVoters, id => id ∈ f.failedNonVoters.map (·.id)
  | .failedVoters, id => id ∈ f.failedVoters.map (·.id)
  | .healthyNonVoters, _ => true
  | .healthyVoters, _ => true

theorem retainListed_lookup (bucket : RaftServerEligibility) (ids : List ServerID)
    (k : ServerID) : (retainListed bucket ids).lookup k = if k ∈ ids then bucket.lookup k else none := by
  suffices h : ∀ acc : RaftServerEligibility, (ids.foldl (fun acc id => match bucket.lookup id with
      | some v => acc.insert id v
      | none => acc) acc).lookup k =
      if k ∈ ids ∧ (bucket.lookup k).isSome then bucket.lookup k else acc.lookup k by
    rw [retainListed, h]
    cases bucket.lookup k <;> simp
  induction ids with
  | nil => simp
  | cons id ids ih =>
    intro acc
    rw [List.foldl_cons, ih]
    by_cases hk : k = id
    · subst hk
      cases bucket.lookup k <;> simp
    · cases bucket.lookup id <;> simp [hk]

theorem convertFromFailedServers_lookup (s : CategorizedServers) (f : FailedServers) (b : Bucket)
    (k : ServerID) : ((s.convertFromFailedServers f).bucket b).lookup k =
      if f.retains b k then (s.bucket b).lookup k else none := by
  cases b <;> simp [CategorizedServers.convertFromFailedServers, CategorizedServers.bucket,
    FailedServers.retains, retainListed_lookup]

theorem convertFromFailedServers_lookup_some {s : CategorizedServers} {f : FailedServers}
    {b : Bucket} {k : ServerID} {v : VoterEligibility}
    (h : ((s.convertFromFailedServers f).bucket b).lookup k = some v) :
    f.retains b k = true ∧ (s.bucket b).lookup k = some v := by
  rw [convertFromFailedServers_lookup] at h
  split at h
  · exact ⟨‹_›, h⟩
  · cases h

/-- Nothing enters a bucket on the way back. -/
theorem convertFromFailedServers_keys {s : CategorizedServers} {f : FailedServers} {b : Bucket}
    {k : ServerID} (h : k ∈ ((s.convertFromFailedServers f).bucket b).keys) : k ∈ (s.bucket b).keys := by
  obtain ⟨v, hv⟩ := GoMap.mem_keys_iff.1 h
  exact GoMap.mem_keys_iff.2 ⟨v, (convertFromFailedServers_lookup_some hv).2⟩

/-- Whatever the promoter answers, the healthy buckets stay as they are and
every other bucket keeps exactly its own entries under the IDs of the answer's
matching list; no ID enters a bucket, so disjoint buckets stay disjoint. -/
theorem convertFromFailedServers_restricts (s : CategorizedServers) (f : FailedServers) :
    let s' := s.convertFromFailedServers f
    s'.healthyNonVoters = s.healthyNonVoters ∧ s'.healthyVoters = s.healthyVoters ∧
      (∀ k, s'.staleNonVoters.lookup k =
        if k ∈ f.staleNonVoters then s.staleNonVoters.lookup k else none) ∧
      (∀ k, s'.staleVoters.lookup k = if k ∈ f.staleVoters then s.staleVoters.lookup k else none) ∧
      (∀ k, s'.failedNonVoters.lookup k =
        if k ∈ f.failedNonVoters.map (·.id) then s.failedNonVoters.lookup k else none) ∧
      (∀ k, s'.failedVoters.lookup k =
        if k ∈ f.failedVoters.map (·.id) then s.failedVoters.lookup k else none) ∧
      (∀ b k, k ∈ (s'.bucket b).keys → k ∈ (s.bucket b).keys) ∧
      ((∀ id b₁ b₂, id ∈ (s.bucket b₁).keys → id ∈ (s.bucket b₂).keys → b₁ = b₂) →
        ∀ id b₁ b₂, id ∈ (s'.bucket b₁).keys → id ∈ (s'.bucket b₂).keys → b₁ = b₂) :=
  ⟨rfl, rfl, retainListed_lookup _ _, retainListed_lookup _ _, retainListed_lookup _ _,
    retainListed_lookup _ _, fun _ _ => convertFromFailedServers_keys,
    fun hd id b₁ b₂ h₁ h₂ => hd id b₁ b₂ (convertFromFailedServers_keys h₁)
      (convertFromFailedServers_keys h₂)⟩

/-! ## The round trip -/

theorem failedServerRecords_some (st : State) (ids : List ServerID) :
    failedServerRecords (some st) ids =
      some (ids.filterMap fun id => (st.servers.lookup id).map (·.server)) := by
  cases ids <;> rfl

/-- A failed-server loop panics exactly when it has an ID to look up and no snapshot. -/
theorem failedServerRecords_eq_none (state : Option State) (ids : List ServerID) :
    failedServerRecords state ids = none ↔ state = none ∧ ids ≠ [] := by
  cases state <;> cases ids <;> simp [failedServerRecords]

/-- With a snapshot the conversion lists every stale key, and the snapshot's
`Server` record of every failed key it tracks. -/
theorem convertToFailedServers_some (s : CategorizedServers) (st : State)
    (order : RangeSite → RangeOrder) :
    s.convertToFailedServers (some st) order = some
      { staleNonVoters := (s.staleNonVoters.range (order (.convert .staleNonVoters))).map Prod.fst
        staleVoters := (s.staleVoters.range (order (.convert .staleVoters))).map Prod.fst
        failedNonVoters := ((s.failedNonVoters.range (order (.convert .failedNonVoters))).map
          Prod.fst).filterMap fun id => (st.servers.lookup id).map (·.server)
        failedVoters := ((s.failedVoters.range (order (.convert .failedVoters))).map
          Prod.fst).filterMap fun id => (st.servers.lookup id).map (·.server) } := by
  simp [CategorizedServers.convertToFailedServers, failedServerRecords_some]

/-- The conversion panics exactly when there is no snapshot and a failed bucket
is not empty. -/
theorem convertToFailedServers_eq_none (s : CategorizedServers) (state : Option State)
    (order : RangeSite → RangeOrder) :
    s.convertToFailedServers state order = none ↔
      state = none ∧ (s.failedNonVoters.keys ≠ [] ∨ s.failedVoters.keys ≠ []) := by
  cases state with
  | some st => simp [convertToFailedServers_some]
  | none =>
    simp only [CategorizedServers.convertToFailedServers, true_and, ne_eq,
      ← s.failedNonVoters.range_keys_eq_nil (order (.convert .failedNonVoters)),
      ← s.failedVoters.range_keys_eq_nil (order (.convert .failedVoters))]
    generalize (s.failedNonVoters.range (order (.convert .failedNonVoters))).map Prod.fst = l₁
    generalize (s.failedVoters.range (order (.convert .failedVoters))).map Prod.fst = l₂
    cases l₁ <;> cases l₂ <;> simp [failedServerRecords]

section RoundTrip

variable (st : State) (m : RaftServerEligibility) (o : RangeOrder) (k : ServerID)

/-- A stale bucket comes back whole from its own key list. -/
theorem retainListed_stale : (retainListed m ((m.range o).map Prod.fst)).lookup k = m.lookup k := by
  simp only [retainListed_lookup, GoMap.mem_range_keys, GoMap.ite_mem_keys_lookup]

/-- A failed bucket comes back with the keys among the `Server.ID`s the snapshot
records for its keys. -/
theorem retainListed_failed :
    (retainListed m ((((m.range o).map Prod.fst).filterMap fun id =>
      (st.servers.lookup id).map (·.server)).map (·.id))).lookup k =
      if k ∈ m.keys.filterMap (fun id => (st.servers.lookup id).map (·.server.id)) then m.lookup k
      else none := by
  simp only [retainListed_lookup, List.map_filterMap, Option.map_map, Function.comp_def,
    List.mem_filterMap, GoMap.mem_range_keys]

end RoundTrip

/-- With a snapshot and a promoter that filters nothing, the round trip keeps
the stale and healthy buckets, and keeps of each failed bucket the entries
under the `Server.ID`s the snapshot records for the bucket's keys: the
identity when the snapshot tracks every failed key under that same ID. -/
theorem convertFailedServers_roundTrip (s : CategorizedServers) (st : State)
    (order : RangeSite → RangeOrder) :
    ∃ f, s.convertToFailedServers (some st) order = some f ∧
      let s' := s.convertFromFailedServers f
      let recordedIDs := fun m : RaftServerEligibility =>
        m.keys.filterMap fun id => (st.servers.lookup id).map (·.server.id)
      (∀ k, s'.staleNonVoters.lookup k = s.staleNonVoters.lookup k) ∧
      (∀ k, s'.staleVoters.lookup k = s.staleVoters.lookup k) ∧
      s'.healthyNonVoters = s.healthyNonVoters ∧ s'.healthyVoters = s.healthyVoters ∧
      (∀ k, s'.failedNonVoters.lookup k =
        if k ∈ recordedIDs s.failedNonVoters then s.failedNonVoters.lookup k else none) ∧
      (∀ k, s'.failedVoters.lookup k =
        if k ∈ recordedIDs s.failedVoters then s.failedVoters.lookup k else none) ∧
      ((∀ id ∈ s.failedNonVoters.keys ++ s.failedVoters.keys,
          (st.servers.lookup id).map (·.server.id) = some id) →
        ∀ b k, (s'.bucket b).lookup k = (s.bucket b).lookup k) := by
  refine ⟨_, convertToFailedServers_some s st order, retainListed_stale _ _, retainListed_stale _ _,
    rfl, rfl, retainListed_failed st _ _, retainListed_failed st _ _, fun h b k => ?_⟩
  cases b
  · exact retainListed_stale _ _ _
  · exact retainListed_stale _ _ _
  · exact (retainListed_failed st _ _ _).trans
      (GoMap.ite_mem_filterMap_lookup fun id hid => h id (List.mem_append_left _ hid))
  · exact (retainListed_failed st _ _ _).trans
      (GoMap.ite_mem_filterMap_lookup fun id hid => h id (List.mem_append_right _ hid))
  · rfl
  · rfl

end RaftAutopilot
