import RaftAutopilot.Model.Autopilot
import Mathlib.Data.List.Dedup

/-! # Server categorization

`categorizeServers` cross-joins the Raft configuration with the delegate's
known servers. The loop over the known servers moves each configuration entry
it meets out of a working map and into one of four buckets; what the working
map keeps is stale, split by `FilterVoters`. `Categorizes` states what every
bucket holds ID by ID, and `categorizeServers_categorizes` proves it for every
configuration, known-server map and visiting order.
-/
namespace RaftAutopilot

/-- `getRaftServerIds`: a fresh eligibility per configuration entry; a later
entry of the same ID replaces an earlier one. -/
def getRaftServerIds (servers : List RaftServer) : RaftServers :=
  servers.foldl (fun ids server => ids.insert server.id ⟨server.suffrage == .voter, false⟩) .empty

/-- The maps categorizeServers' loop works on. -/
structure Categorization where
  raftServers : RaftServers
  failedVoters : RaftServers
  failedNonVoters : RaftServers
  healthyVoters : RaftServers
  healthyNonVoters : RaftServers

/-- One iteration over a known server. The code sets `potentialVoter` through
the pointer after placing the entry; the entry is in no other map by then, so
setting it first builds the same buckets. -/
def categorizeStep (acc : Categorization) (e : ServerID × Server) : Categorization :=
  match acc.raftServers.lookup e.1 with
  | none => acc
  | some v =>
    let v := { v with potentialVoter := e.2.nodeType == nodeVoter }
    let acc := { acc with raftServers := acc.raftServers.erase e.1 }
    if e.2.nodeStatus == nodeAlive && v.currentVoter then
      { acc with healthyVoters := acc.healthyVoters.insert e.1 v }
    else if e.2.nodeStatus == nodeAlive then
      { acc with healthyNonVoters := acc.healthyNonVoters.insert e.1 v }
    else if v.currentVoter then
      { acc with failedVoters := acc.failedVoters.insert e.1 v }
    else
      { acc with failedNonVoters := acc.failedNonVoters.insert e.1 v }

def Categorization.toCategorized (acc : Categorization) : CategorizedServers where
  staleNonVoters := acc.raftServers.filterVoters false
  staleVoters := acc.raftServers.filterVoters true
  failedNonVoters := acc.failedNonVoters
  failedVoters := acc.failedVoters
  healthyNonVoters := acc.healthyNonVoters
  healthyVoters := acc.healthyVoters

/-- categorizeServers once the Raft configuration is read. -/
def categorize (servers : List RaftServer) (known : GoMap Server) (order : RangeOrder) :
    CategorizedServers :=
  ((known.range order).foldl categorizeStep
    ⟨getRaftServerIds servers, .empty, .empty, .empty, .empty⟩).toCategorized

def categorizeServers (cfg : Except String (List RaftServer)) (known : GoMap Server)
    (order : RangeOrder) : Except String CategorizedServers :=
  cfg.map (categorize · known order)

/-! ## What each bucket holds -/

/-- The suffrage of the last configuration entry with this ID. -/
def lastSuffrage (servers : List RaftServer) (id : ServerID) : Option Suffrage :=
  (servers.reverse.find? (·.id == id)).map (·.suffrage)

/-- The bucket of a known server, by liveness and Raft suffrage. -/
def knownBucket (status : NodeStatus) (currentVoter : Bool) : Bucket :=
  if status = nodeAlive then (if currentVoter then .healthyVoters else .healthyNonVoters)
  else (if currentVoter then .failedVoters else .failedNonVoters)

/-- The entry bucket `b` gets for an ID with Raft eligibility `r` and known-server record `k`. -/
def placement (r : Option VoterEligibility) (k : Option Server) (b : Bucket) :
    Option VoterEligibility :=
  r.bind fun v => match k with
    | none => if b = (if v.currentVoter then .staleVoters else .staleNonVoters) then some v else none
    | some srv => if b = knownBucket srv.nodeStatus v.currentVoter then
        some { v with potentialVoter := srv.nodeType == nodeVoter } else none

theorem getRaftServerIds_lookup (servers : List RaftServer) (id : ServerID) :
    (getRaftServerIds servers).lookup id =
      (lastSuffrage servers id).map fun s => ⟨s == .voter, false⟩ := by
  suffices h : ∀ m : RaftServers, (servers.foldl (fun ids server =>
      ids.insert server.id ⟨server.suffrage == .voter, false⟩) m).lookup id =
      ((lastSuffrage servers id).map fun s => ⟨s == .voter, false⟩).or (m.lookup id) from by simpa using h .empty
  induction servers with
  | nil => simp [lastSuffrage]
  | cons s rest ih =>
    intro m
    rw [List.foldl_cons, ih]
    simp only [lastSuffrage, List.reverse_cons, List.find?_append, GoMap.lookup_insert]
    by_cases hs : s.id = id
    · subst hs; cases rest.reverse.find? (·.id == s.id) <;> simp
    · cases rest.reverse.find? (·.id == id) <;> simp [hs, Ne.symm hs]

theorem filterVoters_lookup (s : RaftServerEligibility) (c : Bool) (id : ServerID) :
    (s.filterVoters c).lookup id = (s.lookup id).filter (·.currentVoter == c) := by
  obtain ⟨entries, hn⟩ := s
  simp only [RaftServerEligibility.filterVoters, GoMap.lookup]
  induction entries with
  | nil => simp
  | cons e l ih =>
    obtain ⟨he, hn⟩ := List.nodup_cons.1 hn
    by_cases hid : id = e.1
    · subst hid
      have hl : ∀ l' : List (ServerID × VoterEligibility), l' ⊆ l → l'.lookup e.1 = none :=
        fun l' hl' => List.lookup_eq_none_iff.2 fun p hp =>
          bne_iff_ne.2 fun h => he (List.mem_map.2 ⟨p, hl' hp, h.symm⟩)
      by_cases hc : e.2.currentVoter = c <;>
        simp [List.filter_cons, GoMap.lookup_cons_ite, hc, hl _ (List.filter_sublist _).subset, Option.filter]
    · by_cases hc : e.2.currentVoter = c <;>
        simp [List.filter_cons, GoMap.lookup_cons_ite, hid, hc, ih hn]

/-- The loop's maps after visiting the known servers `look` returns: every
configuration entry sits where `placement` puts it. -/
def CategorizeInv (raft : RaftServers) (look : ServerID → Option Server) (acc : Categorization) :
    Prop :=
  ∀ b id, (acc.toCategorized.bucket b).lookup id = placement (raft.lookup id) (look id) b

theorem raftServers_lookup (acc : Categorization) (id : ServerID) :
    acc.raftServers.lookup id = ((acc.toCategorized.bucket .staleVoters).lookup id).or
      ((acc.toCategorized.bucket .staleNonVoters).lookup id) := by
  simp only [Categorization.toCategorized, CategorizedServers.bucket, filterVoters_lookup]
  cases acc.raftServers.lookup id with
  | none => rfl
  | some v => cases h : v.currentVoter <;> simp [Option.filter, h]

theorem categorizeStep_lookup_ne (acc : Categorization) (e : ServerID × Server) (b : Bucket)
    {id : ServerID} (h : id ≠ e.1) :
    ((categorizeStep acc e).toCategorized.bucket b).lookup id =
      (acc.toCategorized.bucket b).lookup id := by
  unfold categorizeStep
  split
  · rfl
  · rename_i v _
    by_cases ha : e.2.nodeStatus = nodeAlive <;> cases hc : v.currentVoter <;> cases b <;>
      simp [Categorization.toCategorized, CategorizedServers.bucket, filterVoters_lookup, h, ha, hc]

theorem categorizeStep_inv {raft : RaftServers} {look : ServerID → Option Server}
    {acc : Categorization} {k : ServerID} (srv : Server) (h : CategorizeInv raft look acc)
    (hk : look k = none) :
    CategorizeInv raft (fun id => if id = k then some srv else look id) (categorizeStep acc (k, srv)) := by
  intro b id
  by_cases hid : id = k
  · subst hid
    have hr : acc.raftServers.lookup id = raft.lookup id := by
      rw [raftServers_lookup, h, h, hk]
      cases raft.lookup id with
      | none => rfl
      | some v => cases hv : v.currentVoter <;> simp [placement, hv]
    cases hv : raft.lookup id with
    | none =>
      have he : categorizeStep acc (id, srv) = acc := by simp [categorizeStep, hr, hv]
      rw [he, h, hv]; rfl
    | some v =>
      have hnone : ∀ b, (b = .staleVoters ∨ b = .staleNonVoters → False) →
          (acc.toCategorized.bucket b).lookup id = none := by
        intro b hb
        rw [h, hk, hv]
        simp only [placement, Option.some_bind, ite_eq_right_iff]
        intro hb'; exact absurd (by cases v.currentVoter <;> simp_all) hb
      have h1 := hnone .failedVoters (by simp)
      have h2 := hnone .failedNonVoters (by simp)
      have h3 := hnone .healthyVoters (by simp)
      have h4 := hnone .healthyNonVoters (by simp)
      simp only [Categorization.toCategorized, CategorizedServers.bucket] at h1 h2 h3 h4
      simp only [categorizeStep, hr, hv, ↓reduceIte, placement, Option.some_bind, knownBucket]
      by_cases ha : srv.nodeStatus = nodeAlive <;> cases hc : v.currentVoter <;> cases b <;>
        simp [Categorization.toCategorized, CategorizedServers.bucket, filterVoters_lookup, ha, hc,
          h1, h2, h3, h4]
  · rw [categorizeStep_lookup_ne _ _ _ hid, h]
    simp [hid]

theorem categorizeInv_init (raft : RaftServers) :
    CategorizeInv raft (fun _ => none) ⟨raft, .empty, .empty, .empty, .empty⟩ := by
  intro b id
  cases hv : raft.lookup id with
  | none => cases b <;> simp [Categorization.toCategorized, CategorizedServers.bucket,
      filterVoters_lookup, placement, hv]
  | some v => cases hc : v.currentVoter <;> cases b <;> simp [Categorization.toCategorized,
      CategorizedServers.bucket, filterVoters_lookup, placement, hv, hc, Option.filter]

theorem foldl_categorizeStep_inv {raft : RaftServers} (L : List (ServerID × Server))
    (hL : (L.map Prod.fst).Nodup) {look : ServerID → Option Server}
    (hfresh : ∀ e ∈ L, look e.1 = none) {acc : Categorization} (h : CategorizeInv raft look acc) :
    CategorizeInv raft (fun id => (L.lookup id).or (look id)) (L.foldl categorizeStep acc) := by
  induction L generalizing look acc with
  | nil => simpa using h
  | cons e rest ih =>
    obtain ⟨k, srv⟩ := e
    obtain ⟨he, hL⟩ := List.nodup_cons.1 hL
    have h' := ih hL (fun e' he' => ?_) (categorizeStep_inv srv h (hfresh (k, srv) (by simp)))
    · intro b id
      rw [List.foldl_cons, h' b id]
      by_cases hid : id = k
      · subst hid
        simp [GoMap.lookup_cons_ite, GoMap.lookup_eq_none_of_not_mem he]
      · simp [GoMap.lookup_cons_ite, hid]
    · have hne : e'.1 ≠ k := fun h' => he (List.mem_map.2 ⟨e', he', h'⟩)
      simp [hne, hfresh e' (by simp [he'])]

theorem categorize_lookup (servers : List RaftServer) (known : GoMap Server) (order : RangeOrder)
    (b : Bucket) (id : ServerID) :
    ((categorize servers known order).bucket b).lookup id =
      placement ((getRaftServerIds servers).lookup id) (known.lookup id) b := by
  have h := foldl_categorizeStep_inv (known.range order) (known.range_nodupKeys order)
    (fun _ _ => rfl) (categorizeInv_init (getRaftServerIds servers)) b id
  simp only [Option.or_none] at h
  rw [categorize, h]
  exact congrArg (placement _ · b) (known.lookup_range order id)

theorem lastSuffrage_isSome (servers : List RaftServer) (id : ServerID) :
    (lastSuffrage servers id).isSome ↔ id ∈ servers.map (·.id) := by
  simp [lastSuffrage, List.find?_isSome]

theorem getRaftServerIds_isSome (servers : List RaftServer) (id : ServerID) :
    ((getRaftServerIds servers).lookup id).isSome ↔ id ∈ servers.map (·.id) := by
  simp [getRaftServerIds_lookup, lastSuffrage, List.find?_isSome]

theorem placement_eq_some {r : Option VoterEligibility} {k : Option Server} {b : Bucket}
    {v' : VoterEligibility} (h : placement r k b = some v') :
    ∃ v, r = some v ∧ v'.currentVoter = v.currentVoter ∧
      (k = none → b = (if v.currentVoter then .staleVoters else .staleNonVoters) ∧ v' = v) ∧
      (∀ srv, k = some srv → b = knownBucket srv.nodeStatus v.currentVoter ∧
        v' = { v with potentialVoter := srv.nodeType == nodeVoter }) := by
  cases r with
  | none => simp [placement] at h
  | some v =>
    cases k with
    | none =>
      simp only [placement, Option.some_bind, Option.ite_none_right_eq_some, Option.some.injEq] at h
      obtain ⟨rfl, rfl⟩ := h
      simp
    | some srv =>
      simp only [placement, Option.some_bind, Option.ite_none_right_eq_some, Option.some.injEq] at h
      obtain ⟨rfl, rfl⟩ := h
      simp

theorem placement_isSome (v : VoterEligibility) (k : Option Server) :
    ∃ b v', placement (some v) k b = some v' := by
  cases k with
  | none => exact ⟨if v.currentVoter then .staleVoters else .staleNonVoters, v, by simp [placement]⟩
  | some srv => exact ⟨knownBucket srv.nodeStatus v.currentVoter,
      { v with potentialVoter := srv.nodeType == nodeVoter }, by simp [placement]⟩

private theorem countP_add_four {K : List ServerID} {p₁ p₂ p₃ p₄ q : ServerID → Bool}
    (h : ∀ id ∈ K, (if p₁ id then 1 else 0) + (if p₂ id then 1 else 0) +
      (if p₃ id then 1 else 0) + (if p₄ id then 1 else 0) = if q id then 1 else 0) :
    K.countP p₁ + K.countP p₂ + K.countP p₃ + K.countP p₄ = K.countP q := by
  induction K with
  | nil => rfl
  | cons id K ih =>
    have := h id (by simp)
    simp only [List.countP_cons]
    have := ih fun id' h' => h id' (by simp [h'])
    omega

/-- What categorizeServers guarantees of its buckets, for the Raft configuration
`servers` and the known servers `known`. -/
structure Categorizes (c : CategorizedServers) (servers : List RaftServer) (known : GoMap Server) :
    Prop where
  disjoint : ∀ id b₁ b₂, id ∈ (c.bucket b₁).keys → id ∈ (c.bucket b₂).keys → b₁ = b₂
  covers : ∀ id, (∃ b, id ∈ (c.bucket b).keys) ↔ id ∈ servers.map (·.id)
  currentVoter : ∀ b id v, (c.bucket b).lookup id = some v →
    (v.currentVoter = true ↔ lastSuffrage servers id = some .voter)
  stale : ∀ b id v, (c.bucket b).lookup id = some v → known.lookup id = none →
    b = (if v.currentVoter then .staleVoters else .staleNonVoters) ∧ v.potentialVoter = false
  placed : ∀ b id v srv, (c.bucket b).lookup id = some v → known.lookup id = some srv →
    b = knownBucket srv.nodeStatus v.currentVoter ∧ v.potentialVoter = (srv.nodeType == nodeVoter)
  potentialVoters : c.potentialVoters =
    ((servers.map (·.id)).dedup.countP fun id => (known.lookup id).any (·.nodeType == nodeVoter) : Nat)

theorem categorize_potentialVoters (servers : List RaftServer) (known : GoMap Server)
    (order : RangeOrder) :
    (categorize servers known order).potentialVoters =
      ((servers.map (·.id)).dedup.countP fun id => (known.lookup id).any (·.nodeType == nodeVoter) : Nat) := by
  have hsub : ∀ b, ∀ id ∈ ((categorize servers known order).bucket b).keys,
      id ∈ (servers.map (·.id)).dedup := by
    intro b id hid
    obtain ⟨v', hv'⟩ := GoMap.mem_keys_iff.1 hid
    rw [categorize_lookup] at hv'
    obtain ⟨v, hv, -⟩ := placement_eq_some hv'
    exact List.mem_dedup.2 ((getRaftServerIds_isSome servers id).1 (by simp [hv]))
  have hK := List.nodup_dedup (servers.map (·.id))
  have e : ∀ b, ((categorize servers known order).bucket b).count (·.potentialVoter) = _ :=
    fun b => GoMap.count_eq_countP _ hK (hsub b)
  simp only [CategorizedServers.potentialVoters]
  erw [e .failedNonVoters, e .failedVoters, e .healthyNonVoters, e .healthyVoters]
  norm_cast
  refine countP_add_four fun id hid => ?_
  obtain ⟨v, hv⟩ := Option.isSome_iff_exists.1
    ((getRaftServerIds_isSome servers id).2 (List.mem_dedup.1 hid))
  simp only [categorize_lookup, hv]
  cases known.lookup id with
  | none => cases hc : v.currentVoter <;> simp [placement, hc]
  | some srv =>
    by_cases ha : srv.nodeStatus = nodeAlive <;> cases hc : v.currentVoter <;>
      simp [placement, knownBucket, ha, hc]

theorem categorize_categorizes (servers : List RaftServer) (known : GoMap Server)
    (order : RangeOrder) : Categorizes (categorize servers known order) servers known where
  disjoint id b₁ b₂ h₁ h₂ := by
    obtain ⟨v₁, h₁⟩ := GoMap.mem_keys_iff.1 h₁
    obtain ⟨v₂, h₂⟩ := GoMap.mem_keys_iff.1 h₂
    rw [categorize_lookup] at h₁ h₂
    obtain ⟨v, hv, -, hs₁, hk₁⟩ := placement_eq_some h₁
    obtain ⟨w, hw, -, hs₂, hk₂⟩ := placement_eq_some h₂
    cases hv.symm.trans hw
    cases hk : known.lookup id with
    | none => rw [(hs₁ hk).1, (hs₂ hk).1]
    | some srv => rw [(hk₁ srv hk).1, (hk₂ srv hk).1]
  covers id := by
    constructor
    · rintro ⟨b, hb⟩
      obtain ⟨v', hv'⟩ := GoMap.mem_keys_iff.1 hb
      rw [categorize_lookup] at hv'
      obtain ⟨v, hv, -⟩ := placement_eq_some hv'
      exact (getRaftServerIds_isSome servers id).1 (by simp [hv])
    · intro h
      obtain ⟨v, hv⟩ := Option.isSome_iff_exists.1 ((getRaftServerIds_isSome servers id).2 h)
      obtain ⟨b, v', hb⟩ := placement_isSome v (known.lookup id)
      exact ⟨b, GoMap.mem_keys_iff.2 ⟨v', by rw [categorize_lookup, hv, hb]⟩⟩
  currentVoter b id v' h := by
    rw [categorize_lookup] at h
    obtain ⟨v, hv, hc, -⟩ := placement_eq_some h
    rw [getRaftServerIds_lookup] at hv
    obtain ⟨s, hs, rfl⟩ := Option.map_eq_some'.1 hv
    simp [hc, hs]
  stale b id v' h hk := by
    rw [categorize_lookup, hk] at h
    obtain ⟨v, hv, -, hs, -⟩ := placement_eq_some h
    obtain ⟨rfl, rfl⟩ := hs rfl
    rw [getRaftServerIds_lookup] at hv
    obtain ⟨s, -, rfl⟩ := Option.map_eq_some'.1 hv
    simp
  placed b id v' srv h hk := by
    rw [categorize_lookup, hk] at h
    obtain ⟨v, -, -, -, hp⟩ := placement_eq_some h
    obtain ⟨rfl, rfl⟩ := hp srv rfl
    simp
  potentialVoters := categorize_potentialVoters servers known order

theorem categorizeServers_categorizes (servers : List RaftServer) (known : GoMap Server)
    (order : RangeOrder) :
    ∃ c, categorizeServers (.ok servers) known order = .ok c ∧ Categorizes c servers known :=
  ⟨_, rfl, categorize_categorizes servers known order⟩

end RaftAutopilot
