import RaftAutopilot.Prune.Safety

/-! # Removal counts do not depend on map order

Go randomises `range` over maps, and adjudicateRemoval picks different servers
under different orders. How many it picks does not change: categorization puts
the same entries in each bucket whatever the order of the known servers, and
each adjudicated bucket is uniform in currentVoter, so `planSize` gives the
size of every part of the plan from counts alone. When the promoter's answer
keeps the same IDs for the same candidates, two passes over the same input
make as many removals of each class. Which servers go is fixed by the order
alone: the first stale voters up to the tolerance, and every failed non-voter
that is no potential voter with the first potential ones the headroom above
MinQuorum allows.
-/
namespace RaftAutopilot

/-- Two promoter inputs listing the same servers, each list in some order. -/
def FailedServers.Perm (f₁ f₂ : FailedServers) : Prop :=
  f₁.staleNonVoters.Perm f₂.staleNonVoters ∧ f₁.staleVoters.Perm f₂.staleVoters ∧
    f₁.failedNonVoters.Perm f₂.failedNonVoters ∧ f₁.failedVoters.Perm f₂.failedVoters

/-- The bucket a removal call takes its server from, by the call and the
suffrage of the server's configuration entry. -/
def Call.removalBucket (servers : List RaftServer) : Call → Option Bucket
  | .removeServer id =>
    some (if lastSuffrage servers id = some .voter then .staleVoters else .staleNonVoters)
  | .removeFailedServer id _ =>
    some (if lastSuffrage servers id = some .voter then .failedVoters else .failedNonVoters)
  | _ => none

/-- Categorized-server values holding the same entries in every bucket. -/
def SameBuckets (s₁ s₂ : CategorizedServers) : Prop :=
  ∀ b k, (s₁.bucket b).lookup k = (s₂.bucket b).lookup k

theorem FailedServers.Perm.retains {f₁ f₂ : FailedServers} (h : f₁.Perm f₂) (b : Bucket)
    (k : ServerID) : f₁.retains b k = f₂.retains b k := by
  obtain ⟨h₁, h₂, h₃, h₄⟩ := h
  cases b <;> simp [FailedServers.retains, h₁.mem_iff, h₂.mem_iff, (h₃.map _).mem_iff,
    (h₄.map _).mem_iff]

theorem categorize_sameBuckets (servers : List RaftServer) (known : GoMap Server)
    (o₁ o₂ : RangeOrder) : SameBuckets (categorize servers known o₁) (categorize servers known o₂) :=
  fun b k => by rw [categorize_lookup, categorize_lookup]

theorem SameBuckets.keys_perm {s₁ s₂ : CategorizedServers} (h : SameBuckets s₁ s₂) (b : Bucket)
    (o₁ o₂ : RangeOrder) :
    (((s₁.bucket b).range o₁).map Prod.fst).Perm (((s₂.bucket b).range o₂).map Prod.fst) :=
  ((GoMap.range_keys_perm _ _).trans ((GoMap.perm_of_lookup (h b)).map _)).trans
    (GoMap.range_keys_perm _ _).symm

private theorem rel_bind {α β γ δ : Type} {r : α → β → Prop} {r' : γ → δ → Prop} {x : Option α}
    {y : Option β} {f : α → Option γ} {g : β → Option δ} (h : Option.Rel r x y)
    (hf : ∀ a b, r a b → Option.Rel r' (f a) (g b)) : Option.Rel r' (x.bind f) (y.bind g) := by
  cases h with
  | some hab => exact hf _ _ hab
  | none => exact .none

theorem failedServerRecords_perm (state : Option State) {ids₁ ids₂ : List ServerID}
    (h : ids₁.Perm ids₂) :
    Option.Rel List.Perm (failedServerRecords state ids₁) (failedServerRecords state ids₂) := by
  cases state with
  | none =>
    cases ids₁ with
    | nil => rw [h.symm.eq_nil]; exact .some (.refl _)
    | cons id ids =>
      cases ids₂ with
      | nil => exact absurd h.eq_nil (List.cons_ne_nil _ _)
      | cons => exact .none
  | some st =>
    rw [failedServerRecords_some, failedServerRecords_some]
    exact .some (h.filterMap _)

/-- Buckets with the same entries give the promoter the same candidates, each
list in some order, and panic together. -/
theorem SameBuckets.convertToFailedServers {s₁ s₂ : CategorizedServers} (h : SameBuckets s₁ s₂)
    (state : Option State) (o₁ o₂ : RangeSite → RangeOrder) :
    Option.Rel FailedServers.Perm (s₁.convertToFailedServers state o₁)
      (s₂.convertToFailedServers state o₂) := by
  simp only [CategorizedServers.convertToFailedServers, Option.bind_eq_bind]
  exact rel_bind (failedServerRecords_perm state (h.keys_perm .failedNonVoters _ _)) fun _ _ p₁ =>
    rel_bind (failedServerRecords_perm state (h.keys_perm .failedVoters _ _)) fun _ _ p₂ =>
      .some ⟨h.keys_perm .staleNonVoters _ _, h.keys_perm .staleVoters _ _, p₁, p₂⟩

theorem SameBuckets.convertFromFailedServers {s₁ s₂ : CategorizedServers} (h : SameBuckets s₁ s₂)
    {f₁ f₂ : FailedServers} (hf : ∀ b k, f₁.retains b k = f₂.retains b k) :
    SameBuckets (s₁.convertFromFailedServers f₁) (s₂.convertFromFailedServers f₂) := fun b k => by
  rw [convertFromFailedServers_lookup, convertFromFailedServers_lookup, hf, h]

/-- Under two orders, steps 1–2 of the pass end together or both succeed, with
the same config, buckets holding the same entries and, for a promoter whose
answer keeps the same IDs for the same candidates, the same kept IDs. -/
theorem filterFailedServers_congr (a : Autopilot) (o₁ o₂ : RangeSite → RangeOrder)
    (hf : ∀ conf st f₁ f₂, FailedServers.Perm f₁ f₂ → ∀ b k,
      (a.promoter.filterFailedServerRemovals conf st f₁).retains b k =
        (a.promoter.filterFailedServerRemovals conf st f₂).retains b k) :
    match a.filterFailedServers o₁, a.filterFailedServers o₂ with
    | .ok (conf₁, c₁, f₁), .ok (conf₂, c₂, f₂) =>
      conf₁ = conf₂ ∧ SameBuckets c₁ c₂ ∧ ∀ b k, f₁.retains b k = f₂.retains b k
    | .error _, .error _ => True
    | _, _ => False := by
  unfold Autopilot.filterFailedServers
  cases a.reconciliationEnabled
  · simp
  cases a.autopilotConfig with
  | none => simp
  | some conf =>
    by_cases hcl : conf.cleanupDeadServers = true
    swap
    · simp [hcl]
    cases a.raftConfiguration with
    | error e => simp [categorizeServers, Except.map, hcl]
    | ok servers =>
      have hs := categorize_sameBuckets servers a.knownServers (o₁ .knownServers) (o₂ .knownServers)
      have hrel := hs.convertToFailedServers a.state o₁ o₂
      simp only [categorizeServers, Except.map, hcl, Bool.not_true, Bool.false_eq_true, ↓reduceIte]
      generalize (categorize servers a.knownServers (o₁ .knownServers)).convertToFailedServers
        a.state o₁ = x₁ at hrel ⊢
      generalize (categorize servers a.knownServers (o₂ .knownServers)).convertToFailedServers
        a.state o₂ = x₂ at hrel ⊢
      cases hrel with
      | none => trivial
      | some hp => exact ⟨rfl, hs, hf _ _ _ _ hp⟩

section Buckets

variable {c : CategorizedServers} {servers : List RaftServer} {known : GoMap Server}
  {id : ServerID} {v : VoterEligibility}

/-- The voter buckets hold current voters only. -/
theorem Categorizes.voter (hc : Categorizes c servers known) {b : Bucket}
    (hb : b = .staleVoters ∨ b = .failedVoters ∨ b = .healthyVoters)
    (h : (c.bucket b).lookup id = some v) : v.currentVoter = true := by
  by_contra hv
  rw [Bool.not_eq_true] at hv
  cases hk : known.lookup id with
  | none =>
    have := (hc.stale b id v h hk).1
    rw [hv] at this
    rcases hb with rfl | rfl | rfl <;> cases this
  | some srv =>
    have := (hc.placed b id v srv h hk).1
    rw [hv] at this
    simp only [knownBucket, Bool.false_eq_true, ↓reduceIte] at this
    split_ifs at this <;> rcases hb with rfl | rfl | rfl <;> cases this

theorem Categorizes.uniformBuckets (hc : Categorizes c servers known) (f : FailedServers) :
    UniformBuckets (c.convertFromFailedServers f) where
  staleVoters k v h := by
    have h' := (@convertFromFailedServers_lookup_some c f .staleVoters k v h).2
    exact ⟨hc.voter (.inl rfl) h', (hc.stale _ _ _ h' (hc.stale_lookup (.inr rfl) h').2.1).2⟩
  failedNonVoters k v h := by
    have h' := (@convertFromFailedServers_lookup_some c f .failedNonVoters k v h).2
    rw [← Bool.not_eq_true, hc.currentVoter _ _ _ h']
    exact hc.not_voter (.inr (.inl rfl)) h'
  failedVoters k v h :=
    hc.voter (.inr (.inl rfl)) (@convertFromFailedServers_lookup_some c f .failedVoters k v h).2

end Buckets

theorem countP_removalBucket {servers : List RaftServer} {l : List Call} {b' : Bucket}
    (h : ∀ call ∈ l, call.removalBucket servers = some b') (b : Bucket) :
    l.countP (fun call => call.removalBucket servers == some b) = if b' = b then l.length else 0 := by
  split_ifs with hb
  · exact List.countP_eq_length.2 fun call hc => by simp [h call hc, hb]
  · exact List.countP_eq_zero.2 fun call hc => by simp [h call hc, hb]

theorem removeFailedServers_length {known : GoMap Server} {ids : List ServerID}
    (h : ∀ id ∈ ids, (known.lookup id).isSome) : (removeFailedServers known ids).length = ids.length := by
  induction ids with
  | nil => rfl
  | cons id ids ih =>
    obtain ⟨srv, hs⟩ := Option.isSome_iff_exists.1 (h id (List.mem_cons_self _ _))
    simp [removeFailedServers, List.filterMap_cons, hs, ← ih fun id' h' => h id' (List.mem_cons_of_mem _ h')]

section Plan

variable {c : CategorizedServers} {servers : List RaftServer} {known : GoMap Server}
  {conf : Config} {order : RangeSite → RangeOrder} {f : FailedServers}

/-- The plan's calls of each removal class are its IDs from that bucket. -/
theorem calls_countP_removalBucket (hc : Categorizes c servers known) (b : Bucket) :
    ((planRemovals conf order (c.convertFromFailedServers f)).calls known).countP
        (fun call => call.removalBucket servers == some b) =
      ((planRemovals conf order (c.convertFromFailedServers f)).get b).length := by
  set plan := planRemovals conf order (c.convertFromFailedServers f)
  have hid : ∀ {b' id}, id ∈ plan.get b' → ∃ v, (c.bucket b').lookup id = some v := fun h => by
    obtain ⟨v, hv⟩ := planRemovals_mem h
    exact ⟨v, (convertFromFailedServers_lookup_some hv).2⟩
  have voter : ∀ {b' id}, id ∈ plan.get b' → (b' = .staleVoters ∨ b' = .failedVoters) →
      lastSuffrage servers id = some .voter := fun h hb => by
    obtain ⟨v, hv⟩ := hid h
    exact (hc.currentVoter _ _ _ hv).1 (hc.voter (hb.imp id .inl) hv)
  have nonVoter : ∀ {b' id}, id ∈ plan.get b' → (b' = .staleNonVoters ∨ b' = .failedNonVoters) →
      lastSuffrage servers id ≠ some .voter := fun h hb => by
    obtain ⟨v, hv⟩ := hid h
    exact hc.not_voter (hb.imp id .inl) hv
  have isKnown : ∀ {b'}, (b' = .failedNonVoters ∨ b' = .failedVoters) →
      ∀ id ∈ plan.get b', (known.lookup id).isSome := fun hb _ h => by
    obtain ⟨v, hv⟩ := hid h
    exact hc.known_of_failed hb hv
  have failedMem : ∀ {l : List ServerID} {call}, call ∈ removeFailedServers known l →
      ∃ id srv, call = .removeFailedServer id srv ∧ id ∈ l := fun hm => by
    simp only [removeFailedServers, List.mem_filterMap, Option.map_eq_some'] at hm
    obtain ⟨id, h, srv, -, rfl⟩ := hm
    exact ⟨id, srv, rfl, h⟩
  have hA := @countP_removalBucket servers (plan.staleNonVoters.map .removeServer) .staleNonVoters
    (fun call hm => by
      obtain ⟨id, h, rfl⟩ := List.mem_map.1 hm
      simp [Call.removalBucket, @nonVoter .staleNonVoters id h (.inl rfl)]) b
  have hB := @countP_removalBucket servers (plan.staleVoters.map .removeServer) .staleVoters
    (fun call hm => by
      obtain ⟨id, h, rfl⟩ := List.mem_map.1 hm
      simp [Call.removalBucket, @voter .staleVoters id h (.inl rfl)]) b
  have hC := @countP_removalBucket servers (removeFailedServers known plan.failedNonVoters)
    .failedNonVoters (fun call hm => by
      obtain ⟨id, srv, rfl, h⟩ := failedMem hm
      simp [Call.removalBucket, @nonVoter .failedNonVoters id h (.inr rfl)]) b
  have hD := @countP_removalBucket servers (removeFailedServers known plan.failedVoters)
    .failedVoters (fun call hm => by
      obtain ⟨id, srv, rfl, h⟩ := failedMem hm
      simp [Call.removalBucket, @voter .failedVoters id h (.inr rfl)]) b
  have lC : (removeFailedServers known plan.failedNonVoters).length = plan.failedNonVoters.length :=
    removeFailedServers_length (@isKnown .failedNonVoters (.inl rfl))
  have lD : (removeFailedServers known plan.failedVoters).length = plan.failedVoters.length :=
    removeFailedServers_length (@isKnown .failedVoters (.inr rfl))
  simp only [RemovalPlan.calls, List.countP_append, hA, hB, hC, hD, lC, lD, List.length_map]
  cases b <;> simp [RemovalPlan.get]

end Plan

/-- When every `removeServer` call succeeds and the promoter keeps the same IDs
for the same candidates whatever their order, two passes under any two map
orders make as many removals of each class. -/
theorem pruneDeadServers_removal_counts (a : Autopilot) (o₁ o₂ : RangeSite → RangeOrder)
    {resp₁ resp₂ : Responder} (h₁ : ∀ tr id, resp₁ tr (.removeServer id) = none)
    (h₂ : ∀ tr id, resp₂ tr (.removeServer id) = none)
    (hf : ∀ conf st f₁ f₂, FailedServers.Perm f₁ f₂ → ∀ b k,
      (a.promoter.filterFailedServerRemovals conf st f₁).retains b k =
        (a.promoter.filterFailedServerRemovals conf st f₂).retains b k)
    (servers : List RaftServer) (hs : a.raftConfiguration = .ok servers) (b : Bucket) :
    (pruneDeadServers a o₁ resp₁).1.countP (·.removalBucket servers == some b) =
      (pruneDeadServers a o₂ resp₂).1.countP (·.removalBucket servers == some b) := by
  have hcg := filterFailedServers_congr a o₁ o₂ hf
  rw [pruneDeadServers_calls, pruneDeadServers_calls]
  rcases e₁ : a.filterFailedServers o₁ with _ | ⟨conf₁, c₁, f₁⟩
  · rcases e₂ : a.filterFailedServers o₂ with _ | ⟨conf₂, c₂, f₂⟩
    · rfl
    · rw [e₁, e₂] at hcg; exact hcg.elim
  rcases e₂ : a.filterFailedServers o₂ with _ | ⟨conf₂, c₂, f₂⟩
  · rw [e₁, e₂] at hcg; exact hcg.elim
  rw [e₁, e₂] at hcg
  obtain ⟨rfl, -, hret⟩ := hcg
  obtain ⟨-, s₁, hs₁, rfl⟩ := filterFailedServers_ok e₁
  obtain ⟨-, s₂, hs₂, rfl⟩ := filterFailedServers_ok e₂
  rw [hs] at hs₁ hs₂
  cases hs₁
  cases hs₂
  have hc₁ := categorize_categorizes servers a.knownServers (o₁ .knownServers)
  have hc₂ := categorize_categorizes servers a.knownServers (o₂ .knownServers)
  have l₁ := @planRemovals_length conf₁ o₁ _ (hc₁.uniformBuckets f₁) b
  have l₂ := @planRemovals_length conf₁ o₂ _ (hc₂.uniformBuckets f₂) b
  have hsize := @planSize_congr conf₁ _ _ (((categorize_sameBuckets servers a.knownServers
    (o₁ .knownServers) (o₂ .knownServers))).convertFromFailedServers hret) b
  simp only [removeDeadServers_of_ok _ _ _ h₁, removeDeadServers_of_ok _ _ _ h₂,
    RemovalPlan.callsReading_const, calls_countP_removalBucket hc₁, calls_countP_removalBucket hc₂]
  omega

/-- Failed voters A (NodeType voter) and B (another NodeType) with tolerance one:
the pass removes whichever it meets first, so the identity and the reversed
order remove different servers, one each. -/
theorem pruneDeadServers_removal_counts_reversed :
    let servers : List RaftServer :=
      [⟨.voter, "A"⟩, ⟨.voter, "B"⟩, ⟨.voter, "C"⟩, ⟨.nonvoter, "D"⟩, ⟨.nonvoter, "E"⟩]
    let srv : ServerID → NodeStatus → NodeType → Server := fun id st ty => ⟨id, id, st, ty⟩
    let a : Autopilot :=
      { reconciliationEnabled := true
        autopilotConfig := some ⟨true, 0, 0, 0⟩
        raftConfiguration := .ok servers
        knownServers := ((((GoMap.empty.insert "A" (srv "A" "failed" nodeVoter)).insert "B"
          (srv "B" "failed" "read-replica")).insert "C" (srv "C" nodeAlive nodeVoter)).insert "D"
          (srv "D" nodeAlive nodeVoter)).insert "E" (srv "E" nodeAlive nodeVoter)
        state := some ⟨(GoMap.empty.insert "A" ⟨srv "A" "failed" nodeVoter, raftVoter, ⟨0, 0, 0⟩,
          ⟨false⟩⟩).insert "B" ⟨srv "B" "failed" "read-replica", raftVoter, ⟨0, 0, 0⟩, ⟨false⟩⟩, "C"⟩
        promoter := ⟨fun _ _ => ⟨[], [], ""⟩, fun _ _ failed => failed⟩ }
    (pruneDeadServers a (fun _ => .id) fun _ _ => none).1 =
        [.removeFailedServer "B" (srv "B" "failed" "read-replica")] ∧
      (pruneDeadServers a (fun _ => .reverse) fun _ _ => none).1 =
        [.removeFailedServer "A" (srv "A" "failed" nodeVoter)] ∧
      (pruneDeadServers a (fun _ => .id) fun _ _ => none).1.countP
          (·.removalBucket servers == some .failedVoters) =
        (pruneDeadServers a (fun _ => .reverse) fun _ _ => none).1.countP
          (·.removalBucket servers == some .failedVoters) :=
  ⟨by decide, by decide, pruneDeadServers_removal_counts _ _ _ (fun _ _ => rfl) (fun _ _ => rfl)
    (fun _ _ _ _ hp => hp.retains) _ rfl .failedVoters⟩

/-- A pass makes at most `planSize` removals of each class, read off the buckets
the promoter's filter leaves, whatever the later reads of the known servers
return; exactly that many when every `removeServer` call succeeds and every
read still lists each server categorization found. -/
theorem pruneDeadServersReading_removal_sizes (a : Autopilot) (rereads : Nat → GoMap Server)
    (order : RangeSite → RangeOrder) (resp : Responder) :
    match a.filterFailedServers order with
    | .error _ => (pruneDeadServersReading a rereads order resp).1 = []
    | .ok (conf, c, f) => ∃ servers, a.raftConfiguration = .ok servers ∧ ∀ b,
        let n : Int := (pruneDeadServersReading a rereads order resp).1.countP
          (·.removalBucket servers == some b)
        n ≤ planSize conf (c.convertFromFailedServers f) b ∧
          ((∀ tr id, resp tr (.removeServer id) = none) →
            (∀ j id, (a.knownServers.lookup id).isSome → ((rereads j).lookup id).isSome) →
            n = planSize conf (c.convertFromFailedServers f) b) := by
  rw [pruneDeadServersReading_calls]
  rcases e : a.filterFailedServers order with _ | ⟨conf, c, f⟩
  · rfl
  obtain ⟨-, servers, hs, rfl⟩ := filterFailedServers_ok e
  have hc := categorize_categorizes servers a.knownServers (order .knownServers)
  have hk := @plan_failed_known _ servers a.knownServers conf order f hc
  refine ⟨servers, hs, fun b => ?_⟩
  dsimp only
  have hl := @planRemovals_length conf order _ (hc.uniformBuckets f) b
  rw [← calls_countP_removalBucket hc] at hl
  have hp : ∀ (id : ServerID) (srv srv' : Server),
      ((Call.removeFailedServer id srv).removalBucket servers == some b) =
        ((Call.removeFailedServer id srv').removalBucket servers == some b) := fun _ _ _ => rfl
  refine ⟨hl ▸ Int.ofNat_le.2 (removeDeadServers_countP_le hp rereads conf order resp _ hk),
    fun h hr => ?_⟩
  rw [removeDeadServers_countP_of_ok hp rereads conf order resp _ hk h
    fun j id hm => hr j id (hk id hm), hl]

/-- The stale voters the plan removes are the first
getFailureTolerance(PotentialVoters) stale voters the promoter kept, in the
adjudication's range order: the order decides which, never how many. -/
theorem planRemovals_staleVoters_take (servers : List RaftServer) (known : GoMap Server)
    (f : FailedServers) (conf : Config) (order : RangeSite → RangeOrder) :
    let c := (categorize servers known (order .knownServers)).convertFromFailedServers f
    (planRemovals conf order c).staleVoters =
      ((c.staleVoters.range (order (.adjudicate .staleVoters))).map Prod.fst).take
        (getFailureTolerance c.potentialVoters).toNat := by
  intro c
  have hu := (categorize_categorizes servers known (order .knownServers)).uniformBuckets f
  rw [planRemovals, adjudicateBucket_fst]
  exact adjudicateFrom_eq_take _ _ _ (range_forall hu.staleVoters)

/-- The failed non-voters the pass decides to remove: none while the failure
tolerance of PotentialVoters is below one; otherwise, in the adjudication's
range order, every one that is no potential voter, and the first potential
ones, as many as PotentialVoters exceeds `int(MinQuorum)`. -/
theorem planRemovals_failedNonVoters (servers : List RaftServer) (known : GoMap Server)
    (f : FailedServers) (conf : Config) (order : RangeSite → RangeOrder) :
    let c := (categorize servers known (order .knownServers)).convertFromFailedServers f
    (planRemovals conf order c).failedNonVoters =
      if getFailureTolerance c.potentialVoters < 1 then []
      else firstPotentials (c.potentialVoters - uintToInt conf.minQuorum).toNat
        (c.failedNonVoters.range (order (.adjudicate .failedNonVoters))) := by
  intro c
  have hu := (categorize_categorizes servers known (order .knownServers)).uniformBuckets f
  have hP := @adjudicateBucket_stale_potentialVoters conf order c .staleVoters rfl
  have hB : (adjudicateBucket conf order c .staleVoters).2.bucket .failedNonVoters =
      c.failedNonVoters := adjudicateBucket_bucket (by decide)
  show (adjudicateBucket conf order (adjudicateBucket conf order c .staleVoters).2
    .failedNonVoters).1 = _
  rw [@adjudicateBucket_eq_counting _ _ _ .failedNonVoters rfl, hP, hB]
  split_ifs with ht
  · exact adjudicateCounting_of_lt_one _ _ ht
  · exact adjudicateCounting_nonVoters _ _ (by omega) (range_forall hu.failedNonVoters)

end RaftAutopilot
