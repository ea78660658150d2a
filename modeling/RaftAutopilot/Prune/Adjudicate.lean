import RaftAutopilot.Model.Autopilot

/-! # Quorum-safety adjudication

`adjudicateRemoval` walks a bucket in Go's `range` order and decides, entry by
entry, whether the entry may be removed. It reads the failure tolerance once,
from the count provider, and spends it on current voters; a potential voter
is also refused while removing it would leave fewer than `minQuorum` counted
voters, the provider being read again at that point. Accepted entries are
deleted from the bucket in place, which the provider may itself be reading.
`adjudicateCounting` is the same loop with the count kept in a local
variable; for a provider that counts the bucket the two agree.

Go's `int` is unbounded here: every value is a count of map entries. The
conversion `int(minQuorum)` of the 64-bit `uint` keeps its wrap.
-/
namespace RaftAutopilot

def getFailureTolerance (nodes : Int) : Int := (nodes - 1).tdiv 2

/-- `int(u)` for a 64-bit `uint`: the same bits read as a two's-complement `int`. -/
def uintToInt (u : UInt64) : Int :=
  if u.toNat < UInt64.size / 2 then u.toNat else u.toNat - UInt64.size

def isRemovalQuorate (voters : Int) (minQuorum : UInt64) : Bool :=
  voters - 1 ≥ uintToInt minQuorum

/-- adjudicateRemoval's loop from the entry it has reached: the entries still to
visit, the bucket as it stands and the tolerance left. It returns the accepted
IDs and the final bucket. Bucket entries are never nil, so the `v != nil`
guards hold. -/
def adjudicateFrom (voterCountProvider : RaftServers → Int) (minQuorum : UInt64) :
    List (ServerID × VoterEligibility) → RaftServers → Int → List ServerID × RaftServers
  | [], s, _ => ([], s)
  | (id, v) :: rest, s, failureTolerance =>
    if failureTolerance < 1 then
      adjudicateFrom voterCountProvider minQuorum rest s failureTolerance
    else if v.potentialVoter && !isRemovalQuorate (voterCountProvider s) minQuorum then
      adjudicateFrom voterCountProvider minQuorum rest s failureTolerance
    else if v.currentVoter then
      let r := adjudicateFrom voterCountProvider minQuorum rest (s.erase id) (failureTolerance - 1)
      (id :: r.1, r.2)
    else
      let r := adjudicateFrom voterCountProvider minQuorum rest (s.erase id) failureTolerance
      (id :: r.1, r.2)

/-- `adjudicateRemoval`: the accepted IDs, in order, and the bucket it leaves. -/
def adjudicateRemoval (voterCountProvider : RaftServers → Int) (s : RaftServers)
    (minQuorum : UInt64) (order : RangeOrder) : List ServerID × RaftServers :=
  adjudicateFrom voterCountProvider minQuorum (s.range order) s
    (getFailureTolerance (voterCountProvider s))

/-- adjudicateRemoval with the voter count kept in a local variable instead of
read from the provider: it starts at the provider's value and drops by one with
each accepted potential voter. -/
def adjudicateCounting (minQuorum : UInt64) :
    List (ServerID × VoterEligibility) → Int → Int → List ServerID
  | [], _, _ => []
  | (id, v) :: rest, voters, failureTolerance =>
    if failureTolerance < 1 ∨ v.potentialVoter ∧ voters - 1 < uintToInt minQuorum then
      adjudicateCounting minQuorum rest voters failureTolerance
    else
      id :: adjudicateCounting minQuorum rest (if v.potentialVoter then voters - 1 else voters)
        (if v.currentVoter then failureTolerance - 1 else failureTolerance)

/-- Every entry that is no potential voter, and the first `k` potential voters,
in visiting order. -/
def firstPotentials : Nat → List (ServerID × VoterEligibility) → List ServerID
  | _, [] => []
  | k, (id, v) :: rest =>
    if v.potentialVoter then
      match k with
      | 0 => firstPotentials 0 rest
      | k + 1 => id :: firstPotentials k rest
    else id :: firstPotentials k rest

theorem adjudicateCounting_of_lt_one {mq : UInt64} (visit : List (ServerID × VoterEligibility))
    (n : Int) {tol : Int} (h : tol < 1) : adjudicateCounting mq visit n tol = [] := by
  induction visit with
  | nil => rfl
  | cons e rest ih => simp [adjudicateCounting, h, ih]

/-- Over non-voters with tolerance to spend, the counting loop accepts every
entry that is no potential voter and as many potential ones as the count has
headroom above `int(minQuorum)`. -/
theorem adjudicateCounting_nonVoters {mq : UInt64} (visit : List (ServerID × VoterEligibility))
    (n : Int) {tol : Int} (ht : 1 ≤ tol) (hc : ∀ e ∈ visit, e.2.currentVoter = false) :
    adjudicateCounting mq visit n tol = firstPotentials (n - uintToInt mq).toNat visit := by
  induction visit generalizing n with
  | nil => rfl
  | cons e rest ih =>
    obtain ⟨id, v⟩ := e
    have hc' := fun e he => hc e (List.mem_cons_of_mem _ he)
    rw [adjudicateCounting, hc _ (List.mem_cons_self _ _)]
    cases hpv : v.potentialVoter
    · simp [firstPotentials, hpv, ih _ hc', show ¬tol < 1 by omega]
    · by_cases hq : n - 1 < uintToInt mq
      · simp [firstPotentials, hpv, hq, ih _ hc', show (n - uintToInt mq).toNat = 0 by omega]
      · simp [firstPotentials, hpv, hq, ih _ hc', show ¬tol < 1 by omega,
          show (n - uintToInt mq).toNat = (n - 1 - uintToInt mq).toNat + 1 by omega]

theorem getFailureTolerance_eq (n : Int) :
    getFailureTolerance n = if 1 ≤ n then (n - 1) / 2 else -((1 - n) / 2) := by
  unfold getFailureTolerance
  split_ifs with h
  · exact Int.tdiv_eq_ediv (by omega) (by decide)
  · rw [show n - 1 = -(1 - n) by omega, Int.neg_tdiv, Int.tdiv_eq_ediv (by omega) (by decide)]

theorem getFailureTolerance_lt_one {n : Int} : getFailureTolerance n < 1 ↔ n ≤ 2 := by
  rw [getFailureTolerance_eq]; split_ifs <;> omega

theorem getFailureTolerance_mono {n m : Int} (h : n ≤ m) :
    getFailureTolerance n ≤ getFailureTolerance m := by
  rw [getFailureTolerance_eq, getFailureTolerance_eq]; split_ifs <;> omega

theorem getFailureTolerance_nonneg {n : Int} (h : 0 ≤ n) : 0 ≤ getFailureTolerance n := by
  rw [getFailureTolerance_eq]; split_ifs <;> omega

theorem uintToInt_of_lt {u : UInt64} (h : u.toNat < UInt64.size / 2) : uintToInt u = u.toNat := by
  rw [uintToInt, if_pos h]

section Loop

variable {p : RaftServers → Int} {mq : UInt64}

/-- Every accepted ID is a visited key, in visiting order. -/
theorem adjudicateFrom_sublist (visit : List (ServerID × VoterEligibility)) (s : RaftServers)
    (tol : Int) : (adjudicateFrom p mq visit s tol).1.Sublist (visit.map Prod.fst) := by
  induction visit generalizing s tol with
  | nil => simp [adjudicateFrom]
  | cons e rest ih =>
    obtain ⟨id, v⟩ := e
    simp only [adjudicateFrom]
    split_ifs <;> simp [ih]

/-- The bucket left is the bucket without the accepted IDs. -/
theorem adjudicateFrom_lookup (visit : List (ServerID × VoterEligibility)) (s : RaftServers)
    (tol : Int) (k : ServerID) :
    (adjudicateFrom p mq visit s tol).2.lookup k =
      if k ∈ (adjudicateFrom p mq visit s tol).1 then none else s.lookup k := by
  induction visit generalizing s tol with
  | nil => simp [adjudicateFrom]
  | cons e rest ih =>
    obtain ⟨id, v⟩ := e
    simp only [adjudicateFrom]
    split_ifs <;> simp only [ih, GoMap.lookup_erase, List.mem_cons] <;> split_ifs <;> simp_all

theorem adjudicateFrom_of_lt_one (visit : List (ServerID × VoterEligibility)) (s : RaftServers)
    {tol : Int} (h : tol < 1) : adjudicateFrom p mq visit s tol = ([], s) := by
  induction visit with
  | nil => rfl
  | cons e rest ih => obtain ⟨id, v⟩ := e; simp [adjudicateFrom, h, ih]

/-- The visited entries are the bucket's own, under distinct keys. -/
def Visits (visit : List (ServerID × VoterEligibility)) (s : RaftServers) : Prop :=
  (visit.map Prod.fst).Nodup ∧ ∀ e ∈ visit, s.lookup e.1 = some e.2

theorem Visits.tail {id : ServerID} {v : VoterEligibility} {rest : List (ServerID × VoterEligibility)}
    {s : RaftServers} (h : Visits ((id, v) :: rest) s) : Visits rest s :=
  ⟨(List.nodup_cons.1 h.1).2, fun e he => h.2 e (List.mem_cons_of_mem _ he)⟩

theorem Visits.erase {id : ServerID} {v : VoterEligibility} {rest : List (ServerID × VoterEligibility)}
    {s : RaftServers} (h : Visits ((id, v) :: rest) s) : Visits rest (s.erase id) := by
  refine ⟨(List.nodup_cons.1 h.1).2, fun e he => ?_⟩
  have hne : e.1 ≠ id := fun h' => (List.nodup_cons.1 h.1).1 (List.mem_map.2 ⟨e, he, h'⟩)
  simp [hne, h.2 e (List.mem_cons_of_mem _ he)]

theorem Visits.head {id : ServerID} {v : VoterEligibility} {rest : List (ServerID × VoterEligibility)}
    {s : RaftServers} (h : Visits ((id, v) :: rest) s) : s.lookup id = some v :=
  h.2 _ (List.mem_cons_self _ _)

theorem visits_range (s : RaftServers) (o : RangeOrder) : Visits (s.range o) s :=
  ⟨s.range_nodupKeys o, fun _ he => GoMap.lookup_eq_some_iff.2 (GoMap.mem_range.1 he)⟩

/-- Current voters accepted, counted against a reference bucket `s₀` holding the
visited entries: at most the tolerance. -/
theorem adjudicateFrom_currentVoters_le {s₀ : RaftServers} (visit : List (ServerID × VoterEligibility))
    (hv : ∀ e ∈ visit, s₀.lookup e.1 = some e.2) (s : RaftServers) (tol : Int) :
    (((adjudicateFrom p mq visit s tol).1.countP fun id => (s₀.lookup id).any (·.currentVoter)) : Int)
      ≤ max tol 0 := by
  induction visit generalizing s tol with
  | nil => simp [adjudicateFrom]
  | cons e rest ih =>
    obtain ⟨id, v⟩ := e
    have hrest := fun e he => hv e (List.mem_cons_of_mem _ he)
    have hid : s₀.lookup id = some v := hv _ (List.mem_cons_self _ _)
    simp only [adjudicateFrom]
    split_ifs with h₁ h₂ h₃
    · exact ih hrest s tol
    · exact ih hrest s tol
    · have := ih hrest (s.erase id) (tol - 1)
      simp only [List.countP_cons, hid, Option.any_some, h₃, ↓reduceIte]
      omega
    · have := ih hrest (s.erase id) tol
      simp only [Bool.not_eq_true] at h₃
      simp only [List.countP_cons, hid, Option.any_some, h₃, Bool.false_eq_true, ↓reduceIte]
      omega

/-- The bucket's potential voters drop by exactly the potential voters accepted,
counted against a reference bucket `s₀` holding the visited entries. -/
theorem adjudicateFrom_count {s₀ : RaftServers} (visit : List (ServerID × VoterEligibility))
    (h₀ : ∀ e ∈ visit, s₀.lookup e.1 = some e.2) (s : RaftServers) (tol : Int)
    (hv : Visits visit s) :
    (adjudicateFrom p mq visit s tol).2.count (·.potentialVoter) +
      ((adjudicateFrom p mq visit s tol).1.countP fun id => (s₀.lookup id).any (·.potentialVoter)) =
      s.count (·.potentialVoter) := by
  induction visit generalizing s tol with
  | nil => simp [adjudicateFrom]
  | cons e rest ih =>
    obtain ⟨id, v⟩ := e
    have h₀' := fun e he => h₀ e (List.mem_cons_of_mem _ he)
    have hid : s₀.lookup id = some v := h₀ _ (List.mem_cons_self _ _)
    have hc := GoMap.count_erase (·.potentialVoter) hv.head
    simp only [adjudicateFrom]
    split_ifs
    · exact ih h₀' s tol hv.tail
    · exact ih h₀' s tol hv.tail
    · have := ih h₀' (s.erase id) (tol - 1) hv.erase
      simp only [List.countP_cons, hid, Option.any_some] at this hc ⊢
      omega
    · have := ih h₀' (s.erase id) tol hv.erase
      simp only [List.countP_cons, hid, Option.any_some] at this hc ⊢
      omega

/-- A visited entry stays when the tolerance is spent, or when it is a
potential voter whose removal is not quorate. -/
theorem adjudicateFrom_cons_skip {id : ServerID} {v : VoterEligibility}
    {rest : List (ServerID × VoterEligibility)} {s : RaftServers} {tol : Int}
    (h : tol < 1 ∨ v.potentialVoter = true ∧ p s - 1 < uintToInt mq) :
    adjudicateFrom p mq ((id, v) :: rest) s tol = adjudicateFrom p mq rest s tol := by
  rcases h with h | ⟨h₁, h₂⟩
  · simp [adjudicateFrom, h]
  · have : ¬p s - 1 ≥ uintToInt mq := by omega
    by_cases ht : tol < 1 <;> simp [adjudicateFrom, ht, h₁, isRemovalQuorate, this]

/-- Otherwise it goes, and a current voter spends one unit of tolerance. -/
theorem adjudicateFrom_cons_accept {id : ServerID} {v : VoterEligibility}
    {rest : List (ServerID × VoterEligibility)} {s : RaftServers} {tol : Int} (ht : 1 ≤ tol)
    (hq : v.potentialVoter = true → uintToInt mq ≤ p s - 1) :
    adjudicateFrom p mq ((id, v) :: rest) s tol =
      let r := adjudicateFrom p mq rest (s.erase id) (if v.currentVoter then tol - 1 else tol)
      (id :: r.1, r.2) := by
  have ht' : ¬tol < 1 := by omega
  cases hpv : v.potentialVoter
  · cases hcv : v.currentVoter <;> simp [adjudicateFrom, ht', hpv, hcv]
  · have : p s - 1 ≥ uintToInt mq := hq hpv
    cases hcv : v.currentVoter <;> simp [adjudicateFrom, ht', hpv, hcv, isRemovalQuorate, this]

/-- The provider is read for potential voters only. -/
theorem adjudicateFrom_provider_congr (p' : RaftServers → Int)
    (visit : List (ServerID × VoterEligibility)) (s : RaftServers) (tol : Int)
    (h : ∀ e ∈ visit, e.2.potentialVoter = false) :
    adjudicateFrom p mq visit s tol = adjudicateFrom p' mq visit s tol := by
  induction visit generalizing s tol with
  | nil => rfl
  | cons e rest ih =>
    obtain ⟨id, v⟩ := e
    have hv : v.potentialVoter = false := h _ (List.mem_cons_self _ _)
    have h' := fun e he => h e (List.mem_cons_of_mem _ he)
    simp only [adjudicateFrom, hv, Bool.false_and, ih _ _ h']

/-- Over current voters none of which is a potential voter, adjudication
accepts the first `tol` entries in visiting order. -/
theorem adjudicateFrom_eq_take (visit : List (ServerID × VoterEligibility)) (s : RaftServers)
    (tol : Int) (hc : ∀ e ∈ visit, e.2.currentVoter = true ∧ e.2.potentialVoter = false) :
    (adjudicateFrom p mq visit s tol).1 = (visit.map Prod.fst).take tol.toNat := by
  induction visit generalizing s tol with
  | nil => simp [adjudicateFrom]
  | cons e rest ih =>
    obtain ⟨id, v⟩ := e
    obtain ⟨hcv, hpv⟩ : v.currentVoter = true ∧ v.potentialVoter = false :=
      hc _ (List.mem_cons_self _ _)
    have hc' := fun e he => hc e (List.mem_cons_of_mem _ he)
    by_cases ht : tol < 1
    · rw [adjudicateFrom_cons_skip (.inl ht), adjudicateFrom_of_lt_one _ _ ht,
        show tol.toNat = 0 by omega]
      rfl
    · rw [adjudicateFrom_cons_accept (by omega) (by simp [hpv]), show tol.toNat = (tol - 1).toNat + 1 by omega]
      simp [hcv, ih _ _ hc']

section Uniform

variable {K : Int} (hp : ∀ s', p s' = K + s'.count (·.potentialVoter))
include hp

/-- Erasing a visited entry lowers the count by that entry's own potential vote. -/
theorem provider_erase {s : RaftServers} {id : ServerID} {v : VoterEligibility}
    (h : s.lookup id = some v) : p (s.erase id) = p s - if v.potentialVoter then 1 else 0 := by
  rw [hp, hp, GoMap.count_erase (·.potentialVoter) h]
  split_ifs <;> omega

/-- A provider that counts the bucket's potential voters sees each accepted one
go, so re-reading it is keeping a counter. -/
theorem adjudicateFrom_eq_counting (visit : List (ServerID × VoterEligibility)) (s : RaftServers)
    (tol : Int) (hv : Visits visit s) :
    (adjudicateFrom p mq visit s tol).1 = adjudicateCounting mq visit (p s) tol := by
  induction visit generalizing s tol with
  | nil => rfl
  | cons e rest ih =>
    obtain ⟨id, v⟩ := e
    by_cases hq : tol < 1 ∨ v.potentialVoter = true ∧ p s - 1 < uintToInt mq
    · rw [adjudicateFrom_cons_skip hq, ih s tol hv.tail, adjudicateCounting, if_pos hq]
    · have he : p (s.erase id) = if v.potentialVoter then p s - 1 else p s := by
        rw [provider_erase hp hv.head]; split_ifs <;> omega
      rw [adjudicateCounting, if_neg hq, ← he, ← ih _ _ hv.erase]
      simp only [not_or, not_and, not_lt] at hq
      rw [adjudicateFrom_cons_accept hq.1 hq.2]

/-- A count provider that reads the bucket itself: removing a potential voter is
refused while it would take the count below `int(minQuorum)`, so the count
ends at or above the smaller of its start and that floor. -/
theorem adjudicateFrom_quorum (visit : List (ServerID × VoterEligibility)) (s : RaftServers)
    (tol : Int) (hv : Visits visit s) : min (p s) (uintToInt mq) ≤ p (adjudicateFrom p mq visit s tol).2 := by
  induction visit generalizing s tol with
  | nil => simp [adjudicateFrom]
  | cons e rest ih =>
    obtain ⟨id, v⟩ := e
    by_cases hq : tol < 1 ∨ v.potentialVoter = true ∧ p s - 1 < uintToInt mq
    · rw [adjudicateFrom_cons_skip hq]
      exact ih s tol hv.tail
    · simp only [not_or, not_and, not_lt] at hq
      rw [adjudicateFrom_cons_accept hq.1 hq.2]
      refine le_trans ?_ (ih (s.erase id) _ hv.erase)
      rw [provider_erase hp hv.head]
      split_ifs with hpv
      · have := hq.2 hpv
        omega
      · omega

/-- Over current voters, every acceptance spends tolerance: all non-potential
entries and the potential ones the headroom above `int(minQuorum)` allows go,
up to the tolerance. -/
theorem adjudicateFrom_voters_length (visit : List (ServerID × VoterEligibility))
    (s : RaftServers) (tol : Int) (hv : Visits visit s)
    (hc : ∀ e ∈ visit, e.2.currentVoter = true) :
    ((adjudicateFrom p mq visit s tol).1.length : Int) = if tol < 1 then 0 else
      min tol (visit.countP (!·.2.potentialVoter) +
        min (visit.countP (·.2.potentialVoter) : Int) (max 0 (p s - uintToInt mq))) := by
  induction visit generalizing s tol with
  | nil => simp only [adjudicateFrom, List.length_nil, List.countP_nil]; split_ifs <;> omega
  | cons e rest ih =>
    obtain ⟨id, v⟩ := e
    have hc' := fun e he => hc e (List.mem_cons_of_mem _ he)
    by_cases ht : tol < 1
    · simp [ht, adjudicateFrom_of_lt_one _ _ ht]
    rw [if_neg ht]
    by_cases hq : v.potentialVoter = true ∧ p s - 1 < uintToInt mq
    · rw [adjudicateFrom_cons_skip (.inr hq), ih s tol hv.tail hc', if_neg ht]
      simp only [List.countP_cons, hq.1, Bool.not_true, Bool.false_eq_true, ↓reduceIte]
      omega
    · have := ih (s.erase id) (tol - 1) hv.erase hc'
      rw [adjudicateFrom_cons_accept (by omega) (fun h => by simp only [h, true_and] at hq; omega),
        hc _ (List.mem_cons_self _ _)]
      rw [provider_erase hp hv.head] at this
      simp only [↓reduceIte, List.length_cons, List.countP_cons] at this ⊢
      cases hpv : v.potentialVoter <;> simp only [hpv, ↓reduceIte, Bool.not_true, Bool.not_false,
        Bool.false_eq_true, true_and, not_lt] at hq this ⊢ <;> split_ifs at this <;> omega

/-- Over entries that are not current voters the tolerance never moves: all
non-potential entries go, and potential ones while the count stays above
`int(minQuorum)`. -/
theorem adjudicateFrom_nonVoters (visit : List (ServerID × VoterEligibility))
    (s : RaftServers) {tol : Int} (ht : 1 ≤ tol) (hv : Visits visit s)
    (hc : ∀ e ∈ visit, e.2.currentVoter = false) :
    ((adjudicateFrom p mq visit s tol).1.length : Int) = visit.countP (!·.2.potentialVoter) +
        min (visit.countP (·.2.potentialVoter) : Int) (max 0 (p s - uintToInt mq)) ∧
      p (adjudicateFrom p mq visit s tol).2 =
        p s - min (visit.countP (·.2.potentialVoter) : Int) (max 0 (p s - uintToInt mq)) := by
  induction visit generalizing s with
  | nil => simp [adjudicateFrom]
  | cons e rest ih =>
    obtain ⟨id, v⟩ := e
    have hc' := fun e he => hc e (List.mem_cons_of_mem _ he)
    by_cases hq : v.potentialVoter = true ∧ p s - 1 < uintToInt mq
    · have := ih s hv.tail hc'
      rw [adjudicateFrom_cons_skip (.inr hq)]
      simp only [List.countP_cons, hq.1, Bool.not_true, Bool.false_eq_true, ↓reduceIte]
      omega
    · have := ih (s.erase id) hv.erase hc'
      rw [adjudicateFrom_cons_accept ht (fun h => by simp only [h, true_and] at hq; omega),
        hc _ (List.mem_cons_self _ _)]
      rw [provider_erase hp hv.head] at this
      simp only [Bool.false_eq_true, ↓reduceIte, List.length_cons, List.countP_cons] at this ⊢
      cases hpv : v.potentialVoter <;> simp only [hpv, ↓reduceIte, Bool.not_true, Bool.not_false,
        Bool.false_eq_true, true_and, not_lt] at hq this ⊢ <;> omega

end Uniform

end Loop

/-- Current voters `adjudicateRemoval` emits, counted in the bucket it was
given: none when the tolerance read at entry is below one, and never more
than that tolerance. -/
theorem adjudicateRemoval_failureTolerance (voterCountProvider : RaftServers → Int)
    (s : RaftServers) (minQuorum : UInt64) (order : RangeOrder) :
    let tol := getFailureTolerance (voterCountProvider s)
    let ids := (adjudicateRemoval voterCountProvider s minQuorum order).1
    (tol < 1 → ids = []) ∧
      (1 ≤ tol → ((ids.countP fun id => (s.lookup id).any (·.currentVoter)) : Int) ≤ tol) := by
  refine ⟨fun h => by simp [adjudicateRemoval, adjudicateFrom_of_lt_one _ _ h], fun h => ?_⟩
  have := @adjudicateFrom_currentVoters_le voterCountProvider minQuorum s (s.range order)
    (visits_range s order).2 s (getFailureTolerance (voterCountProvider s))
  simp only [adjudicateRemoval]
  omega

/-- The loop deletes only the entry it stands on, so it returns distinct keys of
the bucket and leaves the bucket holding exactly its other entries, unchanged. -/
theorem adjudicateRemoval_bucket (voterCountProvider : RaftServers → Int) (s : RaftServers)
    (minQuorum : UInt64) (order : RangeOrder) :
    let r := adjudicateRemoval voterCountProvider s minQuorum order
    r.1.Nodup ∧ (∀ id ∈ r.1, id ∈ s.keys) ∧
      ∀ k, r.2.lookup k = if k ∈ r.1 then none else s.lookup k :=
  ⟨(visits_range s order).1.sublist (adjudicateFrom_sublist _ _ _),
    fun _ h => (s.range_keys_perm order).subset ((adjudicateFrom_sublist _ _ _).subset h),
    adjudicateFrom_lookup _ _ _⟩

/-- With `minQuorum = 2^63`, `int(minQuorum)` is `-2^63`: every count is quorate,
and a potential voter goes although the count drops below both its start and
`minQuorum`. -/
theorem adjudicateRemoval_wrapped_minQuorum :
    let s : RaftServers := GoMap.empty.insert "A" ⟨true, true⟩
    let p := fun s' : RaftServers => 2 + (s'.count (·.potentialVoter) : Int)
    p (adjudicateRemoval p s 9223372036854775808 .id).2 <
      min (p s) ((9223372036854775808 : UInt64).toNat : Int) := by
  decide

/-- Reading the count again after each in-place deletion is keeping a counter:
for a provider that counts the bucket's potential voters over a fixed base,
adjudicateRemoval accepts what the loop with a local count accepts. -/
theorem adjudicateRemoval_eq_counting (voterCountProvider : RaftServers → Int) (base : Int)
    (hp : ∀ s', voterCountProvider s' = base + s'.count (·.potentialVoter))
    (s : RaftServers) (minQuorum : UInt64) (order : RangeOrder) :
    (adjudicateRemoval voterCountProvider s minQuorum order).1 =
      adjudicateCounting minQuorum (s.range order) (voterCountProvider s)
        (getFailureTolerance (voterCountProvider s)) :=
  adjudicateFrom_eq_counting hp _ _ _ (visits_range s order)

theorem adjudicateRemoval_eq_counting_potentialVoters :
    let s : RaftServers := (GoMap.empty.insert "A" ⟨false, true⟩).insert "B" ⟨false, true⟩
    let p := fun s' : RaftServers => 3 + (s'.count (·.potentialVoter) : Int)
    (∀ s', p s' = 3 + s'.count (·.potentialVoter)) ∧
      (adjudicateRemoval p s 3 .id).1 =
        adjudicateCounting 3 (s.range .id) (p s) (getFailureTolerance (p s)) :=
  ⟨fun _ => rfl, adjudicateRemoval_eq_counting _ 3 (fun _ => rfl) _ _ _⟩

end RaftAutopilot
