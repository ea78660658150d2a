import Mathlib.Data.List.Perm.Basic
import Mathlib.Data.List.Nodup

/-! # Go maps keyed by server ID

Every table the autopilot core reads or builds is a Go map keyed by
`raft.ServerID`. A map is its list of entries with distinct keys; `m[k]` looks
the key up, `delete` filters it out and `m[k] = v` replaces or adds its entry.
A `range` statement visits the entries in an order Go leaves unspecified, so
each one is given a `RangeOrder`: any permutation, carried with its proof.
-/
namespace RaftAutopilot

/-- `raft.ServerID`. -/
abbrev ServerID := String

/-- A Go map keyed by server ID: entries whose keys are distinct. -/
structure GoMap (V : Type) where
  entries : List (ServerID × V)
  nodupKeys : (entries.map Prod.fst).Nodup

/-- The order one `for k, v := range m` statement visits the entries in. -/
structure RangeOrder where
  arrange : {V : Type} → List (ServerID × V) → List (ServerID × V)
  perm : ∀ {V : Type} (l : List (ServerID × V)), (arrange l).Perm l

namespace GoMap
variable {V : Type} {m : GoMap V} {k k' : ServerID} {v : V}

def keys (m : GoMap V) : List ServerID := m.entries.map Prod.fst

/-- `v, found := m[k]`. -/
def lookup (m : GoMap V) (k : ServerID) : Option V := m.entries.lookup k

/-- `make(map[raft.ServerID]V)`. -/
def empty : GoMap V := ⟨[], List.nodup_nil⟩

/-- `delete(m, k)`. -/
def erase (m : GoMap V) (k : ServerID) : GoMap V :=
  ⟨m.entries.filter (fun e => e.1 != k), m.nodupKeys.sublist ((List.filter_sublist _).map _)⟩

/-- `m[k] = v`. -/
def insert (m : GoMap V) (k : ServerID) (v : V) : GoMap V :=
  ⟨(k, v) :: (m.erase k).entries, List.nodup_cons.2 ⟨by simp [erase], (m.erase k).nodupKeys⟩⟩

/-- The number of entries whose value satisfies `p`. -/
def count (m : GoMap V) (p : V → Bool) : Nat := m.entries.countP (fun e => p e.2)

/-- The entries in the order a `range` statement visits them. -/
def range (m : GoMap V) (o : RangeOrder) : List (ServerID × V) := o.arrange m.entries

theorem lookup_cons_ite (e : ServerID × V) (l : List (ServerID × V)) :
    (e :: l).lookup k = if k = e.1 then some e.2 else l.lookup k := by
  rw [List.lookup_cons]; split <;> simp_all

theorem lookup_of_mem {l : List (ServerID × V)} (hn : (l.map Prod.fst).Nodup) (h : (k, v) ∈ l) :
    l.lookup k = some v := by
  induction l with
  | nil => simp at h
  | cons e l ih =>
    obtain ⟨he, hn⟩ := List.nodup_cons.1 hn
    rcases List.mem_cons.1 h with rfl | h
    · simp [lookup_cons_ite]
    · have hne : k ≠ e.1 := by rintro rfl; exact he (List.mem_map.2 ⟨_, h, rfl⟩)
      simp [lookup_cons_ite, hne, ih hn h]

theorem mem_of_lookup {l : List (ServerID × V)} (h : l.lookup k = some v) : (k, v) ∈ l := by
  obtain ⟨l₁, l₂, rfl, -⟩ := List.lookup_eq_some_iff.1 h
  simp

theorem lookup_eq_some_iff : m.lookup k = some v ↔ (k, v) ∈ m.entries :=
  ⟨mem_of_lookup, lookup_of_mem m.nodupKeys⟩

theorem lookup_eq_none_of_not_mem {l : List (ServerID × V)} (h : k ∉ l.map Prod.fst) :
    l.lookup k = none :=
  List.lookup_eq_none_iff.2 fun e he => bne_iff_ne.2 fun h' => h (List.mem_map.2 ⟨e, he, h'.symm⟩)

theorem lookup_eq_none_iff : m.lookup k = none ↔ k ∉ m.keys := by
  simp only [lookup, keys, List.lookup_eq_none_iff, List.mem_map, not_exists, not_and,
    bne_iff_ne, ne_eq]
  exact ⟨fun h e he hk => h e he hk.symm, fun h e he hk => h e he hk.symm⟩

theorem mem_keys_iff : k ∈ m.keys ↔ ∃ v, m.lookup k = some v := by
  rw [← not_iff_not, ← lookup_eq_none_iff]
  cases m.lookup k <;> simp

@[simp] theorem lookup_empty : (empty : GoMap V).lookup k = none := rfl

theorem lookup_filter_ne (l : List (ServerID × V)) :
    (l.filter (fun e => e.1 != k)).lookup k' = if k' = k then none else l.lookup k' := by
  induction l with
  | nil => simp
  | cons e l ih =>
    by_cases h : e.1 = k
    · simp only [List.filter_cons, h, bne_self_eq_false, Bool.false_eq_true, ↓reduceIte, ih,
        lookup_cons_ite]
      split <;> simp_all
    · simp only [List.filter_cons, bne_iff_ne, ne_eq, h, not_false_eq_true, ↓reduceIte,
        lookup_cons_ite, ih]
      split <;> simp_all

@[simp] theorem lookup_erase : (m.erase k).lookup k' = if k' = k then none else m.lookup k' :=
  lookup_filter_ne _

@[simp] theorem lookup_insert :
    (m.insert k v).lookup k' = if k' = k then some v else m.lookup k' := by
  have h : (m.erase k).lookup k' = _ := lookup_erase
  by_cases hk : k' = k <;> simp_all [insert, lookup, lookup_cons_ite]

/-- Erasing a present entry takes it out of every count it was in. -/
theorem count_erase (p : V → Bool) (h : m.lookup k = some v) :
    m.count p = (m.erase k).count p + if p v then 1 else 0 := by
  obtain ⟨entries, hn⟩ := m
  simp only [lookup, count, erase] at h ⊢
  induction entries with
  | nil => simp at h
  | cons e l ih =>
    obtain ⟨he, hn⟩ := List.nodup_cons.1 hn
    by_cases hk : e.1 = k
    · subst hk
      have hv : e.2 = v := by simpa [lookup_cons_ite] using h
      have hl : l.filter (fun e' => e'.1 != e.1) = l :=
        List.filter_eq_self.2 fun e' he' => bne_iff_ne.2 fun h' => he (h' ▸ List.mem_map_of_mem _ he')
      simp [List.filter_cons, hl, List.countP_cons, hv]
    · simp only [lookup_cons_ite, Ne.symm hk, ↓reduceIte] at h
      simp [List.filter_cons, hk, List.countP_cons, ih hn h]
      omega

/-- A count over the map, as a count over any duplicate-free list of IDs that
holds its keys. -/
theorem count_eq_countP (p : V → Bool) {K : List ServerID} (hK : K.Nodup)
    (hsub : ∀ k ∈ m.keys, k ∈ K) : m.count p = K.countP fun k => (m.lookup k).any p := by
  have hperm : ((m.entries.filter fun e => p e.2).map Prod.fst).Perm
      (K.filter fun k => (m.lookup k).any p) := by
    refine (List.perm_ext_iff_of_nodup ?_ (hK.filter _)).2 fun k => ?_
    · exact m.nodupKeys.sublist ((List.filter_sublist _).map _)
    simp only [List.mem_map, List.mem_filter, Prod.exists, exists_and_right, exists_eq_right]
    constructor
    · rintro ⟨v, hv, hp⟩
      exact ⟨hsub k (List.mem_map.2 ⟨_, hv, rfl⟩), by
        rw [lookup_eq_some_iff.2 hv]; simpa using hp⟩
    · rintro ⟨-, hp⟩
      cases hl : m.lookup k with
      | none => simp [hl] at hp
      | some v => exact ⟨v, mem_of_lookup hl, by simpa [hl] using hp⟩
  rw [count, List.countP_eq_length_filter, List.countP_eq_length_filter, ← hperm.length_eq,
    List.length_map]

/-- A map that holds only entries of another counts no more. -/
theorem count_le_of_sub {m₁ m₂ : GoMap V} (p : V → Bool)
    (h : ∀ k v, m₁.lookup k = some v → m₂.lookup k = some v) : m₁.count p ≤ m₂.count p := by
  have hsub : ∀ k ∈ m₁.keys, k ∈ m₂.keys := fun k hk => by
    obtain ⟨v, hv⟩ := mem_keys_iff.1 hk
    exact mem_keys_iff.2 ⟨v, h k v hv⟩
  rw [count_eq_countP p m₂.nodupKeys hsub, count_eq_countP p m₂.nodupKeys fun _ h => h]
  refine List.countP_mono_left fun k _ hk => ?_
  cases hv : m₁.lookup k with
  | none => simp [hv] at hk
  | some v => simpa [h k v hv, hv] using hk

theorem range_perm (m : GoMap V) (o : RangeOrder) : (m.range o).Perm m.entries := o.perm _

theorem mem_range {o : RangeOrder} {e : ServerID × V} : e ∈ m.range o ↔ e ∈ m.entries :=
  (m.range_perm o).mem_iff

theorem range_nodupKeys (m : GoMap V) (o : RangeOrder) : ((m.range o).map Prod.fst).Nodup :=
  ((m.range_perm o).map _).nodup_iff.2 m.nodupKeys

theorem range_keys_perm (m : GoMap V) (o : RangeOrder) : ((m.range o).map Prod.fst).Perm m.keys :=
  (m.range_perm o).map _

theorem mem_range_keys {o : RangeOrder} : k ∈ (m.range o).map Prod.fst ↔ k ∈ m.keys :=
  (m.range_keys_perm o).mem_iff

theorem range_keys_eq_nil (m : GoMap V) (o : RangeOrder) :
    (m.range o).map Prod.fst = [] ↔ m.keys = [] := by
  rw [← List.length_eq_zero, (m.range_keys_perm o).length_eq, List.length_eq_zero]

/-- Restricting a lookup to the map's own keys changes nothing. -/
@[simp] theorem ite_mem_keys_lookup : (if k ∈ m.keys then m.lookup k else none) = m.lookup k := by
  split_ifs with h
  · rfl
  · exact (lookup_eq_none_iff.2 h).symm

/-- The same, for keys listed through a map `g` that sends every key to itself. -/
theorem ite_mem_filterMap_lookup {g : ServerID → Option ServerID}
    (h : ∀ id ∈ m.keys, g id = some id) :
    (if k ∈ m.keys.filterMap g then m.lookup k else none) = m.lookup k := by
  split_ifs with hk
  · rfl
  · exact (lookup_eq_none_iff.2 fun hm => hk (List.mem_filterMap.2 ⟨k, hm, h k hm⟩)).symm

theorem countP_range (m : GoMap V) (o : RangeOrder) (p : V → Bool) :
    (m.range o).countP (fun e => p e.2) = m.count p :=
  (m.range_perm o).countP_eq _

/-- Two maps with the same lookups hold the same entries, in some order. -/
theorem perm_of_lookup {m₁ m₂ : GoMap V} (h : ∀ k, m₁.lookup k = m₂.lookup k) :
    m₁.entries.Perm m₂.entries :=
  (List.perm_ext_iff_of_nodup (m₁.nodupKeys.of_map _) (m₂.nodupKeys.of_map _)).2 fun e => by
    rw [← lookup_eq_some_iff, ← lookup_eq_some_iff, h]

theorem lookup_congr {m₁ m₂ : GoMap V} (h : m₁.entries.Perm m₂.entries) (k : ServerID) :
    m₁.lookup k = m₂.lookup k := by
  cases h₁ : m₁.lookup k with
  | none =>
    rw [eq_comm, lookup_eq_none_iff]
    rw [lookup_eq_none_iff] at h₁
    exact fun hk => h₁ ((h.map Prod.fst).mem_iff.2 hk)
  | some v => exact (lookup_eq_some_iff.2 (h.mem_iff.1 (lookup_eq_some_iff.1 h₁))).symm

theorem lookup_range (m : GoMap V) (o : RangeOrder) (k : ServerID) :
    (m.range o).lookup k = m.lookup k :=
  @lookup_congr V ⟨_, m.range_nodupKeys o⟩ m (m.range_perm o) k

theorem count_congr {m₁ m₂ : GoMap V} (p : V → Bool) (h : ∀ k, m₁.lookup k = m₂.lookup k) :
    m₁.count p = m₂.count p :=
  (perm_of_lookup h).countP_eq _

end GoMap

/-- Visiting in the map's own entry order. -/
def RangeOrder.id : RangeOrder := ⟨fun l => l, List.Perm.refl⟩

/-- Visiting in reverse entry order. -/
def RangeOrder.reverse : RangeOrder := ⟨List.reverse, List.reverse_perm⟩

end RaftAutopilot
