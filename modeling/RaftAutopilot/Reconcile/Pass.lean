import RaftAutopilot.Reconcile.Apply

/-! # The reconcile pass

reconcile asks the promoter for a change set and applies its promotions; only
when none passed the gate does it apply the demotions, and only when neither
list had a server to act on does it transfer leadership. A pass therefore
makes calls of one kind: `addVoter`, `demoteVoter`, or a single
`leadershipTransfer`.
-/
namespace RaftAutopilot

/-- The steps of reconcile before any call: the snapshot and the promoter's
change set, or the error the pass returns. -/
def Autopilot.reconcileChanges (a : Autopilot) : Except (Option String) (State × RaftChanges) :=
  if !a.reconciliationEnabled then .error none else
  match a.autopilotConfig with
  | none => .error none
  | some conf =>
    match a.state.filter (·.leader != "") with
    | none => .error (some "cannot reconcile Raft server voting rights without a valid autopilot state")
    | some state => .ok (state, a.promoter.calculatePromotionsAndDemotions conf state)

/-- The steps of reconcile after the promoter. -/
def applyChangeSet (state : State) (changes : RaftChanges) (resp : Responder) :
    List Call × Option String :=
  match applyPromotions state changes resp [] with
  | (tr, true, err) => (tr, err)
  | (tr, false, _) =>
    match applyDemotions state changes resp tr with
    | (tr, true, err) => (tr, err)
    | (tr, false, _) =>
      if changes.leader == "" || changes.leader == state.leader then (tr, none) else
      match state.servers.lookup changes.leader with
      | none => (tr, some ("cannot transfer leadership to an unknown server with ID " ++ changes.leader))
      | some srv =>
        (tr ++ [.leadershipTransfer changes.leader srv.server.address],
          resp tr (.leadershipTransfer changes.leader srv.server.address))

def Autopilot.reconcile (a : Autopilot) (resp : Responder) : List Call × Option String :=
  match a.reconcileChanges with
  | .error err => ([], err)
  | .ok (state, changes) => applyChangeSet state changes resp

def Call.isAddVoter : Call → Bool
  | .addVoter _ _ => true
  | _ => false

def Call.isDemoteVoter : Call → Bool
  | .demoteVoter _ => true
  | _ => false

theorem reconcileChanges_eq_ok {a : Autopilot} {state : State} {changes : RaftChanges} :
    a.reconcileChanges = .ok (state, changes) ↔ a.reconciliationEnabled ∧ ∃ conf,
      a.autopilotConfig = some conf ∧ a.state = some state ∧ state.leader ≠ "" ∧
        changes = a.promoter.calculatePromotionsAndDemotions conf state := by
  unfold Autopilot.reconcileChanges
  cases a.reconciliationEnabled <;> cases a.autopilotConfig <;> cases a.state <;>
    simp only [Option.filter] <;> simp
  rename_i st
  by_cases h : st.leader = "" <;> simp [h]
  · rintro rfl h'; exact absurd h h'
  · rintro rfl; simp [h, eq_comm]

/-- What applyChangeSet calls: promotions when one passes its gate, else
demotions when one passes its gate, else at most the leadership transfer. -/
theorem applyChangeSet_cases (state : State) (changes : RaftChanges) (resp : Responder) :
    let prom := gatedServers ServerState.promotable state.servers changes.promotions
    let dem := gatedServers ServerState.demotable state.servers changes.demotions
    let calls := (applyChangeSet state changes resp).1
    (prom ≠ [] ∧ calls <+: prom.map fun srv => .addVoter srv.server.id srv.server.address) ∨
      (prom = [] ∧ dem ≠ [] ∧ calls <+: dem.map fun srv => .demoteVoter srv.server.id) ∨
      (prom = [] ∧ dem = [] ∧ calls =
        if changes.leader = "" ∨ changes.leader = state.leader then [] else
          ((state.servers.lookup changes.leader).map fun srv =>
            .leadershipTransfer changes.leader srv.server.address).toList) := by
  intro prom dem calls
  by_cases hp : prom = []
  · have e₁ : applyPromotions state changes resp [] = ([], false, none) :=
      applyChanges_of_nil hp [] false
    by_cases hd : dem = []
    · have e₂ : applyDemotions state changes resp [] = ([], false, none) :=
        applyChanges_of_nil hd [] false
      refine .inr (.inr ⟨hp, hd, ?_⟩)
      simp only [calls, applyChangeSet, e₁, e₂]
      by_cases hl : changes.leader = "" ∨ changes.leader = state.leader
      · rcases hl with hl | hl <;> simp [hl]
      · rw [not_or] at hl
        cases state.servers.lookup changes.leader <;> simp [hl]
    · obtain ⟨pre, e₂, -, hpre⟩ := applyChanges_of_ne_nil hd [] false
      refine .inr (.inl ⟨hp, hd, ?_⟩)
      simp only [calls, applyChangeSet, e₁]
      rw [applyDemotions, e₂]
      simpa using hpre
  · obtain ⟨pre, e₁, -, hpre⟩ := applyChanges_of_ne_nil hp [] false
    refine .inl ⟨hp, ?_⟩
    simp only [calls, applyChangeSet]
    rw [applyPromotions, e₁]
    simpa using hpre

theorem applyChangeSet_calls (state : State) (changes : RaftChanges) (resp : Responder) :
    let calls := (applyChangeSet state changes resp).1
    ((∀ c ∈ calls, c.isAddVoter) ∨ (∀ c ∈ calls, c.isDemoteVoter) ∨
        ∃ id address, calls = [.leadershipTransfer id address]) ∧
      ((∃ c ∈ calls, c.isDemoteVoter) →
        ∀ id ∈ changes.promotions, ¬(state.servers.lookup id).any ServerState.promotable) ∧
      ∀ id address, .leadershipTransfer id address ∈ calls ↔
        (∀ id ∈ changes.promotions, ¬(state.servers.lookup id).any ServerState.promotable) ∧
        (∀ id ∈ changes.demotions, ¬(state.servers.lookup id).any ServerState.demotable) ∧
        changes.leader ≠ "" ∧ changes.leader ≠ state.leader ∧ id = changes.leader ∧
        (state.servers.lookup id).map (·.server.address) = some address := by
  intro calls
  simp only [← gatedServers_eq_nil]
  rcases applyChangeSet_cases state changes resp with ⟨hp, h⟩ | ⟨hp, hd, h⟩ | ⟨hp, hd, h⟩
  · have hc : ∀ c ∈ calls, c.isAddVoter := fun c hc => by
      obtain ⟨srv, -, rfl⟩ := List.mem_map.1 (h.subset hc); rfl
    refine ⟨.inl hc, fun ⟨c, hm, hd⟩ => ?_, fun id address => ⟨fun hm => ?_, fun hr => absurd hr.1 hp⟩⟩
    · have := hc c hm; cases c <;> simp_all [Call.isAddVoter, Call.isDemoteVoter]
    · have := hc _ hm; simp [Call.isAddVoter] at this
  · have hc : ∀ c ∈ calls, c.isDemoteVoter := fun c hc => by
      obtain ⟨srv, -, rfl⟩ := List.mem_map.1 (h.subset hc); rfl
    refine ⟨.inr (.inl hc), fun _ => hp, fun id address => ⟨fun hm => ?_, fun hr => absurd hr.2.1 hd⟩⟩
    have := hc _ hm; simp [Call.isDemoteVoter] at this
  · rw [show calls = _ from h]
    by_cases hl : changes.leader = "" ∨ changes.leader = state.leader
    · simp only [hl, ↓reduceIte, List.not_mem_nil, false_iff]
      refine ⟨.inl (by simp), by simp, fun id address hr => ?_⟩
      rcases hl with hl | hl
      · exact hr.2.2.1 hl
      · exact hr.2.2.2.1 hl
    · rw [not_or] at hl
      simp only [hl, or_self, ↓reduceIte]
      cases hk : state.servers.lookup changes.leader with
      | none =>
        simp only [Option.map_none', Option.toList_none, List.not_mem_nil, false_iff]
        refine ⟨.inl (by simp), by simp, ?_⟩
        rintro id address ⟨-, -, -, -, rfl, h⟩
        simp [hk] at h
      | some srv =>
        refine ⟨.inr (.inr ⟨_, _, rfl⟩), by simp [Call.isDemoteVoter], fun id address => ?_⟩
        simp only [Option.map_some', Option.toList_some, List.mem_singleton, Call.leadershipTransfer.injEq]
        constructor
        · rintro ⟨rfl, rfl⟩; simp [hp, hd, hl, hk]
        · rintro ⟨-, -, -, -, rfl, h⟩; simp_all

/-- A reconcile pass makes calls of one kind; it demotes only when no promotion
passes its gate; and it transfers leadership exactly when it reaches the change
set, nothing passes either gate and the promoter names another tracked server,
at that server's recorded address. -/
theorem reconcile_calls (a : Autopilot) (resp : Responder) :
    let calls := (a.reconcile resp).1
    ((∀ c ∈ calls, c.isAddVoter) ∨ (∀ c ∈ calls, c.isDemoteVoter) ∨
        ∃ id address, calls = [.leadershipTransfer id address]) ∧
      ((∃ c ∈ calls, c.isDemoteVoter) → ∃ conf state, a.autopilotConfig = some conf ∧
        a.state = some state ∧
        ∀ id ∈ (a.promoter.calculatePromotionsAndDemotions conf state).promotions,
          ¬(state.servers.lookup id).any ServerState.promotable) ∧
      ∀ id address, .leadershipTransfer id address ∈ calls ↔
        a.reconciliationEnabled ∧ ∃ conf state, a.autopilotConfig = some conf ∧
          a.state = some state ∧ state.leader ≠ "" ∧
          let changes := a.promoter.calculatePromotionsAndDemotions conf state
          (∀ id ∈ changes.promotions, ¬(state.servers.lookup id).any ServerState.promotable) ∧
          (∀ id ∈ changes.demotions, ¬(state.servers.lookup id).any ServerState.demotable) ∧
          changes.leader ≠ "" ∧ changes.leader ≠ state.leader ∧ id = changes.leader ∧
          (state.servers.lookup id).map (·.server.address) = some address := by
  intro calls
  rcases h : a.reconcileChanges with err | ⟨state, changes⟩
  · have hc : calls = [] := by simp [calls, Autopilot.reconcile, h]
    rw [hc]
    refine ⟨.inl (by simp), by simp, fun id address => ?_⟩
    simp only [List.not_mem_nil, false_iff]
    rintro ⟨hen, conf, st, hconf, hst, hl, -⟩
    have := reconcileChanges_eq_ok.2 ⟨hen, conf, hconf, hst, hl, rfl⟩
    rw [h] at this
    cases this
  · obtain ⟨hen, conf, hconf, hst, hl, rfl⟩ := reconcileChanges_eq_ok.1 h
    have hc : calls =
        (applyChangeSet state (a.promoter.calculatePromotionsAndDemotions conf state) resp).1 := by
      simp [calls, Autopilot.reconcile, h]
    obtain ⟨h₁, h₂, h₃⟩ :=
      applyChangeSet_calls state (a.promoter.calculatePromotionsAndDemotions conf state) resp
    rw [hc]
    refine ⟨h₁, fun hd => ⟨conf, state, hconf, hst, h₂ hd⟩, fun id address => (h₃ id address).trans ?_⟩
    simp [hen, hconf, hst, hl]

/-! ## How a pass ends -/

/-- The error reconcile returns when the adapter fails `call` with `err`: a
failed promotion or demotion names its server, a failed transfer is passed on. -/
def Call.reconcileError : Call → String → String
  | .addVoter id _, err => "failed promoting server " ++ id ++ ": " ++ err
  | .demoteVoter id, err => "failed demoting server " ++ id ++ ": " ++ err
  | _, err => err

theorem reconcileChanges_error {a : Autopilot} {e : Option String}
    (h : a.reconcileChanges = .error e) :
    e = none ∨ e = some "cannot reconcile Raft server voting rights without a valid autopilot state" := by
  unfold Autopilot.reconcileChanges at h
  split at h
  · cases h; exact .inl rfl
  split at h
  · cases h; exact .inl rfl
  split at h
  · cases h; exact .inr rfl
  · cases h

theorem applyChangeSet_outcomes (state : State) (changes : RaftChanges) (resp : Responder) :
    let r := applyChangeSet state changes resp
    (r.2 = none ∧ Succeeds resp [] r.1) ∨
      (∃ pre c err, r.1 = pre ++ [c] ∧ Succeeds resp [] pre ∧ resp pre c = some err ∧
        r.2 = some (c.reconcileError err)) ∨
      (r.1 = [] ∧ ∃ id, r.2 = some ("cannot transfer leadership to an unknown server with ID " ++ id)) := by
  intro r
  rcases @applyChanges_cases ServerState.promotable
    (fun srv => .addVoter srv.server.id srv.server.address)
    (fun id err => "failed promoting server " ++ id ++ ": " ++ err) state.servers resp
    changes.promotions with ⟨-, hp⟩ | ⟨calls, msg, hp, hcase⟩
  swap
  · have hr : r = (calls, msg) := by simp only [r, applyChangeSet, applyPromotions, hp]
    rw [hr]
    rcases hcase with h | ⟨pre, srv, err, h₁, h₂, h₃, h₄⟩
    · exact .inl h
    · exact .inr (.inl ⟨pre, _, err, h₁, h₂, h₃, h₄⟩)
  rcases @applyChanges_cases ServerState.demotable (fun srv => .demoteVoter srv.server.id)
    (fun id err => "failed demoting server " ++ id ++ ": " ++ err) state.servers resp
    changes.demotions with ⟨-, hd⟩ | ⟨calls, msg, hd, hcase⟩
  swap
  · have hr : r = (calls, msg) := by simp only [r, applyChangeSet, applyPromotions, applyDemotions, hp, hd]
    rw [hr]
    rcases hcase with h | ⟨pre, srv, err, h₁, h₂, h₃, h₄⟩
    · exact .inl h
    · exact .inr (.inl ⟨pre, _, err, h₁, h₂, h₃, h₄⟩)
  simp only [r, applyChangeSet, applyPromotions, applyDemotions, hp, hd]
  split_ifs
  · exact .inl ⟨rfl, trivial⟩
  cases state.servers.lookup changes.leader with
  | none => exact .inr (.inr ⟨rfl, _, rfl⟩)
  | some srv =>
    cases h : resp [] (.leadershipTransfer changes.leader srv.server.address) with
    | none => exact .inl ⟨h, h, trivial⟩
    | some err => exact .inr (.inl ⟨[], _, err, rfl, trivial, h, h⟩)

/-- Every call of a reconcile pass but the last succeeded, and the pass ends in
one of three ways: nil, with every call successful; the adapter's error for its
last call, naming the server of a failed promotion or demotion; or, before any
call, the invalid-state error or the unknown-transfer-target error. -/
theorem reconcile_outcomes (a : Autopilot) (resp : Responder) :
    let r := a.reconcile resp
    (r.2 = none ∧ Succeeds resp [] r.1) ∨
      (∃ pre c err, r.1 = pre ++ [c] ∧ Succeeds resp [] pre ∧ resp pre c = some err ∧
        r.2 = some (c.reconcileError err)) ∨
      (r.1 = [] ∧
        (r.2 = some "cannot reconcile Raft server voting rights without a valid autopilot state" ∨
          ∃ id, r.2 = some ("cannot transfer leadership to an unknown server with ID " ++ id))) := by
  intro r
  rcases h : a.reconcileChanges with err | ⟨state, changes⟩
  · have hr : r = ([], err) := by simp [r, Autopilot.reconcile, h]
    rw [hr]
    rcases reconcileChanges_error h with rfl | rfl
    · exact .inl ⟨rfl, trivial⟩
    · exact .inr (.inr ⟨rfl, .inl rfl⟩)
  · have hr : r = applyChangeSet state changes resp := by simp [r, Autopilot.reconcile, h]
    rw [hr]
    rcases applyChangeSet_outcomes state changes resp with h | h | ⟨h₁, h₂⟩
    · exact .inl h
    · exact .inr (.inl h)
    · exact .inr (.inr ⟨h₁, .inr h₂⟩)

/-- A tracked server in Raft state staging has no voting rights, and a demotion
of it still reaches the adapter: applyDemotions skips only non-voters. -/
theorem reconcile_demotes_staging_server :
    let x : ServerState := ⟨⟨"X", "10.0.0.2:8300", nodeAlive, nodeVoter⟩, "staging", ⟨0, 0, 0⟩, ⟨true⟩⟩
    let a : Autopilot :=
      { reconciliationEnabled := true
        autopilotConfig := some ⟨true, 0, 0, 0⟩
        raftConfiguration := .ok []
        knownServers := .empty
        state := some ⟨GoMap.empty.insert "X" x, "L"⟩
        promoter := ⟨fun _ _ => ⟨[], ["X"], ""⟩, fun _ _ failed => failed⟩ }
    (a.reconcile fun _ _ => none).1 = [.demoteVoter "X"] ∧ x.hasVotingRights = false := by
  decide

end RaftAutopilot
