import RaftAutopilot.Model.Autopilot

/-! # Applying a change set

applyPromotions and applyDemotions walk their ID list, skip the IDs the state
does not track or whose server fails the loop's gate, and call the adapter for
the others until a call fails. `applyChanges` is that loop once, with the gate,
the call and the error text as parameters. `issueUntilFailure` says what the
loop does without its skips: one call per gated server, in list order, up to
and including the first that fails.
-/
namespace RaftAutopilot

/-- The loop of applyPromotions and applyDemotions after the calls `tr`; `done`
is its `promoted` or `demoted` flag. -/
def applyChanges (gate : ServerState → Bool) (call : ServerState → Call)
    (failed : ServerID → String → String) (servers : GoMap ServerState) (resp : Responder) :
    List Call → Bool → List ServerID → List Call × Bool × Option String
  | tr, done, [] => (tr, done, none)
  | tr, done, change :: changes =>
    match servers.lookup change with
    | none => applyChanges gate call failed servers resp tr done changes
    | some srv =>
      if !gate srv then applyChanges gate call failed servers resp tr done changes
      else match resp tr (call srv) with
        | some err => (tr ++ [call srv], true, some (failed srv.server.id err))
        | none => applyChanges gate call failed servers resp (tr ++ [call srv]) true changes

/-- The promotion gate: without voting rights, and healthy. -/
def ServerState.promotable (srv : ServerState) : Bool :=
  !srv.hasVotingRights && srv.health.healthy

/-- The demotion gate: any Raft state but non-voter. -/
def ServerState.demotable (srv : ServerState) : Bool :=
  srv.state != raftNonVoter

def applyPromotions (state : State) (changes : RaftChanges) (resp : Responder) (tr : List Call) :
    List Call × Bool × Option String :=
  applyChanges ServerState.promotable (fun srv => .addVoter srv.server.id srv.server.address)
    (fun id err => "failed promoting server " ++ id ++ ": " ++ err) state.servers resp tr false
    changes.promotions

def applyDemotions (state : State) (changes : RaftChanges) (resp : Responder) (tr : List Call) :
    List Call × Bool × Option String :=
  applyChanges ServerState.demotable (fun srv => .demoteVoter srv.server.id)
    (fun id err => "failed demoting server " ++ id ++ ": " ++ err) state.servers resp tr false
    changes.demotions

/-! ## The loop without its skips -/

/-- The tracked servers of `ids` that pass `gate`, in list order with repetitions. -/
def gatedServers (gate : ServerState → Bool) (servers : GoMap ServerState) (ids : List ServerID) :
    List ServerState :=
  ids.filterMap fun id => (servers.lookup id).filter gate

/-- One call per item, in order, until the adapter fails one: the calls made
after `tr`, and the failing item with the adapter's error. -/
def issueUntilFailure {α : Type} (call : α → Call) (resp : Responder) :
    List Call → List α → List Call × Option (α × String)
  | tr, [] => (tr, none)
  | tr, x :: xs =>
    match resp tr (call x) with
    | some err => (tr ++ [call x], some (x, err))
    | none => issueUntilFailure call resp (tr ++ [call x]) xs

theorem gatedServers_eq_nil {gate : ServerState → Bool} {servers : GoMap ServerState}
    {ids : List ServerID} :
    gatedServers gate servers ids = [] ↔ ∀ id ∈ ids, ¬(servers.lookup id).any gate := by
  simp only [gatedServers, List.filterMap_eq_nil_iff]
  refine forall₂_congr fun id _ => ?_
  cases servers.lookup id <;> simp [Option.filter]

theorem issueUntilFailure_spec {α : Type} (call : α → Call) (resp : Responder) (tr : List Call)
    (xs : List α) :
    ∃ pre, (issueUntilFailure call resp tr xs).1 = tr ++ pre ∧ pre <+: xs.map call ∧
      (pre = [] → xs = []) := by
  induction xs generalizing tr with
  | nil => exact ⟨[], by simp [issueUntilFailure]⟩
  | cons x xs ih =>
    simp only [issueUntilFailure]
    split
    · exact ⟨[call x], by simp⟩
    · obtain ⟨pre, h₁, h₂, -⟩ := ih (tr ++ [call x])
      exact ⟨call x :: pre, by simp [h₁], by simpa using h₂, by simp⟩

/-- Every call of `cs`, issued after the calls `tr`, succeeded. -/
def Succeeds (resp : Responder) : List Call → List Call → Prop
  | _, [] => True
  | tr, c :: cs => resp tr c = none ∧ Succeeds resp (tr ++ [c]) cs

/-- The loop without its skips ends in one of two ways: every call succeeded, or
the last call failed, with the adapter's error, after calls that succeeded. -/
theorem issueUntilFailure_cases {α : Type} (call : α → Call) (resp : Responder) (tr : List Call)
    (xs : List α) :
    (∃ pre, issueUntilFailure call resp tr xs = (tr ++ pre, none) ∧ Succeeds resp tr pre) ∨
      ∃ pre x err, issueUntilFailure call resp tr xs = (tr ++ pre ++ [call x], some (x, err)) ∧
        Succeeds resp tr pre ∧ resp (tr ++ pre) (call x) = some err := by
  induction xs generalizing tr with
  | nil => exact .inl ⟨[], by simp [issueUntilFailure], trivial⟩
  | cons x xs ih =>
    cases h : resp tr (call x) with
    | some err => exact .inr ⟨[], x, err, by simp [issueUntilFailure, h], trivial, by simpa using h⟩
    | none =>
      rcases ih (tr ++ [call x]) with ⟨pre, hr, hs⟩ | ⟨pre, y, err, hr, hs, he⟩
      · exact .inl ⟨call x :: pre, by simp [issueUntilFailure, h, hr], h, hs⟩
      · exact .inr ⟨call x :: pre, y, err, by simp [issueUntilFailure, h, hr], ⟨h, hs⟩,
          by simpa using he⟩

section Loop

variable {gate : ServerState → Bool} {call : ServerState → Call} {failed : ServerID → String → String}
  {servers : GoMap ServerState} {resp : Responder}

/-- The loop issues the calls of its gated servers until the first failure; it
is done when it started done or a server passed the gate. -/
theorem applyChanges_eq (tr : List Call) (done : Bool) (ids : List ServerID) :
    applyChanges gate call failed servers resp tr done ids =
      let r := issueUntilFailure call resp tr (gatedServers gate servers ids)
      (r.1, done || !(gatedServers gate servers ids).isEmpty, r.2.map fun e => failed e.1.server.id e.2) := by
  induction ids generalizing tr done with
  | nil => simp [applyChanges, issueUntilFailure, gatedServers]
  | cons id ids ih =>
    simp only [applyChanges, gatedServers, List.filterMap_cons] at ih ⊢
    cases servers.lookup id with
    | none => exact ih tr done
    | some srv =>
      cases hg : gate srv
      · simpa [Option.filter, hg] using ih tr done
      · cases hr : resp tr (call srv) <;> simp [Option.filter, hg, hr, ih, issueUntilFailure]

theorem applyChanges_of_nil {ids : List ServerID} (h : gatedServers gate servers ids = [])
    (tr : List Call) (done : Bool) :
    applyChanges gate call failed servers resp tr done ids = (tr, done, none) := by
  simp [applyChanges_eq, h, issueUntilFailure]

theorem applyChanges_of_ne_nil {ids : List ServerID} (h : gatedServers gate servers ids ≠ [])
    (tr : List Call) (done : Bool) :
    ∃ pre, applyChanges gate call failed servers resp tr done ids =
      (tr ++ pre, true, (applyChanges gate call failed servers resp tr done ids).2.2) ∧
      pre ≠ [] ∧ pre <+: (gatedServers gate servers ids).map call := by
  obtain ⟨pre, h₁, h₂, h₃⟩ := issueUntilFailure_spec call resp tr (gatedServers gate servers ids)
  refine ⟨pre, ?_, fun hp => h (h₃ hp), h₂⟩
  rw [applyChanges_eq]
  simp [h₁, List.isEmpty_iff, h]

/-- From the start of a round the loop makes no call when no server passes the
gate; otherwise it is done, and either every call succeeded or the last one
failed and its error is reported with that server's ID. -/
theorem applyChanges_cases (ids : List ServerID) :
    (gatedServers gate servers ids = [] ∧
        applyChanges gate call failed servers resp [] false ids = ([], false, none)) ∨
      ∃ calls msg, applyChanges gate call failed servers resp [] false ids = (calls, true, msg) ∧
        ((msg = none ∧ Succeeds resp [] calls) ∨
          ∃ pre srv err, calls = pre ++ [call srv] ∧ Succeeds resp [] pre ∧
            resp pre (call srv) = some err ∧ msg = some (failed srv.server.id err)) := by
  by_cases h : gatedServers gate servers ids = []
  · exact .inl ⟨h, applyChanges_of_nil h [] false⟩
  refine .inr ?_
  rw [applyChanges_eq]
  rcases issueUntilFailure_cases call resp [] (gatedServers gate servers ids) with
    ⟨pre, hr, hs⟩ | ⟨pre, x, err, hr, hs, he⟩
  · exact ⟨pre, none, by simp [hr, List.isEmpty_iff, h], .inl ⟨rfl, by simpa using hs⟩⟩
  · exact ⟨pre ++ [call x], some (failed x.server.id err), by simp [hr, List.isEmpty_iff, h],
      .inr ⟨pre, x, err, rfl, by simpa using hs, by simpa using he, rfl⟩⟩

end Loop

/-- applyPromotions as its contract reads: the `addVoter` calls of the tracked,
healthy servers without voting rights named by the promotions, in order, up to
and including the first failure; `(true, error)` on a failure, and otherwise
`(true, nil)` exactly when a call was made. -/
def promotionsBySpec (state : State) (changes : RaftChanges) (resp : Responder) (tr : List Call) :
    List Call × Bool × Option String :=
  let targets := changes.promotions.filterMap fun id =>
    (state.servers.lookup id).filter fun srv => !srv.hasVotingRights && srv.health.healthy
  let r := issueUntilFailure (fun srv => .addVoter srv.server.id srv.server.address) resp tr targets
  match r.2 with
  | some (srv, err) => (r.1, true, some ("failed promoting server " ++ srv.server.id ++ ": " ++ err))
  | none => (r.1, !targets.isEmpty, none)

theorem applyPromotions_eq_promotionsBySpec (state : State) (changes : RaftChanges)
    (resp : Responder) (tr : List Call) :
    applyPromotions state changes resp tr = promotionsBySpec state changes resp tr := by
  have hp : ServerState.promotable = fun srv => !srv.hasVotingRights && srv.health.healthy := rfl
  rw [applyPromotions, applyChanges_eq, promotionsBySpec, gatedServers, hp]
  generalize (changes.promotions.filterMap fun id => (state.servers.lookup id).filter
    fun srv => !srv.hasVotingRights && srv.health.healthy) = targets
  cases targets with
  | nil => rfl
  | cons x xs =>
    generalize issueUntilFailure _ resp tr (x :: xs) = r
    rcases r with ⟨calls, _ | ⟨srv, err⟩⟩ <;> rfl

end RaftAutopilot
