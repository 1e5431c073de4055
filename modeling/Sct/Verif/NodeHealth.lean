import Sct.Cluster.NodeHealth

/-!
# What a health check publishes

Without Raft the check of group0 yields `None`, so the last round raises once it has published its
problems. What the queries publish themselves comes on top.
-/

namespace Sct.Cluster

variable {ε : Type} {raft : Bool}

def HealthRound.problems (raft : Bool) (round : HealthRound ε) : List ε :=
  round.byChecks ++ if raft then round.byGroup0 else []

lemma publishAll_append (events : List ε) (rest : List (Option ε)) :
    publishAll (events.map some ++ rest) =
      (events ++ (publishAll rest).1, (publishAll rest).2) := by
  induction events with
  | nil => rfl
  | cons event events ih => simp [publishAll, ih]

lemma publishAll_nodeHealthEvents (raft : Bool) (round : HealthRound ε) :
    publishAll (round.nodeHealthEvents raft) = (round.problems raft, !raft) := by
  rw [HealthRound.nodeHealthEvents, HealthRound.problems, publishAll_append]
  cases raft with
  | false => rfl
  | true =>
    have group0 := publishAll_append round.byGroup0 []
    rw [List.append_nil] at group0
    simp [group0, publishAll]

lemma retryRounds_cons (round : HealthRound ε) (rest : List (HealthRound ε)) :
    retryRounds raft (round :: rest) =
      if round.problems raft = [] then ⟨1, round.byQueries, false⟩
      else if rest = [] then ⟨1, round.byQueries ++ round.problems raft, !raft⟩
      else ⟨(retryRounds raft rest).rounds + 1,
        round.byQueries ++ (retryRounds raft rest).published, (retryRounds raft rest).raised⟩ := by
  have all := publishAll_nodeHealthEvents raft round
  rw [retryRounds.eq_def]
  cases events : round.nodeHealthEvents raft with
  | nil =>
    rw [events] at all
    have healthy : round.problems raft = [] := (Prod.mk.inj all).1.symm
    simp [events, healthy]
  | cons head tail =>
    rw [events] at all
    cases head with
    | none =>
      have healthy : round.problems raft = [] := (Prod.mk.inj all).1.symm
      simp [events, healthy]
    | some event =>
      have found : round.problems raft ≠ [] := by simp [← (Prod.mk.inj all).1]
      cases rest <;> simp [events, all, found]

/-- What the queries publish in the rounds that are made. -/
def queried (raft : Bool) : List (HealthRound ε) → List ε
  | [] => []
  | round :: rest => round.byQueries ++ if round.problems raft = [] then [] else queried raft rest

/-- Nothing if some round finds no problem, else what the last one finds. -/
def due (raft : Bool) (rounds : List (HealthRound ε)) : List ε :=
  if ∃ round ∈ rounds, round.problems raft = [] then []
  else rounds.getLast?.elim [] (·.problems raft)

lemma retryRounds_eq (rounds : List (HealthRound ε)) :
    (retryRounds raft rounds).rounds ≤ rounds.length ∧
      (retryRounds raft rounds).published = queried raft rounds ++ due raft rounds ∧
      ((retryRounds raft rounds).raised = true ↔
        raft = false ∧ rounds ≠ [] ∧ ∀ round ∈ rounds, round.problems raft ≠ []) := by
  induction rounds with
  | nil => simp [retryRounds, queried, due]
  | cons round rest ih =>
    obtain ⟨bounded, published, raised⟩ := ih
    rw [retryRounds_cons]
    by_cases healthy : round.problems raft = []
    · simp [healthy, queried, due]
    cases rest with
    | nil => simp [healthy, queried, due]
    | cons next rest =>
      refine ⟨?_, ?_, ?_⟩
      · simpa [healthy] using bounded
      · simp [healthy, published, queried, due, List.getLast?_cons_cons]
      · simpa [healthy] using raised

/-- At most the configured rounds, what is due published, and nothing raised. -/
def HealthCheck.Sound (raft : Bool) (rounds : List (HealthRound ε)) (check : HealthCheck ε) :
    Prop :=
  check.rounds ≤ rounds.length ∧ check.published = due raft rounds ∧ check.raised = false

theorem checkNodeHealth_sound_iff (clusterHealthCheck raft : Bool) (rounds : List (HealthRound ε)) :
    (checkNodeHealth clusterHealthCheck raft rounds).Sound raft
        (if clusterHealthCheck then rounds else []) ↔
      (clusterHealthCheck = true → queried raft rounds = [] ∧
        (raft = true ∨ rounds = [] ∨ ∃ round ∈ rounds, round.problems raft = [])) := by
  cases clusterHealthCheck with
  | false => simp [checkNodeHealth, HealthCheck.Sound, due]
  | true =>
    obtain ⟨bounded, published, raised⟩ := @retryRounds_eq ε raft rounds
    rw [checkNodeHealth, HealthCheck.Sound, if_pos rfl, if_pos rfl, published,
      List.append_left_eq_self, ← Bool.not_eq_true, raised]
    cases raft <;> simp [bounded, Decidable.or_iff_not_imp_left]

/-- A node without Raft whose only round finds a problem. -/
theorem raises_without_raft : checkNodeHealth true false [⟨[], ["DOWN"], []⟩] =
    ⟨1, ["DOWN"], true⟩ := by
  decide

end Sct.Cluster
