import Mathlib.Data.List.Basic

/-!
# The health check of a node

`check_node_health` and `node_health_events` of `sdcm/cluster.py`, for nodes with and without Raft.
What the checks of a round yield is given.
-/

namespace Sct.Cluster

variable {ε : Type}

structure HealthRound (ε : Type) where
  /-- Published by `get_token_ring_members` itself, for members with null values. -/
  byQueries : List ε
  /-- Yielded by the four checks before the one of group0. -/
  byChecks : List ε
  /-- Yielded by `RaftFeature.check_group0_tokenring_consistency`. -/
  byGroup0 : List ε

/-- The check of group0 by `NoRaft` yields `None`. -/
def HealthRound.nodeHealthEvents (raft : Bool) (round : HealthRound ε) : List (Option ε) :=
  round.byChecks.map some ++ if raft then round.byGroup0.map some else [none]

/-- What is published until a `None`, which has no `publish`, and whether there is one. -/
def publishAll : List (Option ε) → List ε × Bool
  | [] => ([], false)
  | none :: _ => ([], true)
  | some event :: rest => (event :: (publishAll rest).1, (publishAll rest).2)

structure HealthCheck (ε : Type) where
  rounds : Nat
  published : List ε
  raised : Bool
  deriving DecidableEq

/-- The loop; `rounds` has a round for each of the retries. -/
def retryRounds (raft : Bool) : List (HealthRound ε) → HealthCheck ε
  | [] => ⟨0, [], false⟩
  | round :: rest =>
    match round.nodeHealthEvents raft with
    | [] | none :: _ => ⟨1, round.byQueries, false⟩
    | some event :: events =>
      match rest with
      | [] =>
        let (published, raised) := publishAll (some event :: events)
        ⟨1, round.byQueries ++ published, raised⟩
      | next :: rest =>
        let later := retryRounds raft (next :: rest)
        ⟨later.rounds + 1, round.byQueries ++ later.published, later.raised⟩

def checkNodeHealth (clusterHealthCheck raft : Bool) (rounds : List (HealthRound ε)) :
    HealthCheck ε :=
  if clusterHealthCheck then retryRounds raft rounds else ⟨0, [], false⟩

end Sct.Cluster
