import Sct.Provision.Common.RegionFallback

/-!
# The state of GCE provisioning

A world is the placement settings, a cloud of any type and the record of the calls that statements
speak about, which nothing reads. Code that only reads the settings is a `Query`. A `ProvisionStep`
may rewrite `availability_zone` but never the regions.
-/

open Sct.Effect

namespace Sct.Gce

inductive Milestone where
  /-- A call of the innermost `provision_once`. -/
  | provisionOnce
  /-- A call of `error_factory`, with no placement left to try. -/
  | exhausted
  deriving DecidableEq, Repr

/-- A recorded call: what was called, in which placement and state of the cloud. -/
structure Event (κ : Type) where
  milestone : Milestone
  placement : Placement
  cloud : κ
  deriving DecidableEq

/-- The state a GCE provisioning run works on. -/
structure World (κ : Type) where
  /-- `SCT_GCE_DATACENTER`, `gce_datacenter` and `availability_zone`. -/
  placement : Placement
  cloud : κ
  history : List (Event κ)
  deriving DecidableEq

variable {κ α β : Type}

/-- Code that reads the settings and acts on the cloud. -/
abbrev Query (κ : Type) := ReaderT Placement (EStateM Exc κ)

abbrev Action (κ : Type) := EStateM Exc (World κ)

def Query.lift (query : Query κ α) : Action κ α := fun world =>
  match (query world.placement).run world.cloud with
  | .ok value cloud => .ok value { world with cloud := cloud }
  | .error exc cloud => .error exc { world with cloud := cloud }

def World.withPlacement (world : World κ) (placement : Placement) : World κ :=
  { world with placement := placement }

@[simp]
lemma withPlacement_placement (world : World κ) (placement : Placement) :
    (world.withPlacement placement).placement = placement := rfl

def writePlacement (update : Placement → Placement) : Action κ Unit :=
  modify fun world => world.withPlacement (update world.placement)

/-- `params["availability_zone"] = value`. -/
def writeAvailabilityZone (value : Option String) : Action κ Unit :=
  writePlacement fun placement => { placement with availabilityZone := value }

def record (milestone : Milestone) : Action κ Unit :=
  modify fun world =>
    { world with history := world.history ++ [⟨milestone, world.placement, world.cloud⟩] }

def World.calls (world : World κ) (milestone : Milestone) : List (Event κ) :=
  world.history.filter fun event => event.milestone = milestone

/-- A `provision_once`: what it makes of `availability_zone` and of the cloud, given the
settings it starts with. -/
structure ProvisionStep (κ : Type) where
  /-- The body, on the pair of `availability_zone` and the cloud. -/
  body : Placement → EStateM Exc (Option String × κ) Unit

/-- Call a `provision_once` in a world. -/
def ProvisionStep.action (step : ProvisionStep κ) : Action κ Unit := fun world =>
  match (step.body world.placement).run (world.placement.availabilityZone, world.cloud) with
  | .ok () after => .ok ()
    { world with
      placement := { world.placement with availabilityZone := after.1 }, cloud := after.2 }
  | .error exc after => .error exc
    { world with
      placement := { world.placement with availabilityZone := after.1 }, cloud := after.2 }

/-- A `provision_once` that leaves the settings alone. -/
def ProvisionStep.ofQuery (query : Query κ Unit) : ProvisionStep κ where
  body placement := fun state =>
    match (query placement).run state.2 with
    | .ok () cloud => .ok () (state.1, cloud)
    | .error exc cloud => .error exc (state.1, cloud)

lemma lift_run (query : Query κ α) (world : World κ) :
    query.lift.run world = match (query world.placement).run world.cloud with
      | .ok value cloud => .ok value { world with cloud := cloud }
      | .error exc cloud => .error exc { world with cloud := cloud } := rfl

lemma action_run (step : ProvisionStep κ) (world : World κ) :
    step.action.run world =
      match (step.body world.placement).run (world.placement.availabilityZone, world.cloud) with
      | .ok () after => .ok ()
        { world with
          placement := { world.placement with availabilityZone := after.1 }, cloud := after.2 }
      | .error exc after => .error exc
        { world with
          placement := { world.placement with availabilityZone := after.1 }
          cloud := after.2 } := rfl

lemma lift_ok {query : Query κ α} {world after : World κ} {value : α}
    (ran : query.lift.run world = .ok value after) :
    after.placement = world.placement ∧ after.history = world.history ∧
      (query world.placement).run world.cloud = .ok value after.cloud := by
  rw [lift_run] at ran
  split at ran
  · rename_i same
    obtain ⟨rfl, rfl⟩ := by simpa using ran
    exact ⟨rfl, rfl, same⟩
  · simp at ran

lemma lift_error {query : Query κ α} {world after : World κ} {exc : Exc}
    (ran : query.lift.run world = .error exc after) :
    after.placement = world.placement ∧ after.history = world.history ∧
      (query world.placement).run world.cloud = .error exc after.cloud := by
  rw [lift_run] at ran
  split at ran
  · simp at ran
  · rename_i same
    obtain ⟨rfl, rfl⟩ := by simpa using ran
    exact ⟨rfl, rfl, same⟩

end Sct.Gce
