import Sct.Provision.Common.RegionFallback
import Sct.Lib.Table

/-!
# The state of AWS provisioning

The settings are the placement, the AMI id parameters and the target images; the cloud, of any type,
is everything else. Code that only reads the settings is a `Query`, and a `ZoneStep` may rewrite
`availability_zone`. Nothing reads the record of switches and restores.
-/

open Sct.Effect

namespace Sct.Aws

/-- `AMI_ID_PARAMS`. -/
inductive AmiParam where
  | amiIdDbScylla
  | amiIdLoader
  | amiIdMonitor
  | amiIdDbCassandra
  | amiIdDbOracle
  | amiIdVectorStore
  deriving DecidableEq, Repr

def amiIdParams : List AmiParam :=
  [.amiIdDbScylla, .amiIdLoader, .amiIdMonitor, .amiIdDbCassandra, .amiIdDbOracle,
    .amiIdVectorStore]

def AmiParam.key : AmiParam → String
  | .amiIdDbScylla => "ami_id_db_scylla"
  | .amiIdLoader => "ami_id_loader"
  | .amiIdMonitor => "ami_id_monitor"
  | .amiIdDbCassandra => "ami_id_db_cassandra"
  | .amiIdDbOracle => "ami_id_db_oracle"
  | .amiIdVectorStore => "ami_id_vector_store"

lemma amiIdParams_nodup : amiIdParams.Nodup := by decide

lemma mem_amiIdParams (key : AmiParam) : key ∈ amiIdParams := by
  cases key <;> decide

structure Settings where
  /-- `SCT_REGION_NAME`, `region_name` and `availability_zone`. -/
  placement : Placement
  amis : AmiParam → Option String
  targetDbImageIds : List String

/-- A recorded call, with the state it was made in. -/
inductive Event (κ : Type) where
  /-- `switch_region`, to a region and from another. -/
  | switchRegion (region : String) (sourceRegion : Option String) (settings : Settings) (cloud : κ)
  /-- `restore_region` or `_restore_region_names`. -/
  | restore (settings : Settings)

/-- The state an AWS provisioning run works on. -/
structure World (κ : Type) where
  settings : Settings
  /-- The cloud, and the objects and class attributes of the program. -/
  cloud : κ
  history : List (Event κ)

variable {κ α : Type}

/-- Code that may do anything to a world. -/
abbrev Action (κ : Type) := EStateM Exc (World κ)

/-- Code that reads the settings and acts on the cloud. -/
abbrev Query (κ : Type) := ReaderT Settings (EStateM Exc κ)

/-- Code that reads the settings, acts on the cloud and may rewrite `availability_zone`. -/
abbrev ZoneStep (κ : Type) := ReaderT Settings (EStateM Exc (Option String × κ))

namespace World

def withCloud (cloud : κ) (world : World κ) : World κ := { world with cloud := cloud }

def withSettings (world : World κ) (settings : Settings) : World κ :=
  { world with settings := settings }

def withPlacement (world : World κ) (placement : Placement) : World κ :=
  world.withSettings { world.settings with placement := placement }

/-- What a `ZoneStep` works on. -/
def zonesAndCloud (world : World κ) : Option String × κ :=
  (world.settings.placement.availabilityZone, world.cloud)

/-- Write back what a `ZoneStep` worked on. -/
def withZonesAndCloud (part : Option String × κ) (world : World κ) : World κ :=
  (world.withPlacement { world.settings.placement with availabilityZone := part.1 }).withCloud
    part.2

def amisAndCloud (world : World κ) : (AmiParam → Option String) × κ :=
  (world.settings.amis, world.cloud)

/-- Write back what the lookups of AMIs worked on. -/
def withAmisAndCloud (part : (AmiParam → Option String) × κ) (world : World κ) : World κ :=
  (world.withSettings { world.settings with amis := part.1 }).withCloud part.2

end World

def Query.lift (query : Query κ α) : Action κ α := fun world =>
  (zoom World.cloud World.withCloud (query world.settings)).run world

def ZoneStep.lift (step : ZoneStep κ α) : Action κ α := fun world =>
  (zoom World.zonesAndCloud World.withZonesAndCloud (step world.settings)).run world

def modifyCloud (update : κ → κ) : Action κ Unit :=
  modify fun world => world.withCloud (update world.cloud)

def writePlacement (update : Placement → Placement) : Action κ Unit :=
  modify fun world => world.withPlacement (update world.settings.placement)

/-- `params["availability_zone"] = value`. -/
def writeAvailabilityZone (value : Option String) : Action κ Unit :=
  writePlacement fun placement => { placement with availabilityZone := value }

def record (event : World κ → Event κ) : Action κ Unit :=
  modify fun world => { world with history := world.history ++ [event world] }

lemma query_ok {query : Query κ α} {world after : World κ} {value : α}
    (ran : query.lift.run world = .ok value after) :
    ∃ cloud, (query world.settings).run world.cloud = .ok value cloud ∧
      after = world.withCloud cloud :=
  zoom_ok_iff.mp ran

lemma query_error {query : Query κ α} {world after : World κ} {exc : Exc}
    (ran : query.lift.run world = .error exc after) :
    ∃ cloud, (query world.settings).run world.cloud = .error exc cloud ∧
      after = world.withCloud cloud :=
  zoom_error_iff.mp ran

end Sct.Aws
