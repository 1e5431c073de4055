import Sct.Trigger.Resolution

/-!
# Image lookups

`_resolve_latest_version_for_backend`, `version_exists_for_backend` and `_version_exists_in_region`
of `sdcm/utils/trigger_matrix/images.py`, over what the clouds answer: the version of the newest
image of a branch, and whether there is an image of a version. GCE images have no region, so the
lookups there get none.
-/

namespace Sct.Trigger

/-- What the clouds answer about a version, on a backend, in a region, for an architecture. -/
structure Lookups where
  /-- The version of the newest image, empty if there is none or the lookup fails. -/
  latest : String → Backend → String → String → String
  published : String → Backend → String → String → Bool

namespace Lookups

variable (loads : JsonLoads) (lookups : Lookups)

/-- `_resolve_latest_version_for_backend`. -/
def resolveLatestVersion (scyllaVersion : String) (target : BackendTarget) : String :=
  let branchVersion := asBranchQualifier scyllaVersion
  let region := (splitRegions loads target.region).headD ""
  match target.backend with
  | .aws => lookups.latest branchVersion .aws region target.arch
  | .gce => lookups.latest branchVersion .gce "" target.arch
  | .azure => lookups.latest branchVersion .azure region target.arch
  | .oci => lookups.latest branchVersion .oci region target.arch
  | .docker => ""

def versionExistsInRegion (version : String) (backend : Backend) (lookupRegion arch : String) :
    Bool :=
  match backend with
  | .aws => lookups.published version .aws lookupRegion arch
  | .gce => lookups.published version .gce "" arch
  | .azure => lookups.published version .azure lookupRegion arch
  | .oci => lookups.published version .oci lookupRegion arch
  | .docker => true

/-- `split_regions(_backend_region(backend, region)) or [""]`. -/
def lookupRegions (target : BackendTarget) : List String :=
  let regions := splitRegions loads
    ((backendRegion loads target.backend (.text target.region)).getD "")
  if regions = [] then [""] else regions

def versionExistsForBackend (version : String) (target : BackendTarget) : Bool :=
  (lookupRegions loads target).all fun single =>
    lookups.versionExistsInRegion version target.backend single target.arch

def images : Images where
  resolveLatestVersion := lookups.resolveLatestVersion loads
  versionExists := lookups.versionExistsForBackend loads
  versionExistsInRegion := lookups.versionExistsInRegion

end Lookups

end Sct.Trigger
