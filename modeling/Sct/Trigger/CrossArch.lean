import Sct.Trigger.Resolution

/-!
# Entries of one job for two architectures

The validator of a matrix, `reject_cross_arch_twins` of `sdcm/utils/trigger_matrix/models.py`. A
job must not be listed under two architectures for one version; whether two entries have a version
in common is tried out on some versions.
-/

namespace Sct.Trigger

def matchesVersion (job : TriggerJob) (version : String) : Bool :=
  if job.includeVersions ≠ [] && !job.includeVersions.any (startsWith version) then false
  else !job.excludeVersions.any (startsWith version)

/-- The versions that two entries are tried on. -/
def probes (a b : TriggerJob) : List String :=
  let prefixes := a.includeVersions ++ a.excludeVersions ++ b.includeVersions ++ b.excludeVersions
  "master" :: "9999.9" :: prefixes ++ prefixes.map (· ++ ".999")

def versionRangesOverlap (a b : TriggerJob) : Bool :=
  (probes a b).any fun version => matchesVersion a version && matchesVersion b version

/-- The enabled entries of each job, in order. -/
def byName (jobs : List TriggerJob) : List (String × List TriggerJob) :=
  let enabled := jobs.filter fun job => !job.disabled
  (enabled.map (·.jobName)).eraseDups.map fun name =>
    (name, enabled.filter fun job => job.jobName = name)

/-- Whether some entry and a later one run on different architectures for one version. -/
def anyTwins : List TriggerJob → Bool
  | [] => false
  | a :: later =>
    (later.any fun b => jobArch a ≠ jobArch b && versionRangesOverlap a b) || anyTwins later

/-- A matrix is accepted, or the error names the jobs. -/
def rejectCrossArchTwins (jobs : List TriggerJob) : Except (List String) Unit :=
  match ((byName jobs).filter fun entry => anyTwins entry.2).map Prod.fst with
  | [] => .ok ()
  | twins => .error (twins.mergeSort fun left right => left ≤ right)

end Sct.Trigger
