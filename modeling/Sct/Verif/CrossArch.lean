import Sct.Trigger.CrossArch
import Sct.Verif.TriggerLine

/-!
# What an accepted matrix selects for two architectures

Two entries with a version in common accept one of the versions they are tried on if one of them
lists versions to include: the longest of the listed texts that begin the common version. Without
such lists only `master` and `9999.9` are tried, and entries that exclude both of them pass.
-/

namespace Sct.Trigger

open List

variable {version : String} {job : TriggerJob}

lemma matchesVersion_iff :
    matchesVersion job version = true ↔
      (job.includeVersions = [] ∨
        ∃ listed ∈ job.includeVersions, listed.toList <+: version.toList) ∧
      ∀ listed ∈ job.excludeVersions, ¬listed.toList <+: version.toList := by
  simp [matchesVersion, startsWith, or_iff_not_imp_left]

lemma selects_eq (job : TriggerJob) (scyllaVersion : String) :
    selects job scyllaVersion = matchesVersion job (stripVersionQualifier scyllaVersion) := by
  rw [Bool.eq_iff_iff, matchesVersion_iff]
  simp [selects, startsWithAny, startsWith]

variable {a b : TriggerJob}

lemma overlap_of_included (first : matchesVersion a version = true)
    (second : matchesVersion b version = true)
    (some_ : a.includeVersions ≠ [] ∨ b.includeVersions ≠ []) :
    versionRangesOverlap a b = true := by
  obtain ⟨start, listed, starts, left, right⟩ : ∃ start : String,
      (start ∈ a.includeVersions ∨ start ∈ b.includeVersions) ∧
      start.toList <+: version.toList ∧
      (a.includeVersions = [] ∨ ∃ own ∈ a.includeVersions, own.toList <+: start.toList) ∧
      (b.includeVersions = [] ∨ ∃ own ∈ b.includeVersions, own.toList <+: start.toList) := by
    rcases (matchesVersion_iff.mp first).1 with none | ⟨one, among, starts⟩ <;>
      rcases (matchesVersion_iff.mp second).1 with none' | ⟨other, among', starts'⟩
    · exact absurd some_ (by simp [none, none'])
    · exact ⟨other, .inr among', starts', .inl none, .inr ⟨other, among', prefix_rfl⟩⟩
    · exact ⟨one, .inl among, starts, .inr ⟨one, among, prefix_rfl⟩, .inl none'⟩
    · -- of two texts that begin one version, one begins the other
      rcases prefix_or_prefix_of_prefix starts starts' with shorter | longer
      · exact ⟨other, .inr among', starts', .inr ⟨one, among, shorter⟩,
          .inr ⟨other, among', prefix_rfl⟩⟩
      · exact ⟨one, .inl among, starts, .inr ⟨one, among, prefix_rfl⟩,
          .inr ⟨other, among', longer⟩⟩
  have probed : start ∈ probes a b := by
    simp only [probes, mem_cons, mem_append]
    tauto
  refine any_eq_true.mpr ⟨start, probed, ?_⟩
  have begins {job : TriggerJob} (matched : matchesVersion job version = true)
      (included : job.includeVersions = [] ∨
        ∃ own ∈ job.includeVersions, own.toList <+: start.toList) :
      matchesVersion job start = true := by
    rw [matchesVersion_iff] at matched ⊢
    exact ⟨included, fun listed among early => matched.2 listed among (early.trans starts)⟩
  rw [begins first left, begins second right]
  rfl

lemma versionRangesOverlap_comm (a b : TriggerJob) :
    versionRangesOverlap a b = versionRangesOverlap b a := by
  have probed (version : String) : version ∈ probes a b ↔ version ∈ probes b a := by
    simp only [probes, mem_cons, mem_append, mem_map]
    grind
  rw [Bool.eq_iff_iff, versionRangesOverlap, versionRangesOverlap, any_eq_true, any_eq_true]
  exact exists_congr fun version => and_congr (probed version) (by rw [Bool.and_comm])

/-- Two enabled entries of one job for different architectures. -/
structure Twins (jobs : List TriggerJob) (a b : TriggerJob) : Prop where
  first : a ∈ jobs ∧ a.disabled = false
  second : b ∈ jobs ∧ b.disabled = false
  name : a.jobName = b.jobName
  arch : jobArch a ≠ jobArch b

lemma no_overlap_of_anyTwins {entries : List TriggerJob} (none : anyTwins entries = false)
    (first : a ∈ entries) (second : b ∈ entries) (differ : jobArch a ≠ jobArch b) :
    versionRangesOverlap a b = false := by
  induction entries with
  | nil => cases first
  | cons entry later ih =>
    rw [anyTwins, Bool.or_eq_false_iff, any_eq_false] at none
    rcases mem_cons.mp first with rfl | early <;> rcases mem_cons.mp second with rfl | late
    · exact absurd rfl differ
    · simpa [differ] using none.1 b late
    · rw [versionRangesOverlap_comm]
      simpa [differ.symm] using none.1 a early
    · exact ih none.2 early late

lemma Twins.no_overlap {jobs : List TriggerJob} (twins : Twins jobs a b)
    (accepted : rejectCrossArchTwins jobs = .ok ()) : versionRangesOverlap a b = false := by
  have enabled {job : TriggerJob} (own : job ∈ jobs ∧ job.disabled = false) :
      job ∈ jobs.filter fun job => !job.disabled := mem_filter.mpr ⟨own.1, by rw [own.2]; rfl⟩
  have quiet : ∀ entry ∈ byName jobs, anyTwins entry.2 = false := by
    unfold rejectCrossArchTwins at accepted
    split at accepted
    · rename_i none
      intro entry listed
      exact Bool.eq_false_iff.mpr (filter_eq_nil_iff.mp (map_eq_nil_iff.mp none) entry listed)
    · cases accepted
  have group := quiet (a.jobName, _) (mem_map.mpr ⟨a.jobName,
    mem_eraseDups.mpr (mem_map_of_mem (enabled twins.first)), rfl⟩)
  exact no_overlap_of_anyTwins group (mem_filter.mpr ⟨enabled twins.first, decide_eq_true rfl⟩)
    (mem_filter.mpr ⟨enabled twins.second, decide_eq_true twins.name.symm⟩) twins.arch

/-- An accepted matrix never selects two such entries exactly when every two of them without
versions to include have the empty text among those they exclude. -/
theorem twins_apart_iff (jobs : List TriggerJob) :
    (rejectCrossArchTwins jobs = .ok () → ∀ scyllaVersion a b, Twins jobs a b →
        ¬(selects a scyllaVersion = true ∧ selects b scyllaVersion = true)) ↔
      (rejectCrossArchTwins jobs = .ok () → ∀ a b, Twins jobs a b →
        a.includeVersions = [] → b.includeVersions = [] →
          "" ∈ a.excludeVersions ∨ "" ∈ b.excludeVersions) := by
  simp only [selects_eq]
  refine imp_congr_right fun accepted => ⟨?_, ?_⟩
  · intro apart a b twins none none'
    by_contra unlisted
    rw [not_or] at unlisted
    apply apart "" a b twins
    have stripped : stripVersionQualifier "" = "" := by decide
    rw [stripped, matchesVersion_iff, matchesVersion_iff]
    have empty {excluded : List String} (missing : "" ∉ excluded) :
        ∀ listed ∈ excluded, ¬listed.toList <+: "".toList := by
      intro listed among starts
      have none : listed = "" := String.toList_inj.mp (prefix_nil.mp starts)
      exact missing (none ▸ among)
    exact ⟨⟨.inl none, empty unlisted.1⟩, .inl none', empty unlisted.2⟩
  · intro excluded scyllaVersion a b twins ⟨first, second⟩
    by_cases none : a.includeVersions = [] ∧ b.includeVersions = []
    · rcases excluded a b twins none.1 none.2 with listed | listed
      · exact (matchesVersion_iff.mp first).2 "" listed nil_prefix
      · exact (matchesVersion_iff.mp second).2 "" listed nil_prefix
    · have overlap := overlap_of_included first second (not_and_or.mp none)
      rw [twins.no_overlap accepted] at overlap
      cases overlap

def anyVersion (arch : String) (excludeVersions : List String) : TriggerJob where
  jobName := "longevity"
  disabled := false
  jobThrottleCategory := ""
  params := Dict.empty
  backend := .aws
  arch := arch
  labels := []
  includeVersions := []
  excludeVersions := excludeVersions
  preRelease := []
  wait := false
  waitTimeout := 14400
  failOnError := false
  collectResults := []

/-- One entry leaves out `master` and the other a far release, and both are selected for 2025.1. -/
theorem twins_selected :
    let first := anyVersion "x86_64" ["master"]
    let second := anyVersion "aarch64" ["9999"]
    rejectCrossArchTwins [first, second] = .ok () ∧ selects first "2025.1" = true ∧
      selects second "2025.1" = true := by
  decide

end Sct.Trigger
