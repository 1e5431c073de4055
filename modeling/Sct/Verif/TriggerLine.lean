import Sct.Trigger.Triggering
import Sct.Verif.ScyllaTag

/-!
# Two spellings of a release line

The image lookups take `X.Y` and `branch-X.Y:latest` for one request (`asBranchQualifier_text`).
The filters and the job folder do not: they compare `X.Y` in one case and `branch-X.Y` in the other.
The filters also compare texts and not numbers, so an entry `X.Y` matches the versions of every line
whose minor number begins with the digits of `Y`.
-/

namespace Sct.Trigger

open Sct.Scan
open List
open Sct.Utils

/-- A release line, as a version writes its two numbers. -/
structure ReleaseLine where
  major : Numeral
  minor : Numeral

namespace ReleaseLine

variable (line : ReleaseLine)

/-- `X.Y`. -/
def text : String := String.ofList (line.major.text ++ '.' :: line.minor.text)

/-- `branch-X.Y`. -/
def branch : String := "branch-" ++ line.text

def value : Nat × Nat := (line.major.value, line.minor.value)

/-- A version of the line goes on after the two numbers, if it does, with no digit. -/
def IsVersion (version : String) : Prop :=
  ∃ rest, version.toList = line.text.toList ++ rest ∧ ∀ char ∈ rest.head?, isDigit char = false

/-- The line whose minor number has another digit `1`. -/
def longer : ReleaseLine where
  major := line.major
  minor := ⟨line.minor.text ++ ['1'], by simp, fun char listed =>
    (mem_append.mp listed).elim (line.minor.digits char) fun last => by
      rw [mem_singleton.mp last]
      rfl⟩

lemma value_longer : line.longer.value ≠ line.value := by
  intro same
  have minors : digitsValue (line.minor.text ++ ['1']) = digitsValue line.minor.text :=
    (Prod.mk.inj same).2
  rw [digitsValue, Nat.ofDigitChars, foldl_append] at minors
  change 10 * digitsValue line.minor.text + 1 = digitsValue line.minor.text at minors
  omega

/-! ## What the patterns make of the two spellings -/

lemma majorMinor_text : majorMinor line.text.toList =
    some (line.major.text, line.minor.text, []) := by
  have scanned := @majorMinor_append [] line.major line.minor (fun _ first => nomatch first)
  rw [append_nil] at scanned
  rw [text, String.toList_ofList]
  exact scanned

lemma simpleVersion_text : simpleVersion line.text =
    some (String.ofList line.major.text, String.ofList line.minor.text) := by
  rw [simpleVersion, line.majorMinor_text]
  rfl

lemma branchChar_of_mem {char : Char} (listed : char ∈ line.text.toList) :
    (isAlphanumeric char || char == '.' || char == '_' || char == '-') = true := by
  have numeral (number : Numeral) (among : char ∈ number.text) :
      (isAlphanumeric char || char == '.' || char == '_' || char == '-') = true := by
    rw [isAlphanumeric_of_isHex (isHex_of_isDigit (number.digits char among))]
    rfl
  rw [text, String.toList_ofList] at listed
  cases mem_append.mp listed with
  | inl among => exact numeral line.major among
  | inr rest =>
    cases mem_cons.mp rest with
    | inl dot =>
      rw [dot]
      rfl
    | inr among => exact numeral line.minor among

lemma text_ne_nil : line.text.toList ≠ [] := by
  simp [text]

lemma branchVersion_text : branchVersion line.text = none := by
  rw [branchVersion, run_all line.text_ne_nil (fun char => line.branchChar_of_mem)]
  rfl

lemma branchVersion_latest : branchVersion (line.branch ++ ":latest") = some line.branch := by
  have accepted : ∀ char ∈ line.branch.toList,
      (isAlphanumeric char || char == '.' || char == '_' || char == '-') = true := by
    intro char listed
    rw [branch, String.toList_append] at listed
    cases mem_append.mp listed with
    | inl among =>
      have all : ("branch-".toList.all fun char =>
        isAlphanumeric char || char == '.' || char == '_' || char == '-') = true := by decide
      exact all_eq_true.mp all char among
    | inr among => exact line.branchChar_of_mem among
  have name := run_append (by simp [branch]) accepted (@head_refused _ ':' "latest".toList rfl)
  have qualifier : run (· != '\n') "latest".toList = some ("latest".toList, []) := by decide
  have chars : (line.branch ++ ":latest").toList = line.branch.toList ++ ':' :: "latest".toList :=
    String.toList_append
  rw [branchVersion, chars, name]
  simp only [Option.bind_eq_bind, Option.bind_some]
  rw [one_cons rfl]
  simp only [Option.bind_some]
  rw [qualifier]
  exact congrArg some String.ofList_toList

lemma asBranchQualifier_text : asBranchQualifier line.text = line.branch ++ ":latest" := by
  rw [asBranchQualifier, line.branchVersion_text, line.simpleVersion_text]
  apply String.toList_inj.mp
  simp [branch, text]

end ReleaseLine

/-! ## The include/exclude decision -/

def selects (job : TriggerJob) (scyllaVersion : String) : Bool :=
  (job.includeVersions = [] || startsWithAny scyllaVersion job.includeVersions) &&
    !startsWithAny scyllaVersion job.excludeVersions

/-- `filter_jobs` reads the two lists of a job through this decision alone. -/
lemma keepJob_eq (filters : Filters) (scyllaVersion : String) (resolvedVersion : Option String)
    (job : TriggerJob) :
    keepJob filters scyllaVersion resolvedVersion job =
      (selects job scyllaVersion && keepJob filters scyllaVersion resolvedVersion
        { job with includeVersions := [], excludeVersions := [] }) := by
  have arch : archExcluded filters.imageArch
      { job with includeVersions := [], excludeVersions := [] } =
        archExcluded filters.imageArch job := rfl
  unfold keepJob selects
  rw [arch]
  by_cases included : job.includeVersions = []
  · cases excluded : startsWithAny scyllaVersion job.excludeVersions <;>
      simp [included, startsWithAny]
  · cases among : startsWithAny scyllaVersion job.includeVersions <;>
      cases excluded : startsWithAny scyllaVersion job.excludeVersions <;>
        simp [included, startsWithAny]

def Begins (entries : List String) (text : List Char) : Prop :=
  ∃ entry ∈ entries, entry ≠ "" ∧ entry.toList <+: text

def Selected (job : TriggerJob) (text : List Char) : Prop :=
  (job.includeVersions = [] ∨ "" ∈ job.includeVersions ∨ Begins job.includeVersions text) ∧
    "" ∉ job.excludeVersions ∧ ¬Begins job.excludeVersions text

variable {scyllaVersion compared : String}

lemma startsWithAny_iff (entries : List String)
    (stripped : stripVersionQualifier scyllaVersion = compared) :
    startsWithAny scyllaVersion entries = true ↔
      "" ∈ entries ∨ Begins entries compared.toList := by
  rw [startsWithAny, stripped, any_eq_true]
  constructor
  · rintro ⟨entry, listed, starts⟩
    by_cases empty : entry = ""
    · exact Or.inl (empty ▸ listed)
    · exact Or.inr ⟨entry, listed, empty, isPrefixOf_iff_prefix.mp starts⟩
  · rintro (listed | ⟨entry, listed, -, starts⟩)
    · exact ⟨"", listed, rfl⟩
    · exact ⟨entry, listed, isPrefixOf_iff_prefix.mpr starts⟩

lemma selects_iff (job : TriggerJob) (stripped : stripVersionQualifier scyllaVersion = compared) :
    selects job scyllaVersion = true ↔ Selected job compared.toList := by
  rw [selects, Bool.and_eq_true, Bool.or_eq_true, decide_eq_true_eq, Bool.not_eq_true',
    Bool.eq_false_iff, startsWithAny_iff _ stripped, Ne, startsWithAny_iff _ stripped, not_or]
  exact Iff.rfl

namespace ReleaseLine

variable (line : ReleaseLine)

lemma stripVersionQualifier_text : stripVersionQualifier line.text = line.text := by
  rw [stripVersionQualifier, line.branchVersion_text]
  rfl

lemma begins_text_iff {entries : List String}
    (unlisted : ∀ own : ReleaseLine, own.text ∉ entries) :
    Begins entries line.text.toList ↔ Begins entries (line.major.text ++ ['.']) := by
  have whole : line.text.toList = (line.major.text ++ ['.']) ++ line.minor.text := by
    simp [text]
  constructor
  · rintro ⟨entry, listed, nonempty, starts⟩
    refine ⟨entry, listed, nonempty, ?_⟩
    rw [whole] at starts
    cases prefix_or_prefix_of_prefix starts (prefix_append _ line.minor.text) with
    | inl short => exact short
    | inr long =>
      obtain ⟨part, same⟩ := long
      by_cases none : part = []
      · rw [none, append_nil] at same
        exact same ▸ prefix_refl _
      · have among : part <+: line.minor.text := by
          rw [← same] at starts
          exact (prefix_append_right_inj _).mp starts
        let own : ReleaseLine := ⟨line.major, part, none, fun char among' =>
          line.minor.digits char (among.subset among')⟩
        have text_own : own.text = entry := by
          apply String.toList_inj.mp
          rw [← same]
          simp [own, text]
        exact absurd listed (text_own ▸ unlisted own)
  · rintro ⟨entry, listed, nonempty, starts⟩
    refine ⟨entry, listed, nonempty, starts.trans ?_⟩
    rw [whole]
    exact prefix_append _ _

/-! ## The job folder -/

lemma determineJobFolder_text :
    determineJobFolder line.text none = .ok ("scylla-" ++ line.text) := by
  have nonempty : line.text ≠ "" := fun empty => line.text_ne_nil (by rw [empty]; rfl)
  have shown : "scylla-" ++ String.ofList line.major.text ++ "." ++ String.ofList line.minor.text =
      "scylla-" ++ line.text := by
    apply String.toList_inj.mp
    simp [text]
  rw [determineJobFolder, line.branchVersion_text, fullVersionTag, line.majorMinor_text,
    line.simpleVersion_text]
  show (if line.text = "" then _ else Except.ok _) = _
  rw [if_neg nonempty, shown]

lemma determineJobFolder_latest : determineJobFolder (line.branch ++ ":latest") none =
    .ok ("scylla-" ++ line.branch) := by
  have nonempty : line.branch ++ ":latest" ≠ "" := fun empty => by
    have length := congrArg String.length empty
    exact absurd length (by simp)
  rw [determineJobFolder, line.branchVersion_latest]
  show (if line.branch ++ ":latest" = "" then _ else Except.ok _) = _
  rw [if_neg nonempty]

lemma text_ne_branch : line.text ≠ line.branch := by
  intro same
  have length := congrArg String.length same
  rw [branch, String.length_append] at length
  have seven : "branch-".length = 7 := rfl
  omega

end ReleaseLine

/-! ## One request -/

/-- A job is treated alike for both spellings of a line, and its lists mean the lines they name. -/
structure LineWise (job : TriggerJob) (line : ReleaseLine) (jobFolder : Option String) : Prop where
  decision : selects job line.text = selects job (asBranchQualifier line.text)
  folder : determineJobFolder line.text jobFolder =
    determineJobFolder (asBranchQualifier line.text) jobFolder
  ownLine : ∀ own : ReleaseLine, own.text ∈ job.includeVersions ++ job.excludeVersions →
    ∀ other : ReleaseLine, other.value ≠ own.value → ∀ version, other.IsVersion version →
      startsWithAny version [own.text] = false

variable (line : ReleaseLine)

lemma folder_iff (jobFolder : Option String) :
    determineJobFolder line.text jobFolder =
      determineJobFolder (line.branch ++ ":latest") jobFolder ↔ truthy jobFolder ≠ none := by
  cases given : truthy jobFolder with
  | some folder => simp [determineJobFolder, given]
  | none =>
    have alike (version : String) :
        determineJobFolder version jobFolder = determineJobFolder version none := by
      rw [determineJobFolder, given, determineJobFolder]
      rfl
    rw [alike, alike, line.determineJobFolder_text, line.determineJobFolder_latest]
    constructor
    · intro same
      injection same with same
      exact absurd ((String.append_right_inj _).mp same) line.text_ne_branch
    · exact fun differ => absurd rfl differ

lemma startsWithAny_longer : startsWithAny line.longer.text [line.text] = true := by
  rw [startsWithAny_iff _ line.longer.stripVersionQualifier_text]
  by_cases empty : line.text = ""
  · exact Or.inl (empty ▸ mem_singleton_self _)
  · refine Or.inr ⟨line.text, mem_singleton_self _, empty, ?_⟩
    simp [ReleaseLine.text, ReleaseLine.longer]

/-- A job is treated alike for both spellings of a line, and its lists mean the lines they name,
exactly when the folder is given, the lists name no line, and the entries that begin with its major
number decide as those that begin the name of its branch. -/
theorem lineWise_iff (job : TriggerJob) (line : ReleaseLine) (jobFolder : Option String) :
    LineWise job line jobFolder ↔
      truthy jobFolder ≠ none ∧
      (∀ own : ReleaseLine, own.text ∉ job.includeVersions ++ job.excludeVersions) ∧
      (Selected job (line.major.text ++ ['.']) ↔ Selected job line.branch.toList) := by
  have decided (unlisted : ∀ own : ReleaseLine,
      own.text ∉ job.includeVersions ++ job.excludeVersions) :
      selects job line.text = selects job (asBranchQualifier line.text) ↔
        (Selected job (line.major.text ++ ['.']) ↔ Selected job line.branch.toList) := by
    have included : ∀ own : ReleaseLine, own.text ∉ job.includeVersions := fun own listed =>
      unlisted own (mem_append_left _ listed)
    have excluded : ∀ own : ReleaseLine, own.text ∉ job.excludeVersions := fun own listed =>
      unlisted own (mem_append_right _ listed)
    have latest : stripVersionQualifier (line.branch ++ ":latest") = line.branch := by
      rw [stripVersionQualifier, line.branchVersion_latest]
      rfl
    rw [line.asBranchQualifier_text, Bool.eq_iff_iff,
      selects_iff job line.stripVersionQualifier_text, selects_iff job latest, Selected,
      line.begins_text_iff included, line.begins_text_iff excluded]
    exact Iff.rfl
  constructor
  · intro alike
    have unlisted : ∀ own : ReleaseLine,
        own.text ∉ job.includeVersions ++ job.excludeVersions := by
      intro own listed
      have missed := alike.ownLine own listed own.longer own.value_longer own.longer.text
        ⟨[], (append_nil _).symm, fun _ first => nomatch first⟩
      rw [startsWithAny_longer own] at missed
      cases missed
    have folder := alike.folder
    rw [line.asBranchQualifier_text, folder_iff] at folder
    exact ⟨folder, unlisted, (decided unlisted).mp alike.decision⟩
  · rintro ⟨folder, unlisted, alike⟩
    refine ⟨(decided unlisted).mpr alike, ?_, fun own listed => absurd listed (unlisted own)⟩
    rw [line.asBranchQualifier_text, folder_iff]
    exact folder

/-- A job that is left out of `2025.1` is run for `branch-2025.1:latest`, in another folder, and is
left out of `2025.10` too. -/
theorem branch_spelling_selected :
    ∃ job : TriggerJob, job.excludeVersions = ["2025.1"] ∧
      selects job "2025.1" = false ∧ selects job "branch-2025.1:latest" = true ∧
      determineJobFolder "2025.1" none = .ok "scylla-2025.1" ∧
      determineJobFolder "branch-2025.1:latest" none = .ok "scylla-branch-2025.1" ∧
      selects job "2025.10" = false ∧
      ∀ line : ReleaseLine, line.text = "2025.1" → ¬LineWise job line none := by
  let job : TriggerJob := {
    jobName := "longevity", disabled := false, jobThrottleCategory := "", params := Dict.empty,
    backend := .aws, arch := "", labels := [], includeVersions := [],
    excludeVersions := ["2025.1"], preRelease := [], wait := false, waitTimeout := 14400,
    failOnError := false, collectResults := [] }
  have left : selects job "2025.1" = false := by decide
  have run : selects job "branch-2025.1:latest" = true := by decide
  refine ⟨job, rfl, left, run, by decide, by decide, by decide, ?_⟩
  intro line named alike
  have decision := alike.decision
  rw [line.asBranchQualifier_text, ReleaseLine.branch, named, left] at decision
  exact absurd (decision.trans run) (by decide)

end Sct.Trigger
