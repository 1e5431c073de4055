import Mathlib.Data.String.Basic
import Sct.Trigger.Images
import Sct.Verif.TriggerRegion

/-!
# The builds of a trigger

What `resolve_versions_for_targets` returns. Under every strategy the loop decides about each target
by itself, so the two dictionaries are those of one choice (`Chosen`): a target is in the one or in
the other. A build that is chosen is published wherever the target runs. Under `common` it is the
first of the targets' latest builds, sorted by date, that is published on all of them.
-/

open List

namespace Sct.Trigger

/-! ## Regions of a target -/

def BackendTarget.regions (loads : JsonLoads) (target : BackendTarget) : List String :=
  if splitRegions loads target.region = [] then [target.backend.defaultRegion]
  else splitRegions loads target.region

/-- A name of a region: not empty, and without commas, white space or brackets. -/
structure IsRegionName (name : String) : Prop extends IsWord name where
  comma : ',' ∉ name.toList
  bracket : '[' ∉ name.toList

def BackendTarget.Named (loads : JsonLoads) (target : BackendTarget) : Prop :=
  ∀ name ∈ splitRegions loads target.region, IsRegionName name

variable (loads : JsonLoads)

lemma BackendTarget.regions_ne_nil (target : BackendTarget) : target.regions loads ≠ [] := by
  unfold BackendTarget.regions
  split
  · exact cons_ne_nil _ _
  · assumption

lemma IsRegionName.separates {name : String} (valid : IsRegionName name) :
    ∀ char ∈ name.toList, (char == ',' || isSpace char) = false := by
  intro char listed
  have other : char ≠ ',' := fun comma => valid.comma (comma ▸ listed)
  rw [valid.solid char listed, Bool.or_false]
  exact beq_eq_false_iff_ne.mpr other

variable {names : List String}

lemma commaSeparated_intercalate (valid : ∀ name ∈ names, IsRegionName name) :
    commaSeparated (",".intercalate names) = names := by
  induction names with
  | nil => rfl
  | cons first rest ih =>
    have word := valid first mem_cons_self
    have others := ih fun name listed => valid name (mem_cons_of_mem first listed)
    have kept (pieces : List (List Char)) :
        (first.toList :: pieces).filter (fun piece => !piece.isEmpty) =
          first.toList :: pieces.filter (fun piece => !piece.isEmpty) := by
      simp [word.nonempty]
    cases rest with
    | nil =>
      rw [String.intercalate_singleton, commaSeparated, splitOnP_eq_singleton word.separates,
        kept, filter_nil, map_singleton, String.ofList_toList]
    | cons second more =>
      have chars : (",".intercalate (first :: second :: more)).toList =
          first.toList ++ ',' :: (",".intercalate (second :: more)).toList := by
        simp [String.intercalate_cons_cons]
      rw [commaSeparated] at others
      rw [commaSeparated, chars, splitOnP_append_cons_of_forall_mem word.separates ',' rfl,
        kept, map_cons, String.ofList_toList, others]

lemma mem_intercalate {char : Char} (listed : char ∈ (",".intercalate names).toList) :
    char = ',' ∨ ∃ name ∈ names, char ∈ name.toList := by
  induction names with
  | nil => simp at listed
  | cons first rest ih =>
    cases rest with
    | nil =>
      exact Or.inr ⟨first, mem_cons_self, listed⟩
    | cons second more =>
      rw [String.intercalate_cons_cons, String.toList_append, String.toList_append,
        mem_append, mem_append] at listed
      rcases listed with (listed | listed) | listed
      · exact Or.inr ⟨first, mem_cons_self, listed⟩
      · exact Or.inl (mem_singleton.mp listed)
      · rcases ih listed with comma | ⟨name, member, held⟩
        · exact Or.inl comma
        · exact Or.inr ⟨name, mem_cons_of_mem first member, held⟩

lemma splitRegions_intercalate (some : names ≠ []) (valid : ∀ name ∈ names, IsRegionName name) :
    splitRegions loads (",".intercalate names) = names := by
  have cut := commaSeparated_intercalate valid
  have nonempty : (",".intercalate names).toList ≠ [] := by
    intro empty
    rw [commaSeparated, empty] at cut
    exact some cut.symm
  have word : IsWord (",".intercalate names) := by
    refine ⟨nonempty, fun char listed => ?_⟩
    rcases mem_intercalate listed with rfl | ⟨name, member, held⟩
    · rfl
    · exact (valid name member).solid char held
  have plain : ¬ startsWith (",".intercalate names) "[" = true := by
    intro starts
    obtain ⟨rest, equal⟩ := startsWith_iff.mp starts
    have held : '[' ∈ (",".intercalate names).toList := by
      rw [equal]
      exact mem_cons_self
    rcases mem_intercalate held with same | ⟨name, member, held⟩
    · exact absurd same (by decide)
    · exact (valid name member).bracket held
  have present : ",".intercalate names ≠ "" := fun empty => nonempty (by rw [empty]; rfl)
  unfold splitRegions
  rw [strip_of_isWord word, if_neg present, if_neg plain, cut]

variable {target : BackendTarget}

lemma lookupRegions_eq (named : target.Named loads) (regional : target.backend.regional = true) :
    Lookups.lookupRegions loads target = target.regions loads := by
  unfold Lookups.lookupRegions BackendTarget.regions
  rw [backendRegion_text regional, Option.getD_some, regionsOrDefault]
  by_cases none : splitRegions loads target.region = []
  · rw [if_pos none, if_pos none]
    cases backend : target.backend with
    | aws => rfl
    | azure => rfl
    | oci => rfl
    | gce => rw [backend] at regional; cases regional
    | docker => rw [backend] at regional; cases regional
  · rw [if_neg none, if_neg none, splitRegions_intercalate loads none named]
    exact if_neg none

/-! ## Published builds -/

variable {loads : JsonLoads} {lookups : Lookups}

/-- The newest image of a branch, found in the region of the query, is published there; a query
without a region is answered for the default one. -/
def Lookups.Sound (lookups : Lookups) : Prop :=
  ∀ version backend region arch, lookups.latest version backend region arch ≠ "" →
    lookups.published (lookups.latest version backend region arch) backend
      (if region = "" then backend.defaultRegion else region) arch = true

def PublishedOn (loads : JsonLoads) (lookups : Lookups) (version : String)
    (target : BackendTarget) : Prop :=
  ∀ region ∈ target.regions loads,
    lookups.versionExistsInRegion version target.backend region target.arch = true

lemma versionExistsInRegion_of_not_regional {backend : Backend}
    (nowhere : backend.regional = false) (version first second arch : String) :
    lookups.versionExistsInRegion version backend first arch =
      lookups.versionExistsInRegion version backend second arch := by
  cases backend with
  | gce => rfl
  | docker => rfl
  | aws => cases nowhere
  | azure => cases nowhere
  | oci => cases nowhere

lemma images_versionExists :
    (lookups.images loads).versionExists = lookups.versionExistsForBackend loads := by
  rw [Lookups.images]

lemma versionExistsForBackend_iff (named : target.Named loads) (version : String) :
    lookups.versionExistsForBackend loads version target = true ↔
      PublishedOn loads lookups version target := by
  unfold Lookups.versionExistsForBackend PublishedOn
  rw [all_eq_true]
  by_cases regional : target.backend.regional = true
  · rw [lookupRegions_eq loads named regional]
  · have nowhere : target.backend.regional = false := Bool.eq_false_iff.mpr regional
    have one : Lookups.lookupRegions loads target = [""] := by
      unfold Lookups.lookupRegions
      rw [backendRegion, if_neg regional]
      rfl
    rw [one]
    constructor
    · intro found region _
      rw [versionExistsInRegion_of_not_regional nowhere version region ""]
      exact found "" mem_cons_self
    · intro everywhere region _
      obtain ⟨place, listed⟩ := exists_mem_of_ne_nil _ (target.regions_ne_nil loads)
      rw [versionExistsInRegion_of_not_regional nowhere version region place]
      exact everywhere place listed

variable {original : String}

lemma latest_published (sound : lookups.Sound) (named : target.Named loads)
    (found : lookups.resolveLatestVersion loads original target ≠ "") :
    ∃ first, (target.regions loads).head? = some first ∧
      lookups.versionExistsInRegion (lookups.resolveLatestVersion loads original target)
        target.backend first target.arch = true := by
  let queried := (splitRegions loads target.region).headD ""
  have first : (target.regions loads).head? =
      some (if queried = "" then target.backend.defaultRegion else queried) := by
    unfold BackendTarget.regions
    cases names : splitRegions loads target.region with
    | nil => simp [queried, names]
    | cons name more =>
      have word := named name (names ▸ mem_cons_self)
      have visible : name ≠ "" := fun empty => word.nonempty (by rw [empty]; rfl)
      simp [queried, names, visible]
  refine ⟨_, first, ?_⟩
  unfold Lookups.resolveLatestVersion at found ⊢
  cases backend : target.backend with
  | docker => rfl
  | aws => rw [backend] at found; exact sound _ _ _ _ found
  | gce => rw [backend] at found; exact sound _ _ _ _ found
  | azure => rw [backend] at found; exact sound _ _ _ _ found
  | oci => rw [backend] at found; exact sound _ _ _ _ found

/-! ## One choice for each target -/

/-- The dictionaries hold the choices of these targets. -/
structure Chosen (choice : BackendTarget → Except String String) (targets : List BackendTarget)
    (resolved : Resolved) : Prop where
  versions : ∀ target version, resolved.versions.get target = some version ↔
    target ∈ targets ∧ choice target = .ok version
  unavailable : ∀ target reason, resolved.unavailable.get target = some reason ↔
    target ∈ targets ∧ choice target = .error reason

def Resolved.follow (choice : BackendTarget → Except String String) (resolved : Resolved)
    (target : BackendTarget) : Resolved :=
  match choice target with
  | .ok version => resolved.pick target version
  | .error reason => resolved.refuse target reason

variable {choice : BackendTarget → Except String String} {targets : List BackendTarget}
  {resolved : Resolved} {means : BackendTarget → String → Prop} (dict : Dict BackendTarget String)

lemma get_set_iff {value other : String} (target key : BackendTarget)
    (holds : ∀ key value, dict.get key = some value ↔ key ∈ targets ∧ means key value)
    (meant : ∀ other, means target other ↔ value = other) :
    (dict.set target value).get key = some other ↔
      key ∈ targets ++ [target] ∧ means key other := by
  rw [Dict.get_set, mem_append, mem_singleton]
  by_cases same : key = target
  · subst same
    rw [if_pos rfl, meant, Option.some_inj]
    exact ⟨fun equal => ⟨Or.inr rfl, equal⟩, fun both => both.2⟩
  · rw [if_neg same, holds, or_iff_left same]

lemma get_other_iff {other : String} (target key : BackendTarget)
    (holds : ∀ key value, dict.get key = some value ↔ key ∈ targets ∧ means key value)
    (absent : ∀ other, ¬ means target other) :
    dict.get key = some other ↔ key ∈ targets ++ [target] ∧ means key other := by
  rw [holds, mem_append, mem_singleton]
  by_cases same : key = target
  · subst same
    exact iff_of_false (fun both => absent other both.2) (fun both => absent other both.2)
  · rw [or_iff_left same]

lemma Chosen.follow (chosen : Chosen choice targets resolved) (target : BackendTarget) :
    Chosen choice (targets ++ [target]) (resolved.follow choice target) := by
  unfold Resolved.follow
  cases picked : choice target with
  | ok version =>
    constructor
    · intro key other
      apply get_set_iff _ _ _ chosen.versions
      intro other
      rw [picked, Except.ok.injEq]
    · intro key other
      apply get_other_iff _ _ _ chosen.unavailable
      intro other impossible
      rw [picked] at impossible
      cases impossible
  | error reason =>
    constructor
    · intro key other
      apply get_other_iff _ _ _ chosen.versions
      intro other impossible
      rw [picked] at impossible
      cases impossible
    · intro key other
      apply get_set_iff _ _ _ chosen.unavailable
      intro other
      rw [picked, Except.error.injEq]

lemma chosen_foldl (choice : BackendTarget → Except String String)
    (targets : List BackendTarget) :
    Chosen choice targets (targets.foldl (Resolved.follow choice) ⟨Dict.empty, Dict.empty⟩) := by
  have run (targets : List BackendTarget) : ∀ (done : List BackendTarget) (resolved : Resolved),
      Chosen choice done resolved →
      Chosen choice (done ++ targets) (targets.foldl (Resolved.follow choice) resolved) := by
    induction targets with
    | nil =>
      intro done resolved chosen
      rw [append_nil]
      exact chosen
    | cons target rest ih =>
      intro done resolved chosen
      rw [foldl_cons, append_cons]
      exact ih _ _ (chosen.follow target)
  have start : Chosen choice [] ⟨Dict.empty, Dict.empty⟩ := by
    constructor <;>
    · intro target text
      exact iff_of_false (fun none => nomatch none) (fun both => nomatch both.1)
  exact run targets [] _ start

lemma Chosen.splits (chosen : Chosen choice targets resolved) (target : BackendTarget) :
    (target ∈ targets ↔ target ∈ resolved.versions ∨ target ∈ resolved.unavailable) ∧
      ¬ (target ∈ resolved.versions ∧ target ∈ resolved.unavailable) := by
  rw [Dict.mem_iff, Dict.mem_iff]
  cases picked : choice target with
  | ok version =>
    have known := (chosen.versions target version).trans (and_iff_left picked)
    have never : ¬ ∃ reason, resolved.unavailable.get target = some reason := by
      rintro ⟨reason, held⟩
      have refused := ((chosen.unavailable target reason).mp held).2
      rw [picked] at refused
      cases refused
    refine ⟨⟨fun listed => Or.inl ⟨version, known.mpr listed⟩, ?_⟩, fun both => never both.2⟩
    rintro (⟨other, held⟩ | held)
    · exact ((chosen.versions target other).mp held).1
    · exact absurd held never
  | error reason =>
    have known := (chosen.unavailable target reason).trans (and_iff_left picked)
    have never : ¬ ∃ version, resolved.versions.get target = some version := by
      rintro ⟨version, held⟩
      have refused := ((chosen.versions target version).mp held).2
      rw [picked] at refused
      cases refused
    refine ⟨⟨fun listed => Or.inr ⟨reason, known.mpr listed⟩, ?_⟩, fun both => never both.1⟩
    rintro (held | ⟨other, held⟩)
    · exact absurd held never
    · exact ((chosen.unavailable target other).mp held).1

/-! ## The choices of the strategies -/

variable (loads lookups) in
def pinnedChoice (version : String) (target : BackendTarget) : Except String String :=
  if lookups.versionExistsForBackend loads version target then .ok version
  else .error ("build '" ++ version ++ "' is not published")

variable (loads lookups) in
def perBackendChoice (original reference : String) (target : BackendTarget) :
    Except String String :=
  let resolvable := isResolvablePartialVersion original
  if !target.backend.hasImages then .ok (if resolvable then original else reference)
  else if !resolvable then pinnedChoice loads lookups reference target
  else
    let version := lookups.resolveLatestVersion loads original target
    if version = "" then .error ("no image found for '" ++ original ++ "'")
    else if ((splitRegions loads target.region).drop 1).all fun other =>
        lookups.versionExistsInRegion version target.backend other target.arch then .ok version
    else .error ("build '" ++ version ++ "' is not published in every region")

lemma pickPublished_eq (version : String) (resolved : Resolved) (target : BackendTarget) :
    resolved.pickPublished (lookups.images loads) version target =
      resolved.follow (pinnedChoice loads lookups version) target := by
  unfold Resolved.pickPublished Resolved.follow pinnedChoice
  rw [images_versionExists]
  by_cases found : lookups.versionExistsForBackend loads version target = true
  · rw [if_pos found, if_pos found]
  · rw [if_neg found, if_neg found]

lemma resolvePerBackend_eq (original reference : String) (resolved : Resolved)
    (target : BackendTarget) :
    resolvePerBackend loads (lookups.images loads) original reference resolved target =
      resolved.follow (perBackendChoice loads lookups original reference) target := by
  unfold resolvePerBackend perBackendChoice
  rw [pickPublished_eq]
  unfold Resolved.follow
  have latest : (lookups.images loads).resolveLatestVersion original target =
      lookups.resolveLatestVersion loads original target := rfl
  have exist : (lookups.images loads).versionExistsInRegion = lookups.versionExistsInRegion := rfl
  rw [latest, exist]
  dsimp only
  split
  · rfl
  · split
    · rfl
    · split
      · rfl
      · split
        · rfl
        · rfl

lemma pinnedChoice_published (named : target.Named loads) {pinned version : String}
    (picked : pinnedChoice loads lookups pinned target = .ok version) :
    PublishedOn loads lookups version target := by
  unfold pinnedChoice at picked
  split at picked
  · rename_i found
    cases picked
    exact (versionExistsForBackend_iff named _).mp found
  · cases picked

variable {reference : String}

lemma perBackendChoice_published (sound : lookups.Sound) (named : target.Named loads)
    (imaged : target.backend.hasImages = true) {version : String}
    (picked : perBackendChoice loads lookups original reference target = .ok version) :
    PublishedOn loads lookups version target := by
  simp only [perBackendChoice, imaged, Bool.not_true, Bool.false_eq_true, if_false] at picked
  by_cases resolvable : isResolvablePartialVersion original = true
  · simp only [resolvable, Bool.not_true, Bool.false_eq_true, if_false] at picked
    by_cases none : lookups.resolveLatestVersion loads original target = ""
    · rw [if_pos none] at picked
      cases picked
    · rw [if_neg none] at picked
      obtain ⟨first, head, found⟩ := latest_published sound named none
      -- The first region is the one of the query; the loop has checked the others.
      split at picked
      · rename_i others
        cases picked
        intro region listed
        rw [all_eq_true] at others
        have regions : target.regions loads =
            first :: (splitRegions loads target.region).drop 1 := by
          rw [head?_eq_some_iff] at head
          obtain ⟨rest, equal⟩ := head
          unfold BackendTarget.regions at equal ⊢
          split at equal
          · rename_i empty
            rw [if_pos empty, empty]
            rw [(cons.inj equal).1]
            rfl
          · rename_i some
            rw [if_neg some, equal]
            rfl
        rw [regions] at listed
        rcases mem_cons.mp listed with rfl | listed
        · exact found
        · exact others region listed
      · cases picked
  · have pinned : isResolvablePartialVersion original = false := Bool.eq_false_iff.mpr resolvable
    simp only [pinned, Bool.not_false, if_true] at picked
    exact pinnedChoice_published named picked

/-! ## The common build -/

/-- The build a request that needs no lookup stands for. -/
def pinnedBuild (original reference : String) : String :=
  if reference = "" then original else reference

variable (loads lookups) in
/-- The latest builds of the targets; a request that pins a build has that one. -/
def latestBuilds (original reference : String) (targets : List BackendTarget) : List String :=
  if isResolvablePartialVersion original then
    ((targets.filter fun target => target.backend.hasImages).map
      (lookups.resolveLatestVersion loads original)).filter (· ≠ "")
  else [pinnedBuild original reference].filter (· ≠ "")

lemma mem_foldl_candidates (latest : BackendTarget → String) (targets : List BackendTarget)
    (version : String) : ∀ candidates : List String,
    version ∈ targets.foldl (fun candidates target =>
      if !target.backend.hasImages then candidates
      else if latest target = "" ∨ latest target ∈ candidates then candidates
      else candidates ++ [latest target]) candidates ↔
    version ∈ candidates ∨
      version ∈ ((targets.filter fun target => target.backend.hasImages).map latest).filter
        (· ≠ "") := by
  induction targets with
  | nil =>
    simp
  | cons target rest ih =>
    intro candidates
    rw [foldl_cons, ih]
    by_cases imaged : target.backend.hasImages = true
    · rw [filter_cons_of_pos (by exact imaged), map_cons, imaged]
      by_cases none : latest target = ""
      · simp [none]
      · by_cases known : latest target ∈ candidates
        · simp only [known, or_true, if_true, Bool.not_true, Bool.false_eq_true, if_false]
          rw [filter_cons_of_pos (by simpa using none), mem_cons]
          constructor
          · exact Or.imp_right Or.inr
          · rintro (listed | rfl | listed)
            · exact Or.inl listed
            · exact Or.inl known
            · exact Or.inr listed
        · simp only [known, none, or_false, if_false, Bool.not_true, Bool.false_eq_true]
          rw [filter_cons_of_pos (by simpa using none), mem_cons, mem_append,
            mem_singleton, or_assoc]
    · have bare : target.backend.hasImages = false := Bool.eq_false_iff.mpr imaged
      rw [filter_cons_of_neg (by exact imaged), bare]
      rfl

lemma mem_commonCandidates (original reference : String) (targets : List BackendTarget)
    (version : String) :
    version ∈ commonCandidates (lookups.images loads) original (pinnedBuild original reference)
        targets ↔
      version ∈ latestBuilds loads lookups original reference targets := by
  unfold commonCandidates latestBuilds
  by_cases resolvable : isResolvablePartialVersion original = true
  · rw [if_pos resolvable, if_pos resolvable, mem_mergeSort]
    have found := mem_foldl_candidates (lookups.resolveLatestVersion loads original) targets
      version []
    rw [or_iff_right not_mem_nil] at found
    exact found
  · rw [if_neg resolvable, if_neg resolvable]
    by_cases empty : pinnedBuild original reference = ""
    · rw [empty]
      rfl
    · rw [if_pos empty, filter_cons_of_pos (by simpa using empty)]
      rfl

lemma pairwise_commonCandidates (images : Images) (original reference : String)
    (targets : List BackendTarget) :
    (commonCandidates images original reference targets).Pairwise fun earlier later =>
      Utils.versionBuildDate later ≤ Utils.versionBuildDate earlier := by
  unfold commonCandidates
  split
  · let newer (left right : String) : Bool :=
      !decide (Utils.versionBuildDate left < Utils.versionBuildDate right)
    have newer_iff (left right : String) : newer left right = true ↔
        Utils.versionBuildDate right ≤ Utils.versionBuildDate left := by
      rw [Bool.not_eq_true', decide_eq_false_iff_not, not_lt]
    have trans (first second third : String) (before : newer first second = true)
        (after : newer second third = true) : newer first third = true := by
      rw [newer_iff] at before after ⊢
      exact after.trans before
    have total (first second : String) : (newer first second || newer second first) = true := by
      rw [Bool.or_eq_true, newer_iff, newer_iff]
      exact le_total _ _
    apply (pairwise_mergeSort trans total _).imp
    intro earlier later sorted
    exact (newer_iff earlier later).mp sorted
  · split
    · exact pairwise_singleton _ _
    · exact List.Pairwise.nil

variable (loads lookups) in
/-- A build published on all targets, such that none of their later builds is. -/
structure NewestCommon (original reference : String) (targets : List BackendTarget)
    (build : String) : Prop where
  latest : build ∈ latestBuilds loads lookups original reference targets
  published : ∀ target ∈ targets, PublishedOn loads lookups build target
  newest : ∀ other ∈ latestBuilds loads lookups original reference targets,
    (∀ target ∈ targets, PublishedOn loads lookups other target) →
      Utils.versionBuildDate other ≤ Utils.versionBuildDate build

lemma newestCommon_of_find {build : String} {targets : List BackendTarget}
    (named : ∀ target ∈ targets, target.Named loads)
    (found : (commonCandidates (lookups.images loads) original (pinnedBuild original reference)
      targets).find? (fun candidate => targets.all ((lookups.images loads).versionExists
      candidate)) = some build) :
    NewestCommon loads lookups original reference targets build := by
  have published (version : String) :
      targets.all ((lookups.images loads).versionExists version) = true ↔
        ∀ target ∈ targets, PublishedOn loads lookups version target := by
    rw [all_eq_true, images_versionExists]
    apply forall₂_congr
    intro target listed
    exact versionExistsForBackend_iff (named target listed) version
  have sorted := pairwise_commonCandidates (lookups.images loads) original
    (pinnedBuild original reference) targets
  obtain ⟨everywhere, earlier, later, candidates, refused⟩ :=
    find?_eq_some_iff_append.mp found
  have listed : build ∈ latestBuilds loads lookups original reference targets := by
    rw [← mem_commonCandidates, candidates]
    exact mem_append_right earlier mem_cons_self
  refine ⟨listed, (published build).mp everywhere, fun other latest also => ?_⟩
  rw [← mem_commonCandidates, candidates] at latest
  rw [candidates] at sorted
  rcases mem_append.mp latest with before | after
  · -- A candidate that was tried before is missing somewhere.
    have missing := refused other before
    rw [(published other).mpr also] at missing
    cases missing
  · rcases mem_cons.mp after with rfl | after
    · exact le_refl _
    · exact rel_of_pairwise_cons (pairwise_append.mp sorted).2.1 after

/-! ## The result -/

variable (loads lookups) in
/-- What a resolution that returns promises. -/
structure Resolves (original reference : String) (targets : List BackendTarget)
    (strategy : VersionResolution) (resolved : Resolved) : Prop where
  covers : ∀ target, target ∈ targets ↔
    target ∈ resolved.versions ∨ target ∈ resolved.unavailable
  apart : ∀ target, ¬ (target ∈ resolved.versions ∧ target ∈ resolved.unavailable)
  published : ∀ target version, resolved.versions.get target = some version →
    target.backend.hasImages = true → PublishedOn loads lookups version target
  common : strategy = .common → ∃ build,
    NewestCommon loads lookups original reference targets build ∧
      ∀ target ∈ targets, resolved.versions.get target = some build

lemma Chosen.resolves {strategy : VersionResolution} (chosen : Chosen choice targets resolved)
    (published : ∀ target ∈ targets, ∀ version, choice target = .ok version →
      target.backend.hasImages = true → PublishedOn loads lookups version target)
    (common : strategy = .common → ∃ build, NewestCommon loads lookups original reference targets
      build ∧ ∀ target, choice target = .ok build) :
    Resolves loads lookups original reference targets strategy resolved := by
  constructor
  · exact fun target => (chosen.splits target).1
  · exact fun target => (chosen.splits target).2
  · intro target version held imaged
    obtain ⟨listed, picked⟩ := (chosen.versions target version).mp held
    exact published target listed version picked imaged
  · intro every
    obtain ⟨build, newest, picked⟩ := common every
    refine ⟨build, newest, fun target listed => ?_⟩
    exact (chosen.versions target build).mpr ⟨listed, picked target⟩

/-- A resolution that does not raise splits the targets into those with a published build and those
without, and under `common` all targets get the newest build that is published on all of them. -/
theorem resolveVersionsForTargets_resolves (loads : JsonLoads) (lookups : Lookups)
    (sound : lookups.Sound) (original reference : String) (targets : List BackendTarget)
    (named : ∀ target ∈ targets, target.Named loads) (strategy : VersionResolution)
    (resolved : Resolved)
    (returned : resolveVersionsForTargets loads (lookups.images loads) original reference targets
      strategy = .ok resolved) :
    Resolves loads lookups original reference targets strategy resolved := by
  unfold resolveVersionsForTargets at returned
  dsimp only at returned
  rw [← pinnedBuild] at returned
  cases strategy with
  | other name => cases returned
  | perBackend =>
    have loop : resolvePerBackend loads (lookups.images loads) original
        (pinnedBuild original reference) =
        Resolved.follow (perBackendChoice loads lookups original (pinnedBuild original reference)) :=
      funext fun resolved => funext fun target => resolvePerBackend_eq _ _ resolved target
    rw [loop] at returned
    injection returned with returned
    apply (returned ▸ chosen_foldl _ targets).resolves
    · intro target listed version picked imaged
      exact perBackendChoice_published sound (named target listed) imaged picked
    · exact fun impossible => nomatch impossible
  | awsStrict =>
    have loop : Resolved.pickPublished (lookups.images loads) (pinnedBuild original reference) =
        Resolved.follow (pinnedChoice loads lookups (pinnedBuild original reference)) :=
      funext fun resolved => funext fun target => pickPublished_eq _ resolved target
    rw [loop] at returned
    injection returned with returned
    apply (returned ▸ chosen_foldl _ targets).resolves
    · intro target listed version picked _
      exact pinnedChoice_published (named target listed) picked
    · exact fun impossible => nomatch impossible
  | common =>
    by_cases none : commonCandidates (lookups.images loads) original
        (pinnedBuild original reference) targets = []
    · rw [if_pos none] at returned
      cases returned
    · rw [if_neg none] at returned
      cases found : (commonCandidates (lookups.images loads) original
          (pinnedBuild original reference) targets).find? (fun candidate =>
            targets.all ((lookups.images loads).versionExists candidate)) with
      | none =>
        rw [found] at returned
        cases returned
      | some build =>
        have newest := newestCommon_of_find named found
        rw [found] at returned
        injection returned with returned
        have chosen : Chosen (fun _ => .ok build) targets resolved :=
          returned ▸ chosen_foldl (fun _ => .ok build) targets
        apply chosen.resolves
        · intro target listed version picked _
          injection picked with same
          exact same ▸ newest.published target listed
        · exact fun _ => ⟨build, newest, fun _ => rfl⟩

def oneDayBehind : Lookups where
  latest _ backend _ _ :=
    if backend = .aws then "2025.4.0-0.20250902.0123456789ab"
    else "2025.4.0-0.20250901.0123456789ab"
  published version backend _ _ :=
    backend = .aws || version = "2025.4.0-0.20250901.0123456789ab"

def twoTargets : List BackendTarget := [⟨.aws, "eu-west-1", "x86_64"⟩, ⟨.gce, "", "x86_64"⟩]

def noLists : JsonLoads := fun _ => none

/-- An AWS target and a GCE target get the build both have. -/
theorem oneDayBehind_resolves : ∃ resolved,
    resolveVersionsForTargets noLists (oneDayBehind.images noLists) "2025.4" "" twoTargets
      .common = .ok resolved ∧
    resolved.versions.get ⟨.aws, "eu-west-1", "x86_64"⟩ =
      some "2025.4.0-0.20250901.0123456789ab" ∧
    Resolves noLists oneDayBehind "2025.4" "" twoTargets .common resolved := by
  have sound : oneDayBehind.Sound := by
    intro version backend region arch _
    cases backend <;> rfl
  have region : IsRegionName "eu-west-1" := by
    refine ⟨⟨by decide, ?_⟩, by decide, by decide⟩
    have solid : "eu-west-1".toList.all (fun char => !isSpace char) = true := by decide
    intro char listed
    have visible := all_eq_true.mp solid char listed
    rwa [Bool.not_eq_true'] at visible
  have named : ∀ target ∈ twoTargets, target.Named noLists := by
    rw [twoTargets, forall_mem_cons, forall_mem_singleton]
    constructor
    · intro name listed
      have one : splitRegions noLists "eu-west-1" = ["eu-west-1"] := by decide
      rw [one, mem_singleton] at listed
      exact listed ▸ region
    · intro name listed
      exact nomatch listed
  have resolvable : isResolvablePartialVersion "2025.4" = true := by decide
  have candidates : commonCandidates (oneDayBehind.images noLists) "2025.4" "2025.4" twoTargets =
      ["2025.4.0-0.20250902.0123456789ab", "2025.4.0-0.20250901.0123456789ab"] := by
    apply mergeSort_of_pairwise
    show ["2025.4.0-0.20250902.0123456789ab", "2025.4.0-0.20250901.0123456789ab"].Pairwise _
    rw [pairwise_pair]
    decide
  have older : ["2025.4.0-0.20250902.0123456789ab", "2025.4.0-0.20250901.0123456789ab"].find?
      (fun candidate => twoTargets.all ((oneDayBehind.images noLists).versionExists candidate)) =
      some "2025.4.0-0.20250901.0123456789ab" := by
    decide
  have returned : resolveVersionsForTargets noLists (oneDayBehind.images noLists) "2025.4" ""
      twoTargets .common = .ok (twoTargets.foldl (fun resolved target =>
        resolved.pick target "2025.4.0-0.20250901.0123456789ab") ⟨Dict.empty, Dict.empty⟩) := by
    unfold resolveVersionsForTargets
    dsimp only
    rw [if_pos rfl, candidates, if_neg (cons_ne_nil _ _), older]
  refine ⟨_, returned, ?_, resolveVersionsForTargets_resolves _ _ sound _ _ _ named _ _ returned⟩
  decide

end Sct.Trigger
