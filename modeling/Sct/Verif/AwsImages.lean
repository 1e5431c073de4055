import Sct.Verif.AwsRegion

/-!
# Where AWS fallback leaves the AMIs

An AMI is an image of one region, and the AMI parameters hold one for each region in turn. A switch
that returns leaves every AMI in its region if the lookups answer with images of the region they are
asked about. Two steps do not: a single-region switch that raises half way, and every restore, which
puts back the regions and not the AMIs.
-/

open Sct.Effect
open List
open EStateM (Result)

namespace Sct.Aws

variable {κ : Type}

/-- Every AMI id of the value is an image of the region it is positioned for. -/
def InPlace (image : String → String → Prop) (regionNames : List String)
    (value : Option String) : Prop :=
  ∀ (index : Nat) (region ami : String), regionNames[index]? = some region →
    (words (value.getD ""))[index]? = some ami → startsWith ami "ami-" = true → image region ami

def AmisInPlace (image : String → String → Prop) (settings : Settings) : Prop :=
  ∀ key, InPlace image settings.placement.configuredRegions (settings.amis key)

/-- The lookups return images of the region they are asked for. -/
structure Faithful (api : Api κ) (image : String → String → Prop) : Prop where
  isWord : ∀ region ami, image region ami → IsWord ami
  ssm : ∀ name region cloud ami after,
    (api.getSsmAmi name region).run cloud = .ok ami after → image region ami
  owner : ∀ details region cloud ami after,
    (api.getByOwnerAmi details region).run cloud = .ok ami after → image region ami
  named : ∀ account filter name region cloud ami after,
    (api.newestImage account filter name region).run cloud = .ok (some ami) after →
      image region ami
  equivalent : ∀ amiId source region cloud images after,
    (api.findEquivalentAmi amiId source region).run cloud = .ok images after →
      ∀ ami ∈ images, image region ami

/-- A configured parameter holds image names or AMI ids, and not both. -/
def Unmixed (config : Config) : Prop :=
  ∀ key first others, words ((config.amiParamsSnapshot key).getD "") = first :: others →
    startsWith first "ami-" = false → ∀ token ∈ others, startsWith token "ami-" = false

/-- The resolver proposes regions, whose names are words. -/
structure NamesRegions (layout : Layout κ) : Prop where
  preferred : ∀ settings cloud target after,
    (layout.getPreferredSpotRegion settings).run cloud = .ok target after →
      ∀ candidate, target = some candidate → IsWord candidate.1
  candidates : ∀ settings cloud candidates after,
    (layout.getRegionFallbackCandidates settings).run cloud = .ok candidates after →
      ∀ candidate ∈ candidates, IsWord candidate.1
  dcCandidates : ∀ dcIndex settings cloud candidates after,
    (layout.getDcFallbackCandidates dcIndex settings).run cloud = .ok candidates after →
      ∀ candidate ∈ candidates, IsWord candidate.1

/-! ## Values -/

variable {image : String → String → Prop} {config : Config} {api : Api κ} {value : Option String}

lemma inPlace_of_noWords (empty : words (value.getD "") = []) (regionNames : List String) :
    InPlace image regionNames value := by
  intro index region ami _ positioned
  simp [empty] at positioned

lemma noWords_of_not_truthy (unset : truthy value = none) :
    words (value.getD "") = [] := by
  cases value with
  | none => exact words_empty
  | some text =>
    have blank : text = "" := by simpa [truthy] using unset
    simp [blank]

variable {text : String}

lemma truthy_eq_some (set : truthy value = some text) :
    value = some text := by
  cases value with
  | none => simp [truthy] at set
  | some other =>
    simp only [truthy] at set
    split at set
    · simp at set
    · exact set

variable {region : String} {images : List String}

lemma inPlace_of_images (split : words text = images) (all : ∀ ami ∈ images, image region ami) :
    InPlace image [region] (some text) := by
  intro index name ami asked positioned _
  rw [Option.getD_some, split] at positioned
  cases index with
  | zero =>
    have same : region = name := by simpa using asked
    exact same ▸ all ami (mem_of_getElem? positioned)
  | succ index => simp at asked

/-! ## Lookups -/

variable {cloud after : κ}

lemma mapM_image {lookup : String → EStateM Exc κ String}
    (found : ∀ cloud ami after, (lookup region).run cloud = .ok ami after → image region ami)
    (ran : ([region].mapM lookup).run cloud = .ok images after) :
    ∃ ami, image region ami ∧ images = [ami] := by
  have all : List.Forall₂ image [region] images := by
    refine mapM_ok_forall₂ (fun item listed state result after answered => ?_) ran
    obtain rfl := mem_singleton.mp listed
    exact found state result after answered
  obtain ⟨ami, rest, first, others, rfl⟩ := forall₂_cons_left_iff.mp all
  obtain rfl := forall₂_nil_left_iff.mp others
  exact ⟨ami, first, rfl⟩

variable {ami : String} {name : String}

lemma accountImage_image (faithful : Faithful api image) {account : ImageAccount}
    (ran : (accountImage api account name region).run cloud = .ok (some ami) after) :
    image region ami := by
  obtain ⟨found, middle, tagged, rest⟩ := bind_ok_iff.mp ran
  cases found with
  | none => exact faithful.named _ _ _ _ _ _ _ rest
  | some other =>
    obtain ⟨same, rfl⟩ := Result.ok.inj rest
    obtain rfl := Option.some.inj same
    exact faithful.named _ _ _ _ _ _ _ tagged

lemma namedImage_image (faithful : Faithful api image)
    (ran : (namedImage api name region).run cloud = .ok (some ami) after) : image region ami := by
  obtain ⟨own, middle, first, rest⟩ := bind_ok_iff.mp ran
  obtain ⟨shared, reached, second, ended⟩ := bind_ok_iff.mp rest
  obtain ⟨same, rfl⟩ := Result.ok.inj ended
  cases shared with
  | some other =>
    obtain rfl := Option.some.inj same
    exact accountImage_image faithful second
  | none =>
    have found : own = some ami := same
    rw [found] at first
    exact accountImage_image faithful first

lemma convertName_image (faithful : Faithful api image) {value result : String}
    (single : words text = [value]) (name : startsWith value "ami-" = false)
    (ran : (convertNameToAmiIfNeeded api text [region]).run cloud = .ok result after) :
    ∃ ami, image region ami ∧ words result = [ami] := by
  have joined : ∀ ami, image region ami → words (unwords [ami]) = [ami] := by
    intro ami found
    exact words_unwords (by simpa using faithful.isWord region ami found)
  simp only [convertNameToAmiIfNeeded, single] at ran
  split at ran
  · obtain ⟨images, mapped, rfl⟩ := map_ok_iff.mp ran
    obtain ⟨ami, found, rfl⟩ := mapM_image (faithful.ssm _ region) mapped
    exact ⟨ami, found, joined ami found⟩
  · split at ran
    · obtain ⟨images, mapped, rfl⟩ := map_ok_iff.mp ran
      obtain ⟨ami, found, rfl⟩ := mapM_image (faithful.owner _ region) mapped
      exact ⟨ami, found, joined ami found⟩
    · simp only [name, Bool.false_eq_true, ↓reduceIte] at ran
      obtain ⟨images, middle, mapped, rest⟩ := bind_ok_iff.mp ran
      have all : List.Forall₂ (fun region (found : Option String) =>
          ∀ ami, found = some ami → image region ami) [region] images := by
        refine mapM_ok_forall₂ (fun item listed state found after answered ami same => ?_) mapped
        exact namedImage_image faithful (same ▸ answered)
      obtain ⟨found, others, first, none, rfl⟩ := forall₂_cons_left_iff.mp all
      obtain rfl := forall₂_nil_left_iff.mp none
      split at rest
      · rename_i complete
        obtain ⟨ami, rfl⟩ := Option.isSome_iff_exists.mp (by simpa using complete.1)
        have text := (Result.ok.inj rest).1
        have found := first ami rfl
        exact ⟨ami, found, text ▸ joined ami found⟩
      · simp at rest

variable {source : String}

lemma equivalentAmi_image (faithful : Faithful api image) {key amiId : String}
    (ran : (equivalentAmi api key source region amiId).run cloud = .ok ami after) :
    image region ami := by
  obtain ⟨images, middle, found, rest⟩ := bind_ok_iff.mp ran
  cases images with
  | nil => simp at rest
  | cons first others =>
    obtain ⟨rfl, rfl⟩ := Result.ok.inj rest
    exact faithful.equivalent _ _ _ _ _ _ found first mem_cons_self

lemma remapAmisToRegions_inPlace (faithful : Faithful api image) {value key result : String}
    (ran : (remapAmisToRegions api value source [region] key).run cloud = .ok result after) :
    InPlace image [region] (some result) := by
  obtain ⟨remapped, middle, mapped, ended⟩ := bind_ok_iff.mp ran
  obtain ⟨rfl, rfl⟩ := Result.ok.inj ended
  have all : List.Forall₂ (fun region images => ∀ ami ∈ images, image region ami) [region]
      remapped := by
    refine mapM_ok_forall₂ (fun item _ state images after answered => ?_) mapped
    have found := mapM_ok_forall₂ (fun _ _ _ _ _ ran => equivalentAmi_image faithful ran) answered
    intro ami listed
    obtain ⟨index, inside, rfl⟩ := getElem_of_mem listed
    exact found.get (by rw [found.length_eq]; exact inside) inside
  obtain ⟨images, others, first, none, rfl⟩ := forall₂_cons_left_iff.mp all
  obtain rfl := forall₂_nil_left_iff.mp none
  have listed : ∀ ami ∈ [images].flatten, image region ami := by simpa using first
  exact inPlace_of_images (words_unwords fun ami member => faithful.isWord _ _ (listed ami member))
    listed

variable {key : AmiParam} {current result : Option String}

lemma resolveAmi_inPlace (faithful : Faithful api image) {sourceRegion : Option String}
    (known : truthy sourceRegion = some source)
    (ran : (resolveAmi config api [region] sourceRegion key current).run cloud = .ok result after) :
    InPlace image [region] result := by
  obtain ⟨isName, middle, asked, rest⟩ := bind_ok_iff.mp ran
  cases isName with
  | false =>
    simp only [Bool.false_eq_true, ↓reduceIte, known] at rest
    cases set : truthy current with
    | none =>
      simp only [set] at rest
      obtain ⟨rfl, rfl⟩ := Result.ok.inj rest
      exact inPlace_of_noWords (noWords_of_not_truthy set) _
    | some value =>
      simp only [set] at rest
      obtain ⟨text, remapped, rfl⟩ := map_ok_iff.mp rest
      exact remapAmisToRegions_inPlace faithful remapped
  | true =>
    obtain ⟨text, converted, rfl⟩ := map_ok_iff.mp rest
    simp only [isImageName] at asked
    cases set : truthy (config.amiParamsSnapshot key) with
    | none => simp [set] at asked
    | some original =>
      rw [truthy_eq_some set, Option.getD_some] at converted
      simp only [set] at asked
      cases tokens : words original with
      | nil => simp [tokens] at asked
      | cons first others =>
        have name : startsWith first "ami-" = false := by
          simp only [tokens, EStateM.run_pure, Result.ok.injEq] at asked
          simpa using asked.1
        cases others with
        | nil =>
          obtain ⟨ami, found, split⟩ := convertName_image faithful tokens name converted
          exact inPlace_of_images split (by simpa using found)
        | cons second more =>
          simp only [convertNameToAmiIfNeeded, tokens] at converted
          obtain ⟨rfl, rfl⟩ := Result.ok.inj converted
          intro index region ami asked positioned isAmi
          rw [Option.getD_some, tokens] at positioned
          cases index with
          | zero =>
            obtain rfl : first = ami := by simpa using positioned
            simp [name] at isAmi
          | succ index => simp at asked

variable {target : String}

lemma resolveRelocatedAmi_image (faithful : Faithful api image) (unmixed : Unmixed config)
    {currentAmi : String} {dcIndex regionCount : Nat} (within : dcIndex < regionCount)
    (ran : (resolveRelocatedAmi config api key currentAmi dcIndex regionCount source target).run
      cloud = .ok ami after) : image target ami := by
  unfold resolveRelocatedAmi at ran
  split at ran
  · rename_i first others tokens
    split at ran
    · exact equivalentAmi_image faithful ran
    · rename_i notAmi
      have name : startsWith first "ami-" = false := by simpa using notAmi
      obtain ⟨resolved, middle, converted, rest⟩ := bind_ok_iff.mp ran
      obtain converted | ⟨exc, failed, _, handled⟩ := tryCatch_ok_iff.mp converted
      · have chosen : (if (first :: others).length = regionCount then
            (first :: others).getD dcIndex "" else first) ∈ first :: others := by
          split
          · have inside : dcIndex < (first :: others).length := by omega
            rw [getD_eq_getElem?_getD, getElem?_eq_getElem inside, Option.getD_some]
            exact getElem_mem inside
          · exact mem_cons_self
        generalize (if (first :: others).length = regionCount then
            (first :: others).getD dcIndex "" else first) = token at chosen converted rest
        have word : IsWord token := isWord_of_mem_words (tokens ▸ chosen)
        have isName : startsWith token "ami-" = false := by
          rcases mem_cons.mp chosen with rfl | listed
          · exact name
          · exact unmixed key first others tokens name token listed
        obtain ⟨found, isImage, split⟩ :=
          convertName_image faithful (words_of_isWord word) isName converted
        simp only [split] at rest
        split at rest
        · obtain ⟨rfl, rfl⟩ := Result.ok.inj rest
          exact isImage
        · simp at rest
      · split at handled
        · simp at handled
        · simp at handled
  · exact equivalentAmi_image faithful ran

lemma remapDcAmiValue_inPlace (faithful : Faithful api image) (unmixed : Unmixed config)
    {regionNames : List String} {dcIndex : Nat} (within : dcIndex < regionNames.length)
    (held : InPlace image regionNames current)
    (ran : (remapDcAmiValue config api dcIndex regionNames.length source target key current).run
      cloud = .ok result after) : InPlace image (regionNames.set dcIndex target) result := by
  unfold remapDcAmiValue at ran
  split at ran
  · rename_i unset
    obtain ⟨rfl, rfl⟩ := Result.ok.inj ran
    exact inPlace_of_noWords (noWords_of_not_truthy unset) _
  · rename_i value set
    obtain rfl := truthy_eq_some set
    simp only at ran
    split at ran
    · simp at ran
    · split at ran
      · obtain ⟨rfl, rfl⟩ := Result.ok.inj ran
        intro index region ami asked positioned isAmi
        have inside := (List.getElem?_eq_some_iff.mp positioned).1
        simp only [Option.getD_some] at inside
        rw [getElem?_set_ne (by omega)] at asked
        exact held index region ami asked positioned isAmi
      · obtain ⟨ami, middle, resolved, ended⟩ := bind_ok_iff.mp ran
        obtain ⟨rfl, rfl⟩ := Result.ok.inj ended
        have moved := resolveRelocatedAmi_image faithful unmixed within resolved
        have allWords : ∀ piece ∈ (words value).set dcIndex ami, IsWord piece := by
          intro piece listed
          rcases mem_or_eq_of_mem_set listed with listed | rfl
          · exact isWord_of_mem_words listed
          · exact faithful.isWord _ _ moved
        intro index region other asked positioned isAmi
        rw [Option.getD_some, words_unwords allWords] at positioned
        by_cases same : dcIndex = index
        · subst same
          rw [getElem?_set_self within] at asked
          rw [getElem?_set_self (by omega)] at positioned
          obtain rfl := Option.some.inj asked
          obtain rfl := Option.some.inj positioned
          exact moved
        · rw [getElem?_set_ne same] at asked positioned
          exact held index region other asked positioned isAmi

end Sct.Aws
