import Sct.Lib.Dict
import Sct.Lib.Fallible
import Sct.Provision.Aws.AzResolver

/-!
# The two first choices of zones on AWS

`resolve` and `get_fallback_candidates` apply one rule: keep the configured letters that support
the instance types, and fill the slots that are left with the best scored of the others. The first
drops letters that are not supported, the second also those that score below the minimum. They
agree exactly when a letter is configured at all and no configured letter is dropped for its score
alone.
-/

namespace Sct.Aws

open Sct.Fallible
open List

/-! ## Supported letters -/

/-- A region offers all the instance types in the zone of a letter. -/
def Offers (answers : Ec2Answers) (instanceTypes : List String) (letter region : String) : Prop :=
  ∃ listed, answers.offerings region instanceTypes = .ok listed ∧
    ∀ instanceType ∈ instanceTypes, (instanceType, letter) ∈ listed

variable {answers : Ec2Answers} {region letter : String} {instanceTypes : List String}

lemma mem_getCommonAvailabilityZones {preferred zones : List String}
    (nonempty : instanceTypes ≠ [])
    (ran : getCommonAvailabilityZones answers region instanceTypes preferred = .ok zones) :
    letter ∈ zones ↔ Offers answers instanceTypes letter region := by
  cases instanceTypes with
  | nil => exact absurd rfl nonempty
  | cons first others =>
    obtain ⟨listed, answered, found⟩ := bind_eq_ok_iff.mp ran
    have offers : Offers answers (first :: others) letter region ↔
        (first, letter) ∈ listed ∧ ∀ instanceType ∈ others, (instanceType, letter) ∈ listed := by
      constructor
      · intro offered
        obtain ⟨given, same, all⟩ := offered
        rw [answered] at same
        cases same
        exact forall_mem_cons.mp all
      · intro all
        exact ⟨listed, answered, forall_mem_cons.mpr all⟩
    cases found
    rw [offers]
    simp only [mem_append, mem_filter, mem_sortTexts, mem_dedup, mem_map,
      decide_eq_true_eq, all_eq_true, Prod.exists, exists_eq_right]
    tauto

variable {regions letters : List String}

lemma mem_intersectRegions {preferred earlier : List String} (nonempty : instanceTypes ≠ [])
    (ran : intersectRegions answers preferred instanceTypes (some earlier) regions = .ok letters) :
    letter ∈ letters ↔
      letter ∈ earlier ∧ ∀ region ∈ regions, Offers answers instanceTypes letter region := by
  induction regions generalizing earlier with
  | nil =>
    cases ran
    simp
  | cons region rest ih =>
    obtain ⟨zones, found, later⟩ := bind_eq_ok_iff.mp ran
    rw [ih later, mem_filter, decide_eq_true_eq,
      mem_getCommonAvailabilityZones nonempty found, forall_mem_cons, and_assoc]

lemma mem_commonSupportedLetters {configured : List String} (nonempty : instanceTypes ≠ [])
    (named : regions ≠ [])
    (ran : commonSupportedLetters answers regions configured instanceTypes = .ok letters) :
    letter ∈ letters ↔ ∀ region ∈ regions, Offers answers instanceTypes letter region := by
  obtain ⟨common, found, listed⟩ := bind_eq_ok_iff.mp ran
  have shared : letter ∈ common ↔ ∀ region ∈ regions, Offers answers instanceTypes letter region := by
    cases regions with
    | nil => exact absurd rfl named
    | cons region rest =>
      obtain ⟨zones, first, later⟩ := bind_eq_ok_iff.mp found
      rw [mem_intersectRegions nonempty later, mem_getCommonAvailabilityZones nonempty first,
        forall_mem_cons]
  rw [← shared]
  cases listed
  simp only [mem_append, mem_filter, mem_sortTexts, mem_dedup, decide_eq_true_eq]
  tauto

/-! ## Letters that score below the minimum -/

/-- There is a score, and it is below the minimum. -/
def Low (minimum : Int) (score : Option Int) : Prop := ∃ value, score = some value ∧ value < minimum

/-- The scores of a role are asked for. -/
def Asked (requests : List (List String × Nat)) (request : List String × Nat) : Prop :=
  request ∈ requests ∧ request.1 ≠ [] ∧ 1 ≤ request.2

/-- Some role that is asked for scores a letter below the minimum. -/
def LowIn (answers : Ec2Answers) (requests : List (List String × Nat)) (minimum : Int)
    (region letter : String) : Prop :=
  ∃ request, Asked requests request ∧
    Low minimum (byLetter (answers.azScores request.1 request.2 region) letter)

def Answered (answers : Ec2Answers) (requests : List (List String × Nat)) (region : String) :
    Prop :=
  ∀ request, Asked requests request → answers.azScores request.1 request.2 region ≠ []

/-- The minimum counts: scores are enabled, there is one region, and every role got scores for
it. -/
structure Scored (answers : Ec2Answers) (config : ResolverConfig) (regions : List String)
    (region : String) : Prop where
  enabled : config.isSpotPlacementScoringEnabled = true
  only : regions = [region]
  answered : Answered answers config.scoredRoleRequests region

variable {minimum : Int} {worst : String → Option Int} {scores : List (String × Int)}

lemma low_lowerWorst :
    Low minimum (lowerWorst worst scores letter) ↔
      Low minimum (worst letter) ∨ Low minimum (byLetter scores letter) := by
  unfold lowerWorst Low
  cases byLetter scores letter with
  | none => simp
  | some score =>
    cases worst letter with
    | none => simp
    | some earlier =>
      simp only [Option.some.injEq, exists_eq_left']
      omega

lemma not_skipped_iff {count : Nat} :
    ¬(instanceTypes.isEmpty = true ∨ count < 1) ↔ instanceTypes ≠ [] ∧ 1 ≤ count := by
  rw [not_or, List.isEmpty_iff, Nat.not_lt]

variable {requests : List (List String × Nat)} {request : List String × Nat}

lemma answered_cons_iff : Answered answers (request :: requests) region ↔
    (request.1 ≠ [] → 1 ≤ request.2 → answers.azScores request.1 request.2 region ≠ []) ∧
      Answered answers requests region := by
  simp only [Answered, Asked, and_imp, mem_cons, forall_eq_or_imp]

lemma lowIn_cons_iff : LowIn answers (request :: requests) minimum region letter ↔
    (request.1 ≠ [] ∧ 1 ≤ request.2 ∧
      Low minimum (byLetter (answers.azScores request.1 request.2 region) letter)) ∨
      LowIn answers requests minimum region letter := by
  simp only [LowIn, Asked, and_assoc, mem_cons, exists_eq_or_imp]

lemma worstByLetter_cases (answers : Ec2Answers) (region : String)
    (requests : List (List String × Nat)) (worst : String → Option Int) :
    (¬Answered answers requests region ∧ worstByLetter answers region requests worst = none) ∨
      (Answered answers requests region ∧
        ∃ result, worstByLetter answers region requests worst = some result ∧
          ∀ minimum letter, Low minimum (result letter) ↔
            Low minimum (worst letter) ∨ LowIn answers requests minimum region letter) := by
  induction requests generalizing worst with
  | nil => simp [worstByLetter, Answered, LowIn, Asked]
  | cons request rest ih =>
    obtain ⟨instanceTypes, count⟩ := request
    simp only [worstByLetter, answered_cons_iff, lowIn_cons_iff]
    split
    · rename_i skipped
      have unasked : ¬(instanceTypes ≠ [] ∧ 1 ≤ count) := fun asked =>
        not_skipped_iff.mpr asked skipped
      simpa only [← and_assoc, ← and_imp, unasked, false_and, false_or, false_implies, true_and]
        using ih worst
    · rename_i asked
      have wanted := not_skipped_iff.mp asked
      simp only [wanted, ne_eq, not_false_eq_true, true_and, forall_const]
      split
      · rename_i empty
        exact .inl ⟨fun all => all.1 (List.isEmpty_iff.mp empty), rfl⟩
      · rename_i given
        rw [List.isEmpty_iff] at given
        simpa only [given, not_false_eq_true, true_and, low_lowerWorst, or_assoc]
          using ih (lowerWorst worst (answers.azScores instanceTypes count region))

lemma exists_of_byLetter {score : Int} (given : byLetter scores letter = some score) :
    ∃ item ∈ scores, item.1 ≠ "" ∧ item.2 = score := by
  unfold byLetter at given
  split at given
  · cases given
  · rename_i named
    obtain ⟨item, found, value⟩ := Option.map_eq_some_iff.mp given
    have listed : item ∈ scores := mem_reverse.mp (mem_of_find?_eq_some found)
    have same := find?_some found
    rw [decide_eq_true_eq] at same
    exact ⟨item, listed, same ▸ named, value⟩

variable {ranked : List String}

/-- Without a ranking the letters stay as they are. -/
lemma mem_rankAzLettersForRoles (nonempty : letters ≠ []) :
    letter ∈ (rankAzLettersForRoles answers requests region letters minimum).getD letters ↔
      letter ∈ letters ∧
        ¬(Answered answers requests region ∧ LowIn answers requests minimum region letter) := by
  unfold rankAzLettersForRoles
  rw [if_neg (mt List.isEmpty_iff.mp nonempty)]
  obtain ⟨unanswered, none⟩ | ⟨answered, worst, found, low⟩ :=
    worstByLetter_cases answers region requests fun _ => none
  · simp [none, unanswered]
  · have low : Low minimum (worst letter) ↔ LowIn answers requests minimum region letter := by
      rw [low]
      simp [Low]
    simp only [found, answered, true_and, ← low]
    split
    · rename_i bare
      have unscored : ¬Low minimum (worst letter) := by
        rw [low]
        rintro ⟨request, ⟨listed, typed, positive⟩, score, given, -⟩
        obtain ⟨item, among, named, -⟩ := exists_of_byLetter given
        have blank := all_eq_true.mp bare request listed
        rw [Bool.or_eq_true, Bool.or_eq_true, decide_eq_true_eq, List.isEmpty_iff] at blank
        rcases blank with (empty | few) | blank
        · exact typed empty
        · omega
        · exact named (beq_iff_eq.mp (all_eq_true.mp blank item among))
      simp [unscored]
    · rw [Option.getD_some, mem_append, mem_bestFirst, mem_filter, mem_filter]
      unfold Low
      cases worst letter with
      | none => simp
      | some score => simp

/-- Letters below the minimum are dropped when there is another letter. -/
def Drops (answers : Ec2Answers) (config : ResolverConfig) (regions : List String)
    (letter : String) : Prop :=
  ∃ region, Scored answers config regions region ∧
    LowIn answers config.scoredRoleRequests config.spotPlacementScoreMin region letter

variable {config : ResolverConfig} {slots : Nat}

section

variable (ran : rankLettersBySpotScore answers config slots regions letters = .ok ranked)
include ran

lemma rankLettersBySpotScore_ok :
    min slots letters.length ≤ ranked.length ∧
      ((2 ≤ letters.length ∧ config.isSpotPlacementScoringEnabled = true ∧
          ∃ region, regions = [region] ∧ ranked = (rankAzLettersForRoles answers
            config.scoredRoleRequests region letters config.spotPlacementScoreMin).getD letters) ∨
        (ranked = letters ∧ ¬(2 ≤ letters.length ∧
          config.isSpotPlacementScoringEnabled = true ∧ ∃ region, regions = [region]))) := by
  unfold rankLettersBySpotScore at ran
  split at ran
  · rename_i unused
    cases ran
    refine ⟨Nat.min_le_right _ _, .inr ⟨rfl, fun ⟨many, enabled, _⟩ => ?_⟩⟩
    rw [enabled] at unused
    rcases unused with few | off
    · omega
    · cases off
  · rename_i used
    rw [not_or, Nat.not_lt, Bool.not_eq_false] at used
    split at ran
    · rename_i region
      split at ran
      · rename_i unranked
        cases ran
        exact ⟨Nat.min_le_right _ _, .inl ⟨used.1, used.2, region, rfl, by rw [unranked]; rfl⟩⟩
      · rename_i list found
        simp only at ran
        split at ran
        · cases ran
        · rename_i enough
          cases ran
          exact ⟨Nat.not_lt.mp enough, .inl ⟨used.1, used.2, region, rfl, by rw [found]; rfl⟩⟩
    · rename_i several
      cases ran
      exact ⟨Nat.min_le_right _ _, .inr ⟨rfl, fun ⟨_, _, region, only⟩ => several region only⟩⟩

lemma mem_rankLettersBySpotScore :
    letter ∈ ranked ↔ letter ∈ letters ∧
      ¬(2 ≤ letters.length ∧ Drops answers config regions letter) := by
  obtain ⟨-, ⟨many, enabled, region, rfl, rfl⟩ | ⟨rfl, unused⟩⟩ := rankLettersBySpotScore_ok ran
  · rw [mem_rankAzLettersForRoles (ne_nil_of_length_pos (by omega))]
    refine and_congr_right fun _ => not_congr ⟨?_, ?_⟩
    · intro low
      exact ⟨many, region, ⟨enabled, rfl, low.1⟩, low.2⟩
    · rintro ⟨-, other, scored, below⟩
      cases scored.only
      exact ⟨scored.answered, below⟩
  · refine (and_iff_left fun ⟨many, region, scored, _⟩ => ?_).symm
    exact unused ⟨many, scored.enabled, region, scored.only⟩

end

/-! ## Filling the slots -/

variable {kept : List String}

lemma mem_fillSlots_of_mem (held : letter ∈ kept) : letter ∈ fillSlots slots kept letters := by
  induction letters generalizing kept with
  | nil => exact held
  | cons other rest ih =>
    rw [fillSlots]
    split
    · exact held
    · split
      · exact ih held
      · exact ih (mem_append_left _ held)

lemma mem_of_mem_fillSlots (held : letter ∈ fillSlots slots kept letters) :
    letter ∈ kept ∨ letter ∈ letters := by
  induction letters generalizing kept with
  | nil => exact .inl held
  | cons other rest ih =>
    rw [fillSlots] at held
    split at held
    · exact .inl held
    · split at held
      · exact (ih held).imp_right (mem_cons_of_mem other)
      · rcases ih held with before | later
        · rcases mem_append.mp before with early | added
          · exact .inl early
          · exact .inr (mem_cons.mpr (.inl (mem_singleton.mp added)))
        · exact .inr (mem_cons_of_mem other later)

lemma fillSlots_ne_nil (positive : 0 < slots) (nonempty : letters ≠ []) :
    fillSlots slots kept letters ≠ [] := by
  cases letters with
  | nil => exact absurd rfl nonempty
  | cons letter rest =>
    rw [fillSlots]
    split
    · exact ne_nil_of_length_pos (by omega)
    · split
      · rename_i held
        exact ne_nil_of_mem (mem_fillSlots_of_mem held)
      · exact ne_nil_of_mem (mem_fillSlots_of_mem (mem_append_right kept
          (mem_singleton.mpr rfl)))

/-! ## The two choices -/

/-- The settings of `availability_zone` have the zone of a letter in every region. -/
def Supported (answers : Ec2Answers) (config : ResolverConfig) (placement : Placement)
    (letter : String) : Prop :=
  ∀ region ∈ placement.regionNames, Offers answers config.requiredInstanceTypes letter region

/-- A configured letter that is supported scores below the minimum, and another one is
supported. -/
def Outscored (answers : Ec2Answers) (config : ResolverConfig) (placement : Placement)
    (letter : String) : Prop :=
  letter ∈ placement.configuredAzLetters ∧ Supported answers config placement letter ∧
    Drops answers config placement.regionNames letter ∧
    ∃ other, other ≠ letter ∧ Supported answers config placement other

variable {placement : Placement}

/-- What `resolve` settles on, from the letters that are supported and ranked. -/
lemma resolvedLetters_eq_some {written : List String}
    (settled : resolvedLetters answers config placement = .ok (some written)) :
    config.requiredInstanceTypes ≠ [] ∧ placement.regionNames ≠ [] ∧
    ∃ supported ranked,
      commonSupportedLetters answers placement.regionNames placement.configuredAzLetters
        config.requiredInstanceTypes = .ok supported ∧ supported ≠ [] ∧
      rankLettersBySpotScore answers config placement.configuredAzLetters.length
        placement.regionNames supported = .ok ranked ∧
      written = if config.scoreMayChooseAz then ranked.take placement.configuredAzLetters.length
        else fillSlots placement.configuredAzLetters.length
          (placement.configuredAzLetters.filter fun letter => decide (letter ∈ supported))
          ranked := by
  unfold resolvedLetters at settled
  simp only at settled
  split at settled
  · cases settled
  · rename_i reached
    rw [Bool.or_eq_true, Bool.or_eq_true, not_or, not_or] at reached
    obtain ⟨supported, found, rest⟩ := bind_eq_ok_iff.mp settled
    split at rest
    · cases rest
    · rename_i nonempty
      obtain ⟨ranked, order, ended⟩ := bind_eq_ok_iff.mp rest
      cases ended
      refine ⟨fun none => reached.1.2 (List.isEmpty_iff.mpr none),
        fun none => reached.2 (List.isEmpty_iff.mpr none), supported, ranked, found,
        fun none => nonempty (List.isEmpty_iff.mpr none), order, rfl⟩

variable {supported : List String}

lemma getFallbackCandidates_eq (typed : config.requiredInstanceTypes ≠ [])
    (named : placement.regionNames ≠ []) (configured : placement.configuredAzLetters ≠ [])
    (found : commonSupportedLetters answers placement.regionNames placement.configuredAzLetters
      config.requiredInstanceTypes = .ok supported) (nonempty : supported ≠ [])
    (order : rankLettersBySpotScore answers config placement.configuredAzLetters.length
      placement.regionNames supported = .ok ranked) :
    ∃ rest, getFallbackCandidates answers config placement = .ok
      ((if config.scoreMayChooseAz then ranked.take placement.configuredAzLetters.length
        else fillSlots placement.configuredAzLetters.length
          (placement.configuredAzLetters.filter fun letter => decide (letter ∈ ranked)) ranked) ::
        rest) := by
  have slots : 0 < placement.configuredAzLetters.length := length_pos_of_ne_nil configured
  have left : ranked ≠ [] := by
    have enough := (rankLettersBySpotScore_ok order).1
    have some : 0 < supported.length := length_pos_of_ne_nil nonempty
    exact ne_nil_of_length_pos (by omega)
  have zones : supportedAzLetters answers config placement = .ok supported := by
    unfold supportedAzLetters
    rw [if_neg, found]
    rw [Bool.or_eq_true, List.isEmpty_iff, List.isEmpty_iff]
    exact fun empty => empty.elim typed named
  unfold getFallbackCandidates
  simp only [zones]
  rw [if_neg (fun empty => configured (List.isEmpty_iff.mp empty))]
  change ∃ rest, (if supported.isEmpty = true then _ else _) = _
  rw [if_neg (fun empty => nonempty (List.isEmpty_iff.mp empty)), order]
  change ∃ rest, (if (ite _ _ _ : List String).isEmpty = true then _ else _) = _
  rw [if_neg]
  · rw [eraseDups_cons]
    exact ⟨_, rfl⟩
  · rw [List.isEmpty_iff]
    split
    · exact fun empty => (take_eq_nil_iff.mp empty).elim (by omega) left
    · exact fillSlots_ne_nil slots left

/-- The value `resolve` writes is the first fallback candidate exactly when there is a configured
letter and, unless the scores may choose the zones, none of them is outscored. -/
theorem resolve_first_candidate_iff {answers : Ec2Answers} {config : ResolverConfig}
    {placement : Placement} {written : List String}
    (settled : resolvedLetters answers config placement = .ok (some written)) :
    (∃ rest, getFallbackCandidates answers config placement = .ok (written :: rest)) ↔
      placement.configuredAzLetters ≠ [] ∧
        (config.scoreMayChooseAz = true ∨
          ∀ letter, ¬Outscored answers config placement letter) := by
  obtain ⟨typed, named, supported, ranked, found, nonempty, order, rfl⟩ :=
    resolvedLetters_eq_some settled
  by_cases configured : placement.configuredAzLetters = []
  · have none : getFallbackCandidates answers config placement = .ok [] := by
      unfold getFallbackCandidates
      simp only [configured]
      rfl
    rw [none]
    simp [configured]
  obtain ⟨rest, candidates⟩ := getFallbackCandidates_eq typed named configured found nonempty order
  rw [candidates]
  cases chooses : config.scoreMayChooseAz with
  | true => simp [configured]
  | false =>
    simp only [Bool.false_eq_true, if_false, Except.ok.injEq, List.cons.injEq, false_or,
      exists_and_left, configured, ne_eq, not_false_eq_true, true_and]
    have offered (letter : String) : letter ∈ supported ↔ Supported answers config placement letter :=
      mem_commonSupportedLetters typed named found
    constructor
    · intro same letter outscored
      obtain ⟨listed, has, dropped, other, differs, otherHas⟩ := outscored
      have kept : letter ∈ fillSlots placement.configuredAzLetters.length
          (placement.configuredAzLetters.filter fun letter => decide (letter ∈ supported))
          ranked := by
        apply mem_fillSlots_of_mem
        exact mem_filter.mpr ⟨listed, decide_eq_true ((offered letter).mpr has)⟩
      have gone : letter ∉ ranked := by
        intro held
        apply ((mem_rankLettersBySpotScore order).mp held).2
        refine ⟨?_, dropped⟩
        have distinct : [letter, other].Nodup := nodup_cons.mpr
          ⟨fun same => differs (mem_singleton.mp same).symm, nodup_singleton other⟩
        have both : [letter, other] ⊆ supported :=
          cons_subset.mpr ⟨(offered letter).mpr has,
            cons_subset.mpr ⟨(offered other).mpr otherHas, nil_subset _⟩⟩
        exact (subperm_of_subset distinct both).length_le
      rw [← same.1] at kept
      rcases mem_of_mem_fillSlots kept with among | among
      · exact gone (of_decide_eq_true (mem_filter.mp among).2)
      · exact gone among
    · intro none
      refine ⟨?_, rest, rfl⟩
      congr 1
      apply filter_congr
      intro letter listed
      apply decide_eq_decide.mpr
      constructor
      · intro held
        exact ((mem_rankLettersBySpotScore order).mp held).1
      · intro held
        by_contra gone
        have dropped : 2 ≤ supported.length ∧
            Drops answers config placement.regionNames letter := by
          by_contra kept
          exact gone ((mem_rankLettersBySpotScore order).mpr ⟨held, kept⟩)
        -- a ranking without the letter still fills a slot, with another letter
        have enough := (rankLettersBySpotScore_ok order).1
        have slots : 0 < placement.configuredAzLetters.length :=
          length_pos_of_ne_nil configured
        obtain ⟨other, among⟩ := exists_mem_of_length_pos
          (show 0 < ranked.length by omega)
        have differs : other ≠ letter := fun same => gone (same ▸ among)
        have otherHas := ((mem_rankLettersBySpotScore order).mp among).1
        exact none letter ⟨listed, (offered letter).mp held, dropped.2, other, differs,
          (offered other).mp otherHas⟩

/-! ## All candidates -/

lemma fillSlots_of_nodup (distinct : letters.Nodup) : fillSlots slots kept letters =
    kept ++ (letters.filter fun letter => decide (letter ∉ kept)).take (slots - kept.length) := by
  induction letters generalizing kept with
  | nil => simp [fillSlots]
  | cons letter rest ih =>
    obtain ⟨fresh, distinct⟩ := nodup_cons.mp distinct
    rw [fillSlots]
    split
    · rename_i full
      rw [Nat.sub_eq_zero_of_le full, take_zero, append_nil]
    · split
      · rename_i held
        rw [ih distinct, filter_cons_of_neg (by simpa using held)]
      · rename_i new
        have others : (rest.filter fun other => decide (other ∉ kept ++ [letter])) =
            rest.filter fun other => decide (other ∉ kept) := by
          apply filter_congr
          intro other listed
          have differs : other ≠ letter := fun same => fresh (same ▸ listed)
          simp [differs]
        have count : slots - kept.length = slots - (kept ++ [letter]).length + 1 := by
          rw [length_append, length_singleton]
          omega
        rw [ih distinct, others, filter_cons_of_pos (by simpa using new), count,
          take_succ_cons, append_assoc, singleton_append]

/-- The first candidate: the configured letters that are supported, and supported ones to fill. -/
lemma primary_facts {configured supported primary : List String} (distinct : configured.Nodup)
    (distinctSupported : supported.Nodup)
    (filled : fillSlots configured.length
      (configured.filter fun letter => decide (letter ∈ supported)) supported = primary) :
    primary.length = min configured.length supported.length ∧ primary.Nodup ∧
      primary ⊆ supported ∧
      (configured.filter fun letter => decide (letter ∈ supported)) <+: primary := by
  rw [fillSlots_of_nodup distinctSupported] at filled
  generalize own : (configured.filter fun letter => decide (letter ∈ supported)) = kept at filled
  have keptDistinct : kept.Nodup := own ▸ distinct.filter _
  have keptSupported : kept ⊆ supported := by
    intro letter held
    rw [← own, mem_filter] at held
    exact of_decide_eq_true held.2
  have fewer : kept.length ≤ configured.length := own ▸ length_filter_le _ _
  have rest : (supported.filter fun letter => decide (letter ∉ kept)).length =
      supported.length - kept.length := by
    have same : (supported.filter fun letter => decide (letter ∈ kept)).Perm kept := by
      rw [perm_ext_iff_of_nodup (distinctSupported.filter _) keptDistinct]
      intro letter
      rw [mem_filter, decide_eq_true_iff]
      exact and_iff_right_of_imp fun held => keptSupported held
    have parts := length_eq_length_filter_add (l := supported) (fun letter => decide (letter ∈ kept))
    simp only [← decide_not] at parts
    rw [same.length_eq] at parts
    omega
  have within := keptDistinct.length_le_of_subset keptSupported
  subst filled
  refine ⟨?_, ?_, ?_, prefix_append _ _⟩
  · rw [length_append, length_take, rest]
    omega
  · refine nodup_append.mpr ⟨keptDistinct, (distinctSupported.filter _).sublist
      (take_sublist _ _), ?_⟩
    rintro letter held _ added rfl
    have outside := (mem_filter.mp (mem_of_mem_take added)).2
    exact of_decide_eq_true outside held
  · intro letter held
    rcases mem_append.mp held with old | added
    · exact keptSupported old
    · exact (mem_filter.mp (mem_of_mem_take added)).1

lemma supportedAzLetters_nodup (distinct : placement.configuredAzLetters.Nodup)
    (found : supportedAzLetters answers config placement = .ok supported) : supported.Nodup := by
  unfold supportedAzLetters at found
  dsimp only at found
  split at found
  · cases found
    exact distinct
  · obtain ⟨common, -, listed⟩ := bind_eq_ok_iff.mp found
    cases listed
    refine nodup_append.mpr ⟨distinct.filter _, ?_, ?_⟩
    · exact (perm_insertionSort _ _).nodup_iff.mpr (nodup_dedup _)
    · rintro letter first _ other rfl
      rw [mem_sortTexts, mem_dedup, mem_filter] at other
      exact of_decide_eq_true other.2 first

/-- The candidates are distinct, of one length and of supported letters, and they are the primary one
and all that a replacement of one of its letters makes. -/
structure CompleteFallback (configured supported primary : List String)
    (candidates : List (List String)) : Prop where
  distinct : candidates.Nodup
  shaped : ∀ candidate ∈ candidates,
    candidate.length = min configured.length supported.length ∧ candidate.Nodup ∧
      candidate ⊆ supported
  first : candidates.head? = some primary
  configuredFirst : (configured.filter fun letter => decide (letter ∈ supported)) <+: primary
  complete : ∀ candidate, candidate ∈ candidates ↔ candidate = primary ∨
    ∃ slot < primary.length, ∃ letter ∈ supported, letter ∉ primary ∧
      candidate = primary.set slot letter

/-- Without scores, and with distinct configured letters: there is no candidate when none is
configured, the configured letters are the only one when none is supported, and the candidates are
complete otherwise. -/
theorem getFallbackCandidates_complete {placement : Placement} {supported : List String}
    (unscored : config.isSpotPlacementScoringEnabled = false)
    (distinct : placement.configuredAzLetters.Nodup)
    (found : supportedAzLetters answers config placement = .ok supported) :
    ∃ candidates, getFallbackCandidates answers config placement = .ok candidates ∧
      (placement.configuredAzLetters = [] → candidates = []) ∧
      (placement.configuredAzLetters ≠ [] → supported = [] →
        candidates = [placement.configuredAzLetters]) ∧
      (placement.configuredAzLetters ≠ [] → supported ≠ [] → ∃ primary,
        CompleteFallback placement.configuredAzLetters supported primary candidates) := by
  have ranked : rankLettersBySpotScore answers config placement.configuredAzLetters.length
      placement.regionNames supported = .ok supported := by
    unfold rankLettersBySpotScore
    rw [if_pos (Or.inr unscored)]
    rfl
  have unchosen : config.scoreMayChooseAz = false := by
    rw [ResolverConfig.scoreMayChooseAz, unscored, Bool.false_and]
  unfold getFallbackCandidates
  by_cases none : placement.configuredAzLetters = []
  · exact ⟨[], by simp [none]; rfl, fun _ => rfl, fun some => absurd none some,
      fun some => absurd none some⟩
  by_cases unsupported : supported = []
  · refine ⟨[placement.configuredAzLetters], ?_, fun empty => absurd empty none, fun _ _ => rfl,
      fun _ some => absurd unsupported some⟩
    simp [none, found, unsupported, bind, Except.bind, pure, Except.pure]
  obtain ⟨primary, filled⟩ : ∃ primary, fillSlots placement.configuredAzLetters.length
      (placement.configuredAzLetters.filter fun letter => decide (letter ∈ supported)) supported =
        primary := ⟨_, rfl⟩
  obtain ⟨length, letters, within, front⟩ :=
    primary_facts distinct (supportedAzLetters_nodup distinct found) filled
  have nonempty : primary ≠ [] := by
    have slots := length_pos_of_ne_nil none
    have some := length_pos_of_ne_nil unsupported
    exact ne_nil_of_length_pos (by omega)
  refine ⟨(primary :: replacements primary supported).eraseDups, ?_, fun empty => absurd empty none,
    fun _ empty => absurd empty unsupported, fun _ _ => ⟨primary, ?_⟩⟩
  · simp [none, found, unsupported, bind, Except.bind, pure, Except.pure, ranked, unchosen, filled,
      nonempty]
  have listed (candidate : List String) :
      candidate ∈ (primary :: replacements primary supported).eraseDups ↔ candidate = primary ∨
        ∃ slot < primary.length, ∃ letter ∈ supported, letter ∉ primary ∧
          candidate = primary.set slot letter := by
    simp only [mem_eraseDups, mem_cons, replacements, mem_flatMap, mem_range,
      mem_map, mem_filter, decide_eq_true_eq, and_assoc, @eq_comm _ candidate]
  refine ⟨Dict.nodup_eraseDups _, ?_, by rw [eraseDups_cons, head?_cons], front, listed⟩
  intro candidate member
  rcases (listed candidate).mp member with rfl | ⟨slot, _, letter, offered, new, rfl⟩
  · exact ⟨length, letters, within⟩
  · refine ⟨length_set.trans length, letters.set new, ?_⟩
    intro other held
    rcases mem_or_eq_of_mem_set held with old | rfl
    · exact within old
    · exact offered

def spotConfig (minimum : Int) : ResolverConfig where
  instanceType param := if param = .db then "i4i.large" else ""
  nDbNodes := some (.single 3)
  nLoaders := none
  nMonitorNodes := none
  nDbZeroTokenNodes := none
  nTestOracleDbNodes := none
  nVectorStoreNodes := none
  dbType := "scylla"
  useZeroNodes := false
  clusterBackend := "aws"
  instanceProvision := "spot"
  useSpotPlacementScores := true
  spotPlacementScoreMin := minimum
  spotScoreOverridesConfiguredAz := false
  availabilityZoneExplicitlySet := true
  preFilterUnavailableAvailabilityZones := true
  useDnsNames := false

def twoZoneAnswers : Ec2Answers where
  offerings _ _ := .ok [("i4i.large", "a"), ("i4i.large", "b")]
  azScores _ _ _ := [("a", 1), ("b", 9)]
  regionScores _ _ _ := []
  peered _ _ := true

def firstZone : Placement := ⟨some "eu-west-1", some "eu-west-1", some "a"⟩

/-- Without a minimum the configured zone is the first candidate. -/
theorem configured_zone_first :
    resolvedLetters twoZoneAnswers (spotConfig 0) firstZone = .ok (some ["a"]) ∧
      ∃ rest, getFallbackCandidates twoZoneAnswers (spotConfig 0) firstZone =
        .ok (["a"] :: rest) := by
  have settled : resolvedLetters twoZoneAnswers (spotConfig 0) firstZone = .ok (some ["a"]) := by
    decide
  refine ⟨settled, (resolve_first_candidate_iff settled).mpr ⟨by decide, .inr ?_⟩⟩
  intro letter outscored
  obtain ⟨_, _, ⟨region, _, request, _, score, given, low⟩, _⟩ := outscored
  obtain ⟨item, listed, _, value⟩ := exists_of_byLetter given
  have positive : ∀ item ∈ [("a", (1 : Int)), ("b", 9)], 0 ≤ item.2 := by decide
  have unscored := positive item listed
  change score < 0 at low
  omega

/-- `resolve` keeps a zone that scores below the minimum, and the first candidate is another. -/
theorem configured_zone_dropped :
    resolvedLetters twoZoneAnswers (spotConfig 2) firstZone = .ok (some ["a"]) ∧
      getFallbackCandidates twoZoneAnswers (spotConfig 2) firstZone = .ok [["b"]] := by
  decide

def onDemandConfig : ResolverConfig := { spotConfig 0 with useSpotPlacementScores := false }

/-- The candidates of one configured zone and two that are supported. -/
theorem both_zones_complete : ∃ primary candidates,
    getFallbackCandidates twoZoneAnswers onDemandConfig firstZone = .ok candidates ∧
      CompleteFallback firstZone.configuredAzLetters ["a", "b"] primary candidates := by
  have found : supportedAzLetters twoZoneAnswers onDemandConfig firstZone = .ok ["a", "b"] := by
    decide
  obtain ⟨candidates, ran, -, -, complete⟩ :=
    getFallbackCandidates_complete rfl (by decide) found
  obtain ⟨primary, complete⟩ := complete (by decide) (by decide)
  exact ⟨primary, candidates, ran, complete⟩

/-- No zone is supported, and the configured one is the candidate. -/
theorem unsupported_zone_kept :
    supportedAzLetters { twoZoneAnswers with offerings := fun _ _ => .ok [] } onDemandConfig firstZone =
        .ok [] ∧
      getFallbackCandidates { twoZoneAnswers with offerings := fun _ _ => .ok [] } onDemandConfig
        firstZone = .ok [["a"]] := by
  decide

end Sct.Aws
