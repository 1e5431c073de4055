import Mathlib.Order.WithBot
import Mathlib.Tactic.Linarith
import Sct.Lib.Fallible
import Sct.Utils.InstanceMatcher

/-!
# Which selected instances satisfy their constraints

A shape with flexible memory is matched by its range and then resolved to a whole number of
gigabytes. The two agree exactly when the rounding stays within the shape's maximum and on the
right side of the memory constraint: a strict lower bound that is picked itself, a strict upper
bound, and a bound that is no whole number are lost. Everything else an instance is matched on is
left as it was.
-/

open List
open Sct.Fallible (bind_eq_ok_iff)

namespace Sct.Utils

/-! ## One constraint a field -/

def constrainedFields (constraints : List Constraint) : List NumericField :=
  constraints.filterMap Constraint.numericField

variable {raw : RawValue} {constraint : Constraint} {field : NumericField}

lemma parseMemoryOrDisk_field (parsed : parseMemoryOrDisk field raw = .ok constraint) :
    constraint.numericField = some field := by
  unfold parseMemoryOrDisk at parsed
  dsimp only at parsed
  split at parsed
  · split at parsed
    · cases parsed
    · cases parsed
      rfl
  · split at parsed
    · cases parsed
      rfl
    · split at parsed
      · cases parsed
        rfl
      · cases parsed

lemma parseVcpu_field (parsed : parseVcpu raw = .ok constraint) :
    constraint.numericField = some .vcpus := by
  cases raw with
  | int value =>
    cases parsed
    rfl
  | float value shown => cases parsed
  | text value =>
    unfold parseVcpu at parsed
    dsimp only at parsed
    split at parsed
    · split at parsed
      · cases parsed
      · cases parsed
        rfl
    · split at parsed
      · cases parsed
        rfl
      · split at parsed
        · cases parsed
          rfl
        · cases parsed

lemma parseField_field {field : Option NumericField}
    (parsed : parseField field raw = .ok constraint) : constraint.numericField = field := by
  cases field with
  | none =>
    change parseArch raw = .ok constraint at parsed
    unfold parseArch at parsed
    split at parsed
    · cases parsed
      rfl
    · cases parsed
  | some field =>
    cases field with
    | vcpus => exact parseVcpu_field parsed
    | memoryGb | localDiskGb | localDiskCount => exact parseMemoryOrDisk_field parsed

variable {constraints : List Constraint}

lemma parseEntries_fields {entries : List (String × RawValue)}
    {seenFields : List (Option NumericField)}
    (parsed : parseEntries entries seenFields = .ok constraints) :
    (constrainedFields constraints).Nodup ∧
      ∀ field ∈ constrainedFields constraints, some field ∉ seenFields := by
  induction entries generalizing seenFields constraints with
  | nil =>
    cases parsed
    simp [constrainedFields]
  | cons entry rest ih =>
    obtain ⟨key, raw⟩ := entry
    unfold parseEntries at parsed
    split at parsed
    · exact ih parsed
    · rename_i field known
      split at parsed
      · exact ih parsed
      · rename_i unseen
        obtain ⟨constraint, first, behind⟩ := bind_eq_ok_iff.mp parsed
        obtain ⟨more, others, ended⟩ := bind_eq_ok_iff.mp behind
        obtain rfl : constraint :: more = constraints := Except.ok.inj ended
        obtain ⟨distinct, fresh⟩ := ih others
        have named := parseField_field first
        cases field with
        | none =>
          rw [constrainedFields, filterMap_cons_none named]
          exact ⟨distinct, fun field listed seen => fresh field listed (.tail _ seen)⟩
        | some field =>
          rw [constrainedFields, filterMap_cons_some named, nodup_cons]
          refine ⟨⟨fun again => fresh field again (.head _), distinct⟩, ?_⟩
          intro other listed seen
          rcases mem_cons.mp listed with rfl | later
          · exact unseen seen
          · exact fresh other later (.tail _ seen)

lemma constrainedFields_withArch (parsed : List Constraint) (parsedArch arch : Option String)
    (effective : String) :
    (constrainedFields (withArch parsed parsedArch arch effective)).Sublist
      (constrainedFields parsed) := by
  have ended (constraints : List Constraint) :
      constrainedFields (constraints ++ [.arch effective]) = constrainedFields constraints := by
    simp [constrainedFields, Constraint.numericField]
  unfold withArch
  split
  · rw [ended]
  · rw [ended]
    exact filter_sublist.filterMap _
  · exact List.Sublist.refl _

lemma implicitConstraint_field (implied : implicitConstraint field raw = .ok constraint) :
    constraint.numericField = some field := by
  cases raw with
  | int value =>
    cases implied
    rfl
  | float value shown =>
    cases implied
    rfl
  | text value =>
    have parsed : parseMemoryOrDisk field (.text value) = .ok constraint := by
      rw [← implied, implicitConstraint] <;> simp
    exact parseMemoryOrDisk_field parsed

lemma applyImplicitConstraints_fields {existingFields : List NumericField}
    {entries : List (NumericField × RawValue)}
    (applied : applyImplicitConstraints existingFields entries = .ok constraints) :
    (constrainedFields constraints).Sublist (entries.map Prod.fst) ∧
      ∀ field ∈ constrainedFields constraints, field ∉ existingFields := by
  induction entries generalizing constraints with
  | nil =>
    cases applied
    simp [constrainedFields]
  | cons entry rest ih =>
    obtain ⟨field, raw⟩ := entry
    unfold applyImplicitConstraints at applied
    split at applied
    · obtain ⟨within, fresh⟩ := ih applied
      exact ⟨within.cons _, fresh⟩
    · rename_i open_
      rw [not_or] at open_
      obtain ⟨constraint, first, behind⟩ := bind_eq_ok_iff.mp applied
      obtain ⟨more, others, ended⟩ := bind_eq_ok_iff.mp behind
      obtain rfl : constraint :: more = constraints := Except.ok.inj ended
      obtain ⟨within, fresh⟩ := ih others
      rw [constrainedFields, filterMap_cons_some (implicitConstraint_field first)]
      refine ⟨within.cons_cons _, fun other listed => ?_⟩
      rcases mem_cons.mp listed with rfl | later
      · exact open_.1
      · exact fresh other later

lemma applyImplicitConstraintsFallback_fields (existingFields : List NumericField)
    (role : String) :
    (constrainedFields (applyImplicitConstraintsFallback existingFields role)).Nodup ∧
      ∀ field ∈ constrainedFields (applyImplicitConstraintsFallback existingFields role),
        field ∉ existingFields := by
  unfold applyImplicitConstraintsFallback
  split
  · simp [constrainedFields]
  · rename_i open_
    rw [not_or] at open_
    split
    · simp [constrainedFields, Constraint.numericField, open_.2]
    · split
      · simp [constrainedFields, Constraint.numericField, open_.2]
      · simp [constrainedFields]

variable {catalog : InstanceCatalog} {role cloud : String} {parsed : List Constraint}

lemma constraintsInEffect_nodup {constraints : Dict String RawValue} {arch : Option String}
    (effective : constraintsInEffect catalog role cloud constraints arch = .ok parsed) :
    (constrainedFields parsed).Nodup := by
  unfold constraintsInEffect at effective
  obtain ⟨first, stated, effective⟩ := bind_eq_ok_iff.mp effective
  have distinct : (constrainedFields first).Nodup := by
    unfold parseConstraints at stated
    split at stated
    · exact (parseEntries_fields stated).1
    · cases stated
  dsimp only at effective
  generalize effectiveArch catalog role cloud
    (catalog.sizingConfig.bind fun sizing => sizing.roles.get role)
    (first.findSome? Constraint.archValue) arch = chosen at effective
  have kept := distinct.sublist
    (constrainedFields_withArch first (first.findSome? Constraint.archValue) arch chosen)
  generalize withArch first (first.findSome? Constraint.archValue) arch chosen = second
    at effective kept
  have joined (added : List Constraint) (own : (constrainedFields added).Nodup)
      (fresh : ∀ field ∈ constrainedFields added, field ∉ constrainedFields second) :
      (constrainedFields (second ++ added)).Nodup := by
    rw [constrainedFields, filterMap_append]
    exact kept.append own fun field listed again => fresh field again listed
  split at effective
  · rename_i config found
    obtain ⟨added, implied, ended⟩ := bind_eq_ok_iff.mp effective
    obtain rfl : second ++ added = parsed := Except.ok.inj ended
    obtain ⟨within, fresh⟩ := applyImplicitConstraints_fields implied
    exact joined added (config.implicitConstraints.distinct.sublist within) fresh
  · obtain rfl := Except.ok.inj effective
    obtain ⟨own, fresh⟩ := applyImplicitConstraintsFallback_fields
      (second.filterMap Constraint.numericField) role
    exact joined _ own fresh

variable {comparison : Comparison}

lemma memoryConstraint_eq (distinct : (constrainedFields constraints).Nodup)
    (listed : .compare .memoryGb comparison ∈ constraints) :
    memoryConstraint constraints = some comparison := by
  induction constraints with
  | nil => cases listed
  | cons first rest ih =>
    have shorter : (constrainedFields rest).Nodup :=
      distinct.sublist ((sublist_cons_self first rest).filterMap _)
    cases first with
    | arch value =>
      rcases mem_cons.mp listed with same | later
      · cases same
      · exact ih shorter later
    | compare field other =>
      rcases mem_cons.mp listed with same | later
      · cases same
        rfl
      · cases field with
        | memoryGb =>
          have again : NumericField.memoryGb ∈ constrainedFields rest :=
            mem_filterMap.mpr ⟨_, later, rfl⟩
          exact absurd again (nodup_cons.mp distinct).1
        | vcpus | localDiskGb | localDiskCount => exact ih shorter later

/-! ## Rounding -/

/-- An instance meets a constraint by its own attributes. -/
def Constraint.Met (info : InstanceTypeInfo) : Constraint → Prop
  | compare field comparison => comparison.holds (info.attribute field) = true
  | arch value => info.arch = value

/-- An instance meets all constraints, and its memory is within the bounds of its shape. -/
structure Satisfies (info : InstanceTypeInfo) (constraints : List Constraint) : Prop where
  met : ∀ constraint ∈ constraints, constraint.Met info
  bounded : ∀ low high, info.minMemoryGb = some low → info.maxMemoryGb = some high →
    low ≤ info.memoryGb ∧ info.memoryGb ≤ high

/-- The memory a flexible shape gets without a memory constraint, before rounding. -/
def usualMemory (low high usual : Rat) : Rat := max low (min usual high)

/-- Rounding up stays within the maximum of a flexible shape and keeps the memory constraint. -/
def RoundsWell (low high usual : Rat) : Option Comparison → Prop
  | none => (⌈usualMemory low high usual⌉ : Rat) ≤ high
  | some (.eq value) => (⌈value⌉ : Rat) = value
  | some (.gte value) => (⌈max low value⌉ : Rat) ≤ high
  | some (.gt value) =>
    (⌈max low value⌉ : Rat) ≤ high ∧ (value < low ∨ (⌈value⌉ : Rat) ≠ value)
  | some (.lte value) => (⌈min (usualMemory low high usual) value⌉ : Rat) ≤ min value high
  | some (.lt value) =>
    (⌈min (usualMemory low high usual) value⌉ : Rat) < value ∧
      (⌈min (usualMemory low high usual) value⌉ : Rat) ≤ high
  | some (.range least most) => (⌈max low least⌉ : Rat) ≤ min most high

lemma lt_ceil_max_iff (low value : Rat) :
    value < (⌈max low value⌉ : Rat) ↔ value < low ∨ (⌈value⌉ : Rat) ≠ value := by
  have up := Int.le_ceil (max low value)
  rcases lt_or_ge value low with below | above
  · have picked : low ≤ max low value := le_max_left _ _
    exact iff_of_true (by linarith) (.inl below)
  · have picked : max low value = value := max_eq_right above
    rw [picked] at up ⊢
    constructor
    · intro greater
      exact .inr greater.ne'
    · rintro (below | fractional)
      · exact absurd below above.not_gt
      · exact lt_of_le_of_ne up (Ne.symm fractional)

/-- A shape that matches its memory constraint gets a memory that keeps the constraint and the
bounds of the shape exactly when it rounds well. -/
lemma roundsWell_iff {low high usual : Rat} {comparison : Option Comparison}
    (matched : ∀ stated ∈ comparison, matchesFlexMemory low high stated = true) :
    ((∀ stated ∈ comparison,
        stated.holds (⌈pickMemory low high usual comparison⌉ : Rat) = true) ∧
      low ≤ (⌈pickMemory low high usual comparison⌉ : Rat) ∧
      (⌈pickMemory low high usual comparison⌉ : Rat) ≤ high) ↔
    RoundsWell low high usual comparison := by
  have up := Int.le_ceil (pickMemory low high usual comparison)
  have usualLow : low ≤ usualMemory low high usual := le_max_left _ _
  cases comparison with
  | none =>
    have picked : pickMemory low high usual none = usualMemory low high usual := rfl
    simp only [Option.mem_def, reduceCtorEq, false_implies, implies_true, true_and, RoundsWell]
    exact ⟨And.right, fun within => ⟨by linarith, within⟩⟩
  | some comparison =>
    have fits := matched comparison rfl
    simp only [Option.mem_some_iff, forall_eq']
    cases comparison with
    | eq value =>
      simp only [matchesFlexMemory, decide_eq_true_eq] at fits
      have picked : pickMemory low high usual (some (.eq value)) = value := by
        rw [pickMemory, min_eq_left fits.2, max_eq_right fits.1]
      rw [picked]
      simp only [Comparison.holds, decide_eq_true_eq, RoundsWell]
      refine ⟨And.left, fun whole => ⟨whole, ?_⟩⟩
      rw [whole]
      exact fits
    | gte value =>
      simp only [matchesFlexMemory, ge_iff_le, decide_eq_true_eq] at fits
      have picked : pickMemory low high usual (some (.gte value)) = max low value := by
        rw [pickMemory, min_eq_left fits]
      have first : low ≤ max low value := le_max_left _ _
      have second : value ≤ max low value := le_max_right _ _
      rw [picked] at up ⊢
      simp only [Comparison.holds, ge_iff_le, decide_eq_true_eq, RoundsWell]
      exact ⟨fun kept => kept.2.2, fun within => ⟨by linarith, by linarith, within⟩⟩
    | gt value =>
      simp only [matchesFlexMemory, gt_iff_lt, decide_eq_true_eq] at fits
      have picked : pickMemory low high usual (some (.gt value)) = max low value := by
        rw [pickMemory, min_eq_left fits.le]
      have first : low ≤ max low value := le_max_left _ _
      rw [picked] at up ⊢
      simp only [Comparison.holds, gt_iff_lt, decide_eq_true_eq, RoundsWell, lt_ceil_max_iff]
      exact ⟨fun kept => ⟨kept.2.2, kept.1⟩,
        fun kept => ⟨kept.2, by linarith, kept.1⟩⟩
    | lte value =>
      simp only [matchesFlexMemory, decide_eq_true_eq] at fits
      have picked : pickMemory low high usual (some (.lte value)) =
          min (usualMemory low high usual) value := rfl
      have above := le_min usualLow fits
      simp only [Comparison.holds, decide_eq_true_eq, RoundsWell, le_min_iff]
      exact ⟨fun kept => ⟨kept.1, kept.2.2⟩, fun kept => ⟨kept.1, by linarith, kept.2⟩⟩
    | lt value =>
      simp only [matchesFlexMemory, decide_eq_true_eq] at fits
      have picked : pickMemory low high usual (some (.lt value)) =
          min (usualMemory low high usual) value := rfl
      have above := le_min usualLow fits.le
      simp only [Comparison.holds, decide_eq_true_eq, RoundsWell]
      exact ⟨fun kept => ⟨kept.1, kept.2.2⟩, fun kept => ⟨kept.1, by linarith, kept.2⟩⟩
    | range least most =>
      simp only [matchesFlexMemory, ge_iff_le, decide_eq_true_eq] at fits
      have picked : pickMemory low high usual (some (.range least most)) = max low least := by
        rw [pickMemory, min_eq_left fits.1]
      have first : low ≤ max low least := le_max_left _ _
      have second : least ≤ max low least := le_max_right _ _
      rw [picked] at up ⊢
      simp only [Comparison.holds, decide_eq_true_eq, RoundsWell, le_min_iff]
      exact ⟨fun kept => ⟨kept.1.2, kept.2.2⟩,
        fun kept => ⟨⟨by linarith, kept.1⟩, by linarith, kept.2⟩⟩

/-! ## Selection -/

/-- A shape rounds well under the constraints it is selected for. -/
def ResolvesWell (shape : InstanceTypeInfo) (constraints : List Constraint) (perVcpu : Rat) :
    Prop :=
  ∀ low high, shape.minMemoryGb = some low → shape.maxMemoryGb = some high →
    RoundsWell low high (shape.vcpus * perVcpu) (memoryConstraint constraints)

lemma memoryConstraint_mem (first : memoryConstraint constraints = some comparison) :
    .compare .memoryGb comparison ∈ constraints := by
  induction constraints with
  | nil => cases first
  | cons constraint rest ih =>
    unfold memoryConstraint at first
    split at first
    · cases first
    · rename_i same
      obtain ⟨rfl, rfl⟩ := List.cons.inj same
      obtain rfl := Option.some.inj first
      exact mem_cons_self
    · rename_i same
      obtain ⟨rfl, rfl⟩ := List.cons.inj same
      exact mem_cons_of_mem _ (ih first)

variable {info : InstanceTypeInfo}

/-- Away from the memory of flexible shapes, a constraint is matched exactly when it is met. -/
lemma matchesConstraint_iff_met (plain : constraint.numericField ≠ some .memoryGb ∨
    info.minMemoryGb = none ∨ info.maxMemoryGb = none) :
    matchesConstraint info constraint = true ↔ constraint.Met info := by
  cases constraint with
  | arch value => simp [matchesConstraint, Constraint.Met]
  | compare field comparison =>
    unfold matchesConstraint
    dsimp only
    split
    · simp_all [Constraint.numericField]
    · exact Iff.rfl

lemma met_resolve_iff (other : constraint.numericField ≠ some .memoryGb)
    (constraints : List Constraint) (perVcpu : Rat) :
    constraint.Met (resolveFlexInstance info constraints perVcpu) ↔ constraint.Met info := by
  unfold resolveFlexInstance
  split
  · cases constraint with
    | arch value => rfl
    | compare field comparison =>
      cases field with
      | memoryGb => exact absurd rfl other
      | vcpus | localDiskGb | localDiskCount => rfl
  · rfl

lemma satisfies_resolve_iff {shape : InstanceTypeInfo}
    (distinct : (constrainedFields constraints).Nodup)
    (matched : ∀ constraint ∈ constraints, matchesConstraint shape constraint = true)
    (perVcpu : Rat) :
    Satisfies (resolveFlexInstance shape constraints perVcpu) constraints ↔
      ResolvesWell shape constraints perVcpu := by
  by_cases plain : shape.minMemoryGb = none ∨ shape.maxMemoryGb = none
  · have same : resolveFlexInstance shape constraints perVcpu = shape := by
      rcases plain with none | none <;> simp [resolveFlexInstance, none]
    rw [same]
    refine iff_of_true ⟨fun constraint listed =>
      (matchesConstraint_iff_met (.inr plain)).mp (matched constraint listed), ?_⟩ ?_
    · rcases plain with none | none <;> simp [none]
    · rcases plain with none | none <;> simp [ResolvesWell, none]
  · obtain ⟨⟨low, least⟩, high, most⟩ := (not_or.mp plain).imp Option.ne_none_iff_exists'.mp
      Option.ne_none_iff_exists'.mp
    have flexible (stated : Comparison) (first : stated ∈ memoryConstraint constraints) :
        matchesFlexMemory low high stated = true := by
      have fits := matched _ (memoryConstraint_mem first)
      simpa [matchesConstraint, least, most] using fits
    have memory : (resolveFlexInstance shape constraints perVcpu).memoryGb =
        ⌈pickMemory low high (shape.vcpus * perVcpu) (memoryConstraint constraints)⌉ := by
      simp [resolveFlexInstance, least, most]
    have lowest : (resolveFlexInstance shape constraints perVcpu).minMemoryGb = some low := by
      simp [resolveFlexInstance, least, most]
    have highest : (resolveFlexInstance shape constraints perVcpu).maxMemoryGb = some high := by
      simp [resolveFlexInstance, least, most]
    have rounds := @roundsWell_iff low high (shape.vcpus * perVcpu) _ flexible
    rw [← memory] at rounds
    have resolves : ResolvesWell shape constraints perVcpu ↔
        RoundsWell low high (shape.vcpus * perVcpu) (memoryConstraint constraints) := by
      simp [ResolvesWell, least, most]
    rw [resolves, ← rounds]
    constructor
    · rintro ⟨met, bounded⟩
      exact ⟨fun stated first => met _ (memoryConstraint_mem first),
        bounded low high lowest highest⟩
    · rintro ⟨kept, bounds⟩
      refine ⟨fun constraint listed => ?_, fun lower upper atLeast atMost => ?_⟩
      · by_cases onMemory : constraint.numericField = some .memoryGb
        · cases constraint with
          | arch value => cases onMemory
          | compare field comparison =>
            obtain rfl := Option.some.inj onMemory
            exact kept comparison (memoryConstraint_eq distinct listed)
        · rw [met_resolve_iff onMemory]
          exact (matchesConstraint_iff_met (.inl onMemory)).mp (matched constraint listed)
      · obtain rfl := Option.some.inj (lowest.symm.trans atLeast)
        obtain rfl := Option.some.inj (highest.symm.trans atMost)
        exact bounds

/-! ## The best candidate -/

/-- The place of a sort value: a price that is not known is above all. -/
def SortValue.place : SortValue → WithTop Rat
  | some value => value
  | none => ⊤

variable (left right : SortValue)

lemma less_iff : left.less right = true ↔ left.place < right.place := by
  cases left with
  | none => simp [SortValue.less, SortValue.place]
  | some value => cases right <;> simp [SortValue.less, SortValue.place]

lemma sortKeyLe_cons_iff (lefts rights : List SortValue) :
    sortKeyLe (left :: lefts) (right :: rights) = true ↔
      left.place < right.place ∨ left.place = right.place ∧ sortKeyLe lefts rights = true := by
  simp only [sortKeyLe, less_iff]
  rcases lt_trichotomy left.place right.place with below | same | above
  · simp [below]
  · simp [same]
  · simp [above, above.asymm, above.ne']

lemma sortKeyLe_trans {first second third : List SortValue}
    (below : sortKeyLe first second = true) (above : sortKeyLe second third = true) :
    sortKeyLe first third = true := by
  induction first generalizing second third with
  | nil => rfl
  | cons left lefts ih =>
    cases second with
    | nil => cases below
    | cons middle middles =>
      cases third with
      | nil => cases above
      | cons right rights =>
        rw [sortKeyLe_cons_iff] at below above ⊢
        rcases below with less | ⟨same, below⟩ <;> rcases above with less' | ⟨same', above⟩
        · exact Or.inl (less.trans less')
        · exact Or.inl (same' ▸ less)
        · exact Or.inl (same ▸ less')
        · exact Or.inr ⟨same.trans same', ih below above⟩

lemma sortKeyLe_total (first second : List SortValue) :
    (sortKeyLe first second || sortKeyLe second first) = true := by
  induction first generalizing second with
  | nil => rfl
  | cons left lefts ih =>
    cases second with
    | nil => rfl
    | cons right rights =>
      have rest := ih rights
      rw [Bool.or_eq_true] at rest ⊢
      rw [sortKeyLe_cons_iff, sortKeyLe_cons_iff]
      rcases lt_trichotomy left.place right.place with below | same | above
      · exact Or.inl (Or.inl below)
      · exact rest.imp (fun le => Or.inr ⟨same, le⟩) fun le => Or.inr ⟨same.symm, le⟩
      · exact Or.inr (Or.inl above)

def IsMatching (catalog : InstanceCatalog) (cloud : String) (constraints : List Constraint)
    (info : InstanceTypeInfo) : Prop :=
  info ∈ catalog.instances ∧ info.cloud = cloud ∧
    ∀ constraint ∈ constraints, matchesConstraint info constraint = true

def preferredFamilies (catalog : InstanceCatalog) (role cloud : String) : List String :=
  (((catalog.preferredFamilies.get role).getD Dict.empty).get cloud).getD []

def roleSortKey (catalog : InstanceCatalog) (role cloud : String) (region : Option String) :
    InstanceTypeInfo → List SortValue :=
  sortKey ((catalog.sizingConfig.map SizingConfig.sortOrder).getD [])
    (preferredFamilies catalog role cloud) region

lemma mem_matchingCandidates_iff {families : List String} :
    info ∈ matchingCandidates catalog cloud families constraints ↔
      IsMatching catalog cloud constraints info ∧
        ∀ other, IsMatching catalog cloud constraints other → other.family ∈ families →
          info.family ∈ families := by
  have listed (info : InstanceTypeInfo) :
      info ∈ (catalog.instances.filter fun info => info.cloud = cloud).filter (fun info =>
        constraints.all (matchesConstraint info)) ↔ IsMatching catalog cloud constraints info := by
    simp only [IsMatching, mem_filter, all_eq_true, decide_eq_true_eq, and_assoc]
  unfold matchingCandidates
  dsimp only
  split
  · rename_i none
    rw [listed, and_iff_left]
    intro other matching preferred
    have unlisted := filter_eq_nil_iff.mp none other ((listed other).mpr matching)
    exact absurd (decide_eq_true preferred) unlisted
  · rename_i some
    rw [mem_filter, listed, decide_eq_true_iff]
    refine and_congr_right fun _ => ⟨fun preferred _ _ _ => preferred, ?_⟩
    intro within
    obtain ⟨other, narrowed⟩ := exists_mem_of_ne_nil _ some
    obtain ⟨there, preferred⟩ := mem_filter.mp narrowed
    exact within other ((listed other).mp there) (of_decide_eq_true preferred)

/-- A matching instance, of a preferred family if any of them matches, that no other such instance
precedes. -/
structure IsBest (catalog : InstanceCatalog) (role cloud : String) (region : Option String)
    (constraints : List Constraint) (best : InstanceTypeInfo) : Prop where
  matching : IsMatching catalog cloud constraints best
  preferred : ∀ other, IsMatching catalog cloud constraints other →
    other.family ∈ preferredFamilies catalog role cloud →
    best.family ∈ preferredFamilies catalog role cloud
  first : ∀ other, IsMatching catalog cloud constraints other →
    (best.family ∈ preferredFamilies catalog role cloud →
      other.family ∈ preferredFamilies catalog role cloud) →
    sortKeyLe (roleSortKey catalog role cloud region best)
      (roleSortKey catalog role cloud region other) = true

variable {region : Option String}

lemma bestCandidate_isBest {best : InstanceTypeInfo}
    (found : bestCandidate catalog role cloud constraints region = some best) :
    IsBest catalog role cloud region constraints best := by
  obtain ⟨rest, sorted⟩ := head?_eq_some_iff.mp found
  have listed (info : InstanceTypeInfo) : info ∈ best :: rest ↔
      info ∈ matchingCandidates catalog cloud (preferredFamilies catalog role cloud) constraints := by
    rw [← sorted]
    exact mem_mergeSort
  obtain ⟨matching, preferred⟩ :=
    mem_matchingCandidates_iff.mp ((listed best).mp mem_cons_self)
  refine ⟨matching, preferred, ?_⟩
  intro other matches' narrowed
  let key := roleSortKey catalog role cloud region
  have trans (a b c : InstanceTypeInfo) := @sortKeyLe_trans (key a) (key b) (key c)
  have total (a b : InstanceTypeInfo) := sortKeyLe_total (key a) (key b)
  have ordered := pairwise_mergeSort trans total
    (matchingCandidates catalog cloud (preferredFamilies catalog role cloud) constraints)
  have later := (listed other).mpr (mem_matchingCandidates_iff.mpr ⟨matches', fun info isMatching
    isPreferred => narrowed (preferred info isMatching isPreferred)⟩)
  rcases mem_cons.mp later with rfl | behind
  · simpa using total other other
  · exact (pairwise_cons.mp (sorted ▸ ordered)).1 other behind

lemma bestCandidate_eq_none (found : bestCandidate catalog role cloud constraints region = none)
    (info : InstanceTypeInfo) : ¬ IsMatching catalog cloud constraints info := by
  have empty : matchingCandidates catalog cloud (preferredFamilies catalog role cloud)
      constraints = [] := by
    have sorted := head?_eq_none_iff.mp found
    exact length_eq_zero_iff.mp ((length_mergeSort _).symm.trans
      (congrArg List.length sorted))
  have none (info : InstanceTypeInfo) (matching : IsMatching catalog cloud constraints info)
      (narrowed : ∀ other, IsMatching catalog cloud constraints other →
        other.family ∈ preferredFamilies catalog role cloud →
        info.family ∈ preferredFamilies catalog role cloud) : False := by
    have listed := mem_matchingCandidates_iff.mpr ⟨matching, narrowed⟩
    rw [empty] at listed
    cases listed
  intro matching
  apply none info matching
  intro other matches' preferred
  exact (none other matches' fun _ _ _ => preferred).elim

lemma selectInstance_ok_iff {constraints : Dict String RawValue} {arch region : Option String}
    {result : InstanceTypeInfo}
    (effective : constraintsInEffect catalog role cloud constraints arch = .ok parsed) :
    selectInstance catalog role cloud constraints arch region = .ok result ↔
      ∃ shape, bestCandidate catalog role cloud parsed region = some shape ∧
        result = resolveFlexInstance shape parsed (memPerVcpu catalog) := by
  unfold selectInstance
  rw [effective]
  simp only [bind, Except.bind]
  cases bestCandidate catalog role cloud parsed region with
  | none => simp
  | some shape => simp [pure, Except.pure, eq_comm]

/-- With constraints that can be read: no instance of the cloud meets them and the error says so, or
the best of those that do is selected. -/
theorem selectInstance_selects_best (catalog : InstanceCatalog) (role cloud : String)
    (constraints : Dict String RawValue) (arch region : Option String) :
    match constraintsInEffect catalog role cloud constraints arch with
    | .error error => selectInstance catalog role cloud constraints arch region = .error error
    | .ok parsed =>
      (∀ info, ¬ IsMatching catalog cloud parsed info) ∧
        (∃ checked, selectInstance catalog role cloud constraints arch region =
          .error (.noMatchingInstance parsed checked)) ∨
      ∃ best, IsBest catalog role cloud region parsed best ∧
        selectInstance catalog role cloud constraints arch region =
          .ok (resolveFlexInstance best parsed (memPerVcpu catalog)) := by
  cases effective : constraintsInEffect catalog role cloud constraints arch with
  | error error => simp [selectInstance, effective, bind, Except.bind]
  | ok parsed =>
    cases found : bestCandidate catalog role cloud parsed region with
    | none =>
      refine Or.inl ⟨bestCandidate_eq_none found, ?_⟩
      simp only [selectInstance, effective, bind, Except.bind, found]
      exact ⟨_, rfl⟩
    | some best =>
      exact Or.inr ⟨best, bestCandidate_isBest found,
        (selectInstance_ok_iff effective).mpr ⟨best, found, rfl⟩⟩

/-- What is selected satisfies every constraint in effect exactly when the best candidate rounds
well. -/
theorem selected_satisfies_iff (catalog : InstanceCatalog) (role cloud : String)
    (constraints : Dict String RawValue) (arch region : Option String) :
    (∀ parsed result, constraintsInEffect catalog role cloud constraints arch = .ok parsed →
      selectInstance catalog role cloud constraints arch region = .ok result →
      Satisfies result parsed) ↔
    ∀ parsed shape, constraintsInEffect catalog role cloud constraints arch = .ok parsed →
      bestCandidate catalog role cloud parsed region = some shape →
      ResolvesWell shape parsed (memPerVcpu catalog) := by
  constructor
  · intro satisfied parsed shape effective best
    have selected := (selectInstance_ok_iff effective).mpr ⟨shape, best, rfl⟩
    exact (satisfies_resolve_iff (constraintsInEffect_nodup effective)
      (bestCandidate_isBest best).matching.2.2 _).mp (satisfied parsed _ effective selected)
  · intro rounds parsed result effective selected
    obtain ⟨shape, best, rfl⟩ := (selectInstance_ok_iff effective).mp selected
    exact (satisfies_resolve_iff (constraintsInEffect_nodup effective)
      (bestCandidate_isBest best).matching.2.2 _).mpr (rounds parsed shape effective best)

def flexShape : InstanceTypeInfo where
  instanceType := "VM.Standard3.Flex:4"
  cloud := "oci"
  family := "VM.Standard3"
  vcpus := 8
  memoryGb := 32
  localDiskGb := 0
  localDiskCount := 0
  arch := "x86_64"
  pricePerHour := .unknown
  minMemoryGb := some 8
  maxMemoryGb := some 128

def flexCatalog : InstanceCatalog := ⟨[flexShape], Dict.empty, Dict.empty, none⟩

def moreThanSixteen : Dict String RawValue :=
  (Dict.empty.set "vcpu" (.int 8)).set "memory" (.text ">16")

def moreThanSixteenParsed : List Constraint :=
  [.compare .vcpus (.eq 8), .compare .memoryGb (.gt 16), .arch "x86_64",
    .compare .localDiskCount (.eq 0)]

/-- More than 16 gigabytes are asked for, and an instance of 16 is selected. -/
theorem moreThanSixteen_gets_sixteen :
    constraintsInEffect flexCatalog "loader" "oci" moreThanSixteen none =
      .ok moreThanSixteenParsed ∧
    ∃ result, selectInstance flexCatalog "loader" "oci" moreThanSixteen none none = .ok result ∧
      result.memoryGb = 16 ∧ ¬ Satisfies result moreThanSixteenParsed := by
  have effective : constraintsInEffect flexCatalog "loader" "oci" moreThanSixteen none =
      .ok moreThanSixteenParsed := by
    decide +kernel
  have fits : moreThanSixteenParsed.all (matchesConstraint flexShape) = true := by decide
  have offered : flexShape.cloud = "oci" := rfl
  have matching : matchingCandidates flexCatalog "oci" [] moreThanSixteenParsed = [flexShape] := by
    simp only [matchingCandidates, flexCatalog, filter_cons, offered, fits, filter_nil,
      decide_true, if_true, not_mem_nil, decide_false, Bool.false_eq_true, if_false]
  have best : bestCandidate flexCatalog "loader" "oci" moreThanSixteenParsed none =
      some flexShape := by
    have families : (((flexCatalog.preferredFamilies.get "loader").getD Dict.empty).get
        "oci").getD [] = [] := rfl
    simp only [bestCandidate, families, matching, mergeSort_singleton, head?_cons]
  have memory : (resolveFlexInstance flexShape moreThanSixteenParsed
      (memPerVcpu flexCatalog)).memoryGb = 16 := by
    decide
  refine ⟨effective, _, (selectInstance_ok_iff effective).mpr ⟨flexShape, best, rfl⟩, memory, ?_⟩
  intro satisfied
  have more := satisfied.met (.compare .memoryGb (.gt 16)) (by decide)
  simp [Constraint.Met, Comparison.holds, InstanceTypeInfo.attribute, memory] at more

end Sct.Utils
