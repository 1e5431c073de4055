import Sct.Verif.AwsImages

/-!
# The AMIs in place over whole runs

A run records its switches and restores, each with the state it was made in. A recorded switch is
safe when its lookups cannot fail half way, a recorded restore when the AMIs are those of the
entry. `Placed` says that the AMIs are in place if everything recorded so far is safe; every step
of both fallbacks keeps it, so it holds at the exit.
-/

open Sct.Effect
open List

namespace Sct.Aws

variable {κ : Type}

/-- What a recorded call must have found: a switch, lookups that do not fail after one that
answered with something new; a restore, the AMIs of the entry. -/
def Event.Safe (config : Config) (api : Api κ) (entry : Settings) : Event κ → Prop
  | .switchRegion region sourceRegion settings cloud =>
    EarlierAnswersStand config api region sourceRegion settings cloud
  | .restore settings => settings.amis = entry.amis

/-- If every call recorded so far was safe, the AMIs are in place. -/
def Placed (config : Config) (api : Api κ) (image : String → String → Prop) (entry : Settings)
    (world : World κ) : Prop :=
  (∀ event ∈ world.history, event.Safe config api entry) → AmisInPlace image world.settings

variable {config : Config} {api : Api κ} {image : String → String → Prop} {entry : Settings}

lemma steady_placed : Steady (Placed config api image entry) :=
  fun _ _ placed => placed

lemma Steady.queryFact {α : Type} {holds : World κ → Prop} (steady : Steady holds)
    {query : Query κ α} {fact : α → Prop}
    (answers : ∀ settings cloud value after,
      (query settings).run cloud = .ok value after → fact value) :
    Meets holds query.lift (fun value world => holds world ∧ fact value) fun _ => holds := by
  refine meets_of (fun world value after kept ran => ⟨?_, ?_⟩) fun world exc after kept ran => ?_
  · exact (steady.query query).of_ok kept ran
  · obtain ⟨cloud, answered, _⟩ := query_ok ran
    exact answers _ _ _ _ answered
  · exact (steady.query query).of_error kept ran

/-! ## Steps -/

lemma switchRegion_placed (faithful : Faithful api image) (aws : config.clusterBackend = "aws")
    {region source : String} (word : IsWord region) {sourceRegion : Option String}
    (known : truthy sourceRegion = some source) (azLetters : List String)
    (invalidateCaches : κ → κ) :
    Keeps (Placed config api image entry)
      (switchRegion config api region azLetters sourceRegion invalidateCaches) := by
  refine meets_of (fun world _ after placed ran => ?_) fun world exc after placed ran => ?_
  · obtain ⟨middle, resolved, rfl⟩ := (switchRegion_ok_iff config api _ _ _ _ _ _).mp ran
    obtain ⟨part, assigned, amis⟩ := resolveAmis_ok config api aws resolved
    obtain ⟨values, answered, wrote⟩ :=
      (Table.assignEach_ok_iff amiIdParams_nodup _ _ part).mp assigned
    have all := Table.answers_forall (fun key _ _ _ found =>
      resolveAmi_inPlace faithful known found) answered
    intro _ key
    have placedKey := Table.write_forall amiIdParams_nodup all world.settings.amis key
      (mem_amiIdParams key)
    have regions : (Placement.moved region azLetters).configuredRegions = [region] :=
      words_of_isWord word
    change InPlace image (Placement.moved region azLetters).configuredRegions
      (middle.settings.amis key)
    rw [regions, amis, wrote]
    exact placedKey
  · intro safe
    have history : after.history = world.history ++
        [.switchRegion region sourceRegion world.settings world.cloud] := by
      obtain ⟨part, _, rfl⟩ | ⟨part, cloud, _, _, rfl⟩ :=
        (resolveAmis_error_iff config api aws _ _ _ _ _).mp
          ((switchRegion_error_iff config api _ _ _ _ _ _ _).mp ran)
      · rfl
      · rfl
    rw [history] at safe
    have own : Event.Safe config api entry
        (.switchRegion region sourceRegion world.settings world.cloud) := safe _ (by simp)
    have unchanged := EarlierAnswersStand.unchanged (fun _ => own) exc after ran
    rw [unchanged]
    exact placed fun event listed => safe event (mem_append_left _ listed)

lemma placed_of_restored (held : AmisInPlace image entry) {world after : World κ}
    (history : after.history = world.history ++ [.restore world.settings])
    (amis : after.settings.amis = world.settings.amis)
    (regions : after.settings.placement.configuredRegions = entry.placement.configuredRegions) :
    Placed config api image entry after := by
  intro safe key
  rw [history] at safe
  have own : Event.Safe config api entry (.restore world.settings) := safe _ (by simp)
  rw [regions, amis, own]
  exact held key

lemma restoreEntry_placed (held : AmisInPlace image entry)
    (single : entry.placement.configuredRegions.length = 1) :
    Keeps (Placed config api image entry) (Layout.restoreEntry entry.placement) := by
  refine meets_of (fun world _ after _ ran => ?_) fun world exc after _ ran => ?_
  · obtain ⟨_, rfl⟩ := EStateM.Result.ok.inj ran
    exact @placed_of_restored _ _ _ _ _ held world _ rfl rfl
      (Placement.restored_configuredRegions single _)
  · rw [Layout.restoreEntry_run] at ran
    simp at ran

lemma restoreRegionNames_placed (held : AmisInPlace image entry) :
    Keeps (Placed config api image entry) (Layout.restoreRegionNames entry.placement) := by
  have regions : ({ entry.placement with
      region := some (unwords entry.placement.configuredRegions) } : Placement).configuredRegions =
      entry.placement.configuredRegions := by
    cases env : entry.placement.envRegion with
    | some value => simp [Placement.configuredRegions, env]
    | none =>
      have split : words (unwords entry.placement.configuredRegions) =
          entry.placement.configuredRegions :=
        words_unwords fun _ listed => Placement.isWord_of_mem_configuredRegions listed
      simpa [Placement.configuredRegions, Placement.parameterRegions, env] using split
  refine meets_of (fun world _ after _ ran => ?_) fun world exc after _ ran => ?_
  · obtain ⟨_, rfl⟩ := EStateM.Result.ok.inj ran
    exact @placed_of_restored _ _ _ _ _ held world _ rfl rfl regions
  · cases ran

def PlacedWith (config : Config) (api : Api κ) (image : String → String → Prop) (entry : Settings)
    (dcIndex : Nat) (world : World κ) : Prop :=
  Placed config api image entry world ∧
    dcIndex < world.settings.placement.configuredRegions.length

def World.dcMoved (world : World κ) (part : (AmiParam → Option String) × κ) (dcIndex : Nat)
    (region : String) (invalidateCaches : κ → κ) : World κ where
  settings :=
    { world.settings with
      placement := world.settings.placement.withRegions
        (world.settings.placement.configuredRegions.set dcIndex region)
      amis := part.1 }
  cloud := invalidateCaches part.2
  history := world.history

/-- The switch of an existing data center raises only before it writes anything. -/
lemma switchDcRegion_run {world : World κ} {dcIndex : Nat}
    (within : dcIndex < world.settings.placement.configuredRegions.length)
    (region sourceRegion : String) (invalidateCaches : κ → κ) :
    (switchDcRegion config api dcIndex region sourceRegion invalidateCaches).run world =
      match (Table.assignAll (remapDcAmiValue config api dcIndex
          world.settings.placement.configuredRegions.length sourceRegion region)
          amiIdParams).run world.amisAndCloud with
      | .error exc part => .error exc (world.withAmisAndCloud part)
      | .ok () part => .ok () (world.dcMoved part dcIndex region invalidateCaches) := by
  have remap : (remapDcAmi config api dcIndex sourceRegion region).run world =
      (zoom World.amisAndCloud World.withAmisAndCloud
        (Table.assignAll (remapDcAmiValue config api dcIndex
          world.settings.placement.configuredRegions.length sourceRegion region)
          amiIdParams)).run world := by
    rw [remapDcAmi, EStateM.run_bind, EStateM.run_get]
  rw [switchDcRegion, EStateM.run_bind, remap, zoom_run]
  cases (Table.assignAll (remapDcAmiValue config api dcIndex
      world.settings.placement.configuredRegions.length sourceRegion region)
      amiIdParams).run world.amisAndCloud with
  | error exc part => rfl
  | ok value part =>
    have inside : dcIndex < (World.withAmisAndCloud part
        world).settings.placement.configuredRegions.length := within
    simp only
    rw [EStateM.run_bind, EStateM.run_get]
    simp only
    rw [if_pos inside]
    rfl

lemma switchDcRegion_placed (faithful : Faithful api image) (unmixed : Unmixed config)
    {region : String} (word : IsWord region) (dcIndex : Nat) (sourceRegion : String)
    (invalidateCaches : κ → κ) :
    Meets (PlacedWith config api image entry dcIndex)
      (switchDcRegion config api dcIndex region sourceRegion invalidateCaches)
      (fun _ => Placed config api image entry)
      fun _ => PlacedWith config api image entry dcIndex := by
  intro world ⟨placed, within⟩
  rw [switchDcRegion_run within]
  cases ran : (Table.assignAll (remapDcAmiValue config api dcIndex
      world.settings.placement.configuredRegions.length sourceRegion region)
      amiIdParams).run world.amisAndCloud with
  | error exc part =>
    have kept : part.1 = world.settings.amis := Table.assignAll_error ran
    refine ⟨fun safe key => ?_, within⟩
    change InPlace image world.settings.placement.configuredRegions (part.1 key)
    rw [kept]
    exact placed safe key
  | ok value part =>
    obtain ⟨values, answered, wrote⟩ := Table.assignAll_ok ran
    intro safe key
    have names : ∀ name ∈ world.settings.placement.configuredRegions.set dcIndex region,
        IsWord name := by
      intro name listed
      rcases mem_or_eq_of_mem_set listed with listed | rfl
      · exact Placement.isWord_of_mem_configuredRegions listed
      · exact word
    have all := Table.answers_forall (fun key _ _ _ found =>
      remapDcAmiValue_inPlace faithful unmixed within (placed safe key) found) answered
    have placedKey := Table.write_forall amiIdParams_nodup all world.settings.amis key
      (mem_amiIdParams key)
    change InPlace image (world.settings.placement.withRegions
      (world.settings.placement.configuredRegions.set dcIndex region)).configuredRegions
        (part.1 key)
    rw [Placement.withRegions_configuredRegions names, wrote]
    exact placedKey

namespace Layout

variable {layout : Layout κ}

/-! ## One region -/

def Named (region : Option String) : Prop := ∃ name, region = some name ∧ IsWord name

lemma Named.truthy {region : Option String} (named : Named region) :
    ∃ name, truthy region = some name := by
  obtain ⟨name, rfl, word⟩ := named
  have nonempty : name ≠ "" := by
    rintro rfl
    exact word.nonempty rfl
  simp [Sct.truthy, nonempty]

lemma named_head {placement : Placement} (some : placement.configuredRegions ≠ []) :
    Named placement.configuredRegions.head? := by
  obtain ⟨name, rest, names⟩ := exists_cons_of_ne_nil some
  have listed : name ∈ placement.configuredRegions := by simp [names]
  exact ⟨name, by simp [names], Placement.isWord_of_mem_configuredRegions listed⟩

section

variable (faithful : Faithful api image)

include faithful

section

variable (aws : config.clusterBackend = "aws")
include aws

lemma relocateToPreferredSpotRegion_placed (names : NamesRegions layout) :
    Meets (fun world => Placed config api image entry world ∧
        world.settings.placement.configuredRegions ≠ [])
      (layout.relocateToPreferredSpotRegion config api)
      (fun _ => Placed config api image entry) fun _ => Placed config api image entry := by
  have steady : Steady fun world => Placed config api image entry world ∧
      world.settings.placement.configuredRegions ≠ [] := fun _ _ kept => kept
  refine meets_bind ((steady.queryFact names.preferred).raising fun _ _ kept => kept.1)
    fun preferred => ?_
  cases preferred with
  | none => exact meets_pure _ fun _ kept => kept.1.1
  | some target =>
    obtain ⟨region, azLetters⟩ := target
    refine meets_of_fact fun fact => ?_
    have word : IsWord region := fact _ rfl
    intro world ⟨placed, regions⟩
    obtain ⟨source, known⟩ := (named_head regions).truthy
    have switch : Keeps (Placed config api image entry) (Aws.switchRegion config api region azLetters
        world.settings.placement.configuredRegions.head? layout.clearClusterCaches) :=
      switchRegion_placed faithful aws word known azLetters _
    exact keeps_tryCatch switch (fun _ => keeps_pure _) world placed

lemma regionAttempt_placed (held : AmisInPlace image entry)
    (single : entry.placement.configuredRegions.length = 1) (carried : Option String × Option Exc)
    (candidate : Option Candidate) (words : ∀ target, candidate = some target → IsWord target.1) :
    Meets (fun world => Placed config api image entry world ∧ Named carried.1)
      (layout.regionAttempt config api entry.placement carried candidate)
      (fun outcome world => match outcome with
        | .inl next => Placed config api image entry world ∧ Named next.1
        | .inr _ => Placed config api image entry world)
      fun _ => Placed config api image entry := by
  refine meets_of_fact fun named => ?_
  have enter : Meets (Placed config api image entry)
      (layout.enterRegion config api carried.1 candidate)
      (fun entered world => Placed config api image entry world ∧
        ∀ region, entered = .inr region → Named region)
      fun _ => Placed config api image entry := by
    cases candidate with
    | none => exact meets_pure _ fun _ placed => ⟨placed, fun _ same => Sum.inr.inj same ▸ named⟩
    | some target =>
      obtain ⟨region, azLetters⟩ := target
      have word := words _ rfl
      obtain ⟨source, known⟩ := named.truthy
      have switch : Keeps (Placed config api image entry) (Aws.switchRegion config api region
          azLetters carried.1 layout.clearClusterCaches) :=
        switchRegion_placed faithful aws word known azLetters _
      refine meets_tryCatch (meets_bind switch fun _ => meets_pure _ fun _ placed =>
        ⟨placed, fun _ same => Sum.inr.inj same ▸ ⟨region, rfl, word⟩⟩) fun exc => ?_
      split
      · exact meets_pure _ fun _ placed => ⟨placed, by simp⟩
      · exact meets_throw _ fun _ placed => placed
  refine meets_bind enter fun entered => ?_
  cases entered with
  | inl exc => exact meets_pure _ fun _ placed => ⟨placed.1, named⟩
  | inr region =>
    refine meets_of_fact fun reached => ?_
    have named := reached region rfl
    have attempt : Keeps (Placed config api image entry)
        (restoringOnRaise (restoreEntry entry.placement) (layout.attemptRegion config)) :=
      keeps_tryCatch (steady_placed.attemptRegion layout config) fun _ =>
        keeps_bind (restoreEntry_placed held single) fun _ => keeps_throw _
    refine meets_bind attempt fun outcome => ?_
    obtain ⟨exhausted, attemptError⟩ := outcome
    cases exhausted with
    | false => exact meets_pure _ fun _ placed => placed
    | true =>
      exact meets_bind (steady_placed.query _) fun _ => meets_pure _ fun _ placed => ⟨placed, named⟩

lemma fallbackFrom_placed (names : NamesRegions layout) (held : AmisInPlace image entry)
    (single : entry.placement.configuredRegions.length = 1) :
    Keeps (Placed config api image entry) (layout.fallbackFrom config api entry.placement) := by
  refine keeps_bind keeps_get fun ready => ?_
  have start : Named (startRegion entry.placement ready) := by
    unfold startRegion
    by_cases none : ready.settings.placement.configuredRegions = []
    · rw [none]
      exact named_head (ne_nil_of_length_pos (by omega))
    · obtain ⟨name, head, word⟩ := named_head none
      rw [head]
      exact ⟨name, rfl, word⟩
  refine meets_bind (steady_placed.queryFact names.candidates) fun regionCandidates => ?_
  refine meets_of_fact fun listed => ?_
  have loop := @meets_foldUntil _ _ _ _ _ (fun _ => Placed config api image entry)
    (layout.regionAttempt config api entry.placement)
    (fun outcome world => match outcome with
      | .inl next => Placed config api image entry world ∧ Named next.1
      | .inr _ => Placed config api image entry world) (none :: regionCandidates.map some)
    (fun carried candidate member => by
      refine regionAttempt_placed faithful aws held single carried candidate ?_
      rintro target rfl
      exact listed target (by simpa using member))
    (startRegion entry.placement ready, none)
  refine meets_bind (loop.given fun _ placed => ⟨placed, start⟩) fun outcome => ?_
  cases outcome with
  | inl carried =>
    exact meets_of_fact fun _ => keeps_bind (restoreEntry_placed held single) fun _ => keeps_throw _
  | inr done => exact keeps_pure _

end

variable {start : World κ}

lemma provisionWithRegionFallback_placed (aws : config.clusterBackend = "aws")
    (names : NamesRegions layout) (held : AmisInPlace image start.settings) :
    Meets (fun world => world = start) (layout.provisionWithRegionFallback config api)
      (fun _ => Placed config api image start.settings)
      fun _ => Placed config api image start.settings := by
  have placed : Placed config api image start.settings start := fun _ => held
  rintro world rfl
  by_cases single : world.settings.placement.configuredRegions.length = 1
  · have regions : world.settings.placement.configuredRegions ≠ [] :=
      ne_nil_of_length_pos (by omega)
    have relocated := relocateToPreferredSpotRegion_placed faithful aws names world
      ⟨placed, regions⟩
    rw [provisionWithRegionFallback_run world single]
    cases ran : (layout.relocateToPreferredSpotRegion config api).run world with
    | error exc after =>
      rw [ran] at relocated
      exact relocated
    | ok value ready =>
      rw [ran] at relocated
      exact fallbackFrom_placed faithful aws names held single ready relocated
  · obtain ⟨exc, rejected⟩ := @provisionWithRegionFallback_rejected κ layout config api world single
    rw [rejected]
    exact placed

/-! ## Several data centers -/

section

variable (unmixed : Unmixed config)
include unmixed

lemma relocateFailedDbDc_placed (names : NamesRegions layout) (exc : Exc) (triedByDc : TriedByDc) :
    Keeps (Placed config api image entry)
      (layout.relocateFailedDbDc config api exc triedByDc) := by
  have opened : Meets (Placed config api image entry) (get : Action κ (World κ))
      (fun got world => got = world ∧ Placed config api image entry world)
      fun _ => Placed config api image entry := meets_get fun _ placed => ⟨rfl, placed⟩
  refine meets_bind opened fun got => ?_
  split
  · exact meets_throw _ fun _ placed => placed.2
  · rename_i failedRegion dcIndex found
    have within : dcIndex < got.settings.placement.configuredRegions.length := by
      obtain ⟨region, _, located⟩ := Option.bind_eq_some_iff.mp found
      obtain ⟨index, position, same⟩ := Option.map_eq_some_iff.mp located
      obtain ⟨rfl, rfl⟩ := Prod.mk.inj same
      exact (idxOf?_eq_some_iff.mp position).1
    have steady : Steady (PlacedWith config api image entry dcIndex) := fun _ _ placed => placed
    have weak : ∀ {α : Type} {body : Action κ α} {post : α → World κ → Prop},
        Meets (PlacedWith config api image entry dcIndex) body post
          (fun _ => PlacedWith config api image entry dcIndex) →
        Meets (PlacedWith config api image entry dcIndex) body post
          fun _ => Placed config api image entry :=
      fun meets => meets.raising fun _ _ kept => kept.1
    have cleaned := weak (steady.query (layout.cleanupDcRegion config api failedRegion))
    refine meets_bind (cleaned.given ?_) fun _ => ?_
    · rintro world ⟨rfl, placed⟩
      exact ⟨placed, within⟩
    refine meets_bind (weak (steady.queryFact (names.dcCandidates dcIndex))) fun candidates => ?_
    refine meets_of_fact fun listed => ?_
    have loop := @meets_foldUntil _ _ _ _ _ (fun _ => Placed config api image entry)
      (layout.tryDcCandidate config api dcIndex failedRegion)
      (fun outcome world => match outcome with
        | .inl _ => PlacedWith config api image entry dcIndex world
        | .inr _ => Placed config api image entry world)
      ((candidates.map Prod.fst).filter fun region =>
        region ∉ triedByDc dcIndex ++ [failedRegion])
      (fun carried target member => by
        obtain ⟨candidate, own, rfl⟩ := mem_map.mp (mem_filter.mp member).1
        have switch := @switchDcRegion_placed _ _ _ _ entry faithful unmixed _
          (listed candidate own) dcIndex failedRegion layout.invalidateRegionDerivedCaches
        refine meets_tryCatch (meets_bind switch fun _ => meets_pure _ fun _ placed => placed)
          fun exc => ?_
        split
        · exact meets_pure _ fun _ placed => placed
        · exact meets_throw _ fun _ placed => placed.1)
      (triedByDc dcIndex ++ [failedRegion])
    refine meets_bind loop fun outcome => ?_
    cases outcome with
    | inl reached => exact meets_throw _ fun _ kept => kept.1
    | inr reached => exact keeps_pure _

lemma dbAttempt_placed (names : NamesRegions layout) (triedByDc : TriedByDc) :
    Keeps (Placed config api image entry) (layout.dbAttempt config api triedByDc) := by
  refine keeps_bind keeps_get fun world => ?_
  have attempt : Keeps (Placed config api image entry) (tryCatch
      (do (layout.provisionDb (layout.completedDbRegionIds world)).lift; pure none)
      fun exc => if isCapacityFailure exc then pure (some exc) else throw exc :
        Action κ (Option Exc)) := by
    refine keeps_tryCatch (keeps_bind (steady_placed.query _) fun _ => keeps_pure _) fun exc => ?_
    split
    · exact keeps_pure _
    · exact keeps_throw _
  refine keeps_bind attempt fun failure => ?_
  cases failure with
  | none => exact keeps_pure _
  | some exc =>
    exact keeps_map _ (relocateFailedDbDc_placed faithful unmixed names exc triedByDc)

lemma provisionWithMultiDcFallback_placed (names : NamesRegions layout)
    (held : AmisInPlace image start.settings) (fuel : Nat) :
    Meets (fun world => world = start) (layout.provisionWithMultiDcFallback config api fuel)
      (fun _ => Placed config api image start.settings)
      fun _ => Placed config api image start.settings := by
  have placed : Placed config api image start.settings start := fun _ => held
  have gate : Keeps (fun world => world = start)
      (enforceMultiDcFallbackSupported config : Action κ Unit) := by
    unfold enforceMultiDcFallbackSupported
    split
    · exact keeps_throw _
    · exact keeps_pure _
  refine meets_bind (gate.raising fun _ world same => same ▸ placed) fun _ => ?_
  have opened : Meets (fun world => world = start) (get : Action κ (World κ))
      (fun got world => Placed config api image start.settings world ∧ got = start)
      fun _ => Placed config api image start.settings :=
    meets_get fun world same => ⟨same ▸ placed, same⟩
  refine meets_bind opened fun got => ?_
  refine meets_of_fact fun same => ?_
  subst same
  have steady := @steady_placed _ config api image got.settings
  have database : Keeps (Placed config api image got.settings)
      (layout.provisionDbWithDcFallback config api fuel) := by
    exact @meets_repeatUntil _ _ _ _ _ (layout.dbAttempt config api)
      (fun _ => Placed config api image got.settings) (fun _ => Placed config api image got.settings)
      (dbAttempt_placed faithful unmixed names) (fun _ _ kept => kept) (fun _ _ kept => kept) fuel
      fun _ => []
  refine keeps_tryCatch ?_ fun exc =>
    keeps_bind (restoreRegionNames_placed held) fun _ => keeps_throw _
  refine keeps_bind (steady.zoneStep _) fun _ => ?_
  refine keeps_bind (steady.query _) fun _ => ?_
  refine keeps_bind (steady.query _) fun _ => ?_
  refine keeps_bind database fun outcome => ?_
  cases outcome with
  | none => exact keeps_pure _
  | some done =>
    refine keeps_bind (steady.query _) fun _ => ?_
    refine keeps_bind (steady.query _) fun _ => ?_
    exact keeps_bind (steady.query _) fun _ => keeps_pure _

end

end

/-! ## Whole runs -/

lemma provisionOnce_keeps {holds : World κ → Prop} (steady : Steady holds) :
    Keeps holds (layout.provisionOnce config) := by
  refine keeps_bind (steady.zoneStep _) fun _ => ?_
  split
  · exact steady.doProvision layout config
  · refine keeps_bind (steady.query _) fun candidates => ?_
    split
    · exact steady.doProvision layout config
    · refine keeps_bind (steady.provisionAzLoop layout config candidates) fun outcome => ?_
      split
      · exact keeps_throw _
      · exact keeps_pure _

lemma provision_placed (faithful : Faithful api image) (aws : config.clusterBackend = "aws")
    (unmixed : Unmixed config) (names : NamesRegions layout) {start : World κ}
    (held : AmisInPlace image start.settings) (fuel : Nat) :
    Meets (fun world => world = start) (layout.provision config api fuel)
      (fun _ => Placed config api image start.settings)
      fun _ => Placed config api image start.settings := by
  have placed : Placed config api image start.settings start := fun _ => held
  unfold provision
  split
  · have opened : Meets (fun world => world = start) (get : Action κ (World κ))
        (fun _ world => world = start) fun _ => Placed config api image start.settings :=
      meets_get fun _ same => same
    refine meets_bind opened fun got => ?_
    split
    · exact provisionWithMultiDcFallback_placed faithful unmixed names held fuel
    · exact meets_map _ (provisionWithRegionFallback_placed faithful aws names held)
  · refine meets_map _ ((provisionOnce_keeps steady_placed).given ?_)
    rintro world rfl
    exact placed

/-- In a run whose recorded switches cannot fail half way and whose recorded restores find the
AMIs of the entry, every AMI is at the exit an image of the region it is positioned for. -/
theorem amis_in_place_at_exit (faithful : Faithful api image)
    (aws : config.clusterBackend = "aws") (unmixed : Unmixed config)
    (names : NamesRegions layout) {start : World κ} (held : AmisInPlace image start.settings)
    (fuel : Nat)
    (safe : ∀ event ∈ (exitState ((layout.provision config api fuel).run start)).history,
      event.Safe config api start.settings) :
    AmisInPlace image (exitState ((layout.provision config api fuel).run start)).settings := by
  have meets := provision_placed faithful aws unmixed names held fuel start rfl
  cases ran : (layout.provision config api fuel).run start with
  | ok value exit =>
    rw [ran] at meets safe
    exact meets safe
  | error exc exit =>
    rw [ran] at meets safe
    exact meets safe

end Layout

/-! ## A restore after a relocation -/

def twoRegionImages (region ami : String) : Prop :=
  (region, ami) ∈ [("us-east-1", "ami-db-east"), ("us-west-2", "ami-db-west")]

instance (region ami : String) : Decidable (twoRegionImages region ami) :=
  inferInstanceAs (Decidable (_ ∈ _))

/-- Capacity for DB nodes in the given regions only, with `us-west-2` to fall back to. -/
def stockedIn (regions : List String) : Layout Unit where
  resolve := pure ()
  getFallbackCandidates := pure []
  getRegionFallbackCandidates := pure [("us-west-2", ["b"])]
  getPreferredSpotRegion := pure none
  getDcFallbackCandidates _ := pure []
  runPreFlightCapacityProbe := pure ()
  provisionPlacementGroup := pure ()
  reserveCapacity := pure ()
  reserveHosts := pure ()
  provisionDb _ := fun settings =>
    if settings.placement.configuredRegions.all (· ∈ regions) then pure ()
    else throw (.raised (.clientError ["InsufficientInstanceCapacity"]) "no capacity")
  provisionMonitors := pure ()
  provisionLoaders := pure ()
  provisionCsDb := pure ()
  cleanupPartialProvision := pure ()
  terminateDcInstances _ := pure ()
  provisionedDbRegions _ := []
  clearClusterCaches := id
  invalidateRegionDerivedCaches := id

lemma dbImageOnly_faithful : Faithful dbImageOnly twoRegionImages where
  isWord region ami listed := by
    have known : ami = "ami-db-east" ∨ ami = "ami-db-west" := by
      simp only [twoRegionImages, mem_cons, Prod.mk.injEq, not_mem_nil, or_false] at listed
      exact listed.imp And.right And.right
    rcases known with rfl | rfl
    · decide
    · decide
  ssm _ _ _ _ _ found := nomatch found
  owner _ _ _ _ _ found := nomatch found
  named _ _ _ _ _ _ _ found := nomatch found
  equivalent amiId source region cloud images after found := by
    have answer := (EStateM.Result.ok.inj found).1
    intro ami listed
    rw [← answer] at listed
    split at listed
    · rename_i known
      obtain rfl := mem_singleton.mp listed
      rw [known.2]
      decide
    · simp at listed

lemma stockedIn_namesRegions (regions : List String) : NamesRegions (stockedIn regions) where
  preferred _ _ _ _ found candidate same := by
    rw [← (EStateM.Result.ok.inj found).1] at same
    exact nomatch same
  candidates _ _ _ _ found candidate listed := by
    rw [← (EStateM.Result.ok.inj found).1] at listed
    obtain rfl := mem_singleton.mp listed
    decide
  dcCandidates _ _ _ _ _ found candidate listed := by
    rw [← (EStateM.Result.ok.inj found).1] at listed
    exact nomatch listed

lemma eastDbWorld_inPlace : AmisInPlace twoRegionImages eastDbWorld.settings := by
  have regions : eastDbWorld.settings.placement.configuredRegions = ["us-east-1"] := by decide
  have database : InPlace twoRegionImages ["us-east-1"] (some "ami-db-east") :=
    @inPlace_of_images _ _ _ ["ami-db-east"] (by decide) (by decide)
  have unset : InPlace twoRegionImages ["us-east-1"] none :=
    @inPlace_of_noWords _ none words_empty _
  intro key
  rw [regions]
  cases key with
  | amiIdDbScylla => exact database
  | _ => exact unset

lemma awsConfig_unmixed : Unmixed awsConfig := by
  intro key first others tokens
  have none : words ((awsConfig.amiParamsSnapshot key).getD "") = [] := words_empty
  rw [none] at tokens
  exact nomatch tokens

/-- There is no capacity anywhere: the cluster is moved to `us-west-2`, then the regions are
restored, and the DB image of `us-west-2` stays in the settings of `us-east-1`. -/
theorem stockedNowhere_keeps_west_image :
    Faithful dbImageOnly twoRegionImages ∧ AmisInPlace twoRegionImages eastDbWorld.settings ∧
      ¬ AmisInPlace twoRegionImages
        (exitState (((stockedIn []).provision awsConfig dbImageOnly 1).run eastDbWorld)).settings := by
  refine ⟨dbImageOnly_faithful, eastDbWorld_inPlace, fun placed => ?_⟩
  have wrong := placed .amiIdDbScylla 0 "us-east-1" "ami-db-west" (by decide +kernel)
    (by decide +kernel) (by decide)
  exact absurd wrong (by decide)

/-- With capacity in `us-west-2` the run ends there, with the image of that region. -/
theorem stockedInWest_in_place :
    AmisInPlace twoRegionImages (exitState
      (((stockedIn ["us-west-2"]).provision awsConfig dbImageOnly 1).run eastDbWorld)).settings := by
  refine Layout.amis_in_place_at_exit dbImageOnly_faithful rfl awsConfig_unmixed
    (stockedIn_namesRegions _) eastDbWorld_inPlace 1 ?_
  have history : (exitState
      (((stockedIn ["us-west-2"]).provision awsConfig dbImageOnly 1).run eastDbWorld)).history =
      [.switchRegion "us-west-2" (some "us-east-1") eastDbWorld.settings ()] := rfl
  rw [history]
  intro event listed
  obtain rfl := mem_singleton.mp listed
  have found : ∀ key exc after, (resolveAmi awsConfig dbImageOnly ["us-west-2"] (some "us-east-1")
      key (eastDbWorld.settings.amis key)).run () ≠ .error exc after := by
    intro key
    cases key <;> exact fun _ _ raised => nomatch raised
  constructor
  · intro before key rest values middle exc after _ _ raised
    exact absurd raised (found key exc after)
  · intro values middle exc after _ raised
    exact nomatch raised

end Sct.Aws
