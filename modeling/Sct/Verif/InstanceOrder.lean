import Sct.Lib.Fallible
import Sct.Lib.Reorder
import Sct.Provision.Instances
import Sct.Verif.GceCreation

/-!
# Instances in the order of their definitions

The caller of `get_or_create_instances` pairs the instances it gets with the definitions it asked
for. On GCE and Azure the list is read off the cache in the order of the definitions, so it pairs
well whenever there is one. On OCI the instances that were cached come first and those that were
created follow, which is the order of the definitions only if the cached ones stand in front.
-/

open List

namespace Sct.Instances

/-! ## Azure -/

section Azure

variable {ready : String → Nat} {cache vmCache : Dict String VmInstance} {definitions : List String}

def Named (cache : Dict String VmInstance) : Prop :=
  ∀ name vm, cache.get name = some vm → vm.name = name

lemma Named.set (named : Named cache) (name : String) : Named (cache.set name ⟨name⟩) := by
  intro other vm found
  rw [Dict.get_set] at found
  split at found
  · rename_i equal
    cases found
    exact equal.symm
  · exact named other vm found

lemma Named.setAll (named : Named cache) (vms : List VmInstance) :
    Named (cache.setAll (vms.map fun vm => (vm.name, vm))) := by
  induction vms generalizing cache with
  | nil => exact named
  | cons vm rest ih => exact ih (named.set vm.name)

variable (left round : Nat) (pending : List String) (provisioned : List VmInstance)

lemma mem_waitAllProvisioned :
    (∀ vm ∈ provisioned, vm ∈ (waitAllProvisioned ready left round pending provisioned).1) ∧
      ∀ name ∈ pending, name ∈ (waitAllProvisioned ready left round pending provisioned).2 ∨
        ⟨name⟩ ∈ (waitAllProvisioned ready left round pending provisioned).1 := by
  induction left generalizing round pending provisioned with
  | zero => exact ⟨fun _ found => found, fun _ waiting => .inl waiting⟩
  | succ left ih =>
    obtain ⟨found, settled⟩ := ih (round + 1)
      (pending.filter fun name => !decide (ready name ≤ round))
      (provisioned ++ (pending.filter fun name => decide (ready name ≤ round)).map VmInstance.mk)
    refine ⟨fun vm listed => found vm (mem_append_left _ listed), ?_⟩
    intro name waiting
    by_cases now : ready name ≤ round
    · apply Or.inr
      apply found
      apply mem_append_right
      exact mem_map_of_mem (mem_filter.mpr ⟨waiting, decide_eq_true now⟩)
    · exact settled name (mem_filter.mpr ⟨waiting, by simpa using now⟩)

lemma waitAllProvisioned_in_time (unready : ∀ name ∈ pending, round ≤ ready name)
    (inTime : ∀ name ∈ pending, ready name < round + left) :
    (waitAllProvisioned ready left round pending provisioned).2 = [] := by
  induction left generalizing round pending provisioned with
  | zero =>
    apply eq_nil_iff_forall_not_mem.mpr
    intro name waiting
    have late := unready name waiting
    have early := inTime name waiting
    omega
  | succ left ih =>
    apply ih
    · intro name waiting
      have later := (mem_filter.mp waiting).2
      simp only [Bool.not_eq_true', decide_eq_false_iff_not] at later
      omega
    · intro name waiting
      have bound := inTime name (mem_of_mem_filter waiting)
      omega

variable {rounds : Nat}

lemma mem_getOrCreate (named : Named vmCache)
    (settled : (getOrCreate ready rounds definitions vmCache).2.1 = []) {name : String}
    (asked : name ∈ definitions) :
    ⟨name⟩ ∈ (getOrCreate ready rounds definitions vmCache).1 := by
  cases cached : vmCache.get name with
  | some vm =>
    have equal : vm = ⟨name⟩ := by
      rw [← named name vm cached]
    apply mem_append_left
    rw [← equal]
    exact mem_filterMap.mpr ⟨name, asked, cached⟩
  | none =>
    apply mem_append_right
    have waiting : name ∈ definitions.filter fun name => (vmCache.get name).isNone :=
      mem_filter.mpr ⟨asked, by rw [cached]; rfl⟩
    have outcome := (@mem_waitAllProvisioned ready rounds 0 _ []).2 name waiting
    rw [show (waitAllProvisioned ready rounds 0 _ []).2 = [] from settled] at outcome
    exact outcome.resolve_left not_mem_nil

lemma Named.getOrCreate (named : Named vmCache) :
    Named (getOrCreate ready rounds definitions vmCache).2.2 :=
  named.setAll _

variable {ready : Nat → String → Nat} {vms : List VmInstance} {name : String}

lemma mem_provisionWithStuckRecreate {after : Dict String VmInstance} (left attempt : Nat)
    (named : Named vmCache)
    (ran : provisionWithStuckRecreate ready rounds definitions left attempt vmCache =
      (some vms, after)) (asked : name ∈ definitions) : ⟨name⟩ ∈ vms := by
  induction left generalizing attempt vmCache with
  | zero =>
    unfold provisionWithStuckRecreate at ran
    split at ran
    · rename_i all cache outcome
      cases ran
      have found := @mem_getOrCreate (ready attempt) vmCache definitions rounds named
      rw [outcome] at found
      exact found rfl asked
    · cases ran
  | succ left ih =>
    unfold provisionWithStuckRecreate at ran
    split at ran
    · rename_i all cache outcome
      cases ran
      have found := @mem_getOrCreate (ready attempt) vmCache definitions rounds named
      rw [outcome] at found
      exact found rfl asked
    · rename_i outcome
      have kept := @Named.getOrCreate (ready attempt) vmCache definitions rounds named
      rw [outcome] at kept
      exact ih (attempt + 1) kept ran

lemma provisionWithStuckRecreate_in_time {rounds : Nat} (left : Nat)
    (inTime : ∀ name ∈ definitions, ready 0 name < rounds) :
    ∃ vms after, provisionWithStuckRecreate ready rounds definitions left 0 vmCache =
      (some vms, after) := by
  have settled : (getOrCreate (ready 0) rounds definitions vmCache).2.1 = [] := by
    apply waitAllProvisioned_in_time
    · exact fun _ _ => Nat.zero_le _
    · intro name waiting
      rw [Nat.zero_add]
      exact inTime name (mem_of_mem_filter waiting)
  cases outcome : getOrCreate (ready 0) rounds definitions vmCache with
  | mk vms rest =>
    obtain ⟨stuck, cache⟩ := rest
    rw [outcome] at settled
    refine ⟨vms, cache, ?_⟩
    cases left with
    | zero =>
      rw [provisionWithStuckRecreate, outcome]
      cases settled
      rfl
    | succ left =>
      rw [provisionWithStuckRecreate, outcome]
      cases settled
      rfl

lemma get_vmsByName (found : ⟨name⟩ ∈ vms) :
    (Dict.empty.setAll (vms.map fun vm => (vm.name, vm))).get name = some ⟨name⟩ := by
  have agree : ∀ entry ∈ vms.map fun vm => (vm.name, vm), ∀ other ∈ vms.map fun vm => (vm.name, vm),
      entry.1 = other.1 → entry = other := by
    intro entry listed other also same
    obtain ⟨⟨vm⟩, -, rfl⟩ := mem_map.mp listed
    obtain ⟨⟨another⟩, -, rfl⟩ := mem_map.mp also
    cases same
    rfl
  apply (Dict.get_setAll_iff agree name _).mpr
  exact mem_map.mpr ⟨_, found, rfl⟩

lemma cacheInstances_eq {vmsByName : Dict String VmInstance} (names : List String)
    (found : ∀ name ∈ names, vmsByName.get name = some ⟨name⟩) :
    ∃ filled, cacheInstances vmsByName names cache = (some (), filled) ∧
      ∀ name, filled.get name = if name ∈ names then some ⟨name⟩ else cache.get name := by
  induction names generalizing cache with
  | nil => exact ⟨cache, rfl, by simp⟩
  | cons name rest ih =>
    obtain ⟨filled, ran, written⟩ := @ih (cache.set name ⟨name⟩) fun other listed =>
      found other (mem_cons_of_mem _ listed)
    refine ⟨filled, ?_, ?_⟩
    · rw [cacheInstances, found name mem_cons_self]
      exact ran
    · intro other
      rw [written, Dict.get_set]
      by_cases equal : other = name <;> by_cases listed : other ∈ rest <;> simp [equal, listed]

lemma mapM_get_eq (cached : ∀ name ∈ definitions, cache.get name = some ⟨name⟩) :
    definitions.mapM cache.get = some (definitions.map VmInstance.mk) := by
  rw [Fallible.mapM_eq_some_iff, forall₂_map_right_iff, forall₂_same]
  exact cached

/-- An Azure provisioner whose instances are cached under their names. -/
structure NamedAzure extends Azure where
  named : Named cache
  vmNamed : Named vmCache

lemma mem_definitionsToProvision_iff (cache : Dict String VmInstance) (definitions : List String)
    (name : String) : name ∈ definitionsToProvision cache definitions ↔
      name ∈ definitions ∧ cache.get name = none := by
  unfold definitionsToProvision
  rw [mem_filter, Option.isNone_iff_eq_none]

variable (azure : NamedAzure)

lemma azure_getOrCreateInstances (ready : Nat → String → Nat) (rounds recreateAttempts : Nat)
    (definitions : List String) :
    (azure.getOrCreateInstances ready rounds recreateAttempts definitions).1 =
      if definitionsToProvision azure.cache definitions = [] then
        some (definitions.map VmInstance.mk)
      else (provisionWithStuckRecreate ready rounds
          (definitionsToProvision azure.cache definitions) recreateAttempts 0 azure.vmCache).1.map
        fun _ => definitions.map VmInstance.mk := by
  have known : ∀ name ∈ definitions, name ∉ definitionsToProvision azure.cache definitions →
      azure.cache.get name = some ⟨name⟩ := by
    intro name asked present
    cases found : azure.cache.get name with
    | none => exact absurd ((mem_definitionsToProvision_iff ..).mpr ⟨asked, found⟩) present
    | some vm => rw [← azure.named name vm found]
  unfold Azure.getOrCreateInstances
  cases missing : definitionsToProvision azure.cache definitions with
  | nil =>
    apply mapM_get_eq
    intro name asked
    apply known name asked
    rw [missing]
    exact not_mem_nil
  | cons first rest =>
    cases provisioned : provisionWithStuckRecreate ready rounds (first :: rest) recreateAttempts 0
        azure.vmCache with
    | mk outcome vmCache =>
      simp only [provisioned]
      cases outcome with
      | none => rfl
      | some vms =>
        have found : ∀ name ∈ first :: rest, (Dict.empty.setAll (vms.map fun vm =>
            (vm.name, vm))).get name = some ⟨name⟩ := fun name asked => get_vmsByName
          (mem_provisionWithStuckRecreate recreateAttempts 0 azure.vmNamed provisioned asked)
        obtain ⟨filled, ran, written⟩ := @cacheInstances_eq azure.cache _ (first :: rest) found
        simp only [ran, Option.map_some]
        apply mapM_get_eq
        intro name asked
        rw [written]
        split
        · rfl
        · rename_i present
          apply known name asked
          rw [missing]
          exact present

end Azure

/-! ## OCI -/

/-- A cache whose instances are under their names. -/
structure NamedCache where
  cache : Dict String VmInstance
  named : Named cache

lemma names_ociGetOrCreateInstances (known : NamedCache) (definitions : List String) :
    (ociGetOrCreateInstances definitions known.cache).1.map VmInstance.name =
      definitions.filter (fun name => (known.cache.get name).isSome) ++
        definitions.filter fun name => !(known.cache.get name).isSome := by
  have cached : (definitions.filterMap known.cache.get).map VmInstance.name =
      definitions.filter fun name => (known.cache.get name).isSome := by
    induction definitions with
    | nil => rfl
    | cons name rest ih =>
      cases found : known.cache.get name with
      | none => simp [found, ih]
      | some vm => simp [found, ih, known.named name vm found]
  have created : ((definitionsToProvision known.cache definitions).map VmInstance.mk).map
      VmInstance.name = definitions.filter fun name => !(known.cache.get name).isSome := by
    unfold definitionsToProvision
    simp [Function.comp_def]
  unfold ociGetOrCreateInstances
  rw [map_append, cached, created]

end Sct.Instances

namespace Sct.GceVm

/-! ## GCE -/

/-- A session whose provisioner has instances under their names. -/
structure NamedSession extends Session where
  named : ∀ name vm, provisioner.cache.get name = some vm → vm.name = name

variable (session : NamedSession)

lemma names_getOrCreateInstances {pricingModel : PricingModel}
    {answers : Definition → Nat → Attempt} {definitions : List Definition}
    {instances : List VmInstance} {after : Session}
    (ran : (getOrCreateInstances pricingModel answers definitions).run session.toSession =
      .ok instances after) : instances.map VmInstance.name = definitions.map Definition.key := by
  obtain ⟨created, found⟩ := getOrCreateInstances_ok ran
  have named : ∀ name vm, after.provisioner.cache.get name = some vm → vm.name = name := by
    intro name vm cached
    rcases created.recorded name with ⟨-, kept, -⟩ | ⟨zone, -, -, written, -⟩
    · exact session.named name vm (kept.symm.trans cached)
    · rw [written] at cached
      cases cached
      rfl
  have each := Fallible.mapM_eq_some_iff.mp found
  clear ran created found
  induction each with
  | nil => rfl
  | cons first _ ih => rw [map_cons, map_cons, named _ _ first, ih]

end Sct.GceVm

namespace Sct.Instances

/-! ## The three clouds -/

/-- Instances come back in the order of their definitions: on GCE, when the cloud serves every
request, exactly if no name is in the way; on Azure whenever there is a list, and there is one when
the VMs are ready in time; on OCI exactly if no definition that has to be created stands in front of
a cached one. -/
theorem getOrCreateInstances_in_order (session : GceVm.NamedSession)
    (pricingModel : GceVm.PricingModel) (onGce : List GceVm.Definition) (azure : NamedAzure)
    (ready : Nat → String → Nat) (rounds recreateAttempts : Nat) (known : NamedCache)
    (definitions : List String) :
    ((∃ instances after, (GceVm.getOrCreateInstances pricingModel
          (fun _ _ => GceVm.servedAttempt) onGce).run session.toSession = .ok instances after ∧
        instances.map GceVm.VmInstance.name = onGce.map GceVm.Definition.key) ↔
      GceVm.ReadyFor onGce session.toSession) ∧
    ((∀ instances, (azure.getOrCreateInstances ready rounds recreateAttempts definitions).1 =
          some instances → instances.map VmInstance.name = definitions) ∧
      ((∀ name ∈ definitions, ready 0 name < rounds) →
        ∃ instances, (azure.getOrCreateInstances ready rounds recreateAttempts definitions).1 =
          some instances)) ∧
    ((ociGetOrCreateInstances definitions known.cache).1.map VmInstance.name = definitions ↔
      definitions.Pairwise fun early late => (known.cache.get late).isSome = true →
        (known.cache.get early).isSome = true) := by
  refine ⟨⟨?_, ?_⟩, ⟨?_, ?_⟩, ?_⟩
  · rintro ⟨instances, after, ran, -⟩
    exact (GceVm.getOrCreateInstances_ok ran).1.ready
  · intro ready
    obtain ⟨instances, after, ran⟩ := @GceVm.getOrCreateInstances_returns pricingModel
      (fun _ _ => GceVm.servedAttempt) session.toSession onGce ready fun _ _ => rfl
    exact ⟨instances, after, ran, GceVm.names_getOrCreateInstances session ran⟩
  · intro instances returned
    rw [azure_getOrCreateInstances] at returned
    have whole : instances = definitions.map VmInstance.mk := by
      split at returned
      · exact (Option.some.inj returned).symm
      · obtain ⟨vms, -, equal⟩ := Option.map_eq_some_iff.mp returned
        exact equal.symm
    rw [whole, map_map]
    exact map_id _
  · intro inTime
    rw [azure_getOrCreateInstances]
    split
    · exact ⟨_, rfl⟩
    · obtain ⟨vms, after, provisioned⟩ := @provisionWithStuckRecreate_in_time azure.vmCache
        (definitionsToProvision azure.cache definitions) ready rounds recreateAttempts
        fun name missing => inTime name ((mem_definitionsToProvision_iff ..).mp missing).1
      rw [provisioned]
      exact ⟨_, rfl⟩
  · rw [names_ociGetOrCreateInstances]
    exact Reorder.filter_append_filter_eq_self_iff _ definitions

def emptySession : GceVm.NamedSession where
  provisioner := GceVm.newProvisioner ["us-east1-b"] fun _ => []
  cloud _ _ := .free
  named name vm found := by
    rw [show (GceVm.newProvisioner ["us-east1-b"] fun _ => []).cache.get name = none from
      Dict.get_empty name] at found
    cases found

def firstCached : NamedCache where
  cache := Dict.empty.set "db-1" ⟨"db-1"⟩
  named := Named.set (fun name _ found => by rw [Dict.get_empty name] at found; cases found) "db-1"

def azureFirstCached : NamedAzure :=
  ⟨⟨firstCached.cache, firstCached.cache⟩, firstCached.named, firstCached.named⟩

def twoOnGce : List GceVm.Definition := [⟨"db-1", none, some 1, false⟩, ⟨"db-2", none, some 2, false⟩]

theorem twoDefinitions_in_order :
    (∃ instances after, (GceVm.getOrCreateInstances .spot (fun _ _ => GceVm.servedAttempt)
        twoOnGce).run emptySession.toSession = .ok instances after ∧
      instances.map GceVm.VmInstance.name = ["db-1", "db-2"]) ∧
    (∃ instances, (azureFirstCached.getOrCreateInstances (fun _ _ => 0) 1 0 ["db-1", "db-2"]).1 =
        some instances ∧ instances.map VmInstance.name = ["db-1", "db-2"]) ∧
    (ociGetOrCreateInstances ["db-1", "db-2"] firstCached.cache).1.map VmInstance.name =
      ["db-1", "db-2"] := by
  obtain ⟨gce, ⟨azureOrder, azureReturns⟩, oci⟩ := getOrCreateInstances_in_order emptySession .spot
    twoOnGce azureFirstCached (fun _ _ => 0) 1 0 firstCached ["db-1", "db-2"]
  have keys : twoOnGce.map GceVm.Definition.key = ["db-1", "db-2"] := by decide
  have ready : GceVm.ReadyFor twoOnGce emptySession.toSession := by
    intro zone used
    have only : zone = "us-east1-b" := by
      have zones : emptySession.provisioner.zonesToUse twoOnGce = ["us-east1-b"] := by
        decide
      rw [zones] at used
      exact mem_singleton.mp used
    subst only
    refine ⟨by decide, fun definition listed uncached => ⟨⟨uncached, rfl⟩, ?_⟩⟩
    revert definition
    decide
  obtain ⟨instances, returned⟩ := azureReturns fun _ _ => Nat.one_pos
  exact ⟨keys ▸ gce.mpr ready, ⟨instances, returned, azureOrder instances returned⟩,
    oci.mpr (by decide)⟩

/-- With the second of two definitions cached, OCI returns them the other way round. -/
theorem oci_out_of_order :
    (ociGetOrCreateInstances ["db-1", "db-2"] (Dict.empty.set "db-2" ⟨"db-2"⟩)).1.map
      VmInstance.name = ["db-2", "db-1"] := by
  decide

end Sct.Instances
