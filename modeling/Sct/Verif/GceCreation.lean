import Sct.Lib.Fallible
import Sct.Provision.Gce.Provisioner
import Sct.Verif.GceVmOutcomes

/-!
# Creating VMs through a GCE provisioner

`get_or_create_instances` goes through the zones of the definitions that are not cached and creates
the VMs of each. When it returns, every one of them is a running VM of its zone or was cached by
the zone's VM provider, and the provisioner has it under its name. It returns when the cloud serves
every request and no name is taken or asked for twice in a zone.
-/

open Sct.Effect
open List

namespace Sct.GceVm

variable {pricingModel : PricingModel} {answers : Definition → Nat → Attempt}
  {session before middle after : Session}

/-! ## Remembering -/

/-- What happens to the caches when instances of a zone are remembered. -/
structure Remembered (zone : String) (names : List String) (before after : Session) : Prop where
  cache : ∀ name, after.provisioner.cache.get name =
    if name ∈ names then some ⟨name, zone⟩ else before.provisioner.cache.get name
  instanceZones : ∀ name, after.provisioner.instanceZones.get name =
    if name ∈ names then some zone else before.provisioner.instanceZones.get name
  zoneNames : after.provisioner.zoneNames = before.provisioner.zoneNames
  provider : ∀ other, after.provider other = before.provider other

lemma remembered_of_forM (zone : String) (names : List String) (session : Session) :
    ∃ after, (forM names (remember zone)).run session = .ok () after ∧
      Remembered zone names session after := by
  induction names generalizing session with
  | nil => exact ⟨session, rfl, by simp, by simp, rfl, fun _ => rfl⟩
  | cons name rest ih =>
    obtain ⟨after, ran, later⟩ := ih { session with provisioner := { session.provisioner with
      cache := session.provisioner.cache.set name ⟨name, zone⟩
      instanceZones := session.provisioner.instanceZones.set name zone } }
    refine ⟨after, ?_, ?_, ?_, later.zoneNames, later.provider⟩
    · exact ran
    · intro other
      have written := later.cache other
      simp only [Dict.get_set] at written
      rw [written]
      by_cases equal : other = name <;> by_cases listed : other ∈ rest <;> simp [equal, listed]
    · intro other
      have written := later.instanceZones other
      simp only [Dict.get_set] at written
      rw [written]
      by_cases equal : other = name <;> by_cases listed : other ∈ rest <;> simp [equal, listed]

/-! ## One zone -/

@[simp]
lemma Session.provider_withProvider_self (zone : String) (provider : Provider)
    (session : Session) : (session.withProvider zone provider).provider zone = provider := by
  simp [Session.withProvider, Session.provider]

variable {zone : String}

/-- The VM provider of a zone can create what it has not cached of these definitions. -/
structure Ready (provider : Provider) (group : List Definition) : Prop where
  distinct : ((group.filter fun definition => !provider.cache definition.key).map
    Definition.key).Nodup
  each : ∀ definition ∈ group, provider.cache definition.key = false →
    Insertable provider definition.key ∧ definition.tooManyInterfaces = false

/-- What happens when the instances of some zones are created, each zone with its definitions. -/
structure Created (zones : List String) (groups : String → List Definition)
    (before after : Session) : Prop where
  ready : ∀ zone ∈ zones, Ready (before.provider zone) (groups zone)
  each : ∀ zone ∈ zones, ∀ definition ∈ groups zone,
    ((before.provider zone).cache definition.key = true ∧
        Same (before.provider zone) (after.provider zone) definition.key) ∨
      ((after.provider zone).cache definition.key = true ∧
        (after.provider zone).slots definition.key = .machine true)
  same : ∀ zone name, (zone ∈ zones → name ∉ (groups zone).map Definition.key) →
    Same (before.provider zone) (after.provider zone) name
  recorded : ∀ name,
    ((∀ zone ∈ zones, name ∉ (groups zone).map Definition.key) ∧
        after.provisioner.cache.get name = before.provisioner.cache.get name ∧
        after.provisioner.instanceZones.get name = before.provisioner.instanceZones.get name) ∨
      ∃ zone ∈ zones, name ∈ (groups zone).map Definition.key ∧
        after.provisioner.cache.get name = some ⟨name, zone⟩ ∧
        after.provisioner.instanceZones.get name = some zone
  zoneNames : after.provisioner.zoneNames = before.provisioner.zoneNames

lemma names_of_requests (group : List Definition) :
    (group.map (Definition.request answers)).map Request.name = group.map Definition.key := by
  rw [map_map]
  rfl

lemma uncached_requests (provider : Provider) (group : List Definition) :
    uncached provider (group.map (Definition.request answers)) =
      (group.filter fun definition => !provider.cache definition.key).map
        (Definition.request answers) := by
  unfold uncached
  rw [filter_map]
  rfl

lemma eq_of_same {before after : Provider} (same : ∀ name, Same before after name) :
    after = before := by
  have slots : after.slots = before.slots := funext fun name => (same name).1
  have cache : after.cache = before.cache := funext fun name => (same name).2
  show Provider.mk after.cache after.slots = before
  rw [slots, cache]

variable (groups : String → List Definition)

lemma created_of_createInZone
    (ran : (createInZone pricingModel answers zone (groups zone)).run before = .ok () after) :
    Created [zone] groups before after := by
  obtain ⟨names, middle, provided, remembering⟩ := bind_ok_iff.mp ran
  obtain ⟨provider, created, rfl⟩ := zoom_ok_iff.mp provided
  have obtained := getOrCreate_ok created
  obtain ⟨final, remembered, kept⟩ :=
    remembered_of_forM zone names (before.withProvider zone provider)
  rw [remembered] at remembering
  injection remembering with _ same
  subst same
  have distinct := obtained.distinct
  have fits := obtained.fits
  rw [uncached_requests] at distinct fits
  rw [names_of_requests] at distinct
  have listed : ∀ name, name ∈ names ↔ name ∈ (groups zone).map Definition.key := by
    intro name
    rw [obtained.names_iff, ← @names_of_requests answers, mem_map]
  have requested : ∀ {definition}, definition ∈ groups zone →
      definition.request answers ∈ (groups zone).map (Definition.request answers) :=
    fun asked => mem_map_of_mem asked
  have provided : final.provider zone = provider := by
    rw [kept.provider, Session.provider_withProvider_self]
  refine ⟨?_, ?_, ?_, ?_, kept.zoneNames⟩
  · intro other member
    rw [mem_singleton.mp member]
    refine ⟨distinct, ?_⟩
    intro definition asked absent
    refine ⟨?_, ?_⟩
    · rcases obtained.each _ (requested asked) with cached | inserted
      · exact absurd (absent.symm.trans cached.1) Bool.false_ne_true
      · exact inserted.1
    · exact fits _ (mem_map_of_mem (mem_filter.mpr ⟨asked, by simp [absent]⟩))
  · intro other member definition asked
    rw [mem_singleton.mp member] at asked ⊢
    rw [provided]
    exact (obtained.each _ (requested asked)).imp_right And.right
  · intro other name outside
    by_cases equal : other = zone
    · rw [equal, provided]
      rw [equal] at outside
      apply obtained.same
      rw [names_of_requests]
      exact outside (mem_singleton.mpr rfl)
    · rw [kept.provider]
      simp only [Session.withProvider, Session.provider, Function.update_of_ne equal]
      exact .refl _ _
  · intro name
    have cache := kept.cache name
    have instanceZones := kept.instanceZones name
    by_cases asked : name ∈ (groups zone).map Definition.key
    · rw [if_pos ((listed name).mpr asked)] at cache instanceZones
      exact .inr ⟨zone, mem_singleton.mpr rfl, asked, cache, instanceZones⟩
    · rw [if_neg (mt (listed name).mp asked)] at cache instanceZones
      refine .inl ⟨?_, cache, instanceZones⟩
      intro other member
      rw [mem_singleton.mp member]
      exact asked

lemma createInZone_returns {group : List Definition} (ready : Ready (session.provider zone) group)
    (served : ∀ definition ∈ group, answers definition 0 = servedAttempt) :
    ∃ after, (createInZone pricingModel answers zone group).run session = .ok () after := by
  obtain ⟨names, provider, created⟩ := @getOrCreate_returns pricingModel (session.provider zone)
    (group.map (Definition.request answers))
    (by
      intro request listed
      rw [uncached_requests] at listed
      obtain ⟨definition, chosen, rfl⟩ := mem_map.mp listed
      obtain ⟨asked, absent⟩ := mem_filter.mp chosen
      obtain ⟨insertable, fits⟩ := ready.each definition asked (by simpa using absent)
      exact ⟨insertable, fits, served definition asked⟩)
    (by
      rw [uncached_requests, names_of_requests]
      exact ready.distinct)
  obtain ⟨after, remembered, -⟩ :=
    remembered_of_forM zone names (session.withProvider zone provider)
  refine ⟨after, ?_⟩
  unfold createInZone inZone
  rw [EStateM.run_bind, zoom_run, created]
  exact remembered

/-! ## All zones -/

lemma Created.nil (session : Session) :
    Created [] groups session session where
  ready := fun _ member => nomatch member
  each := fun _ member => nomatch member
  same := fun _ _ _ => .refl _ _
  recorded := fun _ => .inl ⟨fun _ member => (nomatch member), rfl, rfl⟩
  zoneNames := rfl

variable {zones : List String} {groups : String → List Definition}

lemma Created.unseen (created : Created zones groups before after) (absent : zone ∉ zones) :
    after.provider zone = before.provider zone :=
  eq_of_same fun name => created.same zone name fun member => absurd member absent

lemma Created.cons (fresh : zone ∉ zones) (first : Created [zone] groups before middle)
    (rest : Created zones groups middle after) : Created (zone :: zones) groups before after := by
  -- the zones do not see each other
  have early : ∀ other, other ≠ zone → middle.provider other = before.provider other :=
    fun other differ => first.unseen (mt mem_singleton.mp differ)
  have late : after.provider zone = middle.provider zone := rest.unseen fresh
  have apart : ∀ other ∈ zones, other ≠ zone := fun other member equal => fresh (equal ▸ member)
  refine ⟨?_, ?_, ?_, ?_, rest.zoneNames.trans first.zoneNames⟩
  · intro other member
    rcases mem_cons.mp member with rfl | later
    · exact first.ready other (mem_singleton.mpr rfl)
    · rw [← early other (apart other later)]
      exact rest.ready other later
  · intro other member
    rcases mem_cons.mp member with rfl | later
    · rw [late]
      exact first.each other (mem_singleton.mpr rfl)
    · rw [← early other (apart other later)]
      exact rest.each other later
  · intro other name outside
    by_cases equal : other = zone
    · rw [equal] at outside ⊢
      rw [late]
      exact first.same zone name fun _ => outside mem_cons_self
    · rw [← early other equal]
      exact rest.same other name fun member => outside (mem_cons_of_mem _ member)
  · intro name
    rcases rest.recorded name with ⟨outside, cache, instanceZones⟩ | ⟨other, member, found⟩
    · rcases first.recorded name with ⟨apart, cached, zoned⟩ | ⟨other, member, asked, cached, zoned⟩
      · refine .inl ⟨?_, cache.trans cached, instanceZones.trans zoned⟩
        intro other member
        rcases mem_cons.mp member with rfl | later
        · exact apart other (mem_singleton.mpr rfl)
        · exact outside other later
      · refine .inr ⟨other, ?_, asked, cache.trans cached, instanceZones.trans zoned⟩
        rw [mem_singleton.mp member]
        exact mem_cons_self
    · exact .inr ⟨other, mem_cons_of_mem _ member, found⟩

lemma created_of_forM (distinct : zones.Nodup)
    (ran : (forM zones fun zone => createInZone pricingModel answers zone (groups zone)).run before
      = .ok () after) :
    Created zones groups before after := by
  induction zones generalizing before with
  | nil =>
    cases ran
    exact .nil groups _
  | cons zone rest ih =>
    obtain ⟨⟨⟩, middle, first, later⟩ := bind_ok_iff.mp ran
    obtain ⟨fresh, distinct⟩ := nodup_cons.mp distinct
    exact (created_of_createInZone groups first).cons fresh (ih distinct later)

lemma createInZones_return (distinct : zones.Nodup)
    (ready : ∀ zone ∈ zones, Ready (session.provider zone) (groups zone))
    (served : ∀ zone ∈ zones, ∀ definition ∈ groups zone, answers definition 0 = servedAttempt) :
    ∃ after, (forM zones fun zone =>
      createInZone pricingModel answers zone (groups zone)).run session = .ok () after := by
  induction zones generalizing session with
  | nil => exact ⟨session, rfl⟩
  | cons zone rest ih =>
    obtain ⟨fresh, distinct⟩ := nodup_cons.mp distinct
    obtain ⟨middle, first⟩ := @createInZone_returns pricingModel answers session zone (groups zone)
      (ready zone mem_cons_self) (served zone mem_cons_self)
    have created := created_of_createInZone groups first
    have unseen : ∀ other ∈ rest, middle.provider other = session.provider other := by
      intro other member
      apply created.unseen
      rw [mem_singleton]
      exact fun equal => fresh (equal ▸ member)
    obtain ⟨after, later⟩ := ih distinct
      (fun other member => by
        rw [unseen other member]
        exact ready other (mem_cons_of_mem _ member))
      fun other member => served other (mem_cons_of_mem _ member)
    refine ⟨after, ?_⟩
    rw [forM_cons, EStateM.run_bind, first]
    exact later

/-! ## The whole call -/

def Provisioner.toCreate (provisioner : Provisioner) (definitions : List Definition)
    (zone : String) : List Definition :=
  provisioner.zoneGroup (provisioner.vmsToCreate definitions) zone

def Provisioner.zonesToUse (provisioner : Provisioner) (definitions : List Definition) :
    List String :=
  provisioner.zonesOf (provisioner.vmsToCreate definitions)

variable (provisioner : Provisioner)

lemma mem_toCreate_iff (definitions : List Definition) (zone : String) (definition : Definition) :
    definition ∈ provisioner.toCreate definitions zone ↔ definition ∈ definitions ∧
      provisioner.cache.get definition.key = none ∧
      provisioner.zoneForDefinition definition = zone := by
  unfold Provisioner.toCreate Provisioner.zoneGroup Provisioner.vmsToCreate
  rw [mem_filter, mem_filter, decide_eq_true_eq, Option.isNone_iff_eq_none, and_assoc]

variable {definitions : List Definition} {definition : Definition}

lemma nodup_zonesToUse (definitions : List Definition) :
    (provisioner.zonesToUse definitions).Nodup :=
  Dict.nodup_eraseDups _

/-- What `get_or_create_instances` does when it creates VMs. -/
abbrev CreatedFor (definitions : List Definition) (before after : Session) : Prop :=
  Created (before.provisioner.zonesToUse definitions) (before.provisioner.toCreate definitions)
    before after

lemma getOrCreateInstances_run (definitions : List Definition) (session : Session) :
    (getOrCreateInstances pricingModel answers definitions).run session =
      match (forM (session.provisioner.zonesToUse definitions) fun zone => createInZone pricingModel
        answers zone (session.provisioner.toCreate definitions zone)).run session with
      | .ok _ after =>
        match definitions.mapM fun definition => after.provisioner.cache.get definition.key with
        | some instances => .ok instances after
        | none => .error .provision after
      | .error exc after => .error exc after := by
  unfold getOrCreateInstances Provisioner.zonesToUse Provisioner.toCreate
  simp only [EStateM.run_bind, EStateM.run_get]
  cases (forM (session.provisioner.zonesOf (session.provisioner.vmsToCreate definitions))
      fun zone => createInZone pricingModel answers zone (session.provisioner.zoneGroup
        (session.provisioner.vmsToCreate definitions) zone)).run session with
  | error exc after => rfl
  | ok _ after =>
    simp only []
    cases definitions.mapM fun definition => after.provisioner.cache.get definition.key with
    | none => rfl
    | some instances => rfl

lemma getOrCreateInstances_ok {instances : List VmInstance}
    (ran : (getOrCreateInstances pricingModel answers definitions).run before =
      .ok instances after) :
    CreatedFor definitions before after ∧
      definitions.mapM (fun definition => after.provisioner.cache.get definition.key) =
        some instances := by
  rw [getOrCreateInstances_run] at ran
  cases zones : (forM (before.provisioner.zonesToUse definitions) fun zone => createInZone
      pricingModel answers zone (before.provisioner.toCreate definitions zone)).run before with
  | error exc state =>
    rw [zones] at ran
    cases ran
  | ok _ state =>
    rw [zones] at ran
    have created := created_of_forM (nodup_zonesToUse before.provisioner definitions) zones
    cases found : definitions.mapM fun definition => state.provisioner.cache.get definition.key with
    | none =>
      simp only [found] at ran
      cases ran
    | some result =>
      simp only [found] at ran
      cases ran
      exact ⟨created, found⟩

lemma Created.cached (created : CreatedFor definitions before after)
    (asked : definition ∈ definitions) :
    ∃ vm, after.provisioner.cache.get definition.key = some vm := by
  rcases created.recorded definition.key with ⟨outside, kept, -⟩ | ⟨zone, -, -, found, -⟩
  · cases cached : before.provisioner.cache.get definition.key with
    | some vm => exact ⟨vm, kept.trans cached⟩
    | none =>
      have listed := outside _ (mem_eraseDups.mpr (mem_map_of_mem
        (mem_filter.mpr ⟨asked, by rw [cached]; rfl⟩)))
      exact absurd (mem_map_of_mem ((mem_toCreate_iff ..).mpr ⟨asked, cached, rfl⟩)) listed
  · exact ⟨_, found⟩

/-- Every zone that has something to create can create it. -/
def ReadyFor (definitions : List Definition) (session : Session) : Prop :=
  ∀ zone ∈ session.provisioner.zonesToUse definitions,
    Ready (session.provider zone) (session.provisioner.toCreate definitions zone)

lemma getOrCreateInstances_returns (ready : ReadyFor definitions session)
    (served : ∀ definition ∈ definitions, answers definition 0 = servedAttempt) :
    ∃ instances after, (getOrCreateInstances pricingModel answers definitions).run session =
      .ok instances after := by
  obtain ⟨after, ran⟩ := @createInZones_return pricingModel answers session _ _
    (nodup_zonesToUse session.provisioner definitions) ready
    (fun zone _ definition listed =>
      served definition ((mem_toCreate_iff ..).mp listed).1)
  have created := created_of_forM (nodup_zonesToUse session.provisioner definitions) ran
  have cached : ∀ definition ∈ definitions, ∃ vm,
      after.provisioner.cache.get definition.key = some vm :=
    fun _ asked => Created.cached created asked
  obtain ⟨instances, found⟩ := Fallible.exists_mapM_eq_some cached
  refine ⟨instances, after, ?_⟩
  rw [getOrCreateInstances_run, ran]
  simp only [found]

end Sct.GceVm
