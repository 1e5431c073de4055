import Mathlib.Data.List.DropRight
import Sct.Verif.GceCreation

/-!
# The VMs a GCE provisioner knows

A provisioner is consistent when its cache holds just the VMs of the cloud. Creating VMs under names
that differ, terminating and cleaning up keep it so when the cloud serves every request. Rebooting a
VM does not: it leaves the cache for good, so that `cleanup` does not delete it.
-/

open Sct.Effect
open List
open EStateM (run_bind run_get)

namespace Sct.GceVm

/-! ## Names -/

def isNameChar (char : Char) : Bool := Scan.isLower char || Scan.isDigit char || char == '-'

/-- What a normalized name looks like. -/
structure IsNormalized (text : List Char) : Prop where
  chars : ∀ char ∈ text, isNameChar char = true
  started : ∀ first rest, text = first :: rest → Scan.isLower first = true
  short : text.length ≤ 63
  ended : ∀ start last, text = start ++ [last] → last ≠ '-'

lemma replaced_isNameChar (char : Char) : isNameChar (replaced char) = true := by
  unfold replaced
  split
  · rename_i ordinary
    unfold isNameChar
    rw [ordinary]
    rfl
  · rfl

variable {char : Char}

lemma replaced_of_isNameChar (valid : isNameChar char = true) : replaced char = char := by
  unfold replaced
  split
  · rfl
  · rename_i special
    unfold isNameChar at valid
    rw [Bool.or_eq_true] at valid
    exact (eq_of_beq (valid.resolve_left special)).symm

lemma lowered_of_isNameChar (valid : isNameChar char = true) : lowered char = [char] := by
  have range : (97 ≤ char.toNat ∧ char.toNat ≤ 122) ∨ (48 ≤ char.toNat ∧ char.toNat ≤ 57) ∨
      char = '-' := by
    unfold isNameChar at valid
    rw [Bool.or_eq_true, Bool.or_eq_true, Scan.isLower_iff, Scan.isDigit_iff, beq_iff_eq,
      or_assoc] at valid
    exact valid
  have bound : char.toNat ≤ 122 := by
    rcases range with letter | digit | rfl
    · exact letter.2
    · omega
    · decide
  have kept : char.toLower = char := by
    apply dif_neg
    rintro ⟨low, high⟩
    have low : 65 ≤ char.toNat := UInt32.le_iff_toNat_le.mp low
    have high : char.toNat ≤ 90 := UInt32.le_iff_toNat_le.mp high
    rcases range with letter | digit | rfl
    · omega
    · omega
    · exact absurd low (by decide)
  unfold lowered
  rw [if_neg, if_neg, kept]
  · rintro rfl
    exact absurd bound (by decide)
  · rintro rfl
    exact absurd bound (by decide)

def withFirstLetter : List Char → List Char
  | [] => []
  | first :: rest => if Scan.isLower first then first :: rest else 'n' :: first :: rest

variable {text : List Char}

lemma withFirstLetter_started (first : Char) (rest : List Char)
    (whole : withFirstLetter text = first :: rest) : Scan.isLower first = true := by
  cases text with
  | nil => cases whole
  | cons char text =>
    rw [withFirstLetter] at whole
    split at whole
    · rename_i lower
      cases whole
      exact lower
    · cases whole
      decide

lemma withFirstLetter_chars (valid : ∀ char ∈ text, isNameChar char = true) :
    ∀ char ∈ withFirstLetter text, isNameChar char = true := by
  intro char listed
  cases text with
  | nil => cases listed
  | cons first text =>
    rw [withFirstLetter] at listed
    split at listed
    · exact valid char listed
    · rcases mem_cons.mp listed with rfl | later
      · decide
      · exact valid char later

lemma normalizeInstanceName_eq (name : String) :
    normalizeInstanceName name = String.ofList (List.rdropWhile (· == '-')
      ((withFirstLetter ((name.toList.flatMap lowered).map replaced)).take 63)) := by
  rfl

lemma isNormalized_normalizeInstanceName (name : String) :
    IsNormalized (normalizeInstanceName name).toList := by
  rw [normalizeInstanceName_eq, String.toList_ofList]
  generalize letters : (name.toList.flatMap lowered).map replaced = text
  have valid : ∀ char ∈ text, isNameChar char = true := by
    intro char listed
    rw [← letters] at listed
    obtain ⟨original, _, rfl⟩ := mem_map.mp listed
    exact replaced_isNameChar original
  have inside := rdropWhile_prefix (· == '-') ((withFirstLetter text).take 63)
  refine ⟨?_, ?_, ?_, ?_⟩
  · intro char listed
    exact withFirstLetter_chars valid char (mem_of_mem_take (inside.subset listed))
  · intro first rest whole
    have taken := take_prefix 63 (withFirstLetter text)
    have longer := inside.trans taken
    rw [whole] at longer
    obtain ⟨more, equal⟩ := longer
    exact withFirstLetter_started first (rest ++ more) equal.symm
  · exact inside.length_le.trans (length_take_le _ _)
  · intro start last whole
    have nonempty : List.rdropWhile (· == '-') ((withFirstLetter text).take 63) ≠ [] := by
      rw [whole]
      simp
    have kept := rdropWhile_last_not (· == '-') ((withFirstLetter text).take 63) nonempty
    simp only [whole, getLast_append_singleton, beq_iff_eq] at kept
    exact kept

lemma normalizeInstanceName_of_isNormalized {name : String}
    (normalized : IsNormalized name.toList) : normalizeInstanceName name = name := by
  have lower : name.toList.flatMap lowered = name.toList := by
    have each : ∀ char ∈ name.toList, lowered char = [char] := fun char listed =>
      lowered_of_isNameChar (normalized.chars char listed)
    rw [flatMap_congr each, flatMap_singleton']
  have plain : name.toList.map replaced = name.toList := by
    have each : ∀ char ∈ name.toList, replaced char = char := fun char listed =>
      replaced_of_isNameChar (normalized.chars char listed)
    rw [map_congr_left each, map_id']
  have started : withFirstLetter name.toList = name.toList := by
    cases whole : name.toList with
    | nil => rfl
    | cons first rest => exact if_pos (normalized.started first rest whole)
  have ended : List.rdropWhile (· == '-') name.toList = name.toList := by
    apply rdropWhile_eq_self_iff.mpr
    intro nonempty
    have last := normalized.ended _ _ (dropLast_append_getLast nonempty).symm
    simpa using last
  rw [normalizeInstanceName_eq, lower, plain, started, take_of_length_le normalized.short,
    ended, String.ofList_toList]

/-! ## What one call does -/

variable {session before after : Session}

lemma delete_eq (provider : Provider) (name : String) : (delete name).run provider =
    .ok () (if provider.slots name = .free then provider else provider.put name .free false) := by
  unfold delete
  rw [run_bind, run_get]
  cases slot : provider.slots name with
  | free =>
    simp only [slot, if_true]
    rfl
  | inserting | machine running =>
    simp only [slot]
    rfl

/-- What `terminate_instance` does to the VM of a normalized name. -/
structure Terminated (key : String) (before after : Session) : Prop where
  cloud : ∀ zone name, after.cloud zone name =
    if zone = before.provisioner.zoneForInstance key ∧ name = key then .free
    else before.cloud zone name
  vmCaches : ∀ zone name, after.provisioner.vmCaches zone name = true →
    before.provisioner.vmCaches zone name = true ∧
      (zone = before.provisioner.zoneForInstance key ∧ name = key → before.cloud zone name = .free)
  cache : ∀ name, after.provisioner.cache.get name =
    if name = key then none else before.provisioner.cache.get name
  instanceZones : ∀ name, after.provisioner.instanceZones.get name =
    if name = key then none else before.provisioner.instanceZones.get name
  zoneNames : after.provisioner.zoneNames = before.provisioner.zoneNames

lemma terminateInstance_returns (name : String) (session : Session) :
    ∃ after, (terminateInstance name).run session = .ok () after ∧
      Terminated (normalizeInstanceName name) session after := by
  generalize normalized : normalizeInstanceName name = key
  generalize placed : session.provisioner.zoneForInstance key = zone
  generalize remains : (if (session.provider zone).slots key = .free then session.provider zone
    else (session.provider zone).put key .free false) = provider
  have slots : ∀ other, provider.slots other =
      if other = key then .free else session.cloud zone other := by
    intro other
    rw [← remains]
    by_cases equal : other = key <;> by_cases free : (session.provider zone).slots key = .free <;>
      simp_all [Provider.put, Session.provider]
  have caches : ∀ other, provider.cache other = true →
      session.provisioner.vmCaches zone other = true ∧
        (other = key → session.cloud zone other = .free) := by
    intro other
    rw [← remains]
    by_cases equal : other = key <;> by_cases free : (session.provider zone).slots key = .free <;>
      simp_all [Provider.put, Session.provider]
  let middle := session.withProvider zone provider
  refine ⟨{ middle with provisioner := { middle.provisioner with
    cache := middle.provisioner.cache.erase key
    instanceZones := middle.provisioner.instanceZones.erase key } }, ?_, ?_, ?_, ?_, ?_, rfl⟩
  · unfold terminateInstance inZone
    rw [normalized]
    simp only [run_bind, run_get, placed, zoom_run, delete_eq, remains]
    rfl
  · intro other name
    rw [placed]
    by_cases equal : other = zone
    · simp [middle, Session.withProvider, equal, slots]
    · simp [middle, Session.withProvider, equal]
  · intro other name
    rw [placed]
    by_cases equal : other = zone
    · intro cached
      have own := caches name (by simpa [middle, Session.withProvider, equal] using cached)
      rw [equal]
      exact ⟨own.1, fun named => own.2 named.2⟩
    · intro cached
      simp only [middle, Session.withProvider, Function.update_of_ne equal] at cached
      exact ⟨cached, fun named => absurd named.1 equal⟩
  · exact Dict.get_erase _ key
  · exact Dict.get_erase _ key

/-! ## Consistency -/

/-- The cache holds just the VMs of the cloud. -/
structure Consistent (session : Session) : Prop where
  cached : ∀ name vm, session.provisioner.cache.get name = some vm →
    vm.name = name ∧ normalizeInstanceName name = name ∧ session.cloud vm.zone name ≠ .free ∧
      session.provisioner.instanceZones.get name = some vm.zone
  tracked : ∀ zone name, session.cloud zone name ≠ .free →
    session.provisioner.cache.get name = some ⟨name, zone⟩
  vmCached : ∀ zone name, session.provisioner.vmCaches zone name = true →
    session.cloud zone name ≠ .free

lemma Consistent.free (consistent : Consistent session) {name : String}
    (absent : session.provisioner.cache.get name = none) (zone : String) :
    session.cloud zone name = .free := by
  by_contra exists_
  have present := consistent.tracked zone name exists_
  rw [absent] at present
  cases present

lemma Consistent.terminated {key : String} (consistent : Consistent before)
    (terminated : Terminated key before after) : Consistent after := by
  have gone : ∀ zone name, after.cloud zone name ≠ .free →
      name ≠ key ∧ before.cloud zone name ≠ .free := by
    intro zone name present
    rw [terminated.cloud] at present
    split at present
    · exact absurd rfl present
    · rename_i apart
      refine ⟨?_, present⟩
      rintro rfl
      have known := (consistent.cached _ _ (consistent.tracked _ _ present)).2.2.2
      refine apart ⟨?_, rfl⟩
      rw [Provisioner.zoneForInstance, known]
      rfl
  refine ⟨?_, ?_, ?_⟩
  · intro name vm found
    rw [terminated.cache] at found
    split at found
    · cases found
    · rename_i other
      obtain ⟨named, normalized, present, zoned⟩ := consistent.cached name vm found
      refine ⟨named, normalized, ?_, ?_⟩
      · rw [terminated.cloud, if_neg fun same => other same.2]
        exact present
      · rw [terminated.instanceZones, if_neg other]
        exact zoned
  · intro zone name present
    obtain ⟨other, was⟩ := gone zone name present
    rw [terminated.cache, if_neg other]
    exact consistent.tracked zone name was
  · intro zone name cached
    obtain ⟨was, kept⟩ := terminated.vmCaches zone name cached
    rw [terminated.cloud]
    split
    · rename_i same
      exact absurd (kept same) (consistent.vmCached zone name was)
    · exact consistent.vmCached zone name was

/-! ## Creating -/

/-- Definitions that can be created together: those that are not cached have different names, and
each can be sent. -/
structure Creatable (definitions : List Definition) (session : Session) : Prop where
  distinct : ((session.provisioner.vmsToCreate definitions).map Definition.key).Nodup
  fits : ∀ definition ∈ session.provisioner.vmsToCreate definitions,
    definition.tooManyInterfaces = false

variable {definitions : List Definition}

lemma Consistent.readyFor (consistent : Consistent session)
    (creatable : Creatable definitions session) : ReadyFor definitions session := by
  intro zone _
  refine ⟨?_, ?_⟩
  · exact creatable.distinct.sublist
      ((filter_sublist.trans filter_sublist).map Definition.key)
  · intro definition listed _
    have absent := ((mem_toCreate_iff ..).mp listed).2.1
    have free := consistent.free absent zone
    refine ⟨⟨?_, free⟩, creatable.fits definition (mem_of_mem_filter listed)⟩
    rw [← Bool.not_eq_true]
    exact fun cached => consistent.vmCached zone _ cached free

lemma Consistent.created (consistent : Consistent before)
    (creatable : Creatable definitions before) (created : CreatedFor definitions before after) :
    Consistent after := by
  -- a name that is created was not cached, and is created in one zone only
  have fresh : ∀ {zone name}, name ∈ (before.provisioner.toCreate definitions zone).map
      Definition.key → before.provisioner.cache.get name = none := by
    intro zone name asked
    obtain ⟨definition, listed, rfl⟩ := mem_map.mp asked
    exact ((mem_toCreate_iff ..).mp listed).2.1
  have single : ∀ {zone other name},
      name ∈ (before.provisioner.toCreate definitions zone).map Definition.key →
      name ∈ (before.provisioner.toCreate definitions other).map Definition.key →
      zone = other := by
    intro zone other name asked also
    obtain ⟨first, listed, rfl⟩ := mem_map.mp asked
    obtain ⟨second, alike, same⟩ := mem_map.mp also
    have equal := inj_on_of_nodup_map creatable.distinct
      (mem_of_mem_filter alike) (mem_of_mem_filter listed) same
    rw [← ((mem_toCreate_iff ..).mp listed).2.2, ← ((mem_toCreate_iff ..).mp alike).2.2, equal]
  have running : ∀ {zone}, zone ∈ before.provisioner.zonesToUse definitions → ∀ {name},
      name ∈ (before.provisioner.toCreate definitions zone).map Definition.key →
      after.cloud zone name ≠ .free := by
    intro zone used name asked
    obtain ⟨definition, listed, rfl⟩ := mem_map.mp asked
    rcases created.each zone used definition listed with ⟨cached, -⟩ | ⟨-, slot⟩
    · exact absurd (consistent.free (fresh asked) zone) (consistent.vmCached zone _ cached)
    · rw [show after.cloud zone definition.key = .machine true from slot]
      exact nofun
  refine ⟨?_, ?_, ?_⟩
  · intro name vm found
    rcases created.recorded name with ⟨outside, kept, zoned⟩ | ⟨zone, used, asked, written, zoned⟩
    · obtain ⟨named, normalized, present, known⟩ := consistent.cached name vm (kept ▸ found)
      refine ⟨named, normalized, ?_, zoned.trans known⟩
      have same := created.same vm.zone name fun used => outside vm.zone used
      rw [show after.cloud vm.zone name = before.cloud vm.zone name from same.1]
      exact present
    · rw [written] at found
      cases found
      refine ⟨rfl, ?_, running used asked, zoned⟩
      obtain ⟨definition, -, rfl⟩ := mem_map.mp asked
      exact normalizeInstanceName_of_isNormalized (isNormalized_normalizeInstanceName _)
  · intro zone name present
    by_cases own : zone ∈ before.provisioner.zonesToUse definitions ∧
        name ∈ (before.provisioner.toCreate definitions zone).map Definition.key
    · rcases created.recorded name with ⟨outside, -⟩ | ⟨other, -, asked, written, -⟩
      · exact absurd own.2 (outside zone own.1)
      · rw [written, single own.2 asked]
    · have same := created.same zone name fun used asked => own ⟨used, asked⟩
      have was : before.cloud zone name ≠ .free := by
        rw [← show after.cloud zone name = before.cloud zone name from same.1]
        exact present
      have known := consistent.tracked zone name was
      rcases created.recorded name with ⟨-, kept, -⟩ | ⟨other, -, asked, -⟩
      · exact kept.trans known
      · exact absurd (known.symm.trans (fresh asked)) (Option.some_ne_none _)
  · intro zone name cached
    by_cases own : zone ∈ before.provisioner.zonesToUse definitions ∧
        name ∈ (before.provisioner.toCreate definitions zone).map Definition.key
    · exact running own.1 own.2
    · have same := created.same zone name fun used asked => own ⟨used, asked⟩
      have was : before.provisioner.vmCaches zone name = true := same.2.symm.trans cached
      rw [show after.cloud zone name = before.cloud zone name from same.1]
      exact consistent.vmCached zone name was

/-! ## Runs -/

/-- A call on a provisioner. -/
inductive Call where
  | create (pricingModel : PricingModel) (definitions : List Definition)
  | terminate (name : String)
  | reboot (name : String)
  | list
  | cleanup

/-- What a call does in a cloud that serves every request. -/
def Call.act : Call → EStateM Raised Session Unit
  | .create pricingModel definitions => do
    let _ ← getOrCreateInstances pricingModel (fun _ _ => servedAttempt) definitions
  | .terminate name => terminateInstance name
  | .reboot name => rebootInstance name
  | .list => pure ()
  | .cleanup => Sct.GceVm.cleanup

def Session.call (session : Session) (call : Call) : Session := exitState (call.act.run session)

def Session.calls (session : Session) (calls : List Call) : Session :=
  calls.foldl Session.call session

/-- What is asked of a call: definitions can be created together, and no VM is rebooted. -/
def Call.Orderly (session : Session) : Call → Prop
  | .create _ definitions => Creatable definitions session
  | .reboot name => session.provisioner.cache.get (normalizeInstanceName name) = none
  | _ => True

def OrderlyCalls (session : Session) : List Call → Prop
  | [] => True
  | call :: rest => call.Orderly session ∧ OrderlyCalls (session.call call) rest

lemma reboot_free {provider : Provider} {name : String} (free : provider.slots name = .free) :
    (reboot name).run provider = .ok () provider := by
  unfold reboot
  rw [run_bind, run_get]
  simp only [free]
  rfl

section

variable (consistent : Consistent session)

include consistent

lemma Consistent.rebooted {name : String}
    (absent : session.provisioner.cache.get (normalizeInstanceName name) = none) :
    Consistent (session.call (.reboot name)) := by
  generalize normalized : normalizeInstanceName name = key at absent
  have ran : (rebootInstance name).run session = .ok () { session with provisioner :=
      { session.provisioner with cache := session.provisioner.cache.erase key } } := by
    have ignored := @reboot_free (session.provider (session.provisioner.zoneForInstance key)) key
      (consistent.free absent _)
    unfold rebootInstance inZone
    rw [normalized]
    simp only [run_bind, run_get, zoom_run, ignored]
    simp only [Session.withProvider, Session.provider, Function.update_eq_self]
    rfl
  have same : ∀ other, (session.provisioner.cache.erase key).get other =
      session.provisioner.cache.get other := by
    intro other
    rw [Dict.get_erase]
    split
    · rename_i equal
      rw [equal, absent]
    · rfl
  unfold Session.call Call.act
  rw [ran]
  refine ⟨?_, ?_, consistent.vmCached⟩
  · intro other vm found
    exact consistent.cached other vm ((same other).symm.trans found)
  · intro zone other present
    exact (same other).trans (consistent.tracked zone other present)

lemma Consistent.terminateAll (names : List String)
    (normalized : ∀ name ∈ names, normalizeInstanceName name = name) :
    ∃ after, (forM names terminateInstance).run session = .ok () after ∧ Consistent after ∧
      ∀ name, after.provisioner.cache.get name =
        if name ∈ names then none else session.provisioner.cache.get name := by
  induction names generalizing session with
  | nil => exact ⟨session, rfl, consistent, by simp⟩
  | cons name rest ih =>
    obtain ⟨middle, ran, terminated⟩ := terminateInstance_returns name session
    rw [normalized name mem_cons_self] at terminated
    obtain ⟨after, later, kept, written⟩ := ih (consistent.terminated terminated)
      fun other listed => normalized other (mem_cons_of_mem _ listed)
    refine ⟨after, ?_, kept, ?_⟩
    · rw [forM_cons, run_bind, ran]
      exact later
    · intro other
      rw [written, terminated.cache]
      by_cases equal : other = name <;> by_cases listed : other ∈ rest <;> simp [equal, listed]

lemma Consistent.cleaned :
    Consistent (session.call .cleanup) ∧
      ∀ zone name, (session.call .cleanup).cloud zone name = .free := by
  have normalized : ∀ name ∈ session.provisioner.cache.keys, normalizeInstanceName name = name := by
    intro name listed
    obtain ⟨vm, found⟩ := (Dict.mem_iff _ name).mp listed
    exact (consistent.cached name vm found).2.1
  obtain ⟨after, ran, kept, written⟩ := consistent.terminateAll _ normalized
  have free : ∀ zone name, after.cloud zone name = .free := by
    intro zone name
    apply kept.free
    rw [written]
    split
    · rfl
    · rename_i absent
      exact (Dict.notMem_iff _ name).mp absent
  have ended : session.call .cleanup = { after with provisioner := { after.provisioner with
      cache := Dict.empty
      instanceZones := Dict.empty
      vmCaches := fun _ _ => false } } := by
    unfold Session.call Call.act cleanup
    simp only [run_bind, run_get, ran]
    rfl
  rw [ended]
  refine ⟨⟨?_, ?_, ?_⟩, free⟩
  · intro name vm found
    cases found
  · intro zone name present
    exact absurd (free zone name) present
  · intro zone name cached
    cases cached

lemma Consistent.call {call : Call}
    (orderly : call.Orderly session) : Consistent (session.call call) := by
  cases call with
  | create pricingModel definitions =>
    obtain ⟨instances, after, ran⟩ := @getOrCreateInstances_returns pricingModel
      (fun _ _ => servedAttempt) session definitions (consistent.readyFor orderly) fun _ _ => rfl
    have ended : session.call (.create pricingModel definitions) = after := by
      unfold Session.call Call.act
      simp only [run_bind, ran]
      rfl
    rw [ended]
    exact consistent.created orderly (getOrCreateInstances_ok ran).1
  | terminate name =>
    obtain ⟨after, ran, terminated⟩ := terminateInstance_returns name session
    have ended : session.call (.terminate name) = after := by
      unfold Session.call Call.act
      simp only [ran]
      rfl
    rw [ended]
    exact consistent.terminated terminated
  | reboot name => exact consistent.rebooted orderly
  | list => exact consistent
  | cleanup => exact consistent.cleaned.1

lemma Consistent.calls {calls : List Call}
    (orderly : OrderlyCalls session calls) : Consistent (session.calls calls) := by
  induction calls generalizing session with
  | nil => exact consistent
  | cons call rest ih => exact ih (consistent.call orderly.1) orderly.2

lemma Consistent.mem_listInstances_iff (vm : VmInstance) :
    vm ∈ session.provisioner.listInstances ↔ session.cloud vm.zone vm.name ≠ .free := by
  constructor
  · intro listed
    obtain ⟨⟨name, _⟩, member, rfl⟩ := mem_map.mp listed
    obtain ⟨named, -, present, -⟩ :=
      consistent.cached name _ ((Dict.mem_entries_iff _ name _).mp member)
    rw [named]
    exact present
  · intro present
    have found := consistent.tracked vm.zone vm.name present
    exact mem_map.mpr ⟨_, (Dict.mem_entries_iff _ _ _).mpr found, rfl⟩

lemma Consistent.nodup_listInstances :
    session.provisioner.listInstances.Nodup := by
  apply List.Nodup.of_map VmInstance.name
  have names : session.provisioner.listInstances.map VmInstance.name =
      session.provisioner.cache.keys := by
    unfold Provisioner.listInstances Dict.keys
    rw [map_map]
    apply map_congr_left
    rintro ⟨name, vm⟩ member
    exact (consistent.cached name vm ((Dict.mem_entries_iff _ name vm).mp member)).1
  rw [names]
  exact session.provisioner.cache.distinct

end

/-- A provisioner as it is built: its test has VMs in the zones of the provisioner only, each name
in one of them. -/
structure Opened where
  zoneNames : List String
  listed : String → List String
  cloud : Cloud
  exact : ∀ zone name, cloud zone name ≠ .free ↔ zone ∈ zoneNames ∧ name ∈ listed zone
  single : ∀ zone other name, cloud zone name ≠ .free → cloud other name ≠ .free → zone = other
  normalized : ∀ zone name, cloud zone name ≠ .free → normalizeInstanceName name = name

def Opened.start (opened : Opened) : Session :=
  ⟨newProvisioner opened.zoneNames opened.listed, opened.cloud⟩

lemma Opened.consistent (opened : Opened) : Consistent opened.start := by
  generalize entries : (opened.zoneNames.flatMap fun zone => (opened.listed zone).map fun name =>
    (name, zone)) = found
  have mem_found : ∀ name zone, (name, zone) ∈ found ↔ opened.cloud zone name ≠ .free := by
    intro name zone
    rw [← entries, mem_flatMap, opened.exact]
    constructor
    · rintro ⟨other, configured, listed⟩
      obtain ⟨_, member, same⟩ := mem_map.mp listed
      cases same
      exact ⟨configured, member⟩
    · rintro ⟨configured, member⟩
      exact ⟨zone, configured, mem_map_of_mem member⟩
  have zones : ∀ name zone, opened.start.provisioner.instanceZones.get name = some zone ↔
      opened.cloud zone name ≠ .free := by
    intro name zone
    rw [← mem_found]
    unfold Opened.start newProvisioner
    rw [entries]
    apply Dict.get_setAll_iff
    rintro ⟨first, early⟩ listed ⟨second, late⟩ also same
    cases same
    rw [opened.single early late first ((mem_found ..).mp listed) ((mem_found ..).mp also)]
  have cached : ∀ name vm, opened.start.provisioner.cache.get name = some vm ↔
      vm.name = name ∧ opened.cloud vm.zone name ≠ .free := by
    intro name vm
    unfold Opened.start newProvisioner
    rw [entries]
    rw [Dict.get_setAll_iff]
    · rw [mem_map]
      constructor
      · rintro ⟨⟨other, zone⟩, listed, same⟩
        cases same
        exact ⟨rfl, (mem_found ..).mp listed⟩
      · rintro ⟨rfl, present⟩
        exact ⟨(vm.name, vm.zone), (mem_found ..).mpr present, rfl⟩
    · intro entry listed other also same
      obtain ⟨⟨first, early⟩, member, rfl⟩ := mem_map.mp listed
      obtain ⟨⟨second, late⟩, alike, rfl⟩ := mem_map.mp also
      cases same
      rw [opened.single early late first ((mem_found ..).mp member) ((mem_found ..).mp alike)]
  refine ⟨?_, ?_, ?_⟩
  · intro name vm found
    obtain ⟨named, present⟩ := (cached name vm).mp found
    exact ⟨named, opened.normalized vm.zone name present, present, (zones ..).mpr present⟩
  · intro zone name present
    exact (cached name ⟨name, zone⟩).mpr ⟨rfl, present⟩
  · intro zone name known
    cases known

/-- In a run of orderly calls the provisioner lists just the VMs there are, each once, and
`cleanup` deletes all of them. -/
theorem listInstances_exact (opened : Opened) (calls : List Call)
    (orderly : OrderlyCalls opened.start calls) :
    (∀ vm, vm ∈ (opened.start.calls calls).provisioner.listInstances ↔
      (opened.start.calls calls).cloud vm.zone vm.name ≠ .free) ∧
    (opened.start.calls calls).provisioner.listInstances.Nodup ∧
    ∀ zone name, ((opened.start.calls calls).call .cleanup).cloud zone name = .free := by
  have consistent := opened.consistent.calls orderly
  exact ⟨consistent.mem_listInstances_iff, consistent.nodup_listInstances, consistent.cleaned.2⟩

def emptyOpened : Opened where
  zoneNames := ["us-east1-b"]
  listed := fun _ => []
  cloud := fun _ _ => .free
  exact := by simp
  single := fun _ _ _ present => absurd rfl present
  normalized := fun _ _ present => absurd rfl present

def nodeDefinition (name : String) : Definition := ⟨name, none, some 1, false⟩

def orderlyRun : List Call :=
  [.create .spot [nodeDefinition "db-1", nodeDefinition "db-2"], .terminate "db-1",
    .create .spot [nodeDefinition "db-2", nodeDefinition "db-1"]]

theorem listInstances_exact_orderlyRun :
    OrderlyCalls emptyOpened.start orderlyRun ∧
      ((emptyOpened.start.calls orderlyRun).provisioner.listInstances =
        [⟨"db-2", "us-east1-b"⟩, ⟨"db-1", "us-east1-b"⟩] ∧
      (emptyOpened.start.calls orderlyRun).provisioner.listInstances.Nodup) := by
  have orderly : OrderlyCalls emptyOpened.start orderlyRun := by
    refine ⟨⟨?_, ?_⟩, trivial, ⟨?_, ?_⟩, trivial⟩
    · decide
    · decide
    · decide
    · decide
  exact ⟨orderly, by decide, (listInstances_exact emptyOpened orderlyRun orderly).2.1⟩

/-- A VM that is rebooted is not listed, and `cleanup` leaves it. -/
theorem rebooted_not_listed :
    (emptyOpened.start.calls [.create .spot [nodeDefinition "db-1"], .reboot "db-1"]).cloud
        "us-east1-b" "db-1" = .machine true ∧
      (emptyOpened.start.calls [.create .spot [nodeDefinition "db-1"],
        .reboot "db-1"]).provisioner.listInstances = [] ∧
      (emptyOpened.start.calls [.create .spot [nodeDefinition "db-1"], .reboot "db-1",
        .cleanup]).cloud "us-east1-b" "db-1" = .machine true := by
  decide

end Sct.GceVm
