import Mathlib.Data.Rat.Floor
import Sct.Lib.Dict
import Sct.Lib.Scan

/-!
# Selecting an instance type

`parse_constraints`, `_matches_constraint`, `_resolve_flex_instance` and `select_instance` of
`sdcm/utils/cloud_catalog/instance_matcher.py`. Sizes and prices are rationals where the code has
floats.
-/

namespace Sct.Utils

open Sct.Scan

/-! ## Constraints -/

inductive NumericField where
  | vcpus
  | memoryGb
  | localDiskGb
  | localDiskCount
  deriving DecidableEq, Repr

inductive Comparison where
  | eq (value : Rat)
  | gte (value : Rat)
  | gt (value : Rat)
  | lte (value : Rat)
  | lt (value : Rat)
  | range (low high : Rat)
  deriving DecidableEq, Repr

inductive Constraint where
  | compare (field : NumericField) (comparison : Comparison)
  | arch (value : String)
  deriving DecidableEq, Repr

def Constraint.numericField : Constraint → Option NumericField
  | compare field _ => some field
  | arch _ => none

inductive SelectError where
  | missingVcpu
  | unparsable (field : NumericField)
  | emptyRange (field : NumericField)
  | unknownArch (value : String)
  | noMatchingInstance (constraints : List Constraint) (candidatesChecked : Nat)
  deriving DecidableEq, Repr

/-- A raw constraint value: an int, a float with what `str` makes of it, or a text. -/
inductive RawValue where
  | int (value : Int)
  | float (value : Rat) (shown : String)
  | text (value : String)
  deriving DecidableEq, Repr

def RawValue.str : RawValue → String
  | int value => toString value
  | float _ shown => shown
  | text value => value

/-! ## Parsing -/

/-- `\s*`. -/
def skipSpaces (text : List Char) : List Char := text.dropWhile isSpace

/-- The number written by a run of digits and a run of decimals. -/
def decimal (whole fraction : List Char) : Rat :=
  digitsValue whole + digitsValue fraction / 10 ^ fraction.length

/-- `\d+(?:\.\d+)?`. -/
def scanNumber (text : List Char) : Option (Rat × List Char) := do
  let (whole, rest) ← run isDigit text
  match (one (· == '.') rest).bind (run isDigit) with
  | some (fraction, rest) => pure (decimal whole fraction, rest)
  | none => pure (decimal whole [], rest)

/-- `\s*(gb|tb)?` without regard to case, as a multiplier. -/
def scanUnit (text : List Char) : Rat × List Char :=
  match skipSpaces text with
  | first :: second :: rest =>
    if first.toLower = 'g' ∧ second.toLower = 'b' then (1, rest)
    else if first.toLower = 't' ∧ second.toLower = 'b' then (1024, rest)
    else (1, first :: second :: rest)
  | rest => (1, rest)

def scanSize (text : List Char) : Option (Rat × List Char) := do
  let (value, rest) ← scanNumber text
  let (multiplier, rest) := scanUnit rest
  pure (value * multiplier, rest)

/-- `>=`, `<=`, `>` or `<`. -/
def scanOperator : List Char → Option ((Rat → Comparison) × List Char)
  | '>' :: '=' :: rest => some (.gte, rest)
  | '<' :: '=' :: rest => some (.lte, rest)
  | '>' :: rest => some (.gt, rest)
  | '<' :: rest => some (.lt, rest)
  | _ => none

/-- Two values with a dash between them, to the end of the text. -/
def scanRange (scan : List Char → Option (Rat × List Char)) (text : List Char) :
    Option (Rat × Rat) := do
  let (low, rest) ← scan text
  let rest ← one (· == '-') (skipSpaces rest)
  let (high, rest) ← scan (skipSpaces rest)
  if atEnd rest then pure (low, high) else none

/-- An operator and a value, to the end of the text. -/
def scanCompared (scan : List Char → Option (Rat × List Char)) (text : List Char) :
    Option Comparison := do
  let (operator, rest) ← scanOperator text
  let (value, rest) ← scan (skipSpaces rest)
  if atEnd rest then pure (operator value) else none

/-- A value, to the end of the text. -/
def scanPlain (scan : List Char → Option (Rat × List Char)) (text : List Char) : Option Rat := do
  let (value, rest) ← scan text
  if atEnd rest then pure value else none

def parseMemoryOrDisk (field : NumericField) (raw : RawValue) : Except SelectError Constraint :=
  let text := (match raw with
    | .text value => strip value
    | number => number.str).toList
  match scanRange scanSize text with
  | some (low, high) =>
    if low > high then .error (.emptyRange field) else .ok (.compare field (.range low high))
  | none =>
    match scanCompared scanSize text with
    | some comparison => .ok (.compare field comparison)
    | none =>
      match scanPlain scanSize text with
      | some value => .ok (.compare field (.gte value))
      | none => .error (.unparsable field)

/-- `\d+`. -/
def scanCount (text : List Char) : Option (Rat × List Char) := do
  let (digits, rest) ← run isDigit text
  pure ((digitsValue digits : Rat), rest)

def parseVcpu : RawValue → Except SelectError Constraint
  | .int value => .ok (.compare .vcpus (.eq value))
  | .float _ _ => .error (.unparsable .vcpus)
  | .text value =>
    let text := (strip value).toList
    match scanRange scanCount text with
    | some (low, high) =>
      if low > high then .error (.emptyRange .vcpus) else .ok (.compare .vcpus (.range low high))
    | none =>
      match scanCompared scanCount text with
      | some comparison => .ok (.compare .vcpus comparison)
      | none =>
        match scanPlain scanCount text with
        | some value => .ok (.compare .vcpus (.eq value))
        | none => .error (.unparsable .vcpus)

def archAliases : String → Option String
  | "arm64" => some "arm64"
  | "arm" => some "arm64"
  | "x86_64" => some "x86_64"
  | "x86" => some "x86_64"
  | "amd64" => some "x86_64"
  | _ => none

def parseArch (raw : RawValue) : Except SelectError Constraint :=
  match archAliases (strip raw.str).toLower with
  | some arch => .ok (.arch arch)
  | none => .error (.unknownArch raw.str)

def aliasToField : String → Option (Option NumericField)
  | "vcpu" => some (some .vcpus)
  | "vcpus" => some (some .vcpus)
  | "memory" => some (some .memoryGb)
  | "memory_gb" => some (some .memoryGb)
  | "disk" => some (some .localDiskGb)
  | "local_disk_gb" => some (some .localDiskGb)
  | "local_disk_count" => some (some .localDiskCount)
  | "arch" => some none
  | _ => none

def parseField : Option NumericField → RawValue → Except SelectError Constraint
  | some .vcpus, raw => parseVcpu raw
  | some field, raw => parseMemoryOrDisk field raw
  | none, raw => parseArch raw

/-- The loop of `parse_constraints`: a field is parsed where it is seen first. -/
def parseEntries : List (String × RawValue) → List (Option NumericField) →
    Except SelectError (List Constraint)
  | [], _ => .ok []
  | (key, raw) :: rest, seenFields =>
    match aliasToField key with
    | none => parseEntries rest seenFields
    | some field =>
      if field ∈ seenFields then parseEntries rest seenFields
      else do
        let constraint ← parseField field raw
        let constraints ← parseEntries rest (field :: seenFields)
        pure (constraint :: constraints)

def parseConstraints (raw : Dict String RawValue) : Except SelectError (List Constraint) :=
  if "vcpu" ∈ raw ∨ "vcpus" ∈ raw then parseEntries raw.entries [] else .error .missingVcpu

/-! ## The catalog -/

/-- `price_per_hour`. -/
inductive Price where
  | unknown
  | flat (price : Rat)
  | regional (prices : Dict String Rat)

/-- `InstanceTypeInfo`; the spot price is left out. -/
structure InstanceTypeInfo where
  instanceType : String
  cloud : String
  family : String
  vcpus : Int
  memoryGb : Rat
  localDiskGb : Rat
  localDiskCount : Int
  arch : String
  pricePerHour : Price
  minMemoryGb : Option Rat
  maxMemoryGb : Option Rat

def InstanceTypeInfo.getPrice (instanceInfo : InstanceTypeInfo) (region : Option String) :
    Option Rat :=
  match instanceInfo.pricePerHour with
  | .unknown => none
  | .flat price => some price
  | .regional prices =>
    match (truthy region).bind prices.get with
    | some price => some price
    | none => prices.entries.head?.map Prod.snd

/-- `getattr(instance, field)`. -/
def InstanceTypeInfo.attribute (instanceInfo : InstanceTypeInfo) : NumericField → Rat
  | .vcpus => instanceInfo.vcpus
  | .memoryGb => instanceInfo.memoryGb
  | .localDiskGb => instanceInfo.localDiskGb
  | .localDiskCount => instanceInfo.localDiskCount

structure RoleConfig where
  implicitConstraints : Dict NumericField RawValue
  archSource : String
  arch : Option String

/-- `SizingConfig`, as far as the selection reads it. -/
structure SizingConfig where
  roles : Dict String RoleConfig
  sortOrder : List String
  /-- `flex_defaults["mem_per_vcpu"]`, if it is there. -/
  memPerVcpu : Option Rat

structure InstanceCatalog where
  instances : List InstanceTypeInfo
  preferredFamilies : Dict String (Dict String (List String))
  cloudDefaults : Dict String (Dict String String)
  sizingConfig : Option SizingConfig

/-! ## Matching -/

/-- A comparison of a value, as `_matches_constraint` makes it. -/
def Comparison.holds (value : Rat) : Comparison → Bool
  | eq bound => value = bound
  | gte bound => value ≥ bound
  | gt bound => value > bound
  | lte bound => value ≤ bound
  | lt bound => value < bound
  | range low high => low ≤ value ∧ value ≤ high

def matchesFlexMemory (minMem maxMem : Rat) : Comparison → Bool
  | .eq value => minMem ≤ value ∧ value ≤ maxMem
  | .gte value => maxMem ≥ value
  | .gt value => maxMem > value
  | .lte value => minMem ≤ value
  | .lt value => minMem < value
  | .range low high => maxMem ≥ low ∧ minMem ≤ high

def matchesConstraint (instanceInfo : InstanceTypeInfo) : Constraint → Bool
  | .arch value => instanceInfo.arch = value
  | .compare field comparison =>
    match field, instanceInfo.minMemoryGb, instanceInfo.maxMemoryGb with
    | .memoryGb, some minMem, some maxMem => matchesFlexMemory minMem maxMem comparison
    | field, _, _ => comparison.holds (instanceInfo.attribute field)

def memoryConstraint : List Constraint → Option Comparison
  | [] => none
  | .compare .memoryGb comparison :: _ => some comparison
  | _ :: rest => memoryConstraint rest

/-- The memory `_resolve_flex_instance` picks, before it is rounded up. -/
def pickMemory (minMem maxMem defaultMem : Rat) : Option Comparison → Rat
  | none => max minMem (min defaultMem maxMem)
  | some (.eq value) => max minMem (min value maxMem)
  | some (.gte value) => max minMem (min value maxMem)
  | some (.gt value) => max minMem (min value maxMem)
  | some (.lte value) => min (max minMem (min defaultMem maxMem)) value
  | some (.lt value) => min (max minMem (min defaultMem maxMem)) value
  | some (.range low _) => max minMem (min low maxMem)

def resolveFlexInstance (instanceInfo : InstanceTypeInfo) (constraints : List Constraint)
    (memPerVcpu : Rat) : InstanceTypeInfo :=
  match instanceInfo.minMemoryGb, instanceInfo.maxMemoryGb with
  | some minMem, some maxMem =>
    let actualMem := ⌈pickMemory minMem maxMem (instanceInfo.vcpus * memPerVcpu)
      (memoryConstraint constraints)⌉
    { instanceInfo with
      memoryGb := actualMem
      instanceType :=
        if (splitOn ':' instanceInfo.instanceType).length = 2 then
          instanceInfo.instanceType ++ ":" ++ toString actualMem
        else instanceInfo.instanceType }
  | _, _ => instanceInfo

/-! ## Selecting -/

def Constraint.archValue : Constraint → Option String
  | arch value => some value
  | compare _ _ => none

/-- The roles that need local storage when there is no sizing configuration. -/
def fallbackDb : List String := ["db", "db_oracle", "zero_token"]

def fallbackCompute : List String := ["loader", "monitor"]

variable (catalog : InstanceCatalog) (existingFields : List NumericField)

def effectiveArch (role cloud : String) (roleConfig : Option RoleConfig)
    (parsedArch arch : Option String) : String :=
  match arch, parsedArch with
  | some arch, _ => (archAliases (strip arch).toLower).getD arch
  | none, some parsed => parsed
  | none, none =>
    let cloudDefaultArch :=
      (((catalog.cloudDefaults.get cloud).getD Dict.empty).get "arch").getD "x86_64"
    match roleConfig with
    | some config =>
      if config.archSource = "cloud_default" then cloudDefaultArch
      else (truthy config.arch).getD "x86_64"
    | none => if role ∈ fallbackDb then cloudDefaultArch else "x86_64"

/-- The parsed constraints with the effective architecture among them. -/
def withArch (parsed : List Constraint) (parsedArch arch : Option String) (effective : String) :
    List Constraint :=
  match parsedArch, arch with
  | none, _ => parsed ++ [.arch effective]
  | some _, some _ =>
    (parsed.filter fun constraint => constraint.archValue = none) ++ [.arch effective]
  | some _, none => parsed

/-- The constraint a role implies for a field. -/
def implicitConstraint (field : NumericField) : RawValue → Except SelectError Constraint
  | .int value => .ok (.compare field (.eq value))
  | .float value _ => .ok (.compare field (.eq value))
  | raw => parseMemoryOrDisk field raw

def applyImplicitConstraints (existingFields : List NumericField) :
    List (NumericField × RawValue) → Except SelectError (List Constraint)
  | [] => .ok []
  | (field, raw) :: rest =>
    if field ∈ existingFields ∨ field = .localDiskCount ∧ .localDiskGb ∈ existingFields then
      applyImplicitConstraints existingFields rest
    else do
      let constraint ← implicitConstraint field raw
      let constraints ← applyImplicitConstraints existingFields rest
      pure (constraint :: constraints)

def applyImplicitConstraintsFallback (role : String) : List Constraint :=
  if .localDiskGb ∈ existingFields ∨ .localDiskCount ∈ existingFields then []
  else if role ∈ fallbackDb then [.compare .localDiskCount (.gt 0)]
  else if role ∈ fallbackCompute then [.compare .localDiskCount (.eq 0)]
  else []

def constraintsInEffect (role cloud : String) (constraints : Dict String RawValue)
    (arch : Option String) :
    Except SelectError (List Constraint) := do
  let parsed ← parseConstraints constraints
  let roleConfig := catalog.sizingConfig.bind fun sizing => sizing.roles.get role
  let parsedArch := parsed.findSome? Constraint.archValue
  let parsed := withArch parsed parsedArch arch
    (effectiveArch catalog role cloud roleConfig parsedArch arch)
  let existingFields := parsed.filterMap Constraint.numericField
  match roleConfig with
  | some config => do
    let implied ← applyImplicitConstraints existingFields config.implicitConstraints.entries
    pure (parsed ++ implied)
  | none => pure (parsed ++ applyImplicitConstraintsFallback existingFields role)

/-- A value to sort by; a price that is not known is greater than all. -/
abbrev SortValue := Option Rat

/-- `<` of sort values. -/
def SortValue.less : SortValue → SortValue → Bool
  | some left, some right => left < right
  | some _, none => true
  | none, _ => false

/-- `<=` of the tuples sorted by. -/
def sortKeyLe : List SortValue → List SortValue → Bool
  | [], _ => true
  | _ :: _, [] => false
  | left :: lefts, right :: rights =>
    if SortValue.less left right then true
    else if SortValue.less right left then false
    else sortKeyLe lefts rights

/-- `_build_sort_key`. -/
def sortKey (sortOrder preferredFamilies : List String) (region : Option String)
    (instanceInfo : InstanceTypeInfo) : List SortValue :=
  let familyRank : Dict String Nat := Dict.empty.setAll preferredFamilies.zipIdx
  let order := if sortOrder = [] then ["preferred_family_rank", "price_per_hour", "vcpus"]
    else sortOrder
  order.filterMap fun field =>
    match field with
    | "preferred_family_rank" =>
      some (some (((familyRank.get instanceInfo.family).getD preferredFamilies.length : Nat) : Rat))
    | "price_per_hour" => some (instanceInfo.getPrice region)
    | "vcpus" => some (some (instanceInfo.vcpus : Rat))
    | "memory_gb" => some (some instanceInfo.memoryGb)
    | "local_disk_gb" => some (some instanceInfo.localDiskGb)
    | _ => none

/-- The candidates of a cloud that match, narrowed to the preferred families if there are any. -/
def matchingCandidates (cloud : String) (preferredFamilies : List String)
    (constraints : List Constraint) : List InstanceTypeInfo :=
  let candidates := (catalog.instances.filter fun info => info.cloud = cloud).filter fun info =>
    constraints.all (matchesConstraint info)
  let preferred := candidates.filter fun info => info.family ∈ preferredFamilies
  if preferred = [] then candidates else preferred

def bestCandidate (role cloud : String) (constraints : List Constraint) (region : Option String) :
    Option InstanceTypeInfo :=
  let preferredFamilies :=
    (((catalog.preferredFamilies.get role).getD Dict.empty).get cloud).getD []
  let sortOrder := (catalog.sizingConfig.map SizingConfig.sortOrder).getD []
  ((matchingCandidates catalog cloud preferredFamilies constraints).mergeSort fun left right =>
    sortKeyLe (sortKey sortOrder preferredFamilies region left)
      (sortKey sortOrder preferredFamilies region right)).head?

/-- `sizing.flex_defaults.get("mem_per_vcpu", 4.0)`. -/
def memPerVcpu : Rat :=
  (catalog.sizingConfig.bind SizingConfig.memPerVcpu).getD 4

def selectInstance (role cloud : String) (constraints : Dict String RawValue)
    (arch region : Option String) :
    Except SelectError InstanceTypeInfo := do
  let parsed ← constraintsInEffect catalog role cloud constraints arch
  match bestCandidate catalog role cloud parsed region with
  | none =>
    throw (.noMatchingInstance parsed
      (catalog.instances.filter fun info => info.cloud = cloud).length)
  | some best => pure (resolveFlexInstance best parsed (memPerVcpu catalog))

end Sct.Utils
