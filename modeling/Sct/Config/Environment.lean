import Sct.Lib.Dict
import Sct.Lib.Insertion
import Sct.Lib.Scan
import Sct.Lib.Words

/-!
# Configuration from the environment

`_load_environment_variables` of `sdcm/sct_config/config.py`, with `_nested_env_subkey` of
`sdcm/sct_config/helpers.py` and `sdcm/utils/nested_env_key.py`. The environment is a dictionary:
its order is the order in which `os.environ` is gone through. The converter of an option's type is
part of the option. Names of variables are taken to be ASCII, where lower case and digits are
concerned.
-/

namespace Sct.Config

/-- The environment, in the order of `os.environ`. -/
abbrev Env := Dict String String

inductive Item where
  | text (value : String)
  | other (shown : String)
  deriving DecidableEq, Repr

inductive Loaded where
  | mapping (entries : Dict Item Item)
  | list (values : List String)
  | parsed (value : Item)

/-- An option, as far as the environment is concerned. -/
structure Field where
  name : String
  /-- `from_env_func`, `none` when it raises. -/
  fromEnv : String → Option Loaded
  /-- The value this process exported under the option's variable, if it did. -/
  exported : Option String

/-- `f"SCT_{field_name.upper()}"`. -/
def Field.fieldEnv (field : Field) : String :=
  "SCT_" ++ String.ofList (field.name.toList.map Char.toUpper)

/-- `_is_self_exported_keystore_env`. -/
def Field.isSelfExported (field : Field) (env : Env) : Bool :=
  field.exported.isSome && env.get field.fieldEnv = field.exported

def beforeSeparator (separator : List Char) : List Char → List Char
  | [] => []
  | char :: rest =>
    if separator.isPrefixOf (char :: rest) then [] else char :: beforeSeparator separator rest

def nestedEnvSubkey (envKey start separator : String) : Option String :=
  if startsWith envKey (start ++ separator) then
    some (String.ofList (beforeSeparator separator.toList
      (envKey.toList.drop (start ++ separator).toList.length)))
  else none

def nestedEnvSeparators : List String := [".", "__"]

/-- `_nested_env_subkey`. -/
def fieldSubkey (envKey fieldEnv separator : String) : Option String :=
  (nestedEnvSubkey envKey fieldEnv separator).map fun subKey =>
    if separator = "__" then String.ofList (subKey.toList.map Char.toLower) else subKey

/-- The variables nested under a field with one separator, with their sub-keys. -/
def nestedUnder (fieldEnv separator : String) (envKeys : List String) : List (String × String) :=
  envKeys.filterMap fun key => (fieldSubkey key fieldEnv separator).map fun subKey => (key, subKey)

def nestedKeys (env : Env) (fieldEnv : String) : List (String × String) :=
  nestedEnvSeparators.flatMap fun separator => nestedUnder fieldEnv separator env.keys

/-- `int(sub_key)` if `sub_key.isdigit()`. -/
def subKeyIndex (subKey : String) : Option Nat :=
  if subKey ≠ "" ∧ subKey.toList.all Scan.isDigit then
    some (Scan.digitsValue subKey.toList)
  else none

/-- `os.environ.get(key).strip()`. -/
def nestedValue (env : Env) (key : String) : String := strip ((env.get key).getD "")

/-- The list and the dictionary that nested variables make. -/
def collectNested (value : String → String) (nested : List (String × String)) :
    List String × Dict Item Item :=
  nested.foldl (fun (list, dict) (key, subKey) =>
    match subKeyIndex subKey with
    | some index => (Insertion.insert index (value key) list, dict)
    | none => (list, dict.set (.text subKey) (.text (value key)))) ([], Dict.empty)

/-- What nested variables make of the value that an option's own variable gave. -/
def withNested (value : String → String) (nested : List (String × String))
    (current : Option Loaded) : Option Loaded :=
  if nested = [] then current
  else
    let (list, dict) := collectNested value nested
    match current with
    | some (.mapping ⟨entry :: rest, distinct⟩) =>
      some (.mapping (Dict.update ⟨entry :: rest, distinct⟩ dict))
    | _ => some (if list = [] then .mapping dict else .list list)

/-- What the environment gives an option; `none` when its own variable is refused. -/
def fieldValue (env : Env) (field : Field) : Option (Option Loaded) :=
  let nested := withNested (nestedValue env) (nestedKeys env field.fieldEnv)
  if field.isSelfExported env then some none
  else if env.keys.any fun key => startsWith key field.fieldEnv then
    match env.get field.fieldEnv with
    | some raw => (field.fromEnv (strip raw)).map fun value => nested (some value)
    | none => some (nested none)
  else some none

/-- `environment_vars[field_name] = value`, where there is a value. -/
def assigned (environmentVars : Dict String Loaded) (field : Field) :
    Option Loaded → Dict String Loaded
  | some value => environmentVars.set field.name value
  | none => environmentVars

/-- The turn of the loop for one option. -/
def loadField (env : Env) (environmentVars : Dict String Loaded) (field : Field) :
    Option (Dict String Loaded) :=
  (fieldValue env field).map (assigned environmentVars field)

def loadEnvironmentVariables (fields : List Field) (env : Env) : Option (Dict String Loaded) :=
  fields.foldlM (loadField env) Dict.empty

end Sct.Config
