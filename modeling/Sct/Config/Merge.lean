import Sct.Lib.Fields
import Sct.Lib.Words

/-!
# Merging configuration files

`merge_dicts_append_strings` of `sdcm/sct_config/helpers.py` on the appendable options, with the
types of `sdcm/sct_config/types.py`, and the loading of the user's files in
`SCTConfiguration.__init__`. Python's `ast.literal_eval` and `anyconfig.load` are parameters. Errors
are not told apart.
-/

namespace Sct.Config

inductive Kind where
  | string
  | stringOrList
  deriving DecidableEq, Repr

/-- What an option of a type holds when it is set. -/
abbrev Content : Kind → Type
  | .string => String
  | .stringOrList => List String

abbrev Held (kind : Kind) := Option (Content kind)

inductive FileValue where
  | null
  | text (value : String)
  | items (value : List String)
  | scalar
  | mapping
  deriving DecidableEq, Repr

/-- What `ast.literal_eval` says of a text. -/
inductive Literal where
  /-- `ValueError` or `SyntaxError`. -/
  | malformed
  | text (value : String)
  | items (value : List String)
  | other
  deriving DecidableEq, Repr

/-- `ast.literal_eval`, and the two facts about it that are used. -/
structure LiteralEval where
  eval : String → Literal
  blank : eval "" = .malformed
  signs : ∀ text, startsWith text "++" = true → eval text = .malformed

/-- `[text] if text else []`. -/
def wrap (text : String) : List String := if text = "" then [] else [text]

def strOrListOrEval (literal : LiteralEval) : FileValue → Option (Option (List String))
  | .null => some none
  | .text value =>
    match literal.eval (strip value) with
    | .malformed => some (some (wrap value))
    | .text parsed => some (some (wrap parsed))
    | .items parsed => some (some parsed)
    | .other => none
  | .items value => some (some value)
  | .scalar => none
  | .mapping => none

/-- What an option's own environment variable gives it: the converter of its type, applied to the
stripped text. -/
def fromEnv (literal : LiteralEval) : Kind → String → Option FileValue
  | .string, raw => some (.text (strip raw))
  | .stringOrList, raw =>
    (strOrListOrEval literal (.text (strip raw))).map fun
      | some list => .items list
      | none => .null

def validate (literal : LiteralEval) : (kind : Kind) → FileValue → Option (Held kind)
  | .string, .null => some none
  | .string, .text value => some (some value)
  | .string, _ => none
  | .stringOrList, value =>
    -- The type of the field is a list, so `None` is refused after the converter.
    match strOrListOrEval literal value with
    | some (some list) => some (some list)
    | _ => none

/-- `d1[key]`, after `d1[key] = start` if it was `None`. -/
def current (literal : LiteralEval) (kind : Kind) (start : FileValue) :
    Held kind → Option (Content kind)
  | some content => some content
  | none => (validate literal kind start).join

/-- What `d1[key] += rest` assigns: a list takes the characters of a text. -/
def plus : (kind : Kind) → Content kind → String → FileValue
  | .string, content, rest => .text (content ++ rest)
  | .stringOrList, content, rest => .items (content ++ rest.toList.map String.singleton)

def extend : (kind : Kind) → Content kind → List String → Option (Content kind)
  | .string, _, _ => none
  | .stringOrList, content, rest => some (content ++ rest)

/-- Whether a value has the mark of appending. -/
def FileValue.appends : FileValue → Bool
  | .text value => startsWith value "++"
  | .items (first :: _) => startsWith first "++"
  | _ => false

/-- `value[2:]`. -/
def unmarked (value : String) : String := String.ofList (value.toList.drop 2)

def append (literal : LiteralEval) (kind : Kind) (held : Held kind) :
    FileValue → Option (Held kind)
  | .text value =>
    (current literal kind (.text "") held).bind fun content =>
      validate literal kind (plus kind content (unmarked value))
  | .items (_ :: rest) =>
    (current literal kind (.items []) held).bind fun content =>
      (extend kind content rest).map some
  | _ => some held

section Options

variable {Name : Type} [DecidableEq Name] (kind : Name → Kind)

abbrev Settings := (name : Name) → Held (kind name)

abbrev File (Name : Type) := Dict Name FileValue

/-- `merge_dicts_append_strings`: the marked values are appended, then the others assigned. -/
def mergeDictsAppendStrings (literal : LiteralEval) (settings : Settings kind)
    (file : File Name) : Option (Settings kind) :=
  (Fields.changeAll (fun name held value => append literal (kind name) held value)
    (file.filterValues FileValue.appends).entries settings).bind
  (Fields.changeAll (fun name _ value => validate literal (kind name) value)
    (file.filterValues fun value => !value.appends).entries)

def valuesOf (files : List (File Name)) (name : Name) : List FileValue :=
  files.filterMap fun file => file.get name

variable (Name) in
/-- `anyconfig.load`, and the two facts about it that are used: without mappings an option gets
the value of the last file that gives it one, and a mapping stays one if the load goes through. -/
structure AnyConfig where
  load : List (File Name) → Option (File Name)
  last : ∀ files, (∀ name, .mapping ∉ valuesOf files name) →
    ∃ file, load files = some file ∧ ∀ name, file.get name = (valuesOf files name).getLast?
  mapping : ∀ files file name, load files = some file → .mapping ∈ valuesOf files name →
    file.get name = some .mapping

def loadConfigFiles (literal : LiteralEval) (anyconfig : AnyConfig Name)
    (settings : Settings kind) (files : List (File Name)) : Option (Settings kind) :=
  (anyconfig.load files).bind (mergeDictsAppendStrings kind literal settings)

end Options

end Sct.Config
