import Sct.Verif.ConfigMerge

/-!
# What appending adds

A marked value stands for its content: a text for itself without the mark, a list for its items,
the first without the mark. The content is appended whole to a text option from a text and to a
list option from a list whose first item is the mark alone. A text marked for a list option is
split into characters when it comes from a file, and lost when it comes from an environment
variable, since there the converter has made it the first item of a list.
-/

namespace Sct.Config

variable {literal : LiteralEval}

def contents : FileValue → List String
  | .text value => wrap (unmarked value)
  | .items (first :: rest) => wrap (unmarked first) ++ rest
  | _ => []

/-- How an option is given a value. -/
inductive Source where
  | file (value : FileValue)
  | own (raw : String)
  | subKeys (values : List String)

def Source.written (literal : LiteralEval) : Kind → Source → FileValue
  | _, .file value => value
  | _, .subKeys values => .items values
  | .string, .own raw => .text (strip raw)
  | .stringOrList, .own raw =>
    match literal.eval (strip (strip raw)) with
    | .items value => .items value
    | .text value => .text value
    | _ => .text (strip raw)

def Source.carried (literal : LiteralEval) (kind : Kind) : Source → Option FileValue
  | .file value => some value
  | .own raw => fromEnv literal kind raw
  | .subKeys values => some (.items values)

def Source.inFile : Source → Bool
  | .file _ => true
  | _ => false

def Appended : (kind : Kind) → Held kind → List String → Held kind → Prop
  | .string, before, added, after => after = some (before.getD "" ++ String.join added)
  | .stringOrList, before, added, after => after = some (before.getD [] ++ added)

/-- A text for a text option; for a list option a list that starts with the mark alone, or a text
that is the mark alone or, in a file, the mark and one character. -/
def Source.Fits (literal : LiteralEval) (kind : Kind) (source : Source) : Prop :=
  match kind, source.written literal kind with
  | .string, .text _ => True
  | .stringOrList, .items (first :: _) => first = "++"
  | .stringOrList, .text value => value = "++" ∨ source.inFile = true ∧ value.toList.length ≤ 3
  | _, _ => False

variable (text : String)

lemma startsWith_mark_iff :
    startsWith text "++" = true ↔ text.toList = '+' :: '+' :: (unmarked text).toList := by
  rw [startsWith_iff, unmarked, String.toList_ofList]
  constructor
  · rintro ⟨rest, equal⟩
    rw [equal, String.toList_ofList]
    rfl
  · intro equal
    exact ⟨_, equal⟩

variable {text : String}

lemma unmarked_eq_empty_iff (marked : startsWith text "++" = true) :
    unmarked text = "" ↔ text = "++" := by
  have chars := (startsWith_mark_iff text).mp marked
  constructor
  · intro empty
    rw [empty] at chars
    exact String.toList_inj.mp chars
  · rintro rfl
    rfl

lemma wrap_eq_of_mark (marked : startsWith text "++" = true) : wrap text = [text] := by
  apply if_neg
  rintro rfl
  cases marked

lemma map_singleton_eq_wrap_iff :
    text.toList.map String.singleton = wrap text ↔ text.toList.length ≤ 1 := by
  have empty : text.toList = [] ↔ text = "" := String.toList_eq_nil_iff
  unfold wrap
  cases chars : text.toList with
  | nil => simp [empty.mp chars]
  | cons first rest =>
    have nonempty : text ≠ "" := mt empty.mpr (by simp [chars])
    rw [if_neg nonempty]
    cases rest with
    | nil =>
      have whole : String.singleton first = text :=
        String.toList_inj.mp (by rw [chars, String.toList_singleton])
      simp [whole]
    | cons second rest => simp

variable {source : Source} {kind : Kind}

/-- A marked value reaches the merge as it is written, except that a text of a variable reaches a
list option as a list of itself. -/
lemma Source.carried_of_marked (marked : (source.written literal kind).appends = true) :
    (source.carried literal kind = some (source.written literal kind) ∧
      (kind = .stringOrList → ∀ text, source.written literal kind = .text text →
        source.inFile = true)) ∨
    (kind = .stringOrList ∧ source.inFile = false ∧ ∃ text,
      source.written literal kind = .text text ∧
        source.carried literal kind = some (.items [text])) := by
  cases source with
  | file value => exact .inl ⟨rfl, fun _ _ _ => rfl⟩
  | subKeys values =>
    refine .inl ⟨rfl, fun _ text absurdity => ?_⟩
    cases absurdity
  | own raw =>
    cases kind with
    | string => exact .inl ⟨rfl, fun absurdity => by cases absurdity⟩
    | stringOrList =>
      rw [Source.written] at marked ⊢
      rw [Source.carried, fromEnv, strOrListOrEval]
      cases parsed : literal.eval (strip (strip raw)) with
      | items value =>
        refine .inl ⟨rfl, fun _ text absurdity => ?_⟩
        cases absurdity
      | text value =>
        rw [parsed] at marked
        refine .inr ⟨rfl, rfl, value, rfl, ?_⟩
        change some (FileValue.items (wrap value)) = _
        rw [wrap_eq_of_mark marked]
      | malformed =>
        rw [parsed] at marked
        refine .inr ⟨rfl, rfl, strip raw, rfl, ?_⟩
        change some (FileValue.items (wrap (strip raw))) = _
        rw [wrap_eq_of_mark marked]
      | other =>
        -- A text with the mark is no literal, also once it is stripped again.
        rw [parsed] at marked
        have word : IsWord "++" := by decide
        rw [literal.signs _ (startsWith_strip word marked)] at parsed
        cases parsed

variable {value : FileValue}

lemma Source.added_eq_contents_iff
    (marked : (source.written literal .stringOrList).appends = true)
    (carried : source.carried literal .stringOrList = some value) :
    value.appends = true ∧ accepts literal .stringOrList value = true ∧
      (added .stringOrList value = contents (source.written literal .stringOrList) ↔
        source.Fits literal .stringOrList) := by
  rcases Source.carried_of_marked marked with ⟨same, inFile⟩ | ⟨-, outside, text, written, same⟩
  · rw [same] at carried
    cases carried
    unfold Source.Fits
    cases written : source.written literal .stringOrList with
    | text value =>
      rw [written] at marked
      change startsWith value "++" = true at marked
      have chars := (startsWith_mark_iff value).mp marked
      have length : value.toList.length = (unmarked value).toList.length + 2 := by
        rw [chars]
        rfl
      refine ⟨marked, by rw [accepts, marked, Bool.true_or], ?_⟩
      rw [added, contents, map_singleton_eq_wrap_iff]
      simp only [inFile rfl value written, true_and]
      constructor
      · intro short
        exact .inr (by omega)
      · rintro (rfl | short)
        · decide
        · omega
    | items value =>
      rw [written] at marked
      cases value with
      | nil => cases marked
      | cons first rest =>
        refine ⟨marked, rfl, ?_⟩
        change rest = wrap (unmarked first) ++ rest ↔ first = "++"
        rw [← unmarked_eq_empty_iff marked, wrap]
        by_cases empty : unmarked first = ""
        · simp [empty]
        · simp [empty]
    | null => rw [written] at marked; cases marked
    | scalar => rw [written] at marked; cases marked
    | mapping => rw [written] at marked; cases marked
  · rw [written] at marked
    rw [same] at carried
    cases carried
    refine ⟨marked, rfl, ?_⟩
    unfold Source.Fits
    rw [written]
    simp only [outside, Bool.false_eq_true, false_and, or_false]
    rw [added, contents, ← unmarked_eq_empty_iff marked, wrap]
    by_cases empty : unmarked text = ""
    · simp [empty]
    · simp [empty]

lemma join_wrap : String.join (wrap text) = text := by
  unfold wrap
  split
  · rename_i empty
    rw [empty]
    rfl
  · exact String.toList_inj.mp (by simp)

lemma Source.applied_appended_iff (marked : (source.written literal kind).appends = true)
    (carried : source.carried literal kind = some value) (held : Held kind) :
    (∃ after, applied literal kind held value = some after ∧
      Appended kind held (contents (source.written literal kind)) after) ↔
      source.Fits literal kind := by
  cases kind with
  | string =>
    rcases Source.carried_of_marked marked with ⟨same, -⟩ | ⟨absurdity, -⟩
    · rw [same] at carried
      cases carried
      unfold Source.Fits
      cases written : source.written literal .string with
      | text value =>
        rw [written] at marked
        refine iff_of_true ⟨_, applied_of_appends marked rfl held, ?_⟩ trivial
        rw [Appended, contents, join_wrap]
        rfl
      | items value =>
        have refused := @applied_isSome literal .string held (.items value)
        refine iff_of_false ?_ not_false
        rintro ⟨after, settled, -⟩
        rw [settled] at refused
        cases refused
      | null => rw [written] at marked; cases marked
      | scalar => rw [written] at marked; cases marked
      | mapping => rw [written] at marked; cases marked
    · cases absurdity
  | stringOrList =>
    obtain ⟨appends, taken, whole⟩ := Source.added_eq_contents_iff marked carried
    rw [← whole, applied_of_appends appends taken]
    constructor
    · rintro ⟨after, settled, follows⟩
      cases settled
      exact List.append_cancel_left (Option.some.inj follows)
    · intro equal
      exact ⟨_, rfl, by rw [equal]; rfl⟩

section Options

variable {Name : Type} [DecidableEq Name] {kind : Name → Kind}

lemma exists_merged_iff (settings : Settings kind) {file : File Name} {name : Name}
    {value : FileValue} (present : file.get name = some value) (result : Held (kind name) → Prop) :
    (∃ after, mergeDictsAppendStrings kind literal settings file = some after ∧
        result (after name)) ↔
      (∃ held, applied literal (kind name) (settings name) value = some held ∧ result held) ∧
        ∀ other given, other ≠ name → file.get other = some given →
          accepts literal (kind other) given = true := by
  constructor
  · rintro ⟨after, merged, holds⟩
    have each := (mergeDictsAppendStrings_eq_some_iff settings after file).mp merged
    refine ⟨⟨after name, ?_, holds⟩, fun other given _ found => ?_⟩
    · have own := each name
      rw [present] at own
      exact own
    · have settled := each other
      rw [found, appliedFile] at settled
      rw [← applied_isSome (kind other) (settings other) given, settled]
      rfl
  · rintro ⟨⟨held, settled, holds⟩, others⟩
    have merges : mergeDictsAppendStrings kind literal settings file ≠ none := by
      rw [Ne, mergeDictsAppendStrings_eq_none_iff]
      rintro ⟨other, given, found, refused⟩
      by_cases same : other = name
      · subst same
        rw [present] at found
        cases found
        rw [← applied_isSome (kind other) (settings other) value, settled] at refused
        cases refused
      · rw [others other given same found] at refused
        cases refused
    obtain ⟨after, merged⟩ := Option.ne_none_iff_exists'.mp merges
    have own := (mergeDictsAppendStrings_eq_some_iff settings after file).mp merged name
    rw [present, appliedFile, settled] at own
    exact ⟨after, merged, Option.some.inj own ▸ holds⟩

/-- Appending puts exactly the content of a marked value after what an option held if and only if
the value fits the type of the option, where the other values are accepted. -/
theorem merge_appends_iff (literal : LiteralEval) (settings : Settings kind) (file : File Name)
    (name : Name) (source : Source)
    (marked : (source.written literal (kind name)).appends = true)
    (present : file.get name = source.carried literal (kind name)) :
    (∃ after, mergeDictsAppendStrings kind literal settings file = some after ∧
        Appended (kind name) (settings name) (contents (source.written literal (kind name)))
          (after name)) ↔
      source.Fits literal (kind name) ∧
        ∀ other given, other ≠ name → file.get other = some given →
          accepts literal (kind other) given = true := by
  have reaches : ∃ value, source.carried literal (kind name) = some value := by
    rcases Source.carried_of_marked marked with ⟨same, -⟩ | ⟨-, -, text, -, same⟩
    · exact ⟨_, same⟩
    · exact ⟨_, same⟩
  obtain ⟨value, carried⟩ := reaches
  rw [exists_merged_iff settings (present.trans carried),
    Source.applied_appended_iff marked carried]

end Options

def overridesFile (value : FileValue) : File String :=
  Dict.empty.set "scylla_d_overrides_files" value

def overridesAfter (value : FileValue) : Option (Option (List String)) :=
  (mergeDictsAppendStrings (fun _ => .stringOrList) noLiterals (fun _ => some ["cpuset.conf"])
    (overridesFile value)).map (· "scylla_d_overrides_files")

theorem markedList_appended :
    (Source.written noLiterals .stringOrList (.file (.items ["++", "io.conf"]))).appends = true ∧
      ∃ after, mergeDictsAppendStrings (fun _ => .stringOrList) noLiterals
          (fun _ => some ["cpuset.conf"]) (overridesFile (.items ["++", "io.conf"])) =
            some after ∧
        Appended .stringOrList (some ["cpuset.conf"]) (contents (.items ["++", "io.conf"]))
          (after "scylla_d_overrides_files") := by
  refine ⟨rfl, ?_⟩
  apply (@merge_appends_iff String _ (fun _ => .stringOrList) noLiterals
    (fun _ => some ["cpuset.conf"]) (overridesFile (.items ["++", "io.conf"]))
    "scylla_d_overrides_files" (.file (.items ["++", "io.conf"])) rfl rfl).mpr
  refine ⟨rfl, fun other given differ found => ?_⟩
  rw [overridesFile, Dict.get_set_of_ne _ _ differ] at found
  cases found

/-- A marked text is split by a list option when it stands in a file and lost when it stands in a
variable, and the first item of a list is lost with its mark. -/
theorem markedText_split_or_lost :
    overridesAfter (.text "++io.conf") =
        some (some ["cpuset.conf", "i", "o", ".", "c", "o", "n", "f"]) ∧
      (fromEnv noLiterals .stringOrList "++io.conf").map overridesAfter =
        some (some (some ["cpuset.conf"])) ∧
      overridesAfter (.items ["++io.conf", "mem.conf"]) =
        some (some ["cpuset.conf", "mem.conf"]) := by
  decide

end Sct.Config
