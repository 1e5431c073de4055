import Sct.Config.Merge

/-!
# Configuration files one after another

The user's files are merged into one by the last value of each option, and that one is applied to the
settings. Every merge acts option by option, so the two ways are compared by the list of values an
option is given: a last value that replaces hides the earlier ones either way, and one that appends
has to find the value it had without them.
-/

open List

namespace Sct.Config

variable {literal : LiteralEval}

def applied (literal : LiteralEval) (kind : Kind) (held : Held kind) (value : FileValue) :
    Option (Held kind) :=
  if value.appends then append literal kind held value else validate literal kind value

def contentOf : (kind : Kind) → Held kind → Content kind
  | .string, held => held.getD ""
  | .stringOrList, held => held.getD []

def join : (kind : Kind) → Content kind → Content kind → Content kind
  | .string, first, second => first ++ second
  | .stringOrList, first, second => first ++ second

def added : (kind : Kind) → FileValue → Content kind
  | .string, .text value => unmarked value
  | .string, _ => ""
  | .stringOrList, .text value => (unmarked value).toList.map String.singleton
  | .stringOrList, .items (_ :: rest) => rest
  | .stringOrList, _ => []

def accepts (literal : LiteralEval) : Kind → FileValue → Bool
  | .string, .null => true
  | .string, .text _ => true
  | .stringOrList, .text value => startsWith value "++" || literal.eval (strip value) ≠ .other
  | .stringOrList, .items _ => true
  | _, _ => false

variable {kind : Kind}

lemma join_right_cancel {first second rest : Content kind} :
    join kind first rest = join kind second rest ↔ first = second := by
  cases kind with
  | string =>
    constructor
    · intro equal
      have lists := congrArg String.toList equal
      simp only [join, String.toList_append, append_cancel_right_eq] at lists
      exact String.toList_inj.mp lists
    · rintro rfl
      rfl
  | stringOrList => exact append_cancel_right_eq first rest second ▸ Iff.rfl

lemma applied_of_appends {value : FileValue} (marked : value.appends = true)
    (taken : accepts literal kind value = true) (held : Held kind) :
    applied literal kind held value =
      some (some (join kind (contentOf kind held) (added kind value))) := by
  rw [applied, if_pos marked]
  cases kind with
  | string =>
    cases value with
    | text value => cases held <;> rfl
    | null => cases marked
    | items value => cases taken
    | scalar => cases taken
    | mapping => cases taken
  | stringOrList =>
    cases value with
    | text value =>
      cases held with
      | some content => rfl
      | none =>
        have start : validate literal .stringOrList (.text "") = some (some []) := by
          have blank : strip "" = "" := (strip_eq_empty_iff "").mpr rfl
          rw [validate, strOrListOrEval, blank, literal.blank]
          rfl
        rw [append, current, start]
        rfl
    | items value =>
      cases value with
      | nil => cases marked
      | cons first rest => cases held <;> rfl
    | null => cases taken
    | scalar => cases taken
    | mapping => cases taken

lemma applied_isSome (kind : Kind) (held : Held kind) (value : FileValue) :
    (applied literal kind held value).isSome = accepts literal kind value := by
  cases marked : value.appends with
  | true =>
    cases taken : accepts literal kind value with
    | true => rw [applied_of_appends marked taken]; rfl
    | false =>
      rw [applied, if_pos marked]
      cases kind with
      | string =>
        cases value with
        | items value =>
          cases value with
          | nil => cases marked
          | cons first rest => cases held <;> rfl
        | text value => cases taken
        | null => cases taken
        | scalar => cases marked
        | mapping => cases marked
      | stringOrList =>
        cases value with
        | text value =>
          change startsWith value "++" = true at marked
          rw [accepts, marked] at taken
          cases taken
        | items value => cases taken
        | null => cases marked
        | scalar => cases marked
        | mapping => cases marked
  | false =>
    rw [applied, if_neg (by rw [marked]; exact Bool.false_ne_true)]
    cases kind with
    | string => cases value <;> rfl
    | stringOrList =>
      cases value with
      | text value =>
        change startsWith value "++" = false at marked
        rw [accepts, marked, Bool.false_or, validate, strOrListOrEval]
        cases literal.eval (strip value) <;> rfl
      | items value => rfl
      | null => rfl
      | scalar => rfl
      | mapping => rfl

section Options

variable {Name : Type} [DecidableEq Name] {kind : Name → Kind} {files : List (File Name)}

def appliedFile (literal : LiteralEval) (kind : Kind) (held : Held kind) :
    Option FileValue → Option (Held kind)
  | none => some held
  | some value => applied literal kind held value

variable (settings after : Settings kind)

lemma mergeDictsAppendStrings_eq_some_iff (file : File Name) :
    mergeDictsAppendStrings kind literal settings file = some after ↔
      ∀ name, appliedFile literal (kind name) (settings name) (file.get name) =
        some (after name) := by
  rw [mergeDictsAppendStrings, Option.bind_eq_some_iff]
  have appending (between : Settings kind) :=
    Fields.changeAll_eq_some_iff (fun name held value => append literal (kind name) held value)
      (file.filterValues FileValue.appends).distinct settings between
  have assigning (between : Settings kind) :=
    Fields.changeAll_eq_some_iff (fun name _ value => validate literal (kind name) value)
      (file.filterValues fun value => !value.appends).distinct between after
  have lookups (keep : FileValue → Bool) (name : Name) :
      Dict.lookup name (file.filterValues keep).entries = (file.get name).filter keep :=
    Dict.get_filterValues keep file name
  simp only [appending, assigning, lookups]
  constructor
  · rintro ⟨between, first, second⟩ name
    have appended := first name
    have assigned := second name
    cases given : file.get name with
    | none =>
      rw [given] at appended assigned
      have kept : settings name = between name := Option.some.inj appended
      rw [kept]
      exact assigned
    | some value =>
      rw [given] at appended assigned
      cases marked : value.appends with
      | true =>
        rw [Option.filter_some, marked] at appended assigned
        have kept : between name = after name := Option.some.inj assigned
        rw [appliedFile, applied, if_pos marked, ← kept]
        exact appended
      | false =>
        rw [Option.filter_some, marked] at assigned
        rw [appliedFile, applied, if_neg (by rw [marked]; exact Bool.false_ne_true)]
        exact assigned
  · intro settled
    -- Between the two passes only the options with a marked value have changed.
    refine ⟨fun name => if (file.get name).any FileValue.appends then after name
      else settings name, fun name => ?_, fun name => ?_⟩
    · have result := settled name
      dsimp only
      cases given : file.get name with
      | none => rfl
      | some value =>
        rw [given, appliedFile, applied] at result
        rw [Option.filter_some, Option.any_some]
        cases marked : value.appends with
        | true =>
          rw [if_pos marked] at result
          exact result
        | false => rfl
    · have result := settled name
      dsimp only
      cases given : file.get name with
      | none =>
        rw [given] at result
        exact result
      | some value =>
        rw [given, appliedFile, applied] at result
        rw [Option.filter_some, Option.any_some]
        cases marked : value.appends with
        | true => rfl
        | false =>
          rw [if_neg (by rw [marked]; exact Bool.false_ne_true)] at result
          exact result

lemma valuesOf_cons (file : File Name) (files : List (File Name)) (name : Name) :
    valuesOf (file :: files) name = (file.get name).toList ++ valuesOf files name := by
  rw [valuesOf, filterMap_cons]
  cases file.get name with
  | none => rfl
  | some value => rfl

def loadOneByOne (literal : LiteralEval) (settings : Settings kind) (files : List (File Name)) :
    Option (Settings kind) :=
  files.foldlM (mergeDictsAppendStrings kind literal) settings

def appliedAll (literal : LiteralEval) (kind : Kind) (held : Held kind)
    (values : List FileValue) : Option (Held kind) :=
  values.foldlM (applied literal kind) held

lemma loadOneByOne_eq_some_iff (files : List (File Name)) :
    loadOneByOne literal settings files = some after ↔
      ∀ name, appliedAll literal (kind name) (settings name) (valuesOf files name) =
        some (after name) := by
  induction files generalizing settings with
  | nil =>
    change some settings = some after ↔ ∀ name, some (settings name) = some (after name)
    simp only [Option.some.injEq]
    exact funext_iff
  | cons file rest ih =>
    have step : loadOneByOne literal settings (file :: rest) =
        (mergeDictsAppendStrings kind literal settings file).bind
          fun between => loadOneByOne literal between rest := rfl
    have each (name : Name) (held : Held (kind name)) :
        appliedAll literal (kind name) held (valuesOf (file :: rest) name) =
          (appliedFile literal (kind name) held (file.get name)).bind
            fun between => appliedAll literal (kind name) between (valuesOf rest name) := by
      rw [valuesOf_cons]
      cases file.get name with
      | none => rfl
      | some value => rfl
    simp only [step, each, Option.bind_eq_some_iff, mergeDictsAppendStrings_eq_some_iff, ih]
    constructor
    · rintro ⟨between, first, second⟩ name
      exact ⟨between name, first name, second name⟩
    · intro both
      choose between first second using both
      exact ⟨between, first, second⟩

lemma mergeDictsAppendStrings_eq_none_iff (settings : Settings kind) (file : File Name) :
    mergeDictsAppendStrings kind literal settings file = none ↔
      ∃ name value, file.get name = some value ∧ accepts literal (kind name) value = false := by
  constructor
  · intro fails
    by_contra all
    have taken (name : Name) :
        ∃ held, appliedFile literal (kind name) (settings name) (file.get name) = some held := by
      cases given : file.get name with
      | none => exact ⟨settings name, rfl⟩
      | some value =>
        refine Option.isSome_iff_exists.mp ?_
        rw [appliedFile, applied_isSome]
        by_contra refused
        exact all ⟨name, value, given, Bool.eq_false_iff.mpr refused⟩
    choose after settled using taken
    rw [(mergeDictsAppendStrings_eq_some_iff settings after file).mpr settled] at fails
    cases fails
  · rintro ⟨name, value, given, refused⟩
    cases result : mergeDictsAppendStrings kind literal settings file with
    | none => rfl
    | some after =>
      have own := (mergeDictsAppendStrings_eq_some_iff settings after file).mp result name
      rw [given, appliedFile] at own
      rw [← applied_isSome (kind name) (settings name) value, own] at refused
      cases refused

lemma appliedAll_isSome (kind : Kind) (held : Held kind) (values : List FileValue) :
    (appliedAll literal kind held values).isSome = values.all (accepts literal kind) := by
  induction values generalizing held with
  | nil => rfl
  | cons value rest ih =>
    have step : appliedAll literal kind held (value :: rest) =
        (applied literal kind held value).bind
          fun between => appliedAll literal kind between rest := rfl
    rw [step, all_cons, ← applied_isSome kind held value]
    cases applied literal kind held value with
    | none => rfl
    | some between => exact (ih between).trans (Bool.true_and _).symm

lemma loadOneByOne_eq_none_iff (settings : Settings kind) (files : List (File Name)) :
    loadOneByOne literal settings files = none ↔
      ∃ name, ∃ value ∈ valuesOf files name, accepts literal (kind name) value = false := by
  constructor
  · intro fails
    by_contra all
    have taken (name : Name) : ∃ held,
        appliedAll literal (kind name) (settings name) (valuesOf files name) = some held := by
      refine Option.isSome_iff_exists.mp ?_
      rw [appliedAll_isSome, all_eq_true]
      intro value listed
      by_contra refused
      exact all ⟨name, value, listed, Bool.eq_false_iff.mpr refused⟩
    choose after settled using taken
    rw [(loadOneByOne_eq_some_iff settings after files).mpr settled] at fails
    cases fails
  · rintro ⟨name, value, listed, refused⟩
    cases result : loadOneByOne literal settings files with
    | none => rfl
    | some after =>
      have own := (loadOneByOne_eq_some_iff settings after files).mp result name
      have taken := @appliedAll_isSome literal (kind name) (settings name) (valuesOf files name)
      rw [own] at taken
      have accepted := all_eq_true.mp taken.symm value listed
      rw [refused] at accepted
      cases accepted

/-- Some option is given a mapping, or a last value that its type refuses. -/
def LoadRefused (literal : LiteralEval) (kind : Name → Kind) (files : List (File Name)) : Prop :=
  ∃ name, .mapping ∈ valuesOf files name ∨
    ∃ last, (valuesOf files name).getLast? = some last ∧ accepts literal (kind name) last = false

/-- The earlier values of an option leave the content it had before them. -/
def EarlierKeep (literal : LiteralEval) (kind : Kind) (held : Held kind)
    (values : List FileValue) : Prop :=
  ∃ between, appliedAll literal kind held values.dropLast = some between ∧
    contentOf kind between = contentOf kind held

lemma accepts_mapping (kind : Kind) : accepts literal kind .mapping = false := by
  cases kind <;> rfl

variable {anyconfig : AnyConfig Name}

lemma AnyConfig.get_of_load {file : File Name} (loaded : anyconfig.load files = some file)
    (plain : ∀ name, .mapping ∉ valuesOf files name) (name : Name) :
    file.get name = (valuesOf files name).getLast? := by
  obtain ⟨other, same, gets⟩ := anyconfig.last files plain
  rw [Option.some.inj (loaded.symm.trans same), gets]

lemma loadConfigFiles_eq_none_iff (settings : Settings kind) (files : List (File Name)) :
    loadConfigFiles kind literal anyconfig settings files = none ↔
      LoadRefused literal kind files := by
  rw [loadConfigFiles]
  by_cases mapping : ∃ name, .mapping ∈ valuesOf files name
  · obtain ⟨name, given⟩ := mapping
    refine iff_of_true ?_ ⟨name, .inl given⟩
    cases loaded : anyconfig.load files with
    | none => rfl
    | some file =>
      have kept := anyconfig.mapping files file name loaded given
      rw [Option.bind_some, mergeDictsAppendStrings_eq_none_iff]
      exact ⟨name, .mapping, kept, accepts_mapping (kind name)⟩
  · have plain := not_exists.mp mapping
    obtain ⟨file, loaded, gets⟩ := anyconfig.last files plain
    rw [loaded, Option.bind_some, mergeDictsAppendStrings_eq_none_iff]
    simp only [LoadRefused, gets, plain, false_or]

lemma LoadRefused.loadOneByOne (refused : LoadRefused literal kind files)
    (settings : Settings kind) : loadOneByOne literal settings files = none := by
  rw [loadOneByOne_eq_none_iff]
  obtain ⟨name, mapping | ⟨last, found, refused⟩⟩ := refused
  · exact ⟨name, .mapping, mapping, accepts_mapping (kind name)⟩
  · exact ⟨name, last, mem_of_getLast? found, refused⟩

/-- The last of accepted values makes of an option what all of them do, unless it appends and the
earlier ones changed the content. -/
lemma appliedFile_getLast?_eq_iff {kind : Kind} {held : Held kind} {values : List FileValue}
    (taken : ∀ value ∈ values, accepts literal kind value = true) :
    appliedFile literal kind held values.getLast? = appliedAll literal kind held values ↔
      ∀ last, values.getLast? = some last → last.appends = true →
        EarlierKeep literal kind held values := by
  rcases eq_nil_or_concat' values with rfl | ⟨earlier, last, rfl⟩
  · exact iff_of_true rfl fun last found => absurd found (Option.some_ne_none last).symm
  · have acceptsLast := taken last (by simp)
    obtain ⟨between, before⟩ : ∃ between, appliedAll literal kind held earlier = some between := by
      refine Option.isSome_iff_exists.mp ?_
      rw [appliedAll_isSome, all_eq_true]
      intro value listed
      exact taken value (mem_append_left _ listed)
    have all : appliedAll literal kind held (earlier ++ [last]) =
        applied literal kind between last := by
      have step : appliedAll literal kind held (earlier ++ [last]) =
          (appliedAll literal kind held earlier).bind
            fun between => appliedAll literal kind between [last] := foldlM_append ..
      rw [step, before]
      exact bind_pure _
    rw [all, getLast?_concat, appliedFile]
    constructor
    · intro equal other found marked
      cases found
      rw [applied_of_appends marked acceptsLast, applied_of_appends marked acceptsLast,
        Option.some.injEq, Option.some.injEq, join_right_cancel] at equal
      exact ⟨between, by rw [dropLast_concat]; exact before, equal.symm⟩
    · intro keeps
      cases marked : last.appends with
      | true =>
        obtain ⟨other, found, same⟩ := keeps last rfl marked
        rw [dropLast_concat, before] at found
        cases found
        rw [applied_of_appends marked acceptsLast, applied_of_appends marked acceptsLast, same]
      | false =>
        have replaces : ¬ last.appends = true := by
          rw [marked]
          exact Bool.false_ne_true
        rw [applied, applied, if_neg replaces, if_neg replaces]

end Options

/-- Files without mappings updated one by another. -/
def updating : AnyConfig String where
  load files :=
    if files.any fun file => file.entries.any fun entry => entry.2 = .mapping then none
    else some (files.foldl Dict.update Dict.empty)
  last files plain := by
    have none : ¬ (files.any fun file => file.entries.any fun entry => entry.2 = .mapping) := by
      simp only [any_eq_true, decide_eq_true_eq]
      rintro ⟨file, listed, entry, held, mapping⟩
      refine plain entry.1 (mem_filterMap.mpr ⟨file, listed, ?_⟩)
      exact (Dict.mem_entries_iff file _ _).mp (mapping ▸ held)
    refine ⟨_, if_neg none, fun name => ?_⟩
    clear plain none
    induction files using List.reverseRecOn with
    | nil => rfl
    | append_singleton files file ih =>
      rw [foldl_append, foldl_cons, foldl_nil, Dict.get_update, ih]
      cases given : file.get name <;> simp [given, valuesOf]
  mapping files file name loaded given := by
    obtain ⟨earlier, listed, found⟩ := mem_filterMap.mp given
    have entry := (Dict.mem_entries_iff earlier _ _).mpr found
    have some : files.any fun file => file.entries.any fun entry => entry.2 = .mapping := by
      simp only [any_eq_true, decide_eq_true_eq]
      exact ⟨earlier, listed, _, entry, rfl⟩
    rw [if_pos some] at loaded
    cases loaded

def noLiterals : LiteralEval := ⟨fun _ => .malformed, rfl, fun _ _ => rfl⟩

def scyllaArgsFile (args : String) : File String :=
  Dict.empty.set "append_scylla_args" (.text args)

end Sct.Config
