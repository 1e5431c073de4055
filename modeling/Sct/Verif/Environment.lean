import Sct.Config.Environment
import Sct.Lib.Reorder

/-!
# The order of the environment

The configuration depends on the order of the environment through the order of the variables nested
under each option. Numbered sub-keys are inserted into a list at their index, so the indices have to
suit every order (`Insertion.AnyOrder`); other sub-keys are keys of a dictionary, where the last one
wins. The condition is about names, for all values of the nested variables.
-/

open List

namespace Sct.Config

def numbered (nested : List (String × String)) : List ((String × String) × Nat) :=
  nested.filterMap fun entry => (subKeyIndex entry.2).map fun index => (entry, index)

def named (nested : List (String × String)) : List (String × String) :=
  nested.filter fun entry => (subKeyIndex entry.2).isNone

def namedEntry (value : String → String) (entry : String × String) : Item × Item :=
  (.text entry.2, .text (value entry.1))

def namedDict (value : String → String) (nested : List (String × String)) : Dict Item Item :=
  Dict.empty.setAll ((named nested).map (namedEntry value))

def numberedList (value : String → String) (nested : List (String × String)) : List String :=
  (Insertion.insertAll Prod.snd [] (numbered nested)).map fun entry => value entry.1.1

lemma numbered_append (first second : List (String × String)) :
    numbered (first ++ second) = numbered first ++ numbered second := filterMap_append

lemma collectNested_foldl (value : String → String) (nested : List (String × String))
    (items : List ((String × String) × Nat)) (dict : Dict Item Item) :
    nested.foldl (fun (list, dict) (key, subKey) =>
      match subKeyIndex subKey with
      | some index => (Insertion.insert index (value key) list, dict)
      | none => (list, dict.set (.text subKey) (.text (value key))))
      (items.map (fun entry => value entry.1.1), dict) =
    ((Insertion.insertAll Prod.snd items (numbered nested)).map fun entry => value entry.1.1,
      dict.setAll ((named nested).map (namedEntry value))) := by
  induction nested generalizing items dict with
  | nil => rfl
  | cons entry nested ih =>
    obtain ⟨key, subKey⟩ := entry
    cases digits : subKeyIndex subKey with
    | some index =>
      have numbers : numbered ((key, subKey) :: nested) =
          ((key, subKey), index) :: numbered nested := by
        simp [numbered, digits]
      have names : named ((key, subKey) :: nested) = named nested := by
        simp [named, digits]
      have inserted := ih (Insertion.insert index ((key, subKey), index) items) dict
      rw [Insertion.map_insert] at inserted
      rw [foldl_cons, numbers, names]
      simp only [digits]
      exact inserted
    | none =>
      have numbers : numbered ((key, subKey) :: nested) = numbered nested := by
        simp [numbered, digits]
      have names : named ((key, subKey) :: nested) = (key, subKey) :: named nested := by
        simp [named, digits]
      rw [foldl_cons, numbers, names]
      simp only [digits]
      exact ih items (dict.set (.text subKey) (.text (value key)))

lemma collectNested_eq (value : String → String) (nested : List (String × String)) :
    collectNested value nested = (numberedList value nested, namedDict value nested) :=
  collectNested_foldl value nested [] Dict.empty

/-- A mapping with entries, which nested variables are put into. -/
def Loaded.IsFilled : Loaded → Prop
  | .mapping entries => entries.entries ≠ []
  | _ => False

def Loaded.Same : Loaded → Loaded → Prop
  | .mapping first, .mapping second => ∀ key, first.get key = second.get key
  | .list first, .list second => first = second
  | .parsed first, .parsed second => first = second
  | _, _ => False

def SameValue : Option Loaded → Option Loaded → Prop
  | some first, some second => first.Same second
  | none, none => True
  | _, _ => False

/-- The values of numbered variables as a list in the order of their numbers. -/
def InNumberOrder (value : String → String) (numbers : List ((String × String) × Nat))
    (made : Option Loaded) : Prop :=
  ∃ arranged, arranged.Perm numbers ∧ Insertion.Increasing Prod.snd arranged ∧
    made = some (.list (arranged.map fun entry => value entry.1.1))

def SameConfiguration : Option (Dict String Loaded) → Option (Dict String Loaded) → Prop
  | some first, some second => ∀ name, SameValue (first.get name) (second.get name)
  | none, none => True
  | _, _ => False

/-- What can be seen of a value, a mapping by its keys. -/
def seen : Option Loaded → Option ((Item → Option Item) ⊕ List String ⊕ Item) :=
  Option.map fun
    | .mapping entries => .inl entries.get
    | .list values => .inr (.inl values)
    | .parsed value => .inr (.inr value)

lemma sameValue_iff {first second : Option Loaded} :
    SameValue first second ↔ seen first = seen second := by
  rcases first with _ | ⟨entries⟩ | ⟨values⟩ | ⟨value⟩ <;>
    rcases second with _ | ⟨others⟩ | ⟨others⟩ | ⟨other⟩ <;>
    simp [SameValue, Loaded.Same, seen, funext_iff]

section Nested

variable {value : String → String} {nested : List (String × String)} {current : Option Loaded}

lemma numberedList_eq_nil_iff : numberedList value nested = [] ↔ numbered nested = [] := by
  rw [numberedList, map_eq_nil_iff, ← length_eq_zero_iff,
    (Insertion.insertAll_perm [] (numbered nested)).length_eq, nil_append, length_eq_zero_iff]

lemma withNested_of_not_filled (replaced : ¬ ∃ loaded, current = some loaded ∧ loaded.IsFilled)
    (present : nested ≠ []) :
    withNested value nested current =
      some (if numbered nested = [] then .mapping (namedDict value nested)
        else .list (numberedList value nested)) := by
  unfold withNested
  rw [if_neg present, collectNested_eq]
  simp only [← @numberedList_eq_nil_iff value nested]
  split
  · rename_i entry rest distinct
    exact absurd ⟨_, rfl, cons_ne_nil entry rest⟩ replaced
  · rfl

/-- The mapping that named variables are put into. -/
def filledWith : Option Loaded → Dict Item Item
  | some (.mapping entries) => entries
  | _ => Dict.empty

lemma withNested_of_filled (filled : ∃ loaded, current = some loaded ∧ loaded.IsFilled)
    (present : nested ≠ []) :
    withNested value nested current =
      some (.mapping ((filledWith current).update (namedDict value nested))) := by
  obtain ⟨⟨_ | ⟨entry, rest⟩, distinct⟩ | values | item, rfl, isFilled⟩ := filled
  · exact absurd rfl isFilled
  · unfold withNested
    rw [if_neg present, collectNested_eq]
    rfl
  · exact absurd isFilled not_false
  · exact absurd isFilled not_false

/-- Without numbers, a sub-key has the value that its variable gave or the option's own one. -/
lemma withNested_of_named (present : nested ≠ []) (noNumbers : numbered nested = []) :
    ∃ made : Dict Item Item, withNested value nested current = some (.mapping made) ∧
      ∀ key, made.get key =
        ((namedDict value nested).get key).or ((filledWith current).get key) := by
  by_cases filled : ∃ loaded, current = some loaded ∧ loaded.IsFilled
  · exact ⟨_, withNested_of_filled filled present, Dict.get_update _ _⟩
  · refine ⟨_, by rw [withNested_of_not_filled filled present, if_pos noNumbers], fun key => ?_⟩
    have nothing : (filledWith current).get key = none := by
      unfold filledWith
      split
      · rename_i entries
        have empty : entries.entries = [] := by
          by_contra some
          exact filled ⟨_, rfl, some⟩
        rw [Dict.get, empty]
        rfl
      · rfl
    rw [nothing, Option.or_none]

lemma ne_nil_of_numbered (numbers : numbered nested ≠ []) : nested ≠ [] := by
  rintro rfl
  exact numbers rfl

end Nested

/-- Each named sub-key is set by one variable with underscores, or by no such one and at most one
with a dot. -/
structure NamedOnce (dotted underscored : List (String × String)) : Prop where
  underscored_once : ∀ entry ∈ underscored, ∀ other ∈ underscored, subKeyIndex entry.2 = none →
    entry.2 = other.2 → entry = other
  dotted_once : ∀ entry ∈ dotted, ∀ other ∈ dotted, subKeyIndex entry.2 = none →
    entry.2 = other.2 → (∀ later ∈ underscored, later.2 ≠ entry.2) → entry = other

/-- The nested variables of an option make the same value in every order. -/
structure AnyNested (current : Option Loaded) (dotted underscored : List (String × String)) :
    Prop where
  alone : (∃ loaded, current = some loaded ∧ loaded.IsFilled) →
    numbered (dotted ++ underscored) = []
  names : numbered (dotted ++ underscored) = [] → NamedOnce dotted underscored
  numbers : numbered (dotted ++ underscored) ≠ [] →
    Insertion.AnyOrder Prod.snd (numbered dotted) (numbered underscored)

section Orders

variable {value : String → String} {current : Option Loaded}
  {dotted underscored f g : List (String × String)}

def withKey (key : Item) (nested : List (String × String)) : List (String × String) :=
  (named nested).filter fun entry => Item.text entry.2 = key

variable {entry : String × String} {nested : List (String × String)}

lemma mem_withKey {key : Item} :
    entry ∈ withKey key nested ↔
      entry ∈ nested ∧ subKeyIndex entry.2 = none ∧ Item.text entry.2 = key := by
  rw [withKey, mem_filter, named, mem_filter, Option.isNone_iff_eq_none,
    decide_eq_true_eq, and_assoc]

lemma withKey_append (key : Item) (first second : List (String × String)) :
    withKey key (first ++ second) = withKey key first ++ withKey key second := by
  rw [withKey, named, filter_append, filter_append]
  rfl

variable {first second : List (String × String)}

lemma get_namedDict (nested : List (String × String)) (key : Item) :
    (namedDict value nested).get key =
      (withKey key nested).getLast?.map fun entry => .text (value entry.1) := by
  rw [namedDict, Dict.get_setAll_last, filter_map, getLast?_map, Option.map_map,
    Dict.get_empty, Option.or_none]
  rfl

lemma NamedOnce.get_eq (once : NamedOnce dotted underscored) (inDotted : f.Perm dotted)
    (inUnderscored : g.Perm underscored) (key : Item) :
    (namedDict value (f ++ g)).get key = (namedDict value (dotted ++ underscored)).get key := by
  have later : (withKey key g).getLast? = (withKey key underscored).getLast? := by
    apply Reorder.getLast?_eq_of_perm ((inUnderscored.filter _).filter _)
    intro entry listed other also
    obtain ⟨present, letters, same⟩ := mem_withKey.mp listed
    obtain ⟨presentToo, -, sameToo⟩ := mem_withKey.mp also
    exact once.underscored_once entry present other presentToo letters
      (Item.text.inj (same.trans sameToo.symm))
  rw [get_namedDict, get_namedDict, withKey_append, withKey_append, getLast?_append,
    getLast?_append, later]
  cases last : (withKey key underscored).getLast? with
  | some entry => rfl
  | none =>
    rw [getLast?_eq_none_iff] at last
    have earlier : (withKey key f).getLast? = (withKey key dotted).getLast? := by
      apply Reorder.getLast?_eq_of_perm ((inDotted.filter _).filter _)
      intro entry listed other also
      obtain ⟨present, letters, same⟩ := mem_withKey.mp listed
      obtain ⟨presentToo, -, sameToo⟩ := mem_withKey.mp also
      apply once.dotted_once entry present other presentToo letters
        (Item.text.inj (same.trans sameToo.symm))
      intro late inLate equal
      have found : late ∈ withKey key underscored :=
        mem_withKey.mpr ⟨inLate, by rw [equal]; exact letters, by rw [equal]; exact same⟩
      rw [last] at found
      cases found
    rw [earlier]

lemma numbered_perm (arranged : first.Perm second) :
    (numbered first).Perm (numbered second) := arranged.filterMap _

lemma numbered_eq_nil_iff_of_perm (arranged : first.Perm second) :
    numbered first = [] ↔ numbered second = [] := by
  rw [← length_eq_zero_iff, (numbered_perm arranged).length_eq, length_eq_zero_iff]

lemma AnyNested.ordered (any : AnyNested current dotted underscored)
    (value : String → String) (numbers : numbered (dotted ++ underscored) ≠ [])
    (inDotted : f.Perm dotted) (inUnderscored : g.Perm underscored) :
    InNumberOrder value (numbered (dotted ++ underscored))
      (withNested value (f ++ g) current) := by
  have whole := inDotted.append inUnderscored
  have numbersToo : numbered (f ++ g) ≠ [] :=
    mt (numbered_eq_nil_iff_of_perm whole).mp numbers
  refine ⟨Insertion.insertAll Prod.snd [] (numbered (f ++ g)), ?_, ?_, ?_⟩
  · exact (Insertion.insertAll_perm [] _).trans (numbered_perm whole)
  · rw [numbered_append]
    exact (any.numbers numbers).increasing (numbered_perm inDotted) (numbered_perm inUnderscored)
  · rw [withNested_of_not_filled (mt any.alone numbers) (ne_nil_of_numbered numbersToo),
      if_neg numbersToo]
    rfl

lemma AnyNested.same (any : AnyNested current dotted underscored) (value : String → String)
    (inDotted : f.Perm dotted) (inUnderscored : g.Perm underscored) :
    SameValue (withNested value (f ++ g) current)
      (withNested value (dotted ++ underscored) current) := by
  have whole := inDotted.append inUnderscored
  by_cases numbers : numbered (dotted ++ underscored) = []
  · have numbersToo := (numbered_eq_nil_iff_of_perm whole).mpr numbers
    have once := any.names numbers
    by_cases empty : dotted ++ underscored = []
    · rw [empty] at whole ⊢
      rw [perm_nil.mp whole]
      exact sameValue_iff.mpr rfl
    · have emptyToo : f ++ g ≠ [] := fun none => empty (nil_perm.mp (none ▸ whole))
      obtain ⟨first, made, get_first⟩ := @withNested_of_named value _ current emptyToo numbersToo
      obtain ⟨second, madeToo, get_second⟩ := @withNested_of_named value _ current empty numbers
      rw [made, madeToo]
      intro key
      rw [get_first, get_second, once.get_eq inDotted inUnderscored]
  · obtain ⟨first, inFirst, increasing, made⟩ :=
      any.ordered value numbers inDotted inUnderscored
    obtain ⟨second, inSecond, increasingToo, madeToo⟩ :=
      any.ordered value numbers (.refl _) (.refl _)
    rw [Insertion.Increasing, pairwise_map] at increasing increasingToo
    have equal : first = second :=
      Perm.eq_of_pairwise (by omega) increasing increasingToo (inFirst.trans inSecond.symm)
    rw [made, madeToo, equal]
    exact sameValue_iff.mpr rfl

lemma mem_numbered {entry : (String × String) × Nat} :
    entry ∈ numbered nested ↔ entry.1 ∈ nested ∧ subKeyIndex entry.1.2 = some entry.2 := by
  rw [numbered, mem_filterMap]
  constructor
  · rintro ⟨source, listed, found⟩
    obtain ⟨index, digits, rfl⟩ := Option.map_eq_some_iff.mp found
    exact ⟨listed, digits⟩
  · rintro ⟨listed, digits⟩
    exact ⟨entry.1, listed, by rw [digits]; rfl⟩

lemma exists_numbered_eq {order : List ((String × String) × Nat)}
    (arranged : order.Perm (numbered nested)) : ∃ all, all.Perm nested ∧ numbered all = order := by
  have restores : ∀ (entry : String × String) (result : (String × String) × Nat),
      (subKeyIndex entry.2).map (fun index => (entry, index)) = some result →
        result.1 = entry := by
    intro entry result found
    obtain ⟨index, -, rfl⟩ := Option.map_eq_some_iff.mp found
    rfl
  obtain ⟨all, inNested, numbers, -⟩ := @Reorder.exists_perm_filterMap _ _ nested _
    (fun _ => none) Prod.fst restores (fun _ _ absurdity => nomatch absurdity)
    (fun _ => .inr rfl) order [] arranged (by simp)
  exact ⟨all, inNested, numbers⟩

lemma get_namedDict_of_last (value : String → String) (front : List (String × String))
    {back : List (String × String)} (letters : subKeyIndex entry.2 = none)
    (last : ∀ later ∈ back, later.2 ≠ entry.2) :
    (namedDict value ((front ++ [entry]) ++ back)).get (.text entry.2) =
      some (.text (value entry.1)) := by
  have behind : withKey (.text entry.2) back = [] := by
    rw [eq_nil_iff_forall_not_mem]
    intro later listed
    obtain ⟨present, -, same⟩ := mem_withKey.mp listed
    exact last later present (Item.text.inj same)
  have own : withKey (.text entry.2) [entry] = [entry] := by
    simp [withKey, named, letters]
  rw [get_namedDict, withKey_append, behind, append_nil, withKey_append, own,
    getLast?_concat]
  rfl

lemma eq_of_sameValue {key left right : Item}
    (same : SameValue (withNested value first current) (withNested value second current))
    (noNumbers : numbered first = []) (noNumbersToo : numbered second = [])
    (inFirst : (namedDict value first).get key = some left)
    (inSecond : (namedDict value second).get key = some right) : left = right := by
  have present : first ≠ [] := by
    rintro rfl
    cases inFirst
  have presentToo : second ≠ [] := by
    rintro rfl
    cases inSecond
  obtain ⟨_, made, get_first⟩ := withNested_of_named present noNumbers
  obtain ⟨_, madeToo, get_second⟩ := withNested_of_named presentToo noNumbersToo
  rw [made, madeToo] at same
  have equal := same key
  rw [get_first, get_second, inFirst, inSecond] at equal
  exact Option.some.inj equal

lemma exists_perm_concat (listed : entry ∈ nested) : ∃ front, (front ++ [entry]).Perm nested := by
  obtain ⟨rest, arranged⟩ := Insertion.exists_perm_cons listed
  exact ⟨rest, (perm_append_singleton entry rest).trans arranged⟩

section Necessary

variable
  (told : ∀ entry ∈ dotted ++ underscored, ∀ other ∈ dotted ++ underscored,
    value entry.1 = value other.1 → entry = other)

include told

lemma namedOnce_of_same (noNumbers : numbered (dotted ++ underscored) = [])
    (same : ∀ f g f' g', f.Perm dotted → g.Perm underscored → f'.Perm dotted →
      g'.Perm underscored → SameValue (withNested value (f ++ g) current)
        (withNested value (f' ++ g') current)) : NamedOnce dotted underscored := by
  have none {f g : List (String × String)} (inDotted : f.Perm dotted)
      (inUnderscored : g.Perm underscored) : numbered (f ++ g) = [] :=
    (numbered_eq_nil_iff_of_perm (inDotted.append inUnderscored)).mpr noNumbers
  refine ⟨fun entry listed other also letters equal => ?_,
    fun entry listed other also letters equal alone => ?_⟩
  · obtain ⟨front, last⟩ := exists_perm_concat listed
    obtain ⟨frontToo, lastToo⟩ := exists_perm_concat also
    have nothing (subKey : String) : ∀ later ∈ ([] : List (String × String)), later.2 ≠ subKey :=
      fun _ absurdity => nomatch absurdity
    have first := get_namedDict_of_last value (dotted ++ front) letters (nothing _)
    have second := get_namedDict_of_last value (dotted ++ frontToo) (equal ▸ letters) (nothing _)
    rw [append_nil, append_assoc] at first second
    rw [← equal] at second
    have values := eq_of_sameValue (same _ _ _ _ (.refl dotted) last (.refl dotted) lastToo)
      (none (.refl _) last) (none (.refl _) lastToo) first second
    exact told entry (mem_append_right _ listed) other (mem_append_right _ also)
      (Item.text.inj values)
  · obtain ⟨front, last⟩ := exists_perm_concat listed
    obtain ⟨frontToo, lastToo⟩ := exists_perm_concat also
    have first := get_namedDict_of_last value front letters alone
    have second := get_namedDict_of_last value frontToo (equal ▸ letters) (equal ▸ alone)
    rw [← equal] at second
    have values := eq_of_sameValue (same _ _ _ _ last (.refl _) lastToo (.refl _))
      (none last (.refl _)) (none lastToo (.refl _)) first second
    exact told entry (mem_append_left _ listed) other (mem_append_left _ also)
      (Item.text.inj values)

lemma anyOrder_of_ordered (replaced : ¬ ∃ loaded, current = some loaded ∧ loaded.IsFilled)
    (numbers : numbered (dotted ++ underscored) ≠ [])
    (ordered : ∀ f g, f.Perm dotted → g.Perm underscored →
      InNumberOrder value (numbered (dotted ++ underscored))
        (withNested value (f ++ g) current)) :
    Insertion.AnyOrder Prod.snd (numbered dotted) (numbered underscored) := by
  rw [← Insertion.increasing_insertAll_iff]
  intro firstNumbers secondNumbers inFirst inSecond
  obtain ⟨f, inDotted, rfl⟩ := exists_numbered_eq inFirst
  obtain ⟨g, inUnderscored, rfl⟩ := exists_numbered_eq inSecond
  have whole := inDotted.append inUnderscored
  have numbersToo : numbered (f ++ g) ≠ [] := mt (numbered_eq_nil_iff_of_perm whole).mp numbers
  obtain ⟨arranged, inAll, increasing, made⟩ := ordered f g inDotted inUnderscored
  rw [withNested_of_not_filled replaced (ne_nil_of_numbered numbersToo), if_neg numbersToo,
    Option.some.injEq, Loaded.list.injEq, numberedList] at made
  rw [← numbered_append]
  have equal := Reorder.eq_of_map_eq ?_ made
  · rw [equal]
    exact increasing
  · intro entry listed other also values
    have inNumbers := (numbered_perm whole).subset
      ((Insertion.insertAll_perm [] (numbered (f ++ g))).subset listed)
    obtain ⟨present, digits⟩ := mem_numbered.mp inNumbers
    obtain ⟨presentToo, digitsToo⟩ := mem_numbered.mp (inAll.subset also)
    have same := told entry.1 present other.1 presentToo values
    rw [same, digitsToo] at digits
    exact Prod.ext same (Option.some.inj digits).symm

lemma anyNested_of_orders
    (same : ∀ f g f' g', f.Perm dotted → g.Perm underscored → f'.Perm dotted →
      g'.Perm underscored → SameValue (withNested value (f ++ g) current)
        (withNested value (f' ++ g') current))
    (ordered : numbered (dotted ++ underscored) ≠ [] → ∀ f g, f.Perm dotted →
      g.Perm underscored → InNumberOrder value (numbered (dotted ++ underscored))
        (withNested value (f ++ g) current)) : AnyNested current dotted underscored := by
  have alone : (∃ loaded, current = some loaded ∧ loaded.IsFilled) →
      numbered (dotted ++ underscored) = [] := by
    intro filled
    by_contra numbers
    obtain ⟨arranged, -, -, made⟩ := ordered numbers dotted underscored (.refl _) (.refl _)
    rw [withNested_of_filled filled (ne_nil_of_numbered numbers)] at made
    cases made
  exact ⟨alone, fun noNumbers => namedOnce_of_same told noNumbers same,
    fun numbers => anyOrder_of_ordered told (mt alone numbers) numbers (ordered numbers)⟩

end Necessary

end Orders

structure Fields where
  list : List Field
  distinct : (list.map Field.name).Nodup
  apart : ∀ field ∈ list, ∀ other ∈ list, ∀ separator ∈ nestedEnvSeparators,
    fieldSubkey other.fieldEnv field.fieldEnv separator = none

section Subkeys

variable {key fieldEnv separator subKey : String}

lemma startsWith_of_fieldSubkey (found : fieldSubkey key fieldEnv separator = some subKey) :
    startsWith key (fieldEnv ++ separator) = true := by
  by_contra outside
  rw [fieldSubkey, nestedEnvSubkey, if_neg outside] at found
  cases found

lemma fieldSubkey_apart (key fieldEnv : String) :
    fieldSubkey key fieldEnv "." = none ∨ fieldSubkey key fieldEnv "__" = none := by
  cases dot : fieldSubkey key fieldEnv "." with
  | none => exact .inl rfl
  | some first =>
    cases underscores : fieldSubkey key fieldEnv "__" with
    | none => exact .inr rfl
    | some second =>
      obtain ⟨rest, equal⟩ := startsWith_iff.mp (startsWith_of_fieldSubkey dot)
      obtain ⟨other, equalToo⟩ := startsWith_iff.mp (startsWith_of_fieldSubkey underscores)
      rw [equal, String.toList_append, String.toList_append, append_assoc,
        append_assoc, append_cancel_left_eq] at equalToo
      cases equalToo

lemma mem_nestedUnder {envKeys : List String} {entry : String × String} :
    entry ∈ nestedUnder fieldEnv separator envKeys ↔
      entry.1 ∈ envKeys ∧ fieldSubkey entry.1 fieldEnv separator = some entry.2 := by
  rw [nestedUnder, mem_filterMap]
  constructor
  · rintro ⟨key, listed, found⟩
    obtain ⟨subKey, isSubKey, rfl⟩ := Option.map_eq_some_iff.mp found
    exact ⟨listed, isSubKey⟩
  · rintro ⟨listed, found⟩
    exact ⟨entry.1, listed, by rw [found]; rfl⟩

end Subkeys

section Fields

variable {fields : Fields} {env : Env} {field : Field}

def dotted (env : Env) (field : Field) : List (String × String) :=
  nestedUnder field.fieldEnv "." env.keys

def underscored (env : Env) (field : Field) : List (String × String) :=
  nestedUnder field.fieldEnv "__" env.keys

lemma nestedKeys_eq (env : Env) (field : Field) :
    nestedKeys env field.fieldEnv = dotted env field ++ underscored env field := by
  simp [nestedKeys, nestedEnvSeparators, dotted, underscored]

def ownValue (env : Env) (field : Field) : Option (Option Loaded) :=
  match env.get field.fieldEnv with
  | some raw => (field.fromEnv (strip raw)).map some
  | none => some none

lemma startsWith_of_nested {entry : String × String}
    (listed : entry ∈ dotted env field ++ underscored env field) :
    entry.1 ∈ env.keys ∧ startsWith entry.1 field.fieldEnv = true := by
  have nested : ∃ separator, entry ∈ nestedUnder field.fieldEnv separator env.keys := by
    rcases mem_append.mp listed with found | found
    · exact ⟨_, found⟩
    · exact ⟨_, found⟩
  obtain ⟨separator, nested⟩ := nested
  obtain ⟨present, found⟩ := mem_nestedUnder.mp nested
  obtain ⟨rest, equal⟩ := startsWith_iff.mp (startsWith_of_fieldSubkey found)
  rw [String.toList_append, append_assoc] at equal
  exact ⟨present, startsWith_iff.mpr ⟨_, equal⟩⟩

lemma fieldValue_eq (read : field.isSelfExported env = false) :
    fieldValue env field = (ownValue env field).map
      (withNested (nestedValue env) (dotted env field ++ underscored env field)) := by
  rw [fieldValue, nestedKeys_eq, read, if_neg Bool.false_ne_true, ownValue]
  split
  · cases env.get field.fieldEnv with
    | none => rfl
    | some raw =>
      rw [Option.map_map]
      rfl
  · rename_i unset
    have absent : ∀ key ∈ env.keys, startsWith key field.fieldEnv = false := by
      intro key listed
      rw [Bool.eq_false_iff]
      intro starts
      exact unset (any_eq_true.mpr ⟨key, listed, starts⟩)
    have noOwn : env.get field.fieldEnv = none := by
      rw [← Dict.notMem_iff]
      intro listed
      have itself : startsWith field.fieldEnv field.fieldEnv = true :=
        startsWith_iff.mpr ⟨[], (append_nil _).symm⟩
      rw [absent _ listed] at itself
      cases itself
    have noNested : dotted env field ++ underscored env field = [] := by
      rw [eq_nil_iff_forall_not_mem]
      intro entry listed
      obtain ⟨present, starts⟩ := startsWith_of_nested listed
      rw [absent _ present] at starts
      cases starts
    rw [noOwn, noNested]
    rfl

lemma exists_order {f g : List (String × String)} (inDotted : f.Perm (dotted env field))
    (inUnderscored : g.Perm (underscored env field)) :
    ∃ order : Env, order.entries.Perm env.entries ∧ dotted order field = f ∧
      underscored order field = g := by
  have restores (separator : String) : ∀ (key : String) (entry : String × String),
      (fieldSubkey key field.fieldEnv separator).map (fun subKey => (key, subKey)) = some entry →
        entry.1 = key := by
    intro key entry found
    obtain ⟨subKey, -, rfl⟩ := Option.map_eq_some_iff.mp found
    rfl
  obtain ⟨keys, inKeys, first, second⟩ := Reorder.exists_perm_filterMap (restores ".")
    (restores "__") (fun key => (fieldSubkey_apart key field.fieldEnv).imp
      (fun none => by rw [none]; rfl) (fun none => by rw [none]; rfl)) inDotted inUnderscored
  obtain ⟨order, keys_eq, arranged⟩ := Dict.exists_reordered env inKeys
  refine ⟨order, arranged, ?_, ?_⟩
  · rw [dotted, keys_eq]
    exact first
  · rw [underscored, keys_eq]
    exact second

lemma get_assigned (start : Dict String Loaded) (field : Field) (value : Option Loaded)
    (name : String) : (assigned start field value).get name =
      if name = field.name then value.or (start.get name) else start.get name := by
  cases value with
  | some value => exact Dict.get_set start field.name name value
  | none => exact (ite_self _).symm

lemma foldlM_loadField_eq_none_iff (list : List Field) (start : Dict String Loaded) :
    list.foldlM (loadField env) start = none ↔ ∃ field ∈ list, fieldValue env field = none := by
  induction list generalizing start with
  | nil => simp
  | cons first rest ih =>
    rw [foldlM_cons, loadField]
    cases found : fieldValue env first with
    | none => simp [found]
    | some value =>
      simp only [mem_cons, exists_eq_or_imp, found, reduceCtorEq, false_or]
      exact ih (assigned start first value)

variable {loaded : Dict String Loaded}

lemma get_foldlM_loadField {list : List Field} (distinct : (list.map Field.name).Nodup)
    {start : Dict String Loaded} (ran : list.foldlM (loadField env) start = some loaded) :
    (∀ field ∈ list, ∃ value, fieldValue env field = some value ∧
      loaded.get field.name = value.or (start.get field.name)) ∧
    ∀ name ∉ list.map Field.name, loaded.get name = start.get name := by
  induction list generalizing start with
  | nil =>
    cases ran
    exact ⟨fun _ absurdity => absurd absurdity not_mem_nil, fun _ _ => rfl⟩
  | cons first rest ih =>
    rw [map_cons, nodup_cons] at distinct
    rw [foldlM_cons, Option.bind_eq_bind, Option.bind_eq_some_iff] at ran
    obtain ⟨between, turn, ran⟩ := ran
    rw [loadField, Option.map_eq_some_iff] at turn
    obtain ⟨value, found, rfl⟩ := turn
    obtain ⟨set, kept⟩ := ih distinct.2 ran
    refine ⟨fun field listed => ?_, fun name absent => ?_⟩
    · rcases mem_cons.mp listed with rfl | later
      · exact ⟨value, found, by rw [kept _ distinct.1, get_assigned, if_pos rfl]⟩
      · have other : field.name ≠ first.name := fun equal =>
          distinct.1 (equal ▸ mem_map_of_mem later)
        obtain ⟨own, foundOwn, result⟩ := set field later
        exact ⟨own, foundOwn, by rw [result, get_assigned, if_neg other]⟩
    · rw [map_cons, mem_cons, not_or] at absent
      rw [kept name absent.2, get_assigned, if_neg absent.1]

lemma get_load (ran : loadEnvironmentVariables fields.list env = some loaded)
    (listed : field ∈ fields.list) : fieldValue env field = some (loaded.get field.name) := by
  obtain ⟨value, found, result⟩ := (get_foldlM_loadField fields.distinct ran).1 field listed
  rw [Dict.get_empty, Option.or_none] at result
  rw [found, result]

/-- The claim about one set of variables: every order loads the same configuration, and numbered
variables make the list of their values in the order of their numbers. -/
structure Determined (fields : Fields) (env : Env) : Prop where
  same : ∀ first second : Env, first.entries.Perm env.entries →
    second.entries.Perm env.entries →
      SameConfiguration (loadEnvironmentVariables fields.list first)
        (loadEnvironmentVariables fields.list second)
  ordered : ∀ order : Env, order.entries.Perm env.entries → ∀ loaded,
    loadEnvironmentVariables fields.list order = some loaded → ∀ field ∈ fields.list,
      field.isSelfExported env = false → numbered (nestedKeys env field.fieldEnv) ≠ [] →
        InNumberOrder (nestedValue env) (numbered (nestedKeys env field.fieldEnv))
          (loaded.get field.name)

/-- The same variables, and the same values of the options' own ones. -/
structure Revalued (fields : Fields) (env other : Env) : Prop where
  names : other.keys.Perm env.keys
  own : ∀ field ∈ fields.list, other.get field.fieldEnv = env.get field.fieldEnv

def Refused (env : Env) (field : Field) : Prop :=
  field.isSelfExported env = false ∧ ownValue env field = none

/-- The names of an option's nested variables suit every order and all values. -/
def AnyNames (env : Env) (field : Field) : Prop :=
  ∀ current, ownValue env field = some current →
    AnyNested current (dotted env field) (underscored env field)

lemma fieldValue_eq_none_iff : fieldValue env field = none ↔ Refused env field := by
  cases read : field.isSelfExported env with
  | true =>
    rw [fieldValue, read, if_pos rfl, Refused, read]
    simp
  | false => rw [fieldValue_eq read, Option.map_eq_none_iff, Refused, read, eq_self, true_and]

section Orders

variable {other order : Env}

lemma ownValue_congr (same : order.get field.fieldEnv = env.get field.fieldEnv) :
    ownValue order field = ownValue env field := by
  rw [ownValue, ownValue, same]

lemma isSelfExported_congr (same : order.get field.fieldEnv = env.get field.fieldEnv) :
    field.isSelfExported order = field.isSelfExported env := by
  rw [Field.isSelfExported, Field.isSelfExported, same]

lemma nestedValue_of_perm (arranged : order.entries.Perm other.entries) :
    nestedValue order = nestedValue other := by
  funext key
  rw [nestedValue, nestedValue, Dict.get_eq_of_perm arranged]

section

variable (revalued : Revalued fields env other)

include revalued

lemma Revalued.arranged
    (arranged : order.entries.Perm other.entries) : Revalued fields env order :=
  ⟨(arranged.map Prod.fst).trans revalued.names, fun field listed =>
    (Dict.get_eq_of_perm arranged field.fieldEnv).trans (revalued.own field listed)⟩

lemma Revalued.refused_iff
    (listed : field ∈ fields.list) : Refused other field ↔ Refused env field := by
  have same := revalued.own field listed
  rw [Refused, Refused, ownValue_congr same, isSelfExported_congr same]

lemma Revalued.load_eq_none_iff :
    loadEnvironmentVariables fields.list other = none ↔
      ∃ field ∈ fields.list, Refused env field := by
  rw [loadEnvironmentVariables, foldlM_loadField_eq_none_iff]
  constructor
  · rintro ⟨field, listed, failed⟩
    exact ⟨field, listed, (revalued.refused_iff listed).mp (fieldValue_eq_none_iff.mp failed)⟩
  · rintro ⟨field, listed, refused⟩
    exact ⟨field, listed, fieldValue_eq_none_iff.mpr ((revalued.refused_iff listed).mpr refused)⟩

variable {loaded : Dict String Loaded}

lemma Revalued.get_load (arranged : order.entries.Perm other.entries)
    (ran : loadEnvironmentVariables fields.list order = some loaded) (listed : field ∈ fields.list)
    (read : field.isSelfExported env = false) {current : Option Loaded}
    (own : ownValue env field = some current) :
    loaded.get field.name =
      withNested (nestedValue other) (dotted order field ++ underscored order field) current := by
  have same := (revalued.arranged arranged).own field listed
  have value := Config.get_load ran listed
  rw [fieldValue_eq ((isSelfExported_congr same).trans read), ownValue_congr same, own,
    nestedValue_of_perm arranged] at value
  exact (Option.some.inj value).symm

lemma Revalued.get_load_of_skipped (arranged : order.entries.Perm other.entries)
    (ran : loadEnvironmentVariables fields.list order = some loaded) (listed : field ∈ fields.list)
    (skipped : field.isSelfExported env = true) : loaded.get field.name = none := by
  have same := (revalued.arranged arranged).own field listed
  have value := Config.get_load ran listed
  rw [fieldValue, (isSelfExported_congr same).trans skipped, if_pos rfl] at value
  exact (Option.some.inj value).symm

end

end Orders

variable {other : Env}

lemma determined_of_refused (fails : ∃ field ∈ fields.list, Refused env field)
    (revalued : Revalued fields env other) : Determined fields other := by
  have failed (order : Env) (arranged : order.entries.Perm other.entries) :
      loadEnvironmentVariables fields.list order = none :=
    (revalued.arranged arranged).load_eq_none_iff.mpr fails
  refine ⟨fun first second inFirst inSecond => ?_, fun order arranged loaded ran => ?_⟩
  · rw [failed first inFirst, failed second inSecond]
    trivial
  · rw [failed order arranged] at ran
    cases ran

/-- Names that suit every order determine the configuration, whatever the values. -/
lemma determined_of_anyNames
    (any : ∀ field ∈ fields.list, field.isSelfExported env = false → AnyNames env field)
    (revalued : Revalued fields env other) : Determined fields other := by
  by_cases fails : ∃ field ∈ fields.list, Refused env field
  · exact determined_of_refused fails revalued
  · have taken {field : Field} (listed : field ∈ fields.list)
        (read : field.isSelfExported env = false) :
        ∃ current, ownValue env field = some current := by
      refine Option.ne_none_iff_exists'.mp fun none => ?_
      exact fails ⟨field, listed, read, none⟩
    refine ⟨fun first second inFirst inSecond => ?_, fun order arranged loaded ran => ?_⟩
    · have loads {order : Env} (arranged : order.entries.Perm other.entries) :
          ∃ loaded, loadEnvironmentVariables fields.list order = some loaded :=
        Option.ne_none_iff_exists'.mp
          (mt (revalued.arranged arranged).load_eq_none_iff.mp fails)
      obtain ⟨loaded, ran⟩ := loads inFirst
      obtain ⟨loadedToo, ranToo⟩ := loads inSecond
      rw [ran, ranToo]
      intro name
      by_cases listed : name ∈ fields.list.map Field.name
      · obtain ⟨field, present, rfl⟩ := mem_map.mp listed
        cases read : field.isSelfExported env with
        | true =>
          rw [revalued.get_load_of_skipped inFirst ran present read,
            revalued.get_load_of_skipped inSecond ranToo present read]
          trivial
        | false =>
          obtain ⟨current, own⟩ := taken present read
          rw [revalued.get_load inFirst ran present read own,
            revalued.get_load inSecond ranToo present read own]
          have nested := any field present read current own
          have canonical {order : Env} (arranged : order.entries.Perm other.entries) :=
            nested.same (f := dotted order field) (g := underscored order field)
              (nestedValue other) ((revalued.arranged arranged).names.filterMap _)
              ((revalued.arranged arranged).names.filterMap _)
          rw [sameValue_iff, sameValue_iff.mp (canonical inFirst),
            sameValue_iff.mp (canonical inSecond)]
      · rw [(get_foldlM_loadField fields.distinct ran).2 name listed,
          (get_foldlM_loadField fields.distinct ranToo).2 name listed]
        trivial
    · intro field listed read numbers
      have readToo := (isSelfExported_congr (revalued.own field listed)).symm.trans read
      obtain ⟨current, own⟩ := taken listed readToo
      have whole : (dotted other field ++ underscored other field).Perm
          (dotted env field ++ underscored env field) :=
        (revalued.names.filterMap _).append (revalued.names.filterMap _)
      rw [nestedKeys_eq] at numbers ⊢
      rw [revalued.get_load arranged ran listed readToo own]
      obtain ⟨order, inFirst, ordered⟩ := (any field listed readToo current own).ordered
        (nestedValue other)
        (mt (numbered_eq_nil_iff_of_perm whole).mpr numbers)
        ((revalued.arranged arranged).names.filterMap _)
        ((revalued.arranged arranged).names.filterMap _)
      exact ⟨order, inFirst.trans (numbered_perm whole).symm, ordered⟩

/-- The environment with the name of each nested variable as its value. -/
def tagged (fields : Fields) (env : Env) : Env :=
  env.mapEntries fun key value =>
    if key ∈ fields.list.map Field.fieldEnv then value else "a" ++ key ++ "a"

lemma keys_tagged : (tagged fields env).keys = env.keys := by
  rw [tagged, Dict.mapEntries, Dict.keys, map_map]
  rfl

lemma revalued_tagged : Revalued fields env (tagged fields env) := by
  refine ⟨List.Perm.of_eq keys_tagged, fun field listed => ?_⟩
  rw [tagged, Dict.get_mapEntries]
  cases env.get field.fieldEnv with
  | none => rfl
  | some value => rw [Option.map_some, if_pos (mem_map_of_mem listed)]

lemma nestedValue_tagged {key : String} (present : key ∈ env.keys)
    (nested : key ∉ fields.list.map Field.fieldEnv) :
    nestedValue (tagged fields env) key = "a" ++ key ++ "a" := by
  obtain ⟨value, found⟩ := (Dict.mem_iff env key).mp present
  have word : IsWord "a" := by decide
  rw [nestedValue, tagged, Dict.get_mapEntries, found, Option.map_some, if_neg nested,
    Option.getD_some, strip_between word]

lemma told_tagged (listed : field ∈ fields.list) :
    ∀ entry ∈ dotted env field ++ underscored env field,
      ∀ other ∈ dotted env field ++ underscored env field,
        nestedValue (tagged fields env) entry.1 = nestedValue (tagged fields env) other.1 →
          entry = other := by
  have subKey {entry : String × String}
      (inNested : entry ∈ dotted env field ++ underscored env field) :
      (fieldSubkey entry.1 field.fieldEnv ".").or (fieldSubkey entry.1 field.fieldEnv "__") =
        some entry.2 := by
    rcases mem_append.mp inNested with found | found
    · rw [(mem_nestedUnder.mp found).2, Option.some_or]
    · have underscores := (mem_nestedUnder.mp found).2
      have noDot := (fieldSubkey_apart entry.1 field.fieldEnv).resolve_right
        (by rw [underscores]; exact Option.some_ne_none _)
      rw [noDot, underscores, Option.none_or]
  have tag {entry : String × String}
      (inNested : entry ∈ dotted env field ++ underscored env field) :
      nestedValue (tagged fields env) entry.1 = "a" ++ entry.1 ++ "a" := by
    apply nestedValue_tagged (startsWith_of_nested inNested).1
    intro own
    obtain ⟨other, otherListed, equal⟩ := mem_map.mp own
    have found := subKey inNested
    rw [← equal, fields.apart field listed other otherListed "." (by decide),
      fields.apart field listed other otherListed "__" (by decide)] at found
    cases found
  intro entry inNested other otherInNested equal
  rw [tag inNested, tag otherInNested] at equal
  have keys : entry.1 = other.1 := by
    have lists := congrArg String.toList equal
    simp only [String.toList_append, append_assoc, append_cancel_left_eq,
      append_cancel_right_eq] at lists
    exact String.toList_inj.mp lists
  have found := subKey inNested
  rw [keys, subKey otherInNested] at found
  exact Prod.ext keys (Option.some.inj found).symm

/-- A configuration determined for values that tell the variables apart shows that the names suit
every order. -/
lemma anyNames_of_determined (determined : Determined fields (tagged fields env))
    (loads : ¬ ∃ field ∈ fields.list, Refused env field) (listed : field ∈ fields.list)
    (read : field.isSelfExported env = false) : AnyNames env field := by
  intro current own
  have revalued : Revalued fields env (tagged fields env) := revalued_tagged
  have sameDotted : dotted (tagged fields env) field = dotted env field := by
    rw [dotted, dotted, keys_tagged]
  have sameUnderscored : underscored (tagged fields env) field = underscored env field := by
    rw [underscored, underscored, keys_tagged]
  -- Every order of the nested variables is loaded with some order of the environment.
  have loaded {f g : List (String × String)} (inDotted : f.Perm (dotted env field))
      (inUnderscored : g.Perm (underscored env field)) :
      ∃ order loaded, order.entries.Perm (tagged fields env).entries ∧
        loadEnvironmentVariables fields.list order = some loaded ∧ loaded.get field.name =
          withNested (nestedValue (tagged fields env)) (f ++ g) current := by
    rw [← sameDotted] at inDotted
    rw [← sameUnderscored] at inUnderscored
    obtain ⟨order, arranged, rfl, rfl⟩ := exists_order inDotted inUnderscored
    obtain ⟨loaded, ran⟩ := Option.ne_none_iff_exists'.mp
      (mt (revalued.arranged arranged).load_eq_none_iff.mp loads)
    exact ⟨order, loaded, arranged, ran, revalued.get_load arranged ran listed read own⟩
  refine anyNested_of_orders (told_tagged listed) ?_ ?_
  · intro f g f' g' inDotted inUnderscored inDottedToo inUnderscoredToo
    obtain ⟨first, loadedFirst, inFirst, ran, made⟩ := loaded inDotted inUnderscored
    obtain ⟨second, loadedSecond, inSecond, ranToo, madeToo⟩ :=
      loaded inDottedToo inUnderscoredToo
    have same := determined.same first second inFirst inSecond
    rw [ran, ranToo] at same
    rw [← made, ← madeToo]
    exact same field.name
  · intro numbers f g inDotted inUnderscored
    obtain ⟨order, loadedOrder, arranged, ran, made⟩ := loaded inDotted inUnderscored
    have readToo := (isSelfExported_congr (revalued.own field listed)).trans read
    have ordered := determined.ordered order arranged loadedOrder ran field listed readToo
    rw [nestedKeys_eq, sameDotted, sameUnderscored, made] at ordered
    exact ordered numbers

/-- The configuration is the same in every order, for all values of the nested variables, exactly
when an own variable is refused or the names of the nested variables suit every order. -/
theorem determined_iff (fields : Fields) (env : Env) :
    (∀ other, Revalued fields env other → Determined fields other) ↔
      (∃ field ∈ fields.list, Refused env field) ∨
        ∀ field ∈ fields.list, field.isSelfExported env = false → AnyNames env field := by
  constructor
  · intro all
    rw [or_iff_not_imp_left]
    intro loads field listed read
    exact anyNames_of_determined (all _ revalued_tagged) loads listed read
  · rintro (fails | any) other revalued
    · exact determined_of_refused fails revalued
    · exact determined_of_anyNames any revalued

end Fields

def stressCmd : Field := ⟨"stress_cmd", fun raw => some (.parsed (.text raw)), none⟩

def commandsForward : Env := Dict.empty.setAll
  [("SCT_STRESS_CMD.0", "write"), ("SCT_STRESS_CMD.1", "read"), ("SCT_STRESS_CMD.2", "mixed")]

def commandsBackward : Env := Dict.empty.setAll
  [("SCT_STRESS_CMD.2", "mixed"), ("SCT_STRESS_CMD.1", "read"), ("SCT_STRESS_CMD.0", "write")]

def loadedCommands (env : Env) : Option (List String) :=
  (loadEnvironmentVariables [stressCmd] env).bind fun loaded =>
    (loaded.get "stress_cmd").bind fun
      | .list values => some values
      | _ => none

/-- The same variables in two orders load different lists, one of them out of order. -/
theorem commandsBackward_misordered :
    commandsBackward.entries = commandsForward.entries.reverse ∧
      loadedCommands commandsForward = some ["write", "read", "mixed"] ∧
      loadedCommands commandsBackward = some ["write", "mixed", "read"] := by
  decide

def stressFields : Fields where
  list := [stressCmd]
  distinct := by decide
  apart := by decide

def twoCommands : Env := Dict.empty.setAll
  [("SCT_STRESS_CMD.1", "read"), ("SCT_STRESS_CMD.0", "write")]

theorem twoCommands_determined : Determined stressFields twoCommands := by
  have names : AnyNames twoCommands stressCmd := by
    intro current own
    have absent : twoCommands.get stressCmd.fieldEnv = none := by decide
    rw [ownValue, absent] at own
    have numbers : numbered (dotted twoCommands stressCmd) =
        [(("SCT_STRESS_CMD.1", "1"), 1), (("SCT_STRESS_CMD.0", "0"), 0)] := by decide
    have noUnderscores : underscored twoCommands stressCmd = [] := by decide
    cases own
    rw [noUnderscores]
    refine ⟨?_, ?_, ?_⟩
    · rintro ⟨loaded, given, -⟩
      cases given
    · intro unnumbered
      rw [List.append_nil, numbers] at unnumbered
      cases unnumbered
    · intro _
      rw [numbers]
      exact ⟨by decide, by decide, by decide⟩
  refine (determined_iff stressFields twoCommands).mpr (.inr ?_) twoCommands
    ⟨List.Perm.refl _, fun _ _ => rfl⟩
  intro field listed _
  rw [List.mem_singleton.mp listed]
  exact names

end Sct.Config
