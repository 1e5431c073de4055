import Mathlib.Data.List.Infix
import Mathlib.Data.List.Sort
import Mathlib.Data.List.TakeWhile
import Mathlib.Data.String.Basic

/-!
# Splitting and joining text

Python's `str.split()` cuts a text at runs of white space and returns the non-empty pieces;
`" ".join` puts pieces back with one blank between them. A piece is a *word*: not empty and
free of white space. Splitting returns only words, and splitting a join of words returns them.
`splitOn` is `str.split(separator)` for a one-character separator, which keeps empty pieces and
so never returns an empty list.
-/

open List

namespace Sct

/-- `str.isspace` of one character. -/
def isSpace (char : Char) : Bool :=
  let code := char.toNat
  (9 ≤ code && code ≤ 13) || (28 ≤ code && code ≤ 32) || code = 0x85 || code = 0xa0 ||
    code = 0x1680 || (0x2000 ≤ code && code ≤ 0x200a) || code = 0x2028 || code = 0x2029 ||
    code = 0x202f || code = 0x205f || code = 0x3000

/-- `text.split()`. -/
def words (text : String) : List String :=
  ((text.toList.splitOnP isSpace).filter (fun piece => !piece.isEmpty)).map String.ofList

/-- `" ".join(pieces)`. -/
def unwords (pieces : List String) : String := " ".intercalate pieces

/-- `text.split(separator)`. -/
def splitOn (separator : Char) (text : String) : List String :=
  (text.toList.splitOnP (· == separator)).map String.ofList

def strip (text : String) : String :=
  String.ofList (((text.toList.dropWhile isSpace).reverse.dropWhile isSpace).reverse)

/-- `text.rsplit(separator, 1)`, when the separator occurs: what stands before its last
occurrence and what stands after it. -/
def splitLast (separator : Char) (text : String) : Option (String × String) :=
  let pieces := text.toList.splitOnP (· == separator)
  if pieces.length < 2 then none
  else some (String.ofList (List.intercalate [separator] pieces.dropLast),
    String.ofList (pieces.getLast?.getD []))

/-- How Python prints a list of texts without quotes or escapes in them. -/
def formatList (items : List String) : String :=
  "[" ++ ", ".intercalate (items.map fun item => "'" ++ item ++ "'") ++ "]"

/-- How Python prints a tuple of texts without quotes or escapes in them. -/
def formatTuple (items : List String) : String :=
  "(" ++ ", ".intercalate (items.map fun item => "'" ++ item ++ "'") ++
    (if items.length = 1 then ",)" else ")")

/-- `text.startswith(start)`. -/
def startsWith (text start : String) : Bool := start.toList.isPrefixOf text.toList

/-- An optional text that is neither absent nor empty, as conditions test it. -/
def truthy : Option String → Option String
  | some text => if text = "" then none else some text
  | none => none

/-- `needle in text`. -/
def contains (text needle : String) : Bool := decide (needle.toList <:+: text.toList)

/-- A text that splits into itself. -/
structure IsWord (text : String) : Prop where
  nonempty : text.toList ≠ []
  /-- No character of a word is white space. -/
  solid : ∀ char ∈ text.toList, isSpace char = false

instance (text : String) : Decidable (IsWord text) :=
  decidable_of_iff (text.toList.isEmpty = false ∧ (text.toList.all fun char => !isSpace char) = true)
    ⟨fun checked => ⟨by simpa using checked.1, by simpa using checked.2⟩,
      fun word => ⟨by simpa using word.nonempty, by simpa using word.solid⟩⟩

/-- Stripping leaves nothing of a text of white space, and of no other. -/
lemma strip_eq_empty_iff (text : String) :
    strip text = "" ↔ text.toList.all isSpace = true := by
  have emptied : strip text = "" ↔
      ((text.toList.dropWhile isSpace).reverse.dropWhile isSpace).reverse = [] := by
    rw [strip, ← String.toList_inj, String.toList_ofList]
    rfl
  rw [emptied, reverse_eq_nil_iff, dropWhile_eq_nil_iff, all_eq_true]
  constructor
  · intro tail char listed
    by_cases kept : char ∈ text.toList.dropWhile isSpace
    · exact tail char (mem_reverse.mpr kept)
    · have front : char ∈ text.toList.takeWhile isSpace := by
        rw [← takeWhile_append_dropWhile (p := isSpace) (l := text.toList)] at listed
        exact (mem_append.mp listed).resolve_right kept
      exact mem_takeWhile_imp front
  · intro all char listed
    exact all char (dropWhile_subset _ (mem_reverse.mp listed))

variable {text start : String}

lemma startsWith_iff :
    startsWith text start = true ↔ ∃ rest, text.toList = start.toList ++ rest := by
  rw [startsWith, isPrefixOf_iff_prefix]
  constructor
  · rintro ⟨rest, equal⟩
    exact ⟨rest, equal.symm⟩
  · rintro ⟨rest, equal⟩
    exact ⟨rest, equal.symm⟩

lemma dropWhile_isSpace_append {word : List Char} (nonempty : word ≠ [])
    (solid : ∀ char ∈ word, isSpace char = false) (rest : List Char) :
    (word ++ rest).dropWhile isSpace = word ++ rest := by
  cases word with
  | nil => exact absurd rfl nonempty
  | cons char word =>
    rw [cons_append, dropWhile_cons_of_neg]
    rw [solid char mem_cons_self]
    exact Bool.false_ne_true

variable {word : String}

/-- A text that starts and ends with a word has nothing to strip. -/
lemma strip_of_ends (solid : IsWord word) {text : String} {front rest : List Char}
    (starts : text.toList = word.toList ++ rest) (ends : text.toList = front ++ word.toList) :
    strip text = text := by
  have reversed : word.toList.reverse ≠ [] := mt reverse_eq_nil_iff.mp solid.nonempty
  have reversedSolid : ∀ char ∈ word.toList.reverse, isSpace char = false := fun char listed =>
    solid.solid char (mem_reverse.mp listed)
  apply String.toList_inj.mp
  rw [strip, String.toList_ofList, starts, dropWhile_isSpace_append solid.nonempty solid.solid,
    ← starts, ends, reverse_append, dropWhile_isSpace_append reversed reversedSolid,
    ← reverse_append, reverse_reverse]

lemma strip_between (solid : IsWord word) (text : String) :
    strip (word ++ text ++ word) = word ++ text ++ word := by
  apply strip_of_ends solid
  · rw [String.toList_append, String.toList_append, append_assoc]
  · exact String.toList_append

lemma strip_of_isWord (solid : IsWord word) : strip word = word :=
  strip_of_ends solid (append_nil _).symm (nil_append _).symm

lemma startsWith_strip (word : IsWord start) (starts : startsWith text start = true) :
    startsWith (strip text) start = true := by
  obtain ⟨rest, equal⟩ := startsWith_iff.mp starts
  have reversed : start.toList.reverse ≠ [] := mt reverse_eq_nil_iff.mp word.nonempty
  have solid : ∀ char ∈ start.toList.reverse, isSpace char = false := fun char listed =>
    word.solid char (mem_reverse.mp listed)
  have kept := dropWhile_isSpace_append reversed solid []
  rw [append_nil] at kept
  rw [startsWith_iff, strip, equal, dropWhile_isSpace_append word.nonempty word.solid,
    reverse_append, dropWhile_append, String.toList_ofList]
  split
  · rw [kept, reverse_reverse]
    exact ⟨[], (append_nil _).symm⟩
  · rw [reverse_append, reverse_reverse]
    exact ⟨_, rfl⟩

lemma mem_splitOnP_solid {α : Type} (separates : α → Bool) (items : List α) :
    ∀ piece ∈ items.splitOnP separates, ∀ item ∈ piece, separates item = false := by
  induction items with
  | nil => simp
  | cons head rest ih =>
    rw [splitOnP_cons_eq_if_modifyHead]
    split
    · intro piece listed
      rcases mem_cons.mp listed with rfl | listed
      · simp
      · exact ih piece listed
    · rename_i solid
      cases pieces : rest.splitOnP separates with
      | nil => simp
      | cons first others =>
        rw [pieces] at ih
        simp only [modifyHead_cons, mem_cons]
        rintro piece (rfl | listed) item member
        · rcases mem_cons.mp member with rfl | member
          · simpa using solid
          · exact ih first mem_cons_self item member
        · exact ih piece (mem_cons_of_mem first listed) item member

lemma isWord_of_mem_words {text piece : String} (listed : piece ∈ words text) :
    IsWord piece := by
  obtain ⟨chars, kept, rfl⟩ := mem_map.mp listed
  obtain ⟨split, nonempty⟩ := mem_filter.mp kept
  constructor
  · simpa using nonempty
  · rw [String.toList_ofList]
    exact mem_splitOnP_solid isSpace _ chars split

/-- The empty text has no words. -/
@[simp]
lemma words_empty : words "" = [] := by decide

variable {text : String}

lemma words_of_isWord (word : IsWord text) : words text = [text] := by
  simp [words, splitOnP_eq_singleton word.solid, word.nonempty]

lemma words_append_space (word : IsWord text) (rest : String) :
    words (text ++ " " ++ rest) = text :: words rest := by
  have blank : isSpace ' ' = true := by decide
  have chars : (text ++ " " ++ rest).toList = text.toList ++ ' ' :: rest.toList := by simp
  rw [words, chars, splitOnP_append_cons_of_forall_mem word.solid ' ' blank]
  simp [words, word.nonempty]

lemma words_unwords {pieces : List String} (all : ∀ piece ∈ pieces, IsWord piece) :
    words (unwords pieces) = pieces := by
  induction pieces with
  | nil => simp [unwords]
  | cons first rest ih =>
    have word := all first mem_cons_self
    have others := ih fun piece listed => all piece (mem_cons_of_mem first listed)
    cases rest with
    | nil => simpa [unwords] using words_of_isWord word
    | cons second more =>
      rw [unwords, String.intercalate_cons_cons, words_append_space word]
      rw [unwords] at others
      rw [others]

lemma splitOn_ne_nil (separator : Char) (text : String) : splitOn separator text ≠ [] := by
  simp [splitOn, splitOnP_ne_nil]

/-! ## Sorting texts -/

/-- `sorted` of texts. -/
def sortTexts (texts : List String) : List String := texts.insertionSort (· ≤ ·)

/-- Order names by score, best first, and by name where the scores are equal. -/
def bestFirst {α : Type} [LT α] [DecidableLT α] [DecidableEq α] (score : String → α)
    (names : List String) : List String :=
  names.insertionSort fun left right =>
    score right < score left ∨ (score left = score right ∧ left ≤ right)

lemma mem_sortTexts {texts : List String} : text ∈ sortTexts texts ↔ text ∈ texts :=
  (perm_insertionSort _ texts).mem_iff

lemma mem_bestFirst {α : Type} [LT α] [DecidableLT α] [DecidableEq α] {score : String → α}
    {names : List String} : text ∈ bestFirst score names ↔ text ∈ names :=
  (perm_insertionSort _ names).mem_iff

/-! ## Numbers as text -/

lemma toString_injective : Function.Injective (toString : Nat → String) := by
  intro left right same
  rw [Nat.toString_eq_ofList_toDigits, Nat.toString_eq_ofList_toDigits, String.ofList_inj] at same
  have value := congrArg (Nat.ofDigitChars 10 · 0) same
  simp only [Nat.ofDigitChars_ten_toDigits] at value
  exact value

end Sct
