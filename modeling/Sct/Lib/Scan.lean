import Sct.Lib.Words

/-!
# Scanning text

Scanners for the regular expressions of a program. A scanner takes characters from the front of a
text and returns what it took and what is left. A repetition takes as many characters as it can,
which is what the expressions mean whenever what follows it accepts none of those characters.
-/

open List

namespace Sct.Scan

/-- `[accepts]+`: the longest run, not empty. -/
def run (accepts : Char → Bool) (text : List Char) : Option (List Char × List Char) :=
  match text.takeWhile accepts with
  | [] => none
  | char :: more => some (char :: more, text.dropWhile accepts)

def one (accepts : Char → Bool) : List Char → Option (List Char)
  | [] => none
  | char :: rest => if accepts char then some rest else none

def literal (expected text : List Char) : Option (List Char) :=
  if expected.isPrefixOf text then some (text.drop expected.length) else none

/-- `[accepts]{count}`. -/
def times (accepts : Char → Bool) (count : Nat) (text : List Char) :
    Option (List Char × List Char) :=
  if count ≤ text.length ∧ (text.take count).all accepts then
    some (text.take count, text.drop count)
  else none

/-- `$`: the end of the text, or of a text that goes on with one line feed. -/
def atEnd (text : List Char) : Bool := text == [] || text == ['\n']

/-- `[0-9]`. -/
def isDigit (char : Char) : Bool := '0' ≤ char && char ≤ '9'

/-- `[a-z]`. -/
def isLower (char : Char) : Bool := 'a' ≤ char && char ≤ 'z'

/-- `[A-Z]`. -/
def isUpper (char : Char) : Bool := 'A' ≤ char && char ≤ 'Z'

/-- `[0-9a-zA-Z]`. -/
def isAlphanumeric (char : Char) : Bool := isDigit char || isLower char || isUpper char

/-- `[0-9a-f]`. -/
def isHex (char : Char) : Bool := isDigit char || ('a' ≤ char && char ≤ 'f')

/-- `int(text)` of a run of digits. -/
def digitsValue (text : List Char) : Nat := Nat.ofDigitChars 10 text 0

lemma isDigit_iff (char : Char) : isDigit char = true ↔ 48 ≤ char.toNat ∧ char.toNat ≤ 57 := by
  simp [isDigit, Char.le_def, UInt32.le_iff_toNat_le]

lemma isLower_iff (char : Char) : isLower char = true ↔ 97 ≤ char.toNat ∧ char.toNat ≤ 122 := by
  simp [isLower, Char.le_def, UInt32.le_iff_toNat_le]

lemma isUpper_iff (char : Char) : isUpper char = true ↔ 65 ≤ char.toNat ∧ char.toNat ≤ 90 := by
  simp [isUpper, Char.le_def, UInt32.le_iff_toNat_le]

lemma isSpace_of_isAlphanumeric {char : Char} (visible : isAlphanumeric char = true) :
    isSpace char = false := by
  simp only [isAlphanumeric, Bool.or_eq_true, isDigit_iff, isLower_iff, isUpper_iff] at visible
  simp only [isSpace, Bool.or_eq_false_iff, Bool.and_eq_false_iff, decide_eq_false_iff_not]
  omega

lemma run_accepts {accepts : Char → Bool} {text taken rest : List Char}
    (scanned : run accepts text = some (taken, rest)) :
    taken ≠ [] ∧ ∀ char ∈ taken, accepts char = true := by
  have all : ∀ char ∈ text.takeWhile accepts, accepts char = true :=
    fun char listed => mem_takeWhile_imp listed
  unfold run at scanned
  split at scanned
  · cases scanned
  · rename_i char more took
    obtain ⟨rfl, rfl⟩ := Prod.mk.inj (Option.some.inj scanned)
    exact ⟨cons_ne_nil _ _, fun char listed => all char (took ▸ listed)⟩

/-! ## Replacing -/

/-- The loop of `replace`: `skip` characters of an occurrence are still to be passed over. -/
def replaceFrom (old new : List Char) : Nat → List Char → List Char
  | _, [] => []
  | skip + 1, _ :: rest => replaceFrom old new skip rest
  | 0, char :: rest =>
    if old.isPrefixOf (char :: rest) then new ++ replaceFrom old new (old.length - 1) rest
    else char :: replaceFrom old new 0 rest

/-- `text.replace(old, new)`, for an `old` that is not empty. -/
def replace (old new text : List Char) : List Char := replaceFrom old new 0 text

/-- Replacing a text that is not blank by another leaves a text blank or not blank as it is. -/
lemma replace_all_space (old new text : List Char)
    (oldSolid : old.all isSpace = false) (newSolid : new.all isSpace = false) :
    (replace old new text).all isSpace = text.all isSpace := by
  unfold replace
  induction h : text.length using Nat.strong_induction_on generalizing text with
  | _ length ih =>
    subst h
    cases text with
    | nil => rfl
    | cons char rest =>
      rw [replaceFrom]
      split
      · rename_i found
        obtain ⟨after, split⟩ := isPrefixOf_iff_prefix.mp found
        rw [all_append, newSolid, ← split, all_append, oldSolid, Bool.false_and,
          Bool.false_and]
      · rw [all_cons, all_cons, ih rest.length (by simp) rest rfl]

end Sct.Scan
