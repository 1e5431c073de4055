import Sct.Utils.VersionUtils

/-!
# Full version tags

A full version tag names one build of Scylla and starts with three numbers. What the patterns of
`version_utils.py` make of such a text, and what stands between its dots.
-/

namespace Sct.Utils

open Sct.Scan

/-- A number as a text writes it. -/
structure Numeral where
  text : List Char
  nonempty : text ≠ []
  digits : ∀ char ∈ text, isDigit char = true

def Numeral.value (numeral : Numeral) : Nat := digitsValue numeral.text

/-! ## Characters -/

section characters

variable {char : Char}

lemma isDigit_eq_false_of_isHex_eq_false (other : isHex char = false) : isDigit char = false :=
  (Bool.or_eq_false_iff.mp other).1

lemma isHex_of_isDigit (digit : isDigit char = true) : isHex char = true := by
  rw [isHex, digit, Bool.true_or]

lemma isAlphanumeric_of_isHex (hex : isHex char = true) : isAlphanumeric char = true := by
  simp only [isHex, Bool.or_eq_true, isDigit_iff, Bool.and_eq_true, decide_eq_true_eq, Char.le_def,
    UInt32.le_iff_toNat_le] at hex
  simp only [isAlphanumeric, Bool.or_eq_true, isDigit_iff, isLower_iff, isUpper_iff]
  have small : ('f' : Char).val.toNat = 102 := rfl
  have first : ('a' : Char).val.toNat = 97 := rfl
  have code : char.toNat = char.val.toNat := rfl
  omega

lemma Numeral.not_mem (numeral : Numeral) (other : isDigit char = false) :
    char ∉ numeral.text := fun listed => by
  rw [numeral.digits char listed] at other
  cases other

end characters

/-! ## Pieces between dots -/

/-- What stands between the dots of a text. -/
abbrev dotPieces (text : List Char) : List (List Char) := text.splitOnP (· == '.')

variable {text : List Char}

lemma splitOnP_of_no_dot (absent : '.' ∉ text) : dotPieces text = [text] :=
  List.splitOnP_eq_singleton fun _ listed =>
    beq_eq_false_iff_ne.mpr fun equal => absent (equal ▸ listed)

lemma splitOnP_dot (front rest : List Char) :
    dotPieces (front ++ '.' :: rest) = dotPieces front ++ dotPieces rest :=
  List.splitOnP_append_cons front rest rfl

variable (numeral : Numeral)

lemma Numeral.splitOnP_append (rest : List Char) :
    dotPieces (numeral.text ++ '.' :: rest) = numeral.text :: dotPieces rest := by
  rw [splitOnP_dot, splitOnP_of_no_dot (numeral.not_mem rfl), List.singleton_append]

lemma no_dot {accepts : Char → Bool} (refused : accepts '.' = false)
    (accepted : ∀ char ∈ text, accepts char = true) : '.' ∉ text := fun listed => by
  rw [accepted '.' listed] at refused
  cases refused

/-! ## Three numbers -/

variable {rest : List Char}

lemma majorMinor_append (major minor : Numeral)
    (stops : ∀ char ∈ rest.head?, isDigit char = false) :
    majorMinor (major.text ++ '.' :: (minor.text ++ rest)) =
      some (major.text, minor.text, rest) := by
  rw [majorMinor, run_append major.nonempty major.digits (head_refused rfl)]
  simp only [Option.bind_eq_bind, Option.bind_some]
  rw [one_cons rfl]
  simp only [Option.bind_some]
  rw [run_append minor.nonempty minor.digits stops]
  rfl

lemma threeNumbers_append (major minor patch : Numeral)
    (stops : ∀ char ∈ rest.head?, isDigit char = false) :
    threeNumbers (major.text ++ '.' :: (minor.text ++ '.' :: (patch.text ++ rest))) =
      some (major.text ++ '.' :: minor.text ++ '.' :: patch.text, rest) := by
  rw [threeNumbers, majorMinor_append major minor (head_refused rfl)]
  simp only [Option.bind_eq_bind, Option.bind_some]
  rw [one_cons rfl]
  simp only [Option.bind_some]
  rw [run_append patch.nonempty patch.digits stops]
  rfl

lemma fullVersionTag_append (major minor patch : Numeral)
    (stops : ∀ char ∈ rest.head?, isDigit char = false)
    (accepted : (plainTag rest || dottedTag rest) = true) :
    fullVersionTag (String.ofList
        (major.text ++ '.' :: (minor.text ++ '.' :: (patch.text ++ rest)))) =
      some (String.ofList major.text, String.ofList minor.text) := by
  rw [fullVersionTag, String.toList_ofList, majorMinor_append major minor (head_refused rfl)]
  simp only [Option.bind_eq_bind, Option.bind_some]
  rw [one_cons rfl]
  simp only [Option.bind_some]
  rw [run_append patch.nonempty patch.digits stops]
  simp only [Option.bind_some]
  rw [if_pos accepted]
  rfl

end Sct.Utils
