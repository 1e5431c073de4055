import Sct.Lib.Scan

/-!
# Searching text

`re.search` tries an expression at every position of a text and takes the first where it
succeeds. A scanner succeeds on a text put together from the pieces it takes, and what it succeeds
on is such a text.
-/

open List

namespace Sct.Scan

/-! ## Pieces of a text -/

section pieces

variable {accepts : Char → Bool} {char : Char}

lemma head_refused {rest : List Char} (refused : accepts char = false) :
    ∀ next ∈ (char :: rest).head?, accepts next = false := by
  intro next first
  rw [← Option.some.inj first]
  exact refused

lemma run_append {taken rest : List Char} (nonempty : taken ≠ [])
    (accepted : ∀ char ∈ taken, accepts char = true)
    (stops : ∀ char ∈ rest.head?, accepts char = false) :
    run accepts (taken ++ rest) = some (taken, rest) := by
  have ends : rest.takeWhile accepts = [] ∧ rest.dropWhile accepts = rest := by
    cases rest with
    | nil => exact ⟨rfl, rfl⟩
    | cons char rest =>
      have refused : accepts char = false := stops char rfl
      simp [refused]
  unfold run
  rw [takeWhile_append_of_pos accepted, dropWhile_append_of_pos accepted, ends.1, ends.2,
    append_nil]
  cases taken with
  | nil => exact absurd rfl nonempty
  | cons char more => rfl

variable {taken : List Char}

lemma run_all (nonempty : taken ≠ []) (accepted : ∀ char ∈ taken, accepts char = true) :
    run accepts taken = some (taken, []) := by
  have ran := @run_append accepts taken [] nonempty accepted (fun _ first => nomatch first)
  rwa [append_nil] at ran

variable {text taken rest : List Char}

lemma run_eq_append (scanned : run accepts text = some (taken, rest)) : text = taken ++ rest := by
  unfold run at scanned
  split at scanned
  · cases scanned
  · rename_i char more took
    obtain ⟨rfl, rfl⟩ := Prod.mk.inj (Option.some.inj scanned)
    rw [← took, takeWhile_append_dropWhile]

lemma one_cons (accepted : accepts char = true) (rest : List Char) :
    one accepts (char :: rest) = some rest := if_pos accepted

lemma one_eq_cons {expected : Char} {text rest : List Char}
    (scanned : one (· == expected) text = some rest) : text = expected :: rest := by
  cases text with
  | nil => cases scanned
  | cons char more =>
    by_cases equal : char == expected
    · rw [one, if_pos equal] at scanned
      rw [eq_of_beq equal, Option.some.inj scanned]
    · rw [one, if_neg equal] at scanned
      cases scanned

lemma literal_append (expected rest : List Char) :
    literal expected (expected ++ rest) = some rest := by
  have starts := isPrefixOf_iff_prefix.mpr (prefix_append expected rest)
  rw [literal, if_pos starts, drop_left]

lemma literal_eq_append {expected text rest : List Char}
    (scanned : literal expected text = some rest) : text = expected ++ rest := by
  unfold literal at scanned
  split at scanned
  · rename_i starts
    obtain ⟨after, rfl⟩ := isPrefixOf_iff_prefix.mp starts
    rw [drop_left] at scanned
    rw [Option.some.inj scanned]
  · cases scanned

lemma times_append (accepted : ∀ char ∈ taken, accepts char = true) (rest : List Char) :
    times accepts taken.length (taken ++ rest) = some (taken, rest) := by
  have all : (taken.all accepts) = true := all_eq_true.mpr accepted
  simp [times, all]

lemma times_eq_append {count : Nat} (scanned : times accepts count text = some (taken, rest)) :
    text = taken ++ rest ∧ taken.length = count ∧ ∀ char ∈ taken, accepts char = true := by
  unfold times at scanned
  split at scanned
  · rename_i fits
    obtain ⟨rfl, rfl⟩ := Prod.mk.inj (Option.some.inj scanned)
    refine ⟨(take_append_drop count text).symm, ?_, all_eq_true.mp fits.2⟩
    rw [length_take, Nat.min_eq_left fits.1]
  · cases scanned

variable {left right moreLeft moreRight : List Char} {endLeft endRight : Char}

/-- Two runs that end at refused characters are equal when the texts are. -/
lemma run_append_inj (acceptedLeft : ∀ char ∈ left, accepts char = true)
    (acceptedRight : ∀ char ∈ right, accepts char = true) (stopsLeft : accepts endLeft = false)
    (stopsRight : accepts endRight = false)
    (equal : left ++ endLeft :: moreLeft = right ++ endRight :: moreRight) :
    left = right ∧ endLeft = endRight ∧ moreLeft = moreRight := by
  have fronts : left = right := by
    have taken := congrArg (List.takeWhile accepts) equal
    rw [takeWhile_append_of_pos acceptedLeft, takeWhile_append_of_pos acceptedRight,
      takeWhile_cons_of_neg (by simp [stopsLeft]),
      takeWhile_cons_of_neg (by simp [stopsRight])] at taken
    simpa using taken
  subst fronts
  exact ⟨rfl, List.cons.inj (append_cancel_left equal)⟩

end pieces

/-! ## Replacing what does not occur -/

lemma replace_char (old : Char) (new text : List Char) :
    replace [old] new text = text.flatMap fun char => if char = old then new else [char] := by
  unfold replace
  induction text with
  | nil => rfl
  | cons char rest ih =>
    have starts : [old].isPrefixOf (char :: rest) = (old == char) := by
      rw [isPrefixOf_cons_cons, isPrefixOf_nil_left, Bool.and_true]
    rw [replaceFrom, flatMap_cons, length_singleton, ih, starts]
    by_cases same : char = old
    · subst same
      rw [if_pos BEq.rfl, if_pos rfl]
    · have differ : ¬ (old == char) = true := fun equal => same (beq_iff_eq.mp equal).symm
      rw [if_neg differ, if_neg same]
      rfl

/-- `text.replace(old, new)` of one character by another. -/
def exchange (old new : Char) (text : List Char) : List Char :=
  text.map fun char => if char == old then new else char

lemma exchange_cons (old new char : Char) (rest : List Char) :
    exchange old new (char :: rest) =
      (if char == old then new else char) :: exchange old new rest := rfl

variable {text : List Char}

/-- A text without the character to be exchanged is left as it is. -/
lemma exchange_of_absent {old : Char} (new : Char) (absent : old ∉ text) :
    exchange old new text = text := by
  have kept : ∀ char ∈ text, (if char == old then new else char) = char := by
    intro char listed
    have differ : char ≠ old := fun equal => absent (equal ▸ listed)
    rw [if_neg (by simpa using differ)]
  rw [exchange, map_congr_left kept, map_id']

/-- A character other than the two stands in the result only if it stood in the text. -/
lemma mem_of_mem_exchange {old new char : Char} (differ : char ≠ new)
    (listed : char ∈ exchange old new text) : char ∈ text := by
  obtain ⟨before, listed, exchanged⟩ := mem_map.mp listed
  split at exchanged
  · exact absurd exchanged.symm differ
  · exact exchanged ▸ listed

variable {old new : Char}

lemma exchange_exchange (absent : new ∉ text) :
    exchange new old (exchange old new text) = text := by
  rw [exchange, exchange, map_map]
  have kept : ∀ char ∈ text, ((fun char => if char == new then old else char) ∘
      fun char => if char == old then new else char) char = char := by
    intro char listed
    have differ : char ≠ new := fun equal => absent (equal ▸ listed)
    by_cases same : char = old
    · simp [same]
    · simp [same, differ]
  rw [map_congr_left kept, map_id']

lemma splitOnP_exchange (absent : new ∉ text) :
    (exchange old new text).splitOnP (· == new) = text.splitOnP (· == old) := by
  induction text with
  | nil => rfl
  | cons char rest ih =>
    have later : new ∉ rest := fun listed => absent (mem_cons_of_mem _ listed)
    have differ : char ≠ new := fun equal => absent (equal ▸ mem_cons_self)
    rw [exchange_cons, splitOnP_cons_eq_if_modifyHead, splitOnP_cons_eq_if_modifyHead, ih later]
    by_cases same : char = old
    · simp [same]
    · simp [same, differ]

lemma not_mem_exchange (differ : old ≠ new) (text : List Char) : old ∉ exchange old new text := by
  intro listed
  obtain ⟨char, -, exchanged⟩ := mem_map.mp listed
  by_cases same : char = old
  · rw [if_pos (beq_iff_eq.mpr same)] at exchanged
    exact differ exchanged.symm
  · rw [if_neg (by simpa using same)] at exchanged
    exact same exchanged

/-! ## Searches -/

section searches

variable {β : Type} {scan : List Char → Option β}

/-- `re.search`: the first position where the scanner succeeds. -/
def search (scan : List Char → Option β) : List Char → Option β
  | [] => scan []
  | char :: rest => (scan (char :: rest)).or (search scan rest)

end searches

end Sct.Scan
