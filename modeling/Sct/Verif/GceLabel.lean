import Sct.Utils.GceLabel
import Sct.Verif.ScyllaTag

/-!
# From a version to a label and back

`_resolve_version_from_gce_image` puts a dot for every dash of a label, so what it returns is a full
version tag only if the tag is a release candidate in the spelling with dots. For the label of any
other build it disagrees with `_gce_label_to_version`. `rebuilds_iff` says so about a label, and
`rebuilds_label_iff` about the tags that have one.
-/

namespace Sct.Utils

open Sct.Scan
open List
open Option (bind_eq_bind bind_eq_some_iff bind_some)

/-! ## Release candidates with dots -/

variable {rest : List Char}

lemma exists_numeral {text taken : List Char} (ran : run isDigit text = some (taken, rest)) :
    ∃ numeral : Numeral, numeral.text = taken ∧ text = numeral.text ++ rest :=
  ⟨⟨taken, (run_accepts ran).1, (run_accepts ran).2⟩, rfl, run_eq_append ran⟩

/-- The parts of a release candidate's tag. -/
structure RcTag where
  major : Numeral
  minor : Numeral
  patch : Numeral
  number : Numeral
  build : Numeral
  date : List Char
  dateLength : date.length = 8
  dateDigits : ∀ char ∈ date, isDigit char = true
  commit : List Char
  commitNonempty : commit ≠ []
  commitHex : ∀ char ∈ commit, isHex char = true

namespace RcTag

variable (tag : RcTag)

/-- `.rcN.B.D.C`, before `rest`. -/
def tail (rest : List Char) : List Char :=
  ".rc".toList ++ (tag.number.text ++ '.' :: (tag.build.text ++
    '.' :: (tag.date ++ '.' :: (tag.commit ++ rest))))

/-- `X.Y.Z.rcN.B.D.C`, before `rest`. -/
def text (rest : List Char) : List Char :=
  tag.major.text ++ '.' :: (tag.minor.text ++ '.' :: (tag.patch.text ++ tag.tail rest))

end RcTag

lemma exists_numerals {text major minor afterDot patch afterPatch : List Char}
    (two : majorMinor text = some (major, minor, rest)) (dot : one (· == '.') rest = some afterDot)
    (third : run isDigit afterDot = some (patch, afterPatch)) :
    ∃ first second last : Numeral,
      text = first.text ++ '.' :: (second.text ++ '.' :: (last.text ++ afterPatch)) := by
  obtain ⟨⟨_, afterFirst⟩, ranFirst, two⟩ := bind_eq_some_iff.mp two
  obtain ⟨_, firstDot, two⟩ := bind_eq_some_iff.mp two
  obtain ⟨⟨_, _⟩, ranSecond, two⟩ := bind_eq_some_iff.mp two
  cases two
  obtain ⟨first, -, splitFirst⟩ := exists_numeral ranFirst
  obtain ⟨second, -, splitSecond⟩ := exists_numeral ranSecond
  obtain ⟨last, -, splitLast⟩ := exists_numeral third
  refine ⟨first, second, last, ?_⟩
  rw [splitFirst, one_eq_cons firstDot, splitSecond, one_eq_cons dot, splitLast]

lemma dateAndCommit_append {date commit : List Char} (length : date.length = 8)
    (digits : ∀ char ∈ date, isDigit char = true) (nonempty : commit ≠ [])
    (hex : ∀ char ∈ commit, isHex char = true) (stops : ∀ char ∈ rest.head?, isHex char = false) :
    dateAndCommit ('.' :: (date ++ '.' :: (commit ++ rest))) = some rest := by
  have dated := times_append digits ('.' :: (commit ++ rest))
  rw [length] at dated
  rw [dateAndCommit, one_cons rfl]
  simp only [bind_eq_bind, bind_some]
  rw [dated]
  simp only [bind_some]
  rw [one_cons rfl]
  simp only [bind_some]
  rw [run_append nonempty hex stops]
  rfl

variable {text : List Char}

lemma dateAndCommit_eq_some (scanned : dateAndCommit text = some rest) :
    ∃ date commit, text = '.' :: (date ++ '.' :: (commit ++ rest)) ∧ date.length = 8 ∧
      (∀ char ∈ date, isDigit char = true) ∧ commit ≠ [] ∧ ∀ char ∈ commit, isHex char = true := by
  obtain ⟨afterDot, dot, scanned⟩ := bind_eq_some_iff.mp scanned
  obtain ⟨⟨date, afterDate⟩, dated, scanned⟩ := bind_eq_some_iff.mp scanned
  obtain ⟨afterSecond, second, scanned⟩ := bind_eq_some_iff.mp scanned
  obtain ⟨⟨commit, afterCommit⟩, committed, scanned⟩ := bind_eq_some_iff.mp scanned
  cases scanned
  obtain ⟨split, length, digits⟩ := times_eq_append dated
  obtain ⟨nonempty, hex⟩ := run_accepts committed
  refine ⟨date, commit, ?_, length, digits, nonempty, hex⟩
  rw [one_eq_cons dot, split, one_eq_cons second, run_eq_append committed]

namespace RcTag

variable (tag : RcTag)

lemma tail_stops (rest : List Char) : ∀ char ∈ (tag.tail rest).head?, isDigit char = false :=
  head_refused rfl

lemma dottedEnd_tail (stops : ∀ char ∈ rest.head?, isHex char = false) :
    dottedEnd (tag.tail rest) = some rest := by
  rw [dottedEnd, tail, literal_append]
  simp only [bind_eq_bind, bind_some]
  rw [run_append tag.number.nonempty tag.number.digits (head_refused rfl)]
  simp only [bind_some]
  rw [one_cons rfl]
  simp only [bind_some]
  rw [run_append tag.build.nonempty tag.build.digits (head_refused rfl)]
  exact dateAndCommit_append tag.dateLength tag.dateDigits tag.commitNonempty tag.commitHex stops

lemma exists_of_dottedEnd (major minor patch : Numeral) {text : List Char}
    (scanned : dottedEnd text = some rest) : ∃ tag : RcTag,
      major.text ++ '.' :: (minor.text ++ '.' :: (patch.text ++ text)) = tag.text rest := by
  obtain ⟨afterRc, candidate, scanned⟩ := bind_eq_some_iff.mp scanned
  obtain ⟨⟨_, _⟩, ranNumber, scanned⟩ := bind_eq_some_iff.mp scanned
  obtain ⟨afterDot, dot, scanned⟩ := bind_eq_some_iff.mp scanned
  obtain ⟨⟨_, _⟩, ranBuild, scanned⟩ := bind_eq_some_iff.mp scanned
  obtain ⟨date, commit, ends, length, digits, nonempty, hex⟩ := dateAndCommit_eq_some scanned
  obtain ⟨number, -, splitNumber⟩ := exists_numeral ranNumber
  obtain ⟨build, -, splitBuild⟩ := exists_numeral ranBuild
  refine ⟨⟨major, minor, patch, number, build, date, length, digits, commit, nonempty, hex⟩, ?_⟩
  rw [literal_eq_append candidate, splitNumber, one_eq_cons dot, splitBuild, ends]
  rfl

lemma stops_of_atEnd (ends : atEnd rest = true) :
    ∀ char ∈ rest.head?, isHex char = false := by
  rw [atEnd, Bool.or_eq_true, beq_iff_eq, beq_iff_eq] at ends
  cases ends with
  | inl empty => exact fun char first => by rw [empty] at first; cases first
  | inr feed =>
    rw [feed]
    exact head_refused rfl

lemma rcVersionTag_iff (version : List Char) : rcVersionTag version = true ↔
    ∃ (tag : RcTag) (rest : List Char), atEnd rest = true ∧ version = tag.text rest := by
  rw [rcVersionTag]
  constructor
  · intro matched
    cases ends : (threeNumbers version).bind fun found => dottedEnd found.2 with
    | none =>
      rw [ends] at matched
      cases matched
    | some rest =>
      rw [ends] at matched
      obtain ⟨⟨numbers, afterNumbers⟩, three, candidate⟩ := bind_eq_some_iff.mp ends
      obtain ⟨⟨_, _, _⟩, two, three⟩ := bind_eq_some_iff.mp three
      obtain ⟨_, dot, three⟩ := bind_eq_some_iff.mp three
      obtain ⟨⟨_, _⟩, third, three⟩ := bind_eq_some_iff.mp three
      cases three
      obtain ⟨major, minor, patch, split⟩ := exists_numerals two dot third
      obtain ⟨tag, same⟩ := exists_of_dottedEnd major minor patch candidate
      exact ⟨tag, rest, matched, split.trans same⟩
  · rintro ⟨tag, rest, ends, rfl⟩
    rw [RcTag.text, threeNumbers_append _ _ _ (tag.tail_stops rest), bind_some,
      tag.dottedEnd_tail (stops_of_atEnd ends)]
    exact ends

end RcTag

/-! ## The parts of a tag -/

lemma buildNumber_cases (text : List Char) :
    (buildNumber text).1 = ['0'] ∨ (buildNumber text).1 = [] ∨
      ∃ number : Numeral, (buildNumber text).1 = 'r' :: 'c' :: number.text := by
  unfold buildNumber
  cases literal "0.".toList text with
  | some rest => exact Or.inl rfl
  | none =>
    right
    cases found : candidateNumber text with
    | none => exact Or.inl rfl
    | some taken =>
      right
      obtain ⟨afterRc, -, found⟩ := bind_eq_some_iff.mp found
      obtain ⟨⟨_, _⟩, ran, found⟩ := bind_eq_some_iff.mp found
      obtain ⟨_, -, found⟩ := bind_eq_some_iff.mp found
      obtain ⟨number, same, -⟩ := exists_numeral ran
      cases found
      exact ⟨number, by rw [same]; rfl⟩

/-- What `versionEnd` finds. -/
structure Ending (text suffix build date commit : List Char) : Prop where
  separated : ∃ separator more, text = suffix ++ separator :: more ∧
    (separator = '-' ∨ separator = '~')
  suffixes : suffix = "-dev".toList ∨ suffix = "-enterprise".toList ∨ suffix = []
  builds : build = ['0'] ∨ build = [] ∨ ∃ number : Numeral, build = 'r' :: 'c' :: number.text
  dateLength : date.length = 8
  dateDigits : ∀ char ∈ date, isDigit char = true
  commitNonempty : commit ≠ []
  commitHex : ∀ char ∈ commit, isHex char = true

lemma ending_of_versionEnd {text suffix build date commit : List Char}
    (found : versionEnd text = some (suffix, build, date, commit)) :
    Ending text suffix build date commit := by
  obtain ⟨tried, listed, found⟩ := exists_of_findSome?_eq_some found
  obtain ⟨rest, cut, found⟩ := bind_eq_some_iff.mp found
  obtain ⟨⟨foundBuild, foundDate, foundCommit⟩, dated, found⟩ := bind_eq_some_iff.mp found
  cases found
  obtain ⟨more, separated, dated⟩ := bind_eq_some_iff.mp dated
  obtain ⟨⟨_, afterDate⟩, eight, dated⟩ := bind_eq_some_iff.mp dated
  obtain ⟨afterDot, dot, dated⟩ := bind_eq_some_iff.mp dated
  obtain ⟨⟨_, _⟩, ran, dated⟩ := bind_eq_some_iff.mp dated
  cases dated
  have eightDigits := (times_eq_append eight).2
  have committed := run_accepts ran
  refine ⟨?_, ?_, buildNumber_cases more, eightDigits.1, eightDigits.2, committed.1, committed.2⟩
  · cases rest with
    | nil => cases separated
    | cons separator others =>
      refine ⟨separator, others, literal_eq_append cut, ?_⟩
      by_contra neither
      rw [one, if_neg (by simpa using neither)] at separated
      cases separated
  · simpa using listed

variable {tag : FullVersionTag}

lemma groupedVersion_eq_some_iff {longest : Nat} :
    groupedVersion text longest = some tag ↔
      ∃ length suffix, 0 < length ∧ length ≤ longest ∧
        versionEnd (text.drop length) = some (suffix, tag.build, tag.date, tag.commitId) ∧
        tag.baseVersion = text.take length ++ suffix ∧
        ∀ longer, length < longer → longer ≤ longest → versionEnd (text.drop longer) = none := by
  induction longest with
  | zero =>
    constructor
    · intro found
      cases found
    · omega
  | succ shorter ih =>
    rw [groupedVersion]
    cases ends : versionEnd (text.drop (shorter + 1)) with
    | none =>
      rw [ih]
      constructor
      · rintro ⟨length, suffix, positive, short, found, base, nothing⟩
        refine ⟨length, suffix, positive, by omega, found, base, fun longer after within => ?_⟩
        by_cases last : longer = shorter + 1
        · exact last ▸ ends
        · exact nothing longer after (by omega)
      · rintro ⟨length, suffix, positive, short, found, base, nothing⟩
        have other : length ≠ shorter + 1 := fun same => by
          rw [same, ends] at found
          cases found
        exact ⟨length, suffix, positive, by omega, found, base, fun longer after within =>
          nothing longer after (by omega)⟩
    | some found =>
      obtain ⟨suffix, build, date, commit⟩ := found
      constructor
      · intro same
        cases same
        exact ⟨shorter + 1, suffix, by omega, le_refl _, ends, rfl, fun longer after within =>
          absurd within (by omega)⟩
      · rintro ⟨length, otherSuffix, positive, short, found, base, nothing⟩
        have last : length = shorter + 1 := by
          by_contra other
          have none := nothing (shorter + 1) (by omega) (le_refl _)
          rw [ends] at none
          cases none
        subst last
        rw [ends] at found
        cases found
        obtain ⟨_, _, _, _⟩ := tag
        cases base
        rfl

variable {version : List Char}

lemma parseScyllaVersionTag_of_absent (dash : '-' ∉ version) (tilde : '~' ∉ version) :
    parseScyllaVersionTag version = none := by
  cases parsed : parseScyllaVersionTag version with
  | none => rfl
  | some tag =>
    obtain ⟨length, suffix, -, -, found, -⟩ := groupedVersion_eq_some_iff.mp parsed
    obtain ⟨separator, more, split, kind⟩ := (ending_of_versionEnd found).separated
    have listed : separator ∈ version := by
      apply mem_of_mem_drop
      rw [split]
      simp
    cases kind with
    | inl same => exact absurd (same ▸ listed) dash
    | inr same => exact absurd (same ▸ listed) tilde

/-! ## Rebuilding a version from a label -/

def imageLabels (label : String) : Dict String String := Dict.empty.set "scylla_version" label

/-- The version rebuilt from a label is a full version tag with the same label, and both functions
that rebuild one agree. -/
structure Rebuilds (label : String) : Prop where
  full : (fullVersionTag (gceLabelToVersion label)).isSome = true
  sameLabel : gceImageVersionLabel (gceLabelToVersion label) = label
  agree : resolveVersionFromGceImage (some (imageLabels label)) = gceLabelToVersion label

/-- A text as a label, with neither dots nor tildes. -/
structure IsLabel (label : List Char) : Prop where
  nonempty : label ≠ []
  dot : '.' ∉ label
  tilde : '~' ∉ label

variable {label : String}

lemma resolveVersionFromGceImage_eq (nonempty : label ≠ "") :
    resolveVersionFromGceImage (some (imageLabels label)) =
      String.ofList (exchange '-' '.' label.toList) := by
  have held : (imageLabels label).get "scylla_version" = some label := by
    rw [imageLabels, Dict.get_set, if_pos rfl]
  rw [resolveVersionFromGceImage, bind_some, held, truthy, if_neg nonempty]

namespace RcTag

variable (tag : RcTag) {char : Char}

lemma not_mem_of_atEnd (ends : atEnd rest = true) (other : char ≠ '\n') : char ∉ rest := by
  rw [atEnd, Bool.or_eq_true, beq_iff_eq, beq_iff_eq] at ends
  cases ends with
  | inl empty => simp [empty]
  | inr feed => simp [feed, other]

lemma not_mem_text (hex : isHex char = false) (dot : char ≠ '.') (letter : char ≠ 'r')
    (later : char ∉ rest) : char ∉ tag.text rest := by
  have digit : isDigit char = false := isDigit_eq_false_of_isHex_eq_false hex
  have letterC : char ≠ 'c' := fun equal => by
    rw [equal] at hex
    cases hex
  have date : char ∉ tag.date := fun listed => by
    rw [tag.dateDigits char listed] at digit
    cases digit
  have commit : char ∉ tag.commit := fun listed => by
    rw [tag.commitHex char listed] at hex
    cases hex
  simp [text, tail, tag.major.not_mem digit, tag.minor.not_mem digit, tag.patch.not_mem digit,
    tag.number.not_mem digit, tag.build.not_mem digit, date, commit, dot, letter, letterC, later]

lemma splitOnP_text (later : '.' ∉ rest) :
    dotPieces (tag.text rest) = [tag.major.text, tag.minor.text, tag.patch.text,
      'r' :: 'c' :: tag.number.text, tag.build.text, tag.date, tag.commit ++ rest] := by
  have candidate : '.' ∉ 'r' :: 'c' :: tag.number.text := by
    simp [tag.number.not_mem (show isDigit '.' = false from rfl)]
  have date : '.' ∉ tag.date := no_dot rfl tag.dateDigits
  have commit : '.' ∉ tag.commit ++ rest := by
    simp [no_dot rfl tag.commitHex, later]
  have joined : tag.text rest = tag.major.text ++ '.' :: (tag.minor.text ++ '.' ::
      (tag.patch.text ++ '.' :: (('r' :: 'c' :: tag.number.text) ++ '.' :: (tag.build.text ++
        '.' :: (tag.date ++ '.' :: (tag.commit ++ rest)))))) := rfl
  rw [joined, Numeral.splitOnP_append, Numeral.splitOnP_append, Numeral.splitOnP_append,
    splitOnP_dot, splitOnP_of_no_dot candidate, Numeral.splitOnP_append, splitOnP_dot,
    splitOnP_of_no_dot date, splitOnP_of_no_dot commit]
  rfl

lemma fullVersionTag_text (ends : atEnd rest = true) :
    (fullVersionTag (String.ofList (tag.text rest))).isSome = true := by
  have stops := stops_of_atEnd ends
  have dotted : dottedTag (tag.tail rest) = true := by
    rw [dottedTag, tag.dottedEnd_tail stops]
    rw [atEnd, Bool.or_eq_true, beq_iff_eq, beq_iff_eq] at ends
    cases ends with
    | inl empty =>
      rw [empty]
      rfl
    | inr feed =>
      rw [feed]
      rfl
  rw [text, fullVersionTag_append _ _ _ (tag.tail_stops rest) (by rw [dotted, Bool.or_true])]
  rfl

lemma gceLabelToVersion_text (ends : atEnd rest = true) :
    gceLabelToVersion (String.ofList (exchange '.' '-' (tag.text rest))) =
      String.ofList (tag.text rest) := by
  have dash : '-' ∉ tag.text rest :=
    tag.not_mem_text rfl (by decide) (by decide) (not_mem_of_atEnd ends (by decide))
  have pieces : (String.ofList (exchange '.' '-' (tag.text rest))).toList.splitOnP (· == '-') =
      [tag.major.text, tag.minor.text, tag.patch.text, 'r' :: 'c' :: tag.number.text,
        tag.build.text, tag.date, tag.commit ++ rest] := by
    rw [String.toList_ofList, splitOnP_exchange dash]
    exact tag.splitOnP_text (not_mem_of_atEnd ends (by decide))
  have named : 'r' :: 'c' :: tag.number.text ≠ "dev".toList := by
    intro same
    cases same
  have starts : "rc".toList.isPrefixOf ('r' :: 'c' :: tag.number.text) = true := rfl
  have version : tag.major.text ++ '.' :: (tag.minor.text ++ '.' :: tag.patch.text) ++
      '.' :: dotJoined ['r' :: 'c' :: tag.number.text, tag.build.text, tag.date,
        tag.commit ++ rest] = tag.text rest := by
    simp [dotJoined, List.intercalate, text, tail]
  rw [gceLabelToVersion, pieces]
  simp only
  rw [if_neg named, if_pos starts, version, if_pos (tag.fullVersionTag_text ends)]

end RcTag

lemma rebuilds_iff (isLabel : IsLabel label.toList) :
    Rebuilds label ↔ rcVersionTag (exchange '-' '.' label.toList) = true := by
  have nonempty : label ≠ "" := fun empty => isLabel.nonempty (by rw [empty]; rfl)
  have dash : '-' ∉ exchange '-' '.' label.toList := not_mem_exchange (by decide) _
  have tilde : '~' ∉ exchange '-' '.' label.toList := fun listed =>
    isLabel.tilde (mem_of_mem_exchange (by decide) listed)
  constructor
  · intro rebuilds
    have version := rebuilds.agree.symm.trans (resolveVersionFromGceImage_eq nonempty)
    have same := rebuilds.sameLabel
    rw [version, gceImageVersionLabel, String.toList_ofList,
      parseScyllaVersionTag_of_absent dash tilde] at same
    by_contra other
    simp only [Bool.not_eq_true] at other
    rw [other] at same
    split at same
    · exact nonempty same.symm
    · exact nonempty same.symm
  · intro candidate
    obtain ⟨tag, rest, ends, shape⟩ := (RcTag.rcVersionTag_iff _).mp candidate
    have back : String.ofList (exchange '.' '-' (tag.text rest)) = label := by
      apply String.toList_inj.mp
      rw [String.toList_ofList, ← shape, exchange_exchange isLabel.dot]
    have version : gceLabelToVersion label = String.ofList (exchange '-' '.' label.toList) := by
      rw [shape, ← tag.gceLabelToVersion_text ends, back]
    have written : String.ofList (exchange '-' '.' label.toList) ≠ "" := by
      intro empty
      have chars := congrArg String.toList empty
      rw [String.toList_ofList] at chars
      exact isLabel.nonempty (map_eq_nil_iff.mp chars)
    refine ⟨?_, ?_, ?_⟩
    · rw [version, shape]
      exact tag.fullVersionTag_text ends
    · rw [version, gceImageVersionLabel, if_neg written, String.toList_ofList,
        parseScyllaVersionTag_of_absent dash tilde]
      rw [if_pos candidate, dashed, exchange_exchange isLabel.dot,
        exchange_of_absent _ isLabel.tilde, String.ofList_toList]
    · rw [version]
      exact resolveVersionFromGceImage_eq nonempty

/-! ## The tags with a label -/

def allDots (text : List Char) : List Char := exchange '-' '.' (dashed text)

lemma allDots_append (front rest : List Char) :
    allDots (front ++ rest) = allDots front ++ allDots rest := by
  simp [allDots, dashed, exchange]

lemma allDots_cons {char : Char} (separator : char = '.' ∨ char = '~' ∨ char = '-')
    (rest : List Char) : allDots (char :: rest) = '.' :: allDots rest := by
  rcases separator with rfl | rfl | rfl <;> rfl

lemma allDots_eq_self (dot : '.' ∉ allDots text) : allDots text = text := by
  induction text with
  | nil => rfl
  | cons char rest ih =>
    by_cases separator : char = '.' ∨ char = '~' ∨ char = '-'
    · rw [allDots_cons separator] at dot
      exact absurd mem_cons_self dot
    · have kept : allDots (char :: rest) = char :: allDots rest := by
        simp only [not_or] at separator
        simp [allDots, dashed, exchange, separator]
      rw [kept] at dot ⊢
      rw [ih fun listed => dot (mem_cons_of_mem _ listed)]

lemma allDots_of_isHex (hex : ∀ char ∈ text, isHex char = true) : allDots text = text := by
  have absent {char : Char} (other : isHex char = false) : char ∉ text := fun listed => by
    rw [hex char listed] at other
    cases other
  rw [allDots, dashed, exchange_of_absent _ (absent rfl), exchange_of_absent _ (absent rfl),
    exchange_of_absent _ (absent rfl)]

lemma allDots_numeral (numeral : Numeral) : allDots numeral.text = numeral.text :=
  allDots_of_isHex fun char listed => isHex_of_isDigit (numeral.digits char listed)

lemma isLabel_dashed (nonempty : dashed text ≠ []) :
    IsLabel (dashed text) where
  nonempty := nonempty
  dot := fun listed => not_mem_exchange (by decide) text (mem_of_mem_exchange (by decide) listed)
  tilde := not_mem_exchange (by decide) _

namespace Ending

variable {text suffix build date commit : List Char}

section

variable (ending : Ending text suffix build date commit)
include ending

lemma build_no_dot : '.' ∉ build := by
  rcases ending.builds with rfl | rfl | ⟨number, rfl⟩
  · decide
  · exact not_mem_nil
  · simp [number.not_mem (show isDigit '.' = false from rfl)]

lemma allDots_build : allDots build = build := by
  rcases ending.builds with rfl | rfl | ⟨number, rfl⟩
  · rfl
  · rfl
  · have joined := allDots_append ['r', 'c'] number.text
    rw [allDots_numeral] at joined
    exact joined

lemma allDots_parts (base : List Char) :
    allDots (base ++ '-' :: (build ++ '-' :: (date ++ '-' :: commit))) =
      allDots base ++ '.' :: (build ++ '.' :: (date ++ '.' :: commit)) := by
  have dash : '-' = '.' ∨ '-' = '~' ∨ '-' = '-' := Or.inr (Or.inr rfl)
  rw [allDots_append, allDots_cons dash, allDots_append, ending.allDots_build, allDots_cons dash,
    allDots_append, allDots_cons dash, allDots_of_isHex ending.commitHex,
    allDots_of_isHex fun char listed => isHex_of_isDigit (ending.dateDigits char listed)]

end

end Ending

def candidateBase (major minor patch number : Numeral) (separator : Char) : List Char :=
  major.text ++ '.' :: (minor.text ++ '.' :: (patch.text ++ separator :: 'r' :: 'c' :: number.text))

lemma base_of_rcVersionTag {text suffix base build date commit : List Char}
    (ending : Ending text suffix build date commit)
    (candidate : rcVersionTag
      (allDots base ++ '.' :: (build ++ '.' :: (date ++ '.' :: commit))) = true) :
    build = ['0'] ∧ ∃ major minor patch number : Numeral,
      allDots base = candidateBase major minor patch number '.' := by
  obtain ⟨tag, rest, ends, same⟩ := (RcTag.rcVersionTag_iff _).mp candidate
  have dateDot : '.' ∉ date := no_dot rfl ending.dateDigits
  have commitDot : '.' ∉ commit := no_dot rfl ending.commitHex
  have cut := congrArg dotPieces same
  rw [splitOnP_dot, splitOnP_dot, splitOnP_dot, splitOnP_of_no_dot ending.build_no_dot,
    splitOnP_of_no_dot dateDot, splitOnP_of_no_dot commitDot,
    tag.splitOnP_text (RcTag.not_mem_of_atEnd ends (by decide))] at cut
  have pieces : dotPieces (allDots base) ++ [build, date, commit] =
      [tag.major.text, tag.minor.text, tag.patch.text, 'r' :: 'c' :: tag.number.text] ++
        [tag.build.text, tag.date, tag.commit ++ rest] := cut
  obtain ⟨basePieces, lastPieces⟩ := append_inj' pieces rfl
  have joined : List.intercalate ['.'] (dotPieces (allDots base)) = allDots base :=
    intercalate_splitOn '.'
  refine ⟨?_, tag.major, tag.minor, tag.patch, tag.number, ?_⟩
  · injection lastPieces with number _
    rcases ending.builds with zero | none | ⟨other, named⟩
    · exact zero
    · exact absurd (number.symm.trans none) tag.build.nonempty
    · have first : 'r' ∈ tag.build.text := by
        rw [← number, named]
        exact mem_cons_self
      exact absurd first (tag.build.not_mem rfl)
  · rw [← joined, basePieces]
    simp [candidateBase, List.intercalate]

lemma exists_of_fullVersionTag {version : String}
    (full : (fullVersionTag version).isSome = true) :
    ∃ (major minor patch : Numeral) (separator : Char) (tail : List Char),
      version.toList =
        major.text ++ '.' :: (minor.text ++ '.' :: (patch.text ++ separator :: tail)) ∧
      (separator = '.' ∨ separator = '~' ∨ separator = '-') ∧
      (plainTag (separator :: tail) || dottedTag (separator :: tail)) = true := by
  obtain ⟨groups, found⟩ := Option.isSome_iff_exists.mp full
  obtain ⟨⟨_, _, _⟩, two, found⟩ := bind_eq_some_iff.mp found
  obtain ⟨_, dot, found⟩ := bind_eq_some_iff.mp found
  obtain ⟨⟨_, rest⟩, third, found⟩ := bind_eq_some_iff.mp found
  obtain ⟨major, minor, patch, split⟩ := exists_numerals two dot third
  have accepted : (plainTag rest || dottedTag rest) = true := by
    by_contra refused
    simp only at found
    rw [if_neg refused] at found
    cases found
  cases rest with
  | nil => exact absurd accepted (by decide)
  | cons separator tail =>
    refine ⟨major, minor, patch, separator, tail, split, ?_, accepted⟩
    by_contra other
    simp only [not_or] at other
    have plain : plainTag (separator :: tail) = false := by
      rw [plainTag, one, if_neg (by simp [other])]
    have dotted : dottedTag (separator :: tail) = false := by
      have cut : literal ".rc".toList (separator :: tail) = none := by
        rw [literal, if_neg]
        intro starts
        obtain ⟨more, same⟩ := isPrefixOf_iff_prefix.mp starts
        injection same with first _
        exact other.1 first.symm
      rw [dottedTag, dottedEnd, cut]
      rfl
    rw [plain, dotted] at accepted
    cases accepted

/-- The base version of a full version tag is its three numbers and the candidate, if that is what
it is with dots. -/
lemma base_eq {major minor patch first second third number : Numeral} {base tail more : List Char}
    {separator next : Char} (separators : separator = '.' ∨ separator = '~' ∨ separator = '-')
    (nexts : next = '.' ∨ next = '~' ∨ next = '-')
    (split : base ++ next :: more =
      major.text ++ '.' :: (minor.text ++ '.' :: (patch.text ++ separator :: tail)))
    (candidate : allDots base = candidateBase first second third number '.') :
    base = candidateBase major minor patch number separator ∧
      tail = 'r' :: 'c' :: number.text ++ next :: more := by
  have dot : '.' = '.' ∨ '.' = '~' ∨ '.' = '-' := Or.inl rfl
  have named : '.' ∉ 'r' :: 'c' :: number.text := by
    simp [number.not_mem (show isDigit '.' = false from rfl)]
  have dotted := congrArg allDots split
  rw [allDots_append, allDots_cons nexts, candidate, allDots_append, allDots_cons dot,
    allDots_append, allDots_cons dot, allDots_append, allDots_cons separators, allDots_numeral,
    allDots_numeral, allDots_numeral] at dotted
  have cut := congrArg dotPieces dotted
  rw [splitOnP_dot, candidateBase, Numeral.splitOnP_append, Numeral.splitOnP_append,
    Numeral.splitOnP_append, splitOnP_of_no_dot named, Numeral.splitOnP_append,
    Numeral.splitOnP_append, Numeral.splitOnP_append] at cut
  simp only [cons_append, List.cons.injEq] at cut
  obtain ⟨sameMajor, sameMinor, samePatch, -⟩ := cut
  let front : List Char := major.text ++ '.' :: (minor.text ++ '.' :: (patch.text ++ [separator]))
  have frontDots : allDots front =
      major.text ++ '.' :: (minor.text ++ '.' :: (patch.text ++ ['.'])) := by
    rw [allDots_append, allDots_cons dot, allDots_append, allDots_cons dot, allDots_append,
      allDots_cons separators, allDots_numeral, allDots_numeral, allDots_numeral]
    rfl
  have whole : base ++ next :: more = front ++ tail := by
    rw [split]
    simp [front]
  have baseDots : allDots base = allDots front ++ 'r' :: 'c' :: number.text := by
    rw [candidate, frontDots, candidateBase, sameMajor, sameMinor, samePatch]
    simp
  have longer : front.length ≤ base.length := by
    have lengths := congrArg length baseDots
    simp only [allDots, dashed, exchange, length_map, length_append] at lengths
    omega
  obtain ⟨middle, sameBase⟩ : ∃ middle, base = front ++ middle :=
    prefix_of_prefix_length_le (whole ▸ prefix_append front tail)
      (prefix_append base _) longer |>.imp fun _ same => same.symm
  have middleDots : allDots middle = 'r' :: 'c' :: number.text := by
    rw [sameBase, allDots_append] at baseDots
    exact append_cancel_left baseDots
  have middleEq : middle = 'r' :: 'c' :: number.text := by
    have kept := @allDots_eq_self middle (middleDots ▸ named)
    exact kept.symm.trans middleDots
  subst middleEq
  refine ⟨?_, ?_⟩
  · rw [sameBase]
    simp [front, candidateBase]
  · rw [sameBase, append_assoc] at whole
    exact (append_cancel_left whole).symm

/-- A tag `X.Y.Z~rcN-0.D.C`, also with other separators and with more after the commit, but with no
second build. -/
def IsTildeCandidate (version : List Char) : Prop :=
  ∃ (major minor patch number : Numeral) (rest date commit : List Char),
    version = candidateBase major minor patch number '~' ++ rest ∧
    versionEnd rest = some ([], ['0'], date, commit) ∧
    ∀ longer, (candidateBase major minor patch number '~').length < longer →
      longer ≤ (version.takeWhile isVersionChar).length → versionEnd (version.drop longer) = none

variable (major minor patch number : Numeral)

lemma isVersionChar_of_mem_candidateBase :
    ∀ char ∈ candidateBase major minor patch number '~', isVersionChar char = true := by
  have digit {char : Char} (numeral : Numeral) (listed : char ∈ numeral.text) :
      isVersionChar char = true := by
    rw [isVersionChar, isAlphanumeric_of_isHex (isHex_of_isDigit (numeral.digits char listed))]
    rfl
  intro char listed
  simp only [candidateBase, mem_append, mem_cons] at listed
  rcases listed with listed | rfl | listed | rfl | listed | rfl | rfl | rfl | listed
  · exact digit major listed
  · rfl
  · exact digit minor listed
  · rfl
  · exact digit patch listed
  · rfl
  · rfl
  · rfl
  · exact digit number listed

lemma parse_of_isTildeCandidate (candidate : IsTildeCandidate version) :
    ∃ (major minor patch number : Numeral) (rest date commit : List Char),
      Ending rest [] ['0'] date commit ∧ parseScyllaVersionTag version =
        some ⟨candidateBase major minor patch number '~', ['0'], date, commit⟩ := by
  obtain ⟨major, minor, patch, number, rest, date, commit, split, found, nothing⟩ := candidate
  refine ⟨major, minor, patch, number, rest, date, commit, ending_of_versionEnd found, ?_⟩
  have within : (candidateBase major minor patch number '~').length ≤
      (version.takeWhile isVersionChar).length := by
    rw [split, takeWhile_append_of_pos
      (isVersionChar_of_mem_candidateBase major minor patch number), length_append]
    omega
  have positive : 0 < (candidateBase major minor patch number '~').length := by
    simp only [candidateBase, length_append, length_cons]
    omega
  apply groupedVersion_eq_some_iff.mpr
  refine ⟨_, [], positive, within, ?_, ?_, nothing⟩
  · rw [split, drop_left]
    exact found
  · rw [split, take_left, append_nil]

lemma suffix_eq_nil {text suffix build date commit front : List Char}
    (ending : Ending text suffix build date commit) {major minor patch number : Numeral}
    {separator : Char} (base : front ++ suffix = candidateBase major minor patch number separator) :
    suffix = [] := by
  have last : (front ++ suffix).getLast? = number.text.getLast? := by
    have split : candidateBase major minor patch number separator =
        (major.text ++ '.' :: (minor.text ++ '.' :: (patch.text ++ separator :: ['r', 'c']))) ++
          number.text := by
      simp [candidateBase]
    rw [base, split, getLast?_append_of_ne_nil _ number.nonempty]
  have digit {char : Char} (same : some char = number.text.getLast?) : isDigit char = true :=
    number.digits char (mem_of_getLast? same.symm)
  rcases ending.suffixes with rfl | rfl | none
  · rw [getLast?_append_of_ne_nil _ (by decide)] at last
    exact absurd (digit last) (by decide)
  · rw [getLast?_append_of_ne_nil _ (by decide)] at last
    exact absurd (digit last) (by decide)
  · exact none

lemma isTildeCandidate_of_parse {version : String} (full : (fullVersionTag version).isSome = true)
    (parsed : parseScyllaVersionTag version.toList = some tag)
    (candidate : rcVersionTag (allDots tag.baseVersion ++
      '.' :: (tag.build ++ '.' :: (tag.date ++ '.' :: tag.commitId))) = true) :
    IsTildeCandidate version.toList := by
  obtain ⟨length, suffix, positive, within, found, base, nothing⟩ :=
    groupedVersion_eq_some_iff.mp parsed
  have ending := ending_of_versionEnd found
  obtain ⟨next, more, rest, nexts⟩ := ending.separated
  obtain ⟨build, _, _, _, number, dots⟩ := base_of_rcVersionTag ending candidate
  obtain ⟨major, minor, patch, separator, tail, split, separators, accepted⟩ :=
    exists_of_fullVersionTag full
  have whole : tag.baseVersion ++ next :: more =
      major.text ++ '.' :: (minor.text ++ '.' :: (patch.text ++ separator :: tail)) := by
    rw [← split, base, append_assoc, ← rest, take_append_drop]
  have nextDot : next = '.' ∨ next = '~' ∨ next = '-' := by
    cases nexts with
    | inl dash => exact Or.inr (Or.inr dash)
    | inr tilde => exact Or.inr (Or.inl tilde)
  obtain ⟨sameBase, sameTail⟩ := base_eq separators nextDot whole dots
  have plainSuffix := suffix_eq_nil ending (base.symm.trans sameBase)
  subst plainSuffix
  rw [append_nil] at base
  have tilde : separator = '~' := by
    rcases separators with dot | tilde | dash
    · -- with a dot before the candidate there is one after it
      rw [dot, sameTail] at accepted
      have stops : ∀ char ∈ (next :: more).head?, isDigit char = false := by
        apply head_refused
        cases nexts with
        | inl dash => rw [dash]; rfl
        | inr tilde => rw [tilde]; rfl
      have refused : one (· == '.') (next :: more) = none := by
        cases nexts with
        | inl dash => rw [dash]; rfl
        | inr tilde => rw [tilde]; rfl
      have plain : plainTag ('.' :: ('r' :: 'c' :: number.text ++ next :: more)) = false := rfl
      have dotted : dottedTag ('.' :: ('r' :: 'c' :: number.text ++ next :: more)) = false := by
        have cut : literal ".rc".toList ('.' :: ('r' :: 'c' :: number.text ++ next :: more)) =
            some (number.text ++ next :: more) := literal_append ".rc".toList _
        rw [dottedTag, dottedEnd, cut]
        simp only [bind_eq_bind, bind_some]
        rw [run_append number.nonempty number.digits stops]
        simp only [bind_some]
        rw [refused]
        rfl
      rw [plain, dotted] at accepted
      cases accepted
    · exact tilde
    · -- a dash is no character of the version
      have listed : '-' ∈ version.toList.take length := by
        rw [← base, sameBase, dash]
        simp [candidateBase]
      have run_eq := prefix_iff_eq_take.mp
        (@List.takeWhile_prefix _ version.toList isVersionChar)
      have among : '-' ∈ version.toList.takeWhile isVersionChar := by
        rw [run_eq]
        exact (take_prefix_take_left within).subset listed
      exact absurd (mem_takeWhile_imp among) (by decide)
  subst tilde
  refine ⟨major, minor, patch, number, version.toList.drop length, tag.date, tag.commitId,
    ?_, ?_, ?_⟩
  · rw [← sameBase, base, take_append_drop]
  · rw [found, build]
  · have same : (candidateBase major minor patch number '~').length = length := by
      rw [← sameBase, base, length_take]
      have shorter := (@List.takeWhile_prefix _ version.toList isVersionChar).length_le
      omega
    rw [same]
    exact nothing

lemma absent_of_rcVersionTag (candidate : rcVersionTag version = true) :
    '-' ∉ version ∧ '~' ∉ version := by
  obtain ⟨tag, rest, ends, shape⟩ := (RcTag.rcVersionTag_iff _).mp candidate
  rw [shape]
  constructor
  · exact tag.not_mem_text rfl (by decide) (by decide) (RcTag.not_mem_of_atEnd ends (by decide))
  · exact tag.not_mem_text rfl (by decide) (by decide) (RcTag.not_mem_of_atEnd ends (by decide))

lemma allDots_of_rcVersionTag (candidate : rcVersionTag version = true) :
    allDots version = version := by
  obtain ⟨dash, tilde⟩ := absent_of_rcVersionTag candidate
  have dashedTilde : '~' ∉ exchange '.' '-' version := fun listed =>
    tilde (mem_of_mem_exchange (by decide) listed)
  rw [allDots, dashed, exchange_of_absent _ dashedTilde, exchange_exchange dash]

lemma rcVersionTag_of_candidateBase {text suffix date commit : List Char}
    (ending : Ending text suffix ['0'] date commit) :
    rcVersionTag (allDots (candidateBase major minor patch number '~') ++
      '.' :: (['0'] ++ '.' :: (date ++ '.' :: commit))) = true := by
  let zero : Numeral := ⟨['0'], by decide, all_eq_true.mp (by decide : ['0'].all isDigit = true)⟩
  let tag : RcTag := ⟨major, minor, patch, number, zero, date, ending.dateLength,
    ending.dateDigits, commit, ending.commitNonempty, ending.commitHex⟩
  have dot : '.' = '.' ∨ '.' = '~' ∨ '.' = '-' := Or.inl rfl
  have tilde : '~' = '.' ∨ '~' = '~' ∨ '~' = '-' := Or.inr (Or.inl rfl)
  have named : allDots ('r' :: 'c' :: number.text) = 'r' :: 'c' :: number.text := by
    have joined := allDots_append ['r', 'c'] number.text
    rw [allDots_numeral] at joined
    exact joined
  apply (RcTag.rcVersionTag_iff _).mpr
  refine ⟨tag, [], rfl, ?_⟩
  rw [candidateBase, allDots_append, allDots_cons dot, allDots_append, allDots_cons dot,
    allDots_append, allDots_cons tilde, named, allDots_numeral, allDots_numeral, allDots_numeral]
  simp [RcTag.text, RcTag.tail, tag, zero]

/-- The version rebuilt from the label of a full version tag is a full version tag with that label,
and both functions agree on it, exactly when the tag is a release candidate's: in the spelling with
dots and without a revision, or in the one with a tilde and the build number 0. -/
theorem rebuilds_label_iff (version : String) (full : (fullVersionTag version).isSome = true)
    (labelled : gceImageVersionLabel version ≠ "") :
    Rebuilds (gceImageVersionLabel version) ↔
      rcVersionTag version.toList = true ∨ IsTildeCandidate version.toList := by
  have nonempty : version ≠ "" := fun empty => by
    rw [empty] at full
    exact absurd full (by decide)
  have written : (gceImageVersionLabel version).toList ≠ [] := fun empty =>
    labelled (String.toList_inj.mp empty)
  cases parsed : parseScyllaVersionTag version.toList with
  | none =>
    have candidate : rcVersionTag version.toList = true := by
      by_contra other
      apply labelled
      rw [gceImageVersionLabel, if_neg nonempty, parsed]
      exact if_neg other
    have label : (gceImageVersionLabel version).toList = dashed version.toList := by
      rw [gceImageVersionLabel, if_neg nonempty, parsed]
      rw [if_pos candidate, String.toList_ofList]
    have isLabel : IsLabel (gceImageVersionLabel version).toList := by
      rw [label] at written ⊢
      exact isLabel_dashed written
    apply iff_of_true ?_ (Or.inl candidate)
    rw [rebuilds_iff isLabel, label]
    show rcVersionTag (allDots version.toList) = true
    rw [allDots_of_rcVersionTag candidate]
    exact candidate
  | some tag =>
    have label : (gceImageVersionLabel version).toList = dashed (tag.baseVersion ++
        '-' :: (tag.build ++ '-' :: (tag.date ++ '-' :: tag.commitId))) := by
      rw [gceImageVersionLabel, if_neg nonempty, parsed, String.toList_ofList]
    have isLabel : IsLabel (gceImageVersionLabel version).toList := by
      rw [label] at written ⊢
      exact isLabel_dashed written
    obtain ⟨length, suffix, -, -, found, -, -⟩ := groupedVersion_eq_some_iff.mp parsed
    have parts := (ending_of_versionEnd found).allDots_parts tag.baseVersion
    rw [rebuilds_iff isLabel, label]
    show rcVersionTag (allDots _) = true ↔ _
    rw [parts]
    constructor
    · intro candidate
      exact Or.inr (isTildeCandidate_of_parse full parsed candidate)
    · rintro (candidate | candidate)
      · have absent := absent_of_rcVersionTag candidate
        rw [parseScyllaVersionTag_of_absent absent.1 absent.2] at parsed
        cases parsed
      · obtain ⟨major, minor, patch, number, rest, date, commit, ending, same⟩ :=
          parse_of_isTildeCandidate candidate
        rw [parsed] at same
        cases same
        exact rcVersionTag_of_candidateBase major minor patch number ending

theorem rebuilds_label_of_candidate :
    Rebuilds (gceImageVersionLabel "2026.3.0.rc1.0.20260730.726f67a532e2") :=
  (rebuilds_label_iff "2026.3.0.rc1.0.20260730.726f67a532e2" (by decide)
    (by decide)).mpr (Or.inl (by decide))

/-- The label of a nightly build, rebuilt in two ways: one of them is no full version tag. -/
theorem nightly_label_rebuilt_twice :
    gceImageVersionLabel "2026.4.0~dev-0.20260804.9a3aba9e452a" =
        "2026-4-0-dev-0-20260804-9a3aba9e452a" ∧
      gceLabelToVersion "2026-4-0-dev-0-20260804-9a3aba9e452a" =
        "2026.4.0~dev-0.20260804.9a3aba9e452a" ∧
      resolveVersionFromGceImage (some (imageLabels "2026-4-0-dev-0-20260804-9a3aba9e452a")) =
        "2026.4.0.dev.0.20260804.9a3aba9e452a" ∧
      fullVersionTag "2026.4.0.dev.0.20260804.9a3aba9e452a" = none ∧
      ¬Rebuilds (gceImageVersionLabel "2026.4.0~dev-0.20260804.9a3aba9e452a") := by
  have label : gceImageVersionLabel "2026.4.0~dev-0.20260804.9a3aba9e452a" =
      "2026-4-0-dev-0-20260804-9a3aba9e452a" := by decide
  have one : gceLabelToVersion "2026-4-0-dev-0-20260804-9a3aba9e452a" =
      "2026.4.0~dev-0.20260804.9a3aba9e452a" := by decide
  have other : resolveVersionFromGceImage
      (some (imageLabels "2026-4-0-dev-0-20260804-9a3aba9e452a")) =
        "2026.4.0.dev.0.20260804.9a3aba9e452a" := by decide
  refine ⟨label, one, other, by decide, fun rebuilds => ?_⟩
  have agree := rebuilds.agree
  rw [label, one, other] at agree
  exact absurd agree (by decide)

end Sct.Utils
