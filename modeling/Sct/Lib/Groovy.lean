import Mathlib.Tactic.Common

/-!
# Reading the literals of a Groovy script

A script is read character by character into the characters of its code and the texts of its
literals. A literal in single quotes or in double quotes ends with its line; a backslash escapes;
in double quotes a dollar starts a reference, of a name or of code in braces. Slashes outside
literals (comments, slashy literals), literals in triple quotes and the escapes of characters by
their codes are refused.

`Reads` says that a text is read by itself as some tokens, and `Misread` that whatever follows it,
a text is read as something else. A script put together from pieces of the two kinds is read as
the tokens of its pieces exactly when no piece is misread.
-/

open List
open Option (bind_some map_some)

namespace Sct.Groovy

/-- The quotes of a literal. -/
inductive Quote where
  | single
  | double
  deriving DecidableEq, Repr

def Quote.char : Quote → Char
  | single => '\''
  | double => '"'

/-- What a script is read as. -/
inductive Token where
  | code (char : Char)
  /-- A literal, or what is left of it after its last reference. -/
  | text (value : List Char)
  /-- The part of a literal before a reference. -/
  | cut (value : List Char)
  deriving DecidableEq, Repr

/-- Where the reader is. -/
inductive Mode where
  | code
  | opened (quote : Quote)
  /-- Right after a literal without characters. -/
  | empty (quote : Quote)
  /-- In a literal, after some of its text. -/
  | literal (quote : Quote) (value : List Char)
  /-- After a backslash in a literal. -/
  | escape (quote : Quote) (value : List Char)
  /-- After a dollar in a literal. -/
  | dollar
  /-- In the name of a reference. -/
  | reference
  /-- After a dot in the name of a reference. -/
  | referenceDot
  deriving DecidableEq, Repr

/-- The reader is outside of literals. -/
def Mode.outside : Mode → Bool
  | code => true
  | empty _ => true
  | _ => false

/-- The reader: its mode, and the open braces of the code of each reference it is in. -/
structure Reader where
  mode : Mode
  braces : List Nat
  deriving DecidableEq, Repr

/-- The reader between the statements of a script. -/
def start : Reader := ⟨.code, []⟩

def startsName (char : Char) : Bool := char.isAlpha || char == '_'

/-- What a character after a backslash stands for. -/
def unescape : Char → Option Char
  | 'n' => some '\n'
  | 't' => some '\t'
  | 'r' => some '\r'
  | 'b' => some '\x08'
  | 'f' => some '\x0c'
  | '\\' => some '\\'
  | '\'' => some '\''
  | '"' => some '"'
  | '$' => some '$'
  | _ => none

/-- Read a character of the code. -/
def stepCode (braces : List Nat) (char : Char) : Option (Reader × List Token) :=
  if char = '\'' then some (⟨.opened .single, braces⟩, [])
  else if char = '"' then some (⟨.opened .double, braces⟩, [])
  else if char = '/' then none
  else
    match braces with
    | [] => some (⟨.code, []⟩, [.code char])
    | depth :: outer =>
      if char = '{' then some (⟨.code, (depth + 1) :: outer⟩, [.code char])
      else if char = '}' then
        match depth with
        | 0 => some (⟨.literal .double [], outer⟩, [])
        | depth + 1 => some (⟨.code, depth :: outer⟩, [.code char])
      else some (⟨.code, depth :: outer⟩, [.code char])

/-- Read a character of a literal. -/
def stepLiteral (quote : Quote) (value : List Char) (braces : List Nat) (char : Char) :
    Option (Reader × List Token) :=
  if char = '\n' ∨ char = '\r' then none
  else if char = '\\' then some (⟨.escape quote value, braces⟩, [])
  else if char = quote.char then some (⟨.code, braces⟩, [.text value])
  else if quote = .double ∧ char = '$' then some (⟨.dollar, braces⟩, [.cut value])
  else some (⟨.literal quote (value ++ [char]), braces⟩, [])

def step (reader : Reader) (char : Char) : Option (Reader × List Token) :=
  match reader.mode with
  | .code => stepCode reader.braces char
  | .opened quote =>
    if char = quote.char then some (⟨.empty quote, reader.braces⟩, [.text []])
    else stepLiteral quote [] reader.braces char
  | .empty quote => if char = quote.char then none else stepCode reader.braces char
  | .literal quote value => stepLiteral quote value reader.braces char
  | .escape quote value =>
    (unescape char).map fun char => (⟨.literal quote (value ++ [char]), reader.braces⟩, [])
  | .dollar =>
    if char = '{' then some (⟨.code, 0 :: reader.braces⟩, [])
    else if startsName char then some (⟨.reference, reader.braces⟩, [.code char])
    else none
  | .reference =>
    if startsName char ∨ char.isDigit then some (⟨.reference, reader.braces⟩, [.code char])
    else if char = '.' then some (⟨.referenceDot, reader.braces⟩, [])
    else stepLiteral .double [] reader.braces char
  | .referenceDot =>
    if startsName char then some (⟨.reference, reader.braces⟩, [.code '.', .code char])
    else stepLiteral .double ['.'] reader.braces char

def run : Reader → List Char → Option (Reader × List Token)
  | reader, [] => some (reader, [])
  | reader, char :: rest =>
    (step reader char).bind fun read =>
      (run read.1 rest).map fun last => (last.1, read.2 ++ last.2)

/-- Read a script, which ends outside of literals. -/
def read (script : List Char) : Option (List Token) :=
  (run start script).bind fun last =>
    if last.1.braces = [] ∧ last.1.mode.outside then some last.2 else none

/-! ## Reading one text after another -/

variable {tokens : List Token} {reader next : Reader} {char : Char}

lemma run_cons (read : step reader char = some (next, tokens)) (rest : List Char) :
    run reader (char :: rest) =
      (run next rest).map fun last => (last.1, tokens ++ last.2) := by
  rw [run, read]
  rfl

lemma run_singleton (read : step reader char = some (next, tokens)) :
    run reader [char] = some (next, tokens) := by
  rw [run_cons read, run, map_some, append_nil]

lemma run_append (reader : Reader) (first second : List Char) :
    run reader (first ++ second) =
      (run reader first).bind fun middle =>
        (run middle.1 second).map fun last => (last.1, middle.2 ++ last.2) := by
  induction first generalizing reader with
  | nil =>
    rw [nil_append, run, bind_some]
    cases run reader second <;> rfl
  | cons char rest ih =>
    rw [cons_append, run, run]
    cases step reader char with
    | none => rfl
    | some read =>
      rw [bind_some, bind_some, ih]
      cases run read.1 rest with
      | none => rfl
      | some middle =>
        rw [bind_some, map_some, bind_some]
        cases run middle.1 second with
        | none => rfl
        | some last =>
          simp only [map_some, append_assoc]

/-- A text is read by itself as some tokens. -/
def Reads (text : List Char) (tokens : List Token) : Prop := run start text = some (start, tokens)

/-- Whatever follows it, a text is refused or its first token is another one. -/
def Misread (text : List Char) (token : Token) : Prop :=
  ∀ rest reader tokens, run start (text ++ rest) = some (reader, tokens) →
    ∃ first more, tokens = first :: more ∧ first ≠ token

variable {text : List Char}

lemma Reads.read_append (reads : Reads text tokens) (rest : List Char) :
    read (text ++ rest) = (read rest).map (tokens ++ ·) := by
  rw [read, read, run_append, reads, bind_some]
  cases run start rest with
  | none => rfl
  | some last =>
    simp only [map_some, bind_some]
    split <;> rfl

variable {more : List Token} {token : Token}

lemma Misread.not_reads (misread : Misread text token) : ¬ Reads text (token :: more) := fun reads => by
  have whole : run start (text ++ []) = some (start, token :: more) := by
    rw [append_nil]
    exact reads
  obtain ⟨first, others, split, differ⟩ := misread [] start _ whole
  exact differ (List.cons.inj split).1.symm

lemma Misread.read_ne (misread : Misread text token) (rest : List Char) :
    read (text ++ rest) ≠ some (token :: more) := fun equal => by
  obtain ⟨last, ran, ended⟩ := Option.bind_eq_some_iff.mp equal
  obtain ⟨first, others, split, differ⟩ := misread rest last.1 last.2 ran
  split at ended
  · have same := Option.some.inj ended
    rw [split] at same
    exact differ (List.cons.inj same).1
  · cases ended

/-- A part of a script, with the tokens it should be read as. -/
structure Piece where
  text : List Char
  tokens : List Token

/-- A piece is read as it should be. -/
def Piece.IsRead (piece : Piece) : Prop := Reads piece.text piece.tokens

/-- A piece is read as it should be, or misread at its first token. -/
def Piece.Judged (piece : Piece) : Prop :=
  piece.IsRead ∨ ∃ token more, piece.tokens = token :: more ∧ Misread piece.text token

/-- A script is read as the tokens of its pieces when each of them is. -/
lemma read_pieces_iff (pieces : List Piece) (judged : ∀ piece ∈ pieces, piece.Judged) :
    read (pieces.flatMap Piece.text) = some (pieces.flatMap Piece.tokens) ↔
      ∀ piece ∈ pieces, piece.IsRead := by
  induction pieces with
  | nil => exact iff_of_true rfl nofun
  | cons piece rest ih =>
    rw [forall_mem_cons] at judged ⊢
    rw [flatMap_cons, flatMap_cons, ← ih judged.2]
    rcases judged.1 with reads | ⟨token, more, tokens, misread⟩
    · rw [Reads.read_append reads, and_iff_right reads]
      cases read (rest.flatMap Piece.text) with
      | none => exact iff_of_false nofun nofun
      | some others => simp
    · rw [tokens]
      refine iff_of_false (misread.read_ne _) fun all => ?_
      have reads : Reads piece.text piece.tokens := all.1
      rw [tokens] at reads
      exact misread.not_reads reads

/-- Pieces that are all read as they should be under a condition, and one of which is misread
without it. -/
structure ReadWhen (pieces : List Piece) (condition : Prop) : Prop where
  judged : ∀ piece ∈ pieces, piece.Judged
  all : (∀ piece ∈ pieces, piece.IsRead) ↔ condition

lemma readWhen_nil : ReadWhen [] True := ⟨nofun, iff_of_true nofun trivial⟩

variable {left right : Prop}

lemma ReadWhen.append {first second : List Piece} (readFirst : ReadWhen first left)
    (readSecond : ReadWhen second right) :
    ReadWhen (first ++ second) (left ∧ right) where
  judged := forall_mem_append.mpr ⟨readFirst.judged, readSecond.judged⟩
  all := by rw [forall_mem_append, readFirst.all, readSecond.all]

variable {condition : Prop}

lemma ReadWhen.cons {piece : Piece} {rest : List Piece} (read : piece.IsRead)
    (readRest : ReadWhen rest condition) : ReadWhen (piece :: rest) condition where
  judged := forall_mem_cons.mpr ⟨Or.inl read, readRest.judged⟩
  all := by rw [forall_mem_cons, and_iff_right read, readRest.all]

variable {pieces : List Piece}

lemma ReadWhen.congr (read : ReadWhen pieces left) (same : left ↔ right) :
    ReadWhen pieces right := ⟨read.judged, read.all.trans same⟩

/-- A script is read as the tokens of its pieces exactly under their condition. -/
lemma ReadWhen.read_iff (read : ReadWhen pieces condition) :
    Groovy.read (pieces.flatMap Piece.text) = some (pieces.flatMap Piece.tokens) ↔ condition :=
  (read_pieces_iff pieces read.judged).trans read.all

/-! ## Literals -/

section Literals

variable {quote : Quote} {value : List Char} {braces : List Nat}

/-- What is written in a literal for a character is read as that character. -/
def Writes (quote : Quote) (char : Char) (written : List Char) : Prop :=
  ∀ value braces, run ⟨.literal quote value, braces⟩ written =
    some (⟨.literal quote (value ++ [char]), braces⟩, [])

variable {text : List Char}

lemma run_flatMap {write : Char → List Char}
    (writes : ∀ char ∈ text, Writes quote char (write char)) (value : List Char) (braces : List Nat) :
    run ⟨.literal quote value, braces⟩ (text.flatMap write) =
      some (⟨.literal quote (value ++ text), braces⟩, []) := by
  induction text generalizing value with
  | nil => rw [append_nil]; rfl
  | cons char rest ih =>
    rw [forall_mem_cons] at writes
    rw [flatMap_cons, run_append, writes.1, bind_some, ih writes.2,
      append_assoc]
    rfl

lemma step_literal (char : Char) :
    step ⟨.literal quote value, braces⟩ char = stepLiteral quote value braces char := rfl

variable {char : Char}

lemma writes_self (feed : char ≠ '\n') (carriage : char ≠ '\r') (backslash : char ≠ '\\')
    (closes : char ≠ quote.char) (dollar : quote = .double → char ≠ '$') :
    Writes quote char [char] := by
  intro value braces
  apply run_singleton
  rw [step_literal, stepLiteral, if_neg (not_or.mpr ⟨feed, carriage⟩), if_neg backslash,
    if_neg closes, if_neg fun holds => dollar holds.1 holds.2]

lemma writes_escaped {escaped : Char} (unescaped : unescape escaped = some char) :
    Writes quote char ['\\', escaped] := by
  intro value braces
  have read : step ⟨.literal quote value, braces⟩ '\\' =
      some (⟨.escape quote value, braces⟩, []) := by
    rw [step_literal, stepLiteral, if_neg (by decide), if_pos rfl]
  have replaced : step ⟨.escape quote value, braces⟩ escaped =
      some (⟨.literal quote (value ++ [char]), braces⟩, []) := by
    change (unescape escaped).map _ = _
    rw [unescaped]
    rfl
  rw [run_cons read, run_singleton replaced]
  rfl

variable {body : List Char}

/-- After an opening quote a literal is read as any other, unless it is empty. -/
lemma run_opened (head : body.head? ≠ some quote.char) (solid : body ≠ []) :
    run ⟨.opened quote, braces⟩ body = run ⟨.literal quote [], braces⟩ body := by
  cases body with
  | nil => exact absurd rfl solid
  | cons char rest =>
    have differ : char ≠ quote.char := fun equal => head (congrArg some equal)
    have same : step ⟨.opened quote, braces⟩ char = step ⟨.literal quote [], braces⟩ char :=
      if_neg differ
    rw [run, run, same]

/-- A literal, closed by its quote. -/
def quoted (quote : Quote) (body : List Char) : List Char := quote.char :: (body ++ [quote.char])

/-- A character of code that starts nothing. -/
structure Plain (char : Char) : Prop where
  single : char ≠ '\''
  double : char ≠ '"'
  slash : char ≠ '/'

lemma Plain.ne_quote (plain : Plain char) (quote : Quote) : char ≠ quote.char := by
  cases quote with
  | single => exact plain.single
  | double => exact plain.double

lemma Plain.stepCode (plain : Plain char) :
    stepCode [] char = some (start, [.code char]) := by
  rw [Groovy.stepCode, if_neg plain.single, if_neg plain.double, if_neg plain.slash]
  rfl

lemma reads_plain (plain : ∀ char ∈ text, Plain char) : Reads text (text.map .code) := by
  induction text with
  | nil => rfl
  | cons char rest ih =>
    rw [forall_mem_cons] at plain
    have read : step start char = some (start, [.code char]) := plain.1.stepCode
    rw [Reads, run_cons read, ih plain.2]
    rfl

lemma step_quote (quote : Quote) : step start quote.char = some (⟨.opened quote, []⟩, []) := by
  cases quote <;> rfl

lemma step_close (quote : Quote) (value : List Char) :
    step ⟨.literal quote value, []⟩ quote.char = some (start, [.text value]) := by
  cases quote <;> rfl

section

variable (inside : run ⟨.literal quote [], []⟩ body = some (⟨.literal quote value, []⟩, []))
include inside

/-- A literal whose body is read as a text, with a character of code after it. -/
lemma reads_quoted (head : body.head? ≠ some quote.char) {next : Char} (plain : Plain next) :
    Reads (quoted quote body ++ [next]) [.text value, .code next] := by
  rw [Reads, quoted, cons_append, run_cons (step_quote quote), append_assoc]
  by_cases solid : body = []
  · -- The reader checks that no third quote follows.
    subst solid
    cases inside
    have closed : step ⟨.opened quote, []⟩ quote.char = some (⟨.empty quote, []⟩, [.text []]) :=
      if_pos rfl
    have after : step ⟨.empty quote, []⟩ next = some (start, [.code next]) :=
      (if_neg (plain.ne_quote quote)).trans plain.stepCode
    change Option.map _ (run _ [quote.char, next]) = _
    rw [run_cons closed, run_singleton after]
    rfl
  · have after : step start next = some (start, [.code next]) := plain.stepCode
    rw [run_append, run_opened head solid, inside, bind_some]
    change Option.map _ (Option.map _ (run _ [quote.char, next])) = _
    rw [run_cons (step_close quote value), run_singleton after]
    rfl

/-- A literal in which a character is refused, or ends or cuts it before its text is complete. -/
lemma misread_quoted {more : List Char} {bad : Char}
    (head : (body ++ [bad]).head? ≠ some quote.char) {token : Token}
    (other : ∀ next tokens, step ⟨.literal quote value, []⟩ bad = some (next, tokens) → ∃ first
      more, tokens = first :: more ∧ first ≠ token) :
    Misread (quote.char :: (body ++ bad :: more)) token := by
  intro rest reader tokens ran
  have shape : body ++ bad :: more ++ rest = (body ++ [bad]) ++ (more ++ rest) := by simp
  rw [cons_append, run_cons (step_quote quote), shape, run_append,
    run_opened head (by simp), run_append, inside, bind_some] at ran
  cases read : step ⟨.literal quote value, []⟩ bad with
  | none =>
    rw [run, read] at ran
    cases ran
  | some found =>
    obtain ⟨next, emitted⟩ := found
    obtain ⟨first, others, split, differ⟩ := other next emitted read
    subst split
    rw [run_singleton read] at ran
    simp only [map_some, bind_some, Option.map_eq_some_iff] at ran
    obtain ⟨_, ⟨last, -, rfl⟩, equal⟩ := ran
    cases equal
    exact ⟨first, _, rfl, differ⟩

end

end Literals

end Sct.Groovy
