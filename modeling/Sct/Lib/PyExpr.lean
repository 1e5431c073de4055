import Mathlib.Data.List.Basic

/-!
# Boolean expressions of Python

What `ast.parse(text, mode="eval")` makes of a phrase: a text of names, `and`, `or`, `not`, the
constants `True`, `False` and `None`, parentheses and blanks. Nothing is said of a text with any
other character or keyword. Tokens are read one at a time by a pushdown machine: a frame for each
open parenthesis, which holds the finished alternatives of an `or`, the finished factors of the
current `and`, the pending `not`s and the operand just read. Reading token by token is what makes
the meaning of a concatenation plain: the second text is read from the frame the first one left.
Limits of the interpreter on nesting are left out.
-/

open List

namespace Sct.PyExpr

/-! ## Tokens -/

/-- The tokens of a text. -/
inductive Token where
  | name (id : String)
  | and
  | or
  | not
  | constant (value : Option Bool)
  | lpar
  | rpar
  | unsupported
  deriving DecidableEq, Repr

/-- The keywords that are not tokens of their own here. -/
def otherKeywords : List String :=
  ["as", "assert", "async", "await", "break", "class", "continue", "def", "del", "elif", "else",
    "except", "finally", "for", "from", "global", "if", "import", "in", "is", "lambda", "nonlocal",
    "pass", "raise", "return", "try", "while", "with", "yield"]

/-- A letter, a digit or an underscore. -/
def isWordChar (char : Char) : Bool := char.isAlphanum || char == '_'

def wordToken (word : List Char) : Token :=
  let text := String.ofList word
  if text = "and" then .and
  else if text = "or" then .or
  else if text = "not" then .not
  else if text = "True" then .constant (some true)
  else if text = "False" then .constant (some false)
  else if text = "None" then .constant none
  else if text ∈ otherKeywords || (word.head?.getD '0').isDigit then .unsupported
  else .name text

/-- The token that ends with a word, if there is one. -/
def flush : List Char → List Token
  | [] => []
  | word => [wordToken word]

/-- The token of a character that is not part of a word. -/
def charToken (char : Char) : List Token :=
  if char = ' ' || char = '\t' then []
  else if char = '(' then [.lpar]
  else if char = ')' then [.rpar]
  else [.unsupported]

/-- Read characters, with the word read so far. -/
def lexFrom (word : List Char) : List Char → List Token
  | [] => flush word
  | char :: rest =>
    if isWordChar char then lexFrom (word ++ [char]) rest
    else flush word ++ charToken char ++ lexFrom [] rest

def lex (text : String) : List Token := lexFrom [] text.toList

/-- A character outside words separates what stands before it from what stands after it. -/
lemma lexFrom_append_cons (word first : List Char) {char : Char} (rest : List Char)
    (separates : isWordChar char = false) :
    lexFrom word (first ++ char :: rest) =
      lexFrom word first ++ charToken char ++ lexFrom [] rest := by
  induction first generalizing word with
  | nil => simp [lexFrom, separates]
  | cons head tail ih =>
    rw [cons_append, lexFrom, lexFrom]
    by_cases inside : isWordChar head = true
    · rw [if_pos inside, if_pos inside, ih]
    · rw [if_neg inside, if_neg inside, ih, append_assoc, append_assoc,
        append_assoc, append_assoc, append_assoc]

lemma lex_append_blank (first second : String) :
    lex (first ++ " " ++ second) = lex first ++ lex second := by
  have chars : (first ++ " " ++ second).toList = first.toList ++ ' ' :: second.toList := by simp
  rw [lex, chars, lexFrom_append_cons _ _ _ (by decide)]
  simp [charToken, lex]

lemma lex_parens (text : String) : lex ("(" ++ text ++ ")") = .lpar :: lex text ++ [.rpar] := by
  have chars : ("(" ++ text ++ ")").toList = [] ++ '(' :: (text.toList ++ ')' :: []) := by simp
  rw [lex, chars, lexFrom_append_cons _ _ _ (by decide),
    lexFrom_append_cons _ _ _ (by decide)]
  simp [lexFrom, flush, charToken, lex]

/-- A text that is one name. -/
structure IsName (text : String) : Prop where
  /-- Its characters are those of a word. -/
  word : ∀ char ∈ text.toList, isWordChar char = true
  /-- It is neither empty nor a keyword nor a number. -/
  token : flush text.toList = [.name text]

instance (text : String) : Decidable (IsName text) :=
  decidable_of_iff (text.toList.all isWordChar = true ∧ flush text.toList = [.name text])
    ⟨fun checked => ⟨all_eq_true.mp checked.1, checked.2⟩,
      fun name => ⟨all_eq_true.mpr name.word, name.token⟩⟩

lemma lexFrom_word {chars : List Char} (word : List Char)
    (inside : ∀ char ∈ chars, isWordChar char = true) :
    lexFrom word chars = flush (word ++ chars) := by
  induction chars generalizing word with
  | nil => simp [lexFrom]
  | cons head tail ih =>
    have here := inside head mem_cons_self
    rw [lexFrom, if_pos here, ih _ fun char listed => inside char (mem_cons_of_mem head listed)]
    simp

lemma lex_of_isName {text : String} (name : IsName text) : lex text = [.name text] := by
  rw [lex, lexFrom_word [] name.word, nil_append, name.token]

/-! ## Syntax trees -/

/-- The syntax trees of the texts that are read. -/
inductive Expr where
  | name (id : String)
  /-- `True`, `False` or `None`. -/
  | constant (value : Option Bool)
  | tuple
  /-- A call, whatever its arguments are. -/
  | call
  | not (operand : Expr)
  /-- `and` of two or more operands. -/
  | and (values : List Expr)
  /-- `or` of two or more operands. -/
  | or (values : List Expr)
  deriving Repr

/-- The conjunction of factors; one factor stands for itself. -/
def Expr.conjunction : List Expr → Expr
  | [factor] => factor
  | factors => .and factors

/-- The disjunction of alternatives, each a list of factors. -/
def Expr.disjunction : List (List Expr) → Expr
  | [factors] => Expr.conjunction factors
  | alternatives => .or (alternatives.map Expr.conjunction)

/-- An operand after some `not`s. -/
def Expr.negated : Nat → Expr → Expr
  | 0, operand => operand
  | count + 1, operand => .not (Expr.negated count operand)

/-! ## The parser -/

/-- What is read of one level of parentheses. -/
structure Frame where
  /-- The finished alternatives, each a list of factors. -/
  alternatives : List (List Expr)
  /-- The finished factors of the current alternative. -/
  factors : List Expr
  /-- The `not`s before the current operand. -/
  negations : Nat
  /-- The current operand, once it is read. -/
  operand : Option Expr

namespace Frame

def empty : Frame := ⟨[], [], 0, none⟩

/-- No token was read since the level was opened. -/
def isEmpty (frame : Frame) : Bool :=
  frame.alternatives.isEmpty && frame.factors.isEmpty && frame.negations == 0 &&
    frame.operand.isNone

/-- The factors with the current operand. -/
def allFactors (frame : Frame) (operand : Expr) : List Expr :=
  frame.factors ++ [Expr.negated frame.negations operand]

/-- The alternatives with the current one. -/
def allAlternatives (frame : Frame) (operand : Expr) : List (List Expr) :=
  frame.alternatives ++ [frame.allFactors operand]

end Frame

/-- What an open parenthesis began. -/
inductive Opening where
  | group
  | call
  deriving DecidableEq, Repr

/-- The state of the parser: the innermost level, and the levels around it. -/
structure State where
  frame : Frame
  /-- The levels around it, with what the parenthesis after each began. -/
  stack : List (Frame × Opening)

/-- The state before the first token. -/
def State.start : State := ⟨Frame.empty, []⟩

/-- Close the innermost level, whose meaning as a group is given. -/
def State.close (stack : List (Frame × Opening)) (meaning : Expr) : Option State :=
  match stack with
  | [] => none
  | (frame, .group) :: rest => some ⟨{ frame with operand := some meaning }, rest⟩
  | (frame, .call) :: rest => some ⟨{ frame with operand := some .call }, rest⟩

/-- Read one token; `none` is a syntax error. -/
def State.feed (state : State) (token : Token) : Option State :=
  let frame := state.frame
  match frame.operand, token with
  | none, .not => some { state with frame := { frame with negations := frame.negations + 1 } }
  | none, .name id => some { state with frame := { frame with operand := some (.name id) } }
  | none, .constant value =>
    some { state with frame := { frame with operand := some (.constant value) } }
  | none, .lpar => some ⟨Frame.empty, (frame, .group) :: state.stack⟩
  | none, .rpar => if frame.isEmpty then State.close state.stack .tuple else none
  | some operand, .and =>
    some { state with frame := ⟨frame.alternatives, frame.allFactors operand, 0, none⟩ }
  | some operand, .or => some { state with frame := ⟨frame.allAlternatives operand, [], 0, none⟩ }
  | some _, .lpar => some ⟨Frame.empty, (frame, .call) :: state.stack⟩
  | some operand, .rpar =>
    State.close state.stack (Expr.disjunction (frame.allAlternatives operand))
  | _, _ => none

def State.feedAll (state : State) (tokens : List Token) : Option State :=
  tokens.foldlM State.feed state

/-- The alternatives of a complete text. -/
def State.finish (state : State) : Option (List (List Expr)) :=
  match state.stack, state.frame.operand with
  | [], some operand => some (state.frame.allAlternatives operand)
  | _, _ => none

/-- The alternatives the tokens of a text spell. -/
def parseTokens (tokens : List Token) : Option (List (List Expr)) :=
  (State.start.feedAll tokens).bind State.finish

/-- Whether a text starts with a blank, which Python takes for an indentation. -/
def indented (text : String) : Bool :=
  match text.toList with
  | char :: _ => char = ' ' || char = '\t'
  | [] => false

/-- The alternatives of the expression a text spells; `none` is a syntax error. -/
def alternatives (text : String) : Option (List (List Expr)) :=
  if indented text then none else parseTokens (lex text)

/-- A text that is not empty and has no other tokens than those of the language. -/
structure IsPhrase (text : String) : Prop where
  nonempty : text ≠ ""
  tokens : .unsupported ∉ lex text

lemma IsName.isPhrase {text : String} (name : IsName text) : IsPhrase text where
  nonempty := by
    rintro rfl
    cases name.token
  tokens := by simp [lex_of_isName name]

/-- `ast.parse(text, mode="eval")` of a phrase. -/
def parse (text : String) : Option Expr := (alternatives text).map Expr.disjunction

/-! ## Concatenation -/

variable (state : State)

@[simp]
lemma feedAll_nil : state.feedAll [] = some state := rfl

@[simp]
lemma feedAll_cons (token : Token) (rest : List Token) :
    state.feedAll (token :: rest) = (state.feed token).bind fun next => next.feedAll rest := by
  simp [State.feedAll]

lemma feedAll_append (first second : List Token) :
    state.feedAll (first ++ second) = (state.feedAll first).bind fun next =>
      next.feedAll second := by
  simp [State.feedAll, foldlM_append]

/-- Tokens that spell one operand, wherever an operand may stand. -/
def Spells (tokens : List Token) (operand : Expr) : Prop :=
  ∀ frame : Frame, frame.operand = none → ∀ stack,
    (State.mk frame stack).feedAll tokens = some ⟨{ frame with operand := some operand }, stack⟩

/-- The tokens of alternatives that are one name each. -/
def disjunctionTokens : List String → List Token
  | [] => []
  | [id] => [.name id]
  | id :: rest => .name id :: .or :: disjunctionTokens rest

lemma unsupported_notMem_disjunctionTokens (names : List String) :
    .unsupported ∉ disjunctionTokens names := by
  induction names with
  | nil => exact not_mem_nil
  | cons first rest ih => cases rest <;> simp_all [disjunctionTokens]

/-- Reading names with `or` between them. -/
lemma feedAll_disjunctionTokens (before : List (List Expr)) (stack : List (Frame × Opening))
    (first : String) (rest : List String) (after : List Token) :
    (State.mk ⟨before, [], 0, none⟩ stack).feedAll (disjunctionTokens (first :: rest) ++ after) =
      ((State.mk ⟨before ++ ((first :: rest).dropLast.map fun id => [.name id]), [], 0,
        some (.name ((first :: rest).getLast (cons_ne_nil first rest)))⟩ stack).feedAll
          after) := by
  induction rest generalizing before first with
  | nil => simp [disjunctionTokens, State.feed]
  | cons second more ih =>
    have step := ih (before ++ [[.name first]]) second
    simp only [disjunctionTokens, cons_append, feedAll_cons, State.feed, Option.bind_some,
      Frame.allAlternatives, Frame.allFactors, nil_append, Expr.negated] at step ⊢
    rw [step]
    simp

/-- Names with `or` between them, in parentheses, spell their disjunction. -/
lemma spells_parens_names (first : String) (rest : List String) :
    Spells (.lpar :: disjunctionTokens (first :: rest) ++ [.rpar])
      (Expr.disjunction ((first :: rest).map fun id => [.name id])) := by
  intro frame fresh stack
  rw [cons_append, feedAll_cons]
  have opened : (State.mk frame stack).feed .lpar =
      some ⟨Frame.empty, (frame, .group) :: stack⟩ := by simp [State.feed, fresh]
  have whole : ((first :: rest).map fun id => [Expr.name id]) =
      ((first :: rest).dropLast.map fun id => [Expr.name id]) ++
        [[Expr.name ((first :: rest).getLast (cons_ne_nil first rest))]] := by
    conv_lhs => rw [← dropLast_append_getLast (cons_ne_nil first rest)]
    simp
  rw [opened, Option.bind_some, Frame.empty, feedAll_disjunctionTokens, whole]
  simp [State.feed, State.close, Frame.allAlternatives, Frame.allFactors, Expr.negated]

/-- `and` with an operand joins the last alternative. -/
def joinLast (operand : Expr) : List (List Expr) → List (List Expr)
  | [] => []
  | [factors] => [factors ++ [operand]]
  | factors :: rest => factors :: joinLast operand rest

lemma joinLast_append (operand : Expr) (before : List (List Expr)) (last : List Expr) :
    joinLast operand (before ++ [last]) = before ++ [last ++ [operand]] := by
  induction before with
  | nil => rfl
  | cons first rest ih =>
    cases rest with
    | nil => rfl
    | cons second more =>
      simp only [cons_append, joinLast] at ih ⊢
      rw [ih]

variable {operand : Expr}

/-- Tokens followed by `and` and one operand: the operand joins the last alternative, and a text
that is not complete stays incomplete. -/
lemma parseTokens_and {tokens spelled : List Token} (spells : Spells spelled operand) :
    parseTokens (tokens ++ .and :: spelled) = (parseTokens tokens).map (joinLast operand) := by
  unfold parseTokens
  rw [feedAll_append]
  cases read : State.start.feedAll tokens with
  | none => rfl
  | some state =>
    obtain ⟨⟨before, factors, negations, current⟩, stack⟩ := state
    rw [Option.bind_some, feedAll_cons, Option.bind_some]
    cases current with
    | none => simp [State.feed, State.finish]
    | some atom =>
      simp only [State.feed, Option.bind_some]
      rw [spells ⟨before, _, 0, none⟩ rfl stack, Option.bind_some]
      cases stack with
      | nil =>
        simp [State.finish, Frame.allAlternatives, Frame.allFactors, joinLast_append,
          Expr.negated]
      | cons level around => simp [State.finish]

lemma lex_and (text spelled : String) :
    lex (text ++ " and " ++ spelled) = lex text ++ .and :: lex spelled := by
  have joined : text ++ " and " ++ spelled = text ++ " " ++ ("and" ++ " " ++ spelled) := by
    simp [String.append_assoc]
    rfl
  have keyword : lex "and" = [.and] := by decide
  rw [joined, lex_append_blank, lex_append_blank, keyword]
  rfl

lemma IsPhrase.and {text spelled : String} (phrase : IsPhrase text)
    (tokens : .unsupported ∉ lex spelled) : IsPhrase (text ++ " and " ++ spelled) where
  nonempty := by simp [phrase.nonempty]
  tokens := by simp [lex_and, phrase.tokens, tokens]

/-- A text followed by `and` and a text that spells one operand. -/
lemma alternatives_and {text spelled : String} (nonempty : text ≠ "")
    (spells : Spells (lex spelled) operand) :
    alternatives (text ++ " and " ++ spelled) = (alternatives text).map (joinLast operand) := by
  have blank : indented (text ++ " and " ++ spelled) = indented text := by
    unfold indented
    cases chars : text.toList with
    | nil => exact absurd (String.toList_eq_nil_iff.mp chars) nonempty
    | cons head tail => simp [chars]
  unfold alternatives
  rw [blank]
  cases indented text with
  | true => rfl
  | false =>
    rw [lex_and]
    exact parseTokens_and spells

end Sct.PyExpr
