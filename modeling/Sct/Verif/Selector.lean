import Sct.Nemesis.Registry

/-!
# What a spliced selector selects

The runner composes selectors as texts: it appends `and kubernetes` on Kubernetes, and `and` with
the names in parentheses when nemeses are asked for by name. `and` binds tighter than `or`, so
what is appended joins the last alternative of the given selector alone: a class that satisfies
an earlier alternative is selected whether or not it satisfies what was appended. Both results
here say exactly when that does no harm.
-/

namespace Sct.Nemesis

open PyExpr
open List

/-! ## Verdicts -/

variable (context : Context)

/-- What the alternatives of a selector evaluate to. -/
def verdict (alternatives : List (List Expr)) : Except BuildError Bool :=
  visitAny context (alternatives.map Expr.conjunction)

lemma visit_conjunction (factors : List Expr) :
    visit context (Expr.conjunction factors) = visitAll context factors := by
  match factors with
  | [] => simp [Expr.conjunction, visit, visitAll]
  | [factor] =>
    simp only [Expr.conjunction, visitAll]
    split <;> simp_all
  | first :: second :: rest => simp [Expr.conjunction, visit]

lemma visit_disjunction (alternatives : List (List Expr)) :
    visit context (Expr.disjunction alternatives) = verdict context alternatives := by
  match alternatives with
  | [] => simp [Expr.disjunction, verdict, visit]
  | [factors] =>
    simp only [Expr.disjunction, verdict, map_cons, map_nil, visitAny]
    split <;> simp_all
  | first :: second :: rest => simp [Expr.disjunction, verdict, visit]

variable (first second : List Expr)

lemma visitAny_append :
    visitAny context (first ++ second) = match visitAny context first with
      | .ok true => .ok true
      | .ok false => visitAny context second
      | .error exc => .error exc := by
  induction first with
  | nil => simp [visitAny]
  | cons value rest ih =>
    rw [cons_append, visitAny, visitAny, ih]
    cases visit context value with
    | error exc => rfl
    | ok passed => cases passed <;> rfl

lemma visitAll_append :
    visitAll context (first ++ second) = match visitAll context first with
      | .ok true => visitAll context second
      | .ok false => .ok false
      | .error exc => .error exc := by
  induction first with
  | nil => simp [visitAll]
  | cons value rest ih =>
    rw [cons_append, visitAll, visitAll, ih]
    cases visit context value with
    | error exc => rfl
    | ok passed => cases passed <;> rfl

lemma verdict_append (before : List (List Expr)) (last : List Expr) :
    verdict context (before ++ [last]) = match verdict context before with
      | .ok true => .ok true
      | .ok false => visitAll context last
      | .error exc => .error exc := by
  unfold verdict
  rw [map_append, visitAny_append]
  have single : visitAny context ([last].map Expr.conjunction) = visitAll context last := by
    simp only [map_cons, map_nil, visitAny, visit_conjunction]
    cases visitAll context last with
    | error exc => rfl
    | ok passed => cases passed <;> rfl
  rw [single]

/-- With operands joined to the last alternative, a class passes by an earlier alternative, or by
the last one and the operands. -/
lemma verdict_joined_true_iff (before : List (List Expr)) (last joined : List Expr) :
    verdict context (before ++ [last ++ joined]) = .ok true ↔
      verdict context before = .ok true ∨
        verdict context before = .ok false ∧ visitAll context last = .ok true ∧
          visitAll context joined = .ok true := by
  rw [verdict_append, visitAll_append]
  cases verdict context before with
  | error exc => simp
  | ok early =>
    cases early with
    | true => simp
    | false =>
      cases visitAll context last with
      | error exc => simp
      | ok passed => cases passed <;> simp

lemma verdict_joined_iff {before : List (List Expr)} {last joined : List Expr} :
    (∃ value, verdict context (before ++ [last ++ joined]) = .ok value) ↔
      (∃ value, verdict context (before ++ [last]) = .ok value) ∧
        (verdict context before = .ok false → visitAll context last = .ok true →
          ∃ value, visitAll context joined = .ok value) := by
  rw [verdict_append, verdict_append, visitAll_append]
  cases verdict context before with
  | error exc => simp
  | ok passed =>
    cases passed with
    | true => simp
    | false =>
      cases visitAll context last with
      | error exc => simp
      | ok passed => cases passed <;> simp

/-! ## Filtering -/

namespace Registry

variable (registry : Registry)

def classVerdict (cls : NemesisClass) (alternatives : List (List Expr)) : Except BuildError Bool :=
  verdict (registry.context cls) alternatives

lemma filterBy_ok_iff (alternatives : List (List Expr)) (classes kept : List NemesisClass) :
    registry.filterBy (Expr.disjunction alternatives) classes = .ok kept ↔
      (∀ cls ∈ classes, ∃ value, registry.classVerdict cls alternatives = .ok value) ∧
        kept = classes.filter fun cls =>
          match registry.classVerdict cls alternatives with
          | .ok value => value
          | .error _ => false := by
  induction classes generalizing kept with
  | nil => simp [filterBy, eq_comm]
  | cons cls rest ih =>
    have named : verdict (registry.context cls) alternatives =
        registry.classVerdict cls alternatives := rfl
    rw [filterBy, visit_disjunction, named]
    cases judged : registry.classVerdict cls alternatives with
    | error exc => simp [judged]
    | ok passed =>
      cases others : registry.filterBy (Expr.disjunction alternatives) rest with
      | error exc =>
        have refused : ¬∀ other ∈ rest, ∃ value,
            registry.classVerdict other alternatives = .ok value := by
          intro all
          have returned := (ih _).mpr ⟨all, rfl⟩
          rw [others] at returned
          cases returned
        simp only [reduceCtorEq, forall_mem_cons, false_iff, not_and]
        exact fun all => absurd all.2 refused
      | ok later =>
        obtain ⟨all, rfl⟩ := (ih later).mp others
        rw [filter_cons]
        simp only [judged, Except.ok.injEq, forall_mem_cons, exists_eq', true_and]
        constructor
        · exact fun same => ⟨all, same.symm⟩
        · exact fun both => both.2.symm

variable {phrase : String}

lemma filterSubclasses_ok {kept : List NemesisClass} (isPhrase : IsPhrase phrase)
    (ran : registry.filterSubclasses phrase = .ok kept) :
    ∃ alternatives, PyExpr.alternatives phrase = some alternatives ∧
      (∀ cls ∈ registry.subclasses, ∃ value,
        registry.classVerdict cls alternatives = .ok value) ∧
      ∀ cls, cls ∈ kept ↔
        cls ∈ registry.subclasses ∧ registry.classVerdict cls alternatives = .ok true := by
  rw [filterSubclasses, if_neg isPhrase.nonempty, registry.parses phrase isPhrase, parse] at ran
  cases parsed : PyExpr.alternatives phrase with
  | none => simp [parsed] at ran
  | some alternatives =>
    simp only [parsed, Option.map_some] at ran
    obtain ⟨all, rfl⟩ := (registry.filterBy_ok_iff _ _ _).mp ran
    refine ⟨alternatives, rfl, all, fun cls => ?_⟩
    rw [mem_filter]
    cases registry.classVerdict cls alternatives <;> simp

lemma filterSubclasses_returns {alternatives : List (List Expr)} (isPhrase : IsPhrase phrase)
    (parsed : PyExpr.alternatives phrase = some alternatives)
    (all : ∀ cls ∈ registry.subclasses,
      ∃ value, registry.classVerdict cls alternatives = .ok value) :
    ∃ kept, registry.filterSubclasses phrase = .ok kept := by
  rw [filterSubclasses, if_neg isPhrase.nonempty, registry.parses phrase isPhrase, parse, parsed]
  exact ⟨_, (registry.filterBy_ok_iff _ _ _).mpr ⟨all, rfl⟩⟩

/-- The class satisfies the selector; the empty selector asks for nothing. -/
def Satisfies (selector : String) (cls : NemesisClass) : Prop :=
  selector = "" ∨ ∃ expr, parse selector = some expr ∧
    visit (registry.context cls) expr = .ok true

def SatisfiesEarly (selector : String) (cls : NemesisClass) : Prop :=
  ∃ alternatives, PyExpr.alternatives selector = some alternatives ∧
    registry.classVerdict cls alternatives.dropLast = .ok true

def SatisfiesLast (selector : String) (cls : NemesisClass) : Prop :=
  ∃ before last, PyExpr.alternatives selector = some (before ++ [last]) ∧
    registry.classVerdict cls before = .ok false ∧
    visitAll (registry.context cls) last = .ok true

/-- The selector is refused: a syntax error, or a non-boolean expression reached for a class. -/
def Refuses (selector : String) : Prop := ∃ exc, registry.filterSubclasses selector = .error exc

lemma ne_of_refuses {registry : Registry} {selector : String}
    (refused : registry.Refuses selector) : selector ≠ "" := by
  rintro rfl
  obtain ⟨exc, raised⟩ := refused
  cases raised

end Registry

/-! ## The composed texts -/

variable {text : String}

lemma alternatives_split {parsed : List (List Expr)} (read : alternatives text = some parsed) :
    ∃ before last, parsed = before ++ [last] := by
  unfold alternatives at read
  split at read
  · cases read
  · obtain ⟨state, -, finished⟩ := Option.bind_eq_some_iff.mp read
    unfold State.finish at finished
    split at finished
    · obtain rfl := Option.some.inj finished
      exact ⟨_, _, rfl⟩
    · cases finished

lemma isName_kubernetes : IsName "kubernetes" := by decide

lemma spells_of_isName (name : IsName text) : Spells (lex text) (.name text) := by
  rw [lex_of_isName name]
  intro frame fresh stack
  simp [State.feed, fresh]

variable {names : List String}

lemma lex_names (named : ∀ name ∈ names, IsName name) :
    lex (" or ".intercalate names) = disjunctionTokens names := by
  induction names with
  | nil => decide
  | cons first rest ih =>
    have here := lex_of_isName (named first mem_cons_self)
    have later := ih fun name listed => named name (mem_cons_of_mem first listed)
    cases rest with
    | nil => simpa [disjunctionTokens] using here
    | cons second more =>
      have joined : " or ".intercalate (first :: second :: more) =
          first ++ " " ++ ("or" ++ " " ++ " or ".intercalate (second :: more)) := by
        simp [String.append_assoc]
        rfl
      have keyword : lex "or" = [.or] := by decide
      rw [joined, lex_append_blank, lex_append_blank, here, keyword, later]
      rfl

def namesExpr : List String → Expr
  | [] => .tuple
  | first :: rest => Expr.disjunction ((first :: rest).map fun name => [.name name])

lemma spells_names (named : ∀ name ∈ names, IsName name) :
    Spells (lex ("(" ++ " or ".intercalate names ++ ")")) (namesExpr names) := by
  rw [lex_parens, lex_names named]
  cases names with
  | nil =>
    change Spells [.lpar, .rpar] .tuple
    intro frame fresh stack
    simp [State.feed, fresh, State.close, Frame.empty, Frame.isEmpty]
  | cons first rest => exact spells_parens_names first rest

lemma alternatives_names (named : ∀ name ∈ names, IsName name) (nonempty : names ≠ []) :
    alternatives (" or ".intercalate names) = some (names.map fun name => [.name name]) := by
  obtain ⟨first, rest, rfl⟩ := exists_cons_of_ne_nil nonempty
  have starts : indented (" or ".intercalate (first :: rest)) = false := by
    have name := named first mem_cons_self
    unfold indented
    cases chars : first.toList with
    | nil =>
      have token := name.token
      rw [chars] at token
      cases token
    | cons head tail =>
      have solid : isWordChar head = true := name.word head (by simp [chars])
      have notBlank : (decide (head = ' ') || decide (head = '\t')) = false := by
        by_contra blank
        simp only [Bool.not_eq_false, Bool.or_eq_true, decide_eq_true_eq] at blank
        rcases blank with rfl | rfl <;> revert solid <;> decide
      cases rest with
      | nil => simpa [chars] using notBlank
      | cons second more => simpa [String.intercalate_cons_cons, chars] using notBlank
  have whole := dropLast_append_getLast (cons_ne_nil first rest)
  have read := feedAll_disjunctionTokens [] [] first rest []
  rw [append_nil, feedAll_nil] at read
  rw [alternatives, starts, lex_names named]
  rw [parseTokens, State.start, Frame.empty, read]
  conv_rhs => rw [← whole]
  simp [State.finish, Frame.allAlternatives, Frame.allFactors, Expr.negated]

def joinAll (operands : List Expr) (parsed : List (List Expr)) : List (List Expr) :=
  operands.foldl (fun parsed operand => joinLast operand parsed) parsed

lemma joinAll_append (operands : List Expr) (before : List (List Expr)) (last : List Expr) :
    joinAll operands (before ++ [last]) = before ++ [last ++ operands] := by
  induction operands generalizing last with
  | nil => simp [joinAll]
  | cons operand rest ih =>
    have step : joinAll (operand :: rest) (before ++ [last]) =
        joinAll rest (before ++ [last ++ [operand]]) := by
      rw [joinAll, foldl_cons, joinLast_append]
      rfl
    rw [step, ih, append_assoc]
    rfl

namespace Registry

variable {registry : Registry} {selector text : String} {operands : List Expr} {cls : NemesisClass}

lemma satisfies_of_early (early : registry.SatisfiesEarly selector cls) :
    registry.Satisfies selector cls := by
  obtain ⟨parsed, read, passed⟩ := early
  obtain ⟨before, last, rfl⟩ := alternatives_split read
  rw [dropLast_concat] at passed
  refine .inr ⟨_, by rw [parse, read]; rfl, ?_⟩
  rw [visit_disjunction, verdict_append]
  change verdict (registry.context cls) before = .ok true at passed
  rw [passed]

lemma satisfies_of_last (last : registry.SatisfiesLast selector cls) :
    registry.Satisfies selector cls := by
  obtain ⟨before, last, read, early, passed⟩ := last
  refine .inr ⟨_, by rw [parse, read]; rfl, ?_⟩
  rw [visit_disjunction, verdict_append]
  change verdict (registry.context cls) before = .ok false at early
  rw [early, passed]

lemma mem_filterSubclasses_joined {kept : List NemesisClass} (isPhrase : IsPhrase text)
    (composed : alternatives text = (alternatives selector).map (joinAll operands))
    (ran : registry.filterSubclasses text = .ok kept) (cls : NemesisClass) :
    cls ∈ kept ↔ cls ∈ registry.subclasses ∧ (registry.SatisfiesEarly selector cls ∨
      registry.SatisfiesLast selector cls ∧
        visitAll (registry.context cls) operands = .ok true) := by
  obtain ⟨joined, read, -, kept_iff⟩ := registry.filterSubclasses_ok isPhrase ran
  rw [composed] at read
  obtain ⟨parsed, original, rfl⟩ := Option.map_eq_some_iff.mp read
  obtain ⟨before, last, rfl⟩ := alternatives_split original
  rw [kept_iff, joinAll_append, classVerdict, verdict_joined_true_iff]
  refine and_congr_right fun _ => or_congr ?_ ?_
  · constructor
    · exact fun passed => ⟨_, original, by rwa [dropLast_concat]⟩
    · rintro ⟨parsed, again, passed⟩
      obtain rfl := Option.some.inj (original.symm.trans again)
      rwa [dropLast_concat] at passed
  · constructor
    · rintro ⟨early, passed, rest⟩
      exact ⟨⟨before, last, original, early, passed⟩, rest⟩
    · rintro ⟨⟨before', last', again, early, passed⟩, rest⟩
      have same := Option.some.inj (original.symm.trans again)
      obtain ⟨rfl, lasts⟩ := append_inj' same rfl
      obtain rfl := singleton_injective lasts
      exact ⟨early, passed, rest⟩

lemma refuses_joined (isPhrase : IsPhrase text) (given : IsPhrase selector)
    (composed : alternatives text = (alternatives selector).map (joinAll operands))
    (refused : registry.Refuses selector) : registry.Refuses text := by
  cases ran : registry.filterSubclasses text with
  | error exc => exact ⟨exc, ran⟩
  | ok kept =>
    obtain ⟨joined, read, all, -⟩ := registry.filterSubclasses_ok isPhrase ran
    rw [composed] at read
    obtain ⟨parsed, original, rfl⟩ := Option.map_eq_some_iff.mp read
    obtain ⟨before, last, rfl⟩ := alternatives_split original
    obtain ⟨exc, raised⟩ := refused
    obtain ⟨other, returned⟩ := registry.filterSubclasses_returns given original fun cls listed => by
      have judged := all cls listed
      rw [joinAll_append] at judged
      exact ((verdict_joined_iff _).mp judged).1
    rw [raised] at returned
    cases returned

lemma returns_joined (isPhrase : IsPhrase text) (given : IsPhrase selector)
    (composed : alternatives text = (alternatives selector).map (joinAll operands))
    (accepted : ¬registry.Refuses selector)
    (total : ∀ cls ∈ registry.subclasses, registry.SatisfiesLast selector cls →
      ∃ value, visitAll (registry.context cls) operands = .ok value) :
    ∃ kept, registry.filterSubclasses text = .ok kept := by
  cases ran : registry.filterSubclasses selector with
  | error exc => exact absurd ⟨exc, ran⟩ accepted
  | ok original_kept =>
    obtain ⟨parsed, original, all, -⟩ := registry.filterSubclasses_ok given ran
    obtain ⟨before, last, rfl⟩ := alternatives_split original
    refine registry.filterSubclasses_returns isPhrase (composed.trans (by rw [original]; rfl)) ?_
    intro cls listed
    rw [joinAll_append]
    exact (verdict_joined_iff _).mpr ⟨all cls listed, fun early passed =>
      total cls listed ⟨before, last, original, early, passed⟩⟩

end Registry

/-! ## Operands in the context of a class -/

namespace Registry

variable (registry : Registry) {cls : NemesisClass}

lemma context_kubernetes (listed : cls ∈ registry.subclasses) :
    registry.context cls "kubernetes" = registry.hasFlag cls "kubernetes" := by
  have differ : "kubernetes" ≠ cls.name := by
    intro same
    exact registry.separate cls listed (same ▸ registry.kubernetes)
  rw [context, if_neg differ]

def Known (names : List String) : Prop :=
  ∀ name ∈ names, ∃ cls ∈ registry.subclasses, cls.name = name

variable {registry} {names : List String}

lemma Known.isName (known : registry.Known names) : ∀ name ∈ names, IsName name := by
  intro name listed
  obtain ⟨cls, present, rfl⟩ := known name listed
  exact registry.named cls present

lemma verdict_names (known : registry.Known names) (cls : NemesisClass) :
    registry.classVerdict cls (names.map fun name => [.name name]) =
      .ok (decide (cls.name ∈ names)) := by
  unfold classVerdict verdict
  induction names with
  | nil => rfl
  | cons first rest ih =>
    have later := ih fun name listed => known name (mem_cons_of_mem first listed)
    obtain ⟨other, present, rfl⟩ := known first mem_cons_self
    have unflagged := registry.separate other present
    simp only [map_cons, Expr.conjunction, visitAny, visit, later]
    by_cases same : other.name = cls.name
    · simp [context, same]
    · simp [context, hasFlag, same, unflagged, Ne.symm same]

end Registry

/-! ## The builders -/

namespace Runner

variable {runner : Runner} {selector : String} {names : List String} {built : List NemesisClass}

def backendOperands (runner : Runner) : List Expr :=
  if runner.onKubernetes then [.name "kubernetes"] else []

lemma isPhrase_effective (given : IsPhrase selector) :
    IsPhrase (runner.effectiveSelector selector) := by
  unfold effectiveSelector
  rw [if_neg given.nonempty]
  split
  · apply given.and
    simp [lex_of_isName isName_kubernetes]
  · exact given

lemma alternatives_effective (given : IsPhrase selector) :
    alternatives (runner.effectiveSelector selector) =
      (alternatives selector).map (joinAll runner.backendOperands) := by
  unfold effectiveSelector backendOperands
  rw [if_neg given.nonempty]
  split
  · exact alternatives_and given.nonempty (spells_of_isName isName_kubernetes)
  · have same : joinAll [] = id := rfl
    rw [same, Option.map_id, id]

lemma isPhrase_namesSelector (known : runner.registry.Known names)
    (given : IsPhrase runner.nemesisSelector) : IsPhrase (runner.namesSelector names) := by
  unfold namesSelector
  rw [if_neg given.nonempty]
  apply given.and
  simp [lex_parens, lex_names known.isName, unsupported_notMem_disjunctionTokens]

lemma alternatives_namesSelector (known : runner.registry.Known names)
    (given : IsPhrase runner.nemesisSelector) :
    alternatives (runner.effectiveSelector (runner.namesSelector names)) =
      (alternatives runner.nemesisSelector).map
        (joinAll (namesExpr names :: runner.backendOperands)) := by
  have joined := alternatives_and given.nonempty (spells_names known.isName)
  rw [alternatives_effective (isPhrase_namesSelector known given), namesSelector,
    if_neg given.nonempty, joined, Option.map_map]
  rfl

lemma buildDisruptionsBySelector_ok_iff :
    runner.buildDisruptionsBySelector selector = .ok built ↔
      ∃ kept, runner.registry.filterSubclasses (runner.effectiveSelector selector) = .ok kept ∧
        built = kept.filter NemesisClass.constructible := by
  unfold buildDisruptionsBySelector
  cases runner.registry.filterSubclasses (runner.effectiveSelector selector) with
  | error exc => simp
  | ok kept => simp [eq_comm]

variable {cls : NemesisClass}

lemma mem_subclasses_of_kept {phrase : String} {kept : List NemesisClass}
    (ran : runner.registry.filterSubclasses phrase = .ok kept) (listed : cls ∈ kept) :
    cls ∈ runner.registry.subclasses := by
  unfold Registry.filterSubclasses at ran
  split at ran
  · exact Except.ok.inj ran ▸ listed
  · split at ran
    · cases ran
    · rename_i expr _
      obtain ⟨-, rfl⟩ := (runner.registry.filterBy_ok_iff [[expr]] _ _).mp ran
      exact (mem_filter.mp listed).1

lemma mem_byName_iff (listed : ∀ cls ∈ built, cls ∈ runner.registry.subclasses)
    (cls : NemesisClass) :
    cls ∈ ((Dict.empty : Dict String NemesisClass).setAll
      (built.map fun cls => (cls.name, cls))).entries.map Prod.snd ↔ cls ∈ built := by
  have agree : ∀ entry ∈ built.map fun cls => (cls.name, cls),
      ∀ other ∈ built.map fun cls => (cls.name, cls), entry.1 = other.1 → entry = other := by
    intro entry first other second same
    obtain ⟨left, isLeft, rfl⟩ := mem_map.mp first
    obtain ⟨right, isRight, rfl⟩ := mem_map.mp second
    rw [runner.registry.unique left (listed left isLeft) right (listed right isRight) same]
  rw [mem_map]
  constructor
  · rintro ⟨⟨name, value⟩, present, rfl⟩
    rw [Dict.mem_entries_iff, Dict.get_setAll_iff agree] at present
    obtain ⟨other, isBuilt, same⟩ := mem_map.mp present
    exact (Prod.mk.inj same).2 ▸ isBuilt
  · intro isBuilt
    refine ⟨(cls.name, cls), ?_, rfl⟩
    rw [Dict.mem_entries_iff, Dict.get_setAll_iff agree]
    exact mem_map.mpr ⟨cls, isBuilt, rfl⟩

lemma unknown_eq_nil_iff :
    (names.filter fun name =>
      decide (name ∉ runner.registry.subclasses.map NemesisClass.name)) = [] ↔
      runner.registry.Known names := by
  simp [filter_eq_nil_iff, Registry.Known]

lemma buildDisruptionsByName_ok (ran : runner.buildDisruptionsByName names = .ok built) :
    runner.registry.Known names ∧ ∃ filtered,
      runner.buildDisruptionsBySelector (runner.namesSelector names) = .ok filtered ∧
        ∀ cls, cls ∈ built ↔ cls ∈ filtered := by
  unfold buildDisruptionsByName at ran
  dsimp only at ran
  split at ran
  · cases ran
  · rename_i known
    cases made : runner.buildDisruptionsBySelector (runner.namesSelector names) with
    | error exc => simp [made] at ran
    | ok filtered =>
      simp only [made] at ran
      split at ran
      · cases ran
      · obtain rfl := Except.ok.inj ran
        obtain ⟨kept, filter_ran, rfl⟩ := buildDisruptionsBySelector_ok_iff.mp made
        refine ⟨unknown_eq_nil_iff.mp (not_not.mp known), _, rfl, fun cls => ?_⟩
        exact mem_byName_iff (fun cls listed =>
          mem_subclasses_of_kept filter_ran (mem_filter.mp listed).1) cls

lemma buildDisruptionsByName_returns (known : runner.registry.Known names)
    (ran : runner.buildDisruptionsBySelector (runner.namesSelector names) = .ok built)
    (isBuilt : cls ∈ built) :
    ∃ result, runner.buildDisruptionsByName names = .ok result ∧ cls ∈ result := by
  obtain ⟨kept, filter_ran, rfl⟩ := buildDisruptionsBySelector_ok_iff.mp ran
  have present := (mem_byName_iff (fun cls listed =>
    mem_subclasses_of_kept filter_ran (mem_filter.mp listed).1) cls).mpr isBuilt
  unfold buildDisruptionsByName
  simp only [ne_eq, unknown_eq_nil_iff, known, not_true_eq_false, if_false, ran]
  split
  · rename_i empty
    rw [empty] at present
    cases present
  · exact ⟨_, rfl, present⟩

variable {operands : List Expr} {text : String}

lemma mem_built_iff (given : IsPhrase text)
    (composed : alternatives (runner.effectiveSelector text) =
      (alternatives selector).map (joinAll operands))
    (ran : runner.buildDisruptionsBySelector text = .ok built) (cls : NemesisClass) :
    cls ∈ built ↔ cls ∈ runner.registry.subclasses ∧ cls.constructible = true ∧
      (runner.registry.SatisfiesEarly selector cls ∨
        runner.registry.SatisfiesLast selector cls ∧
          visitAll (runner.registry.context cls) operands = .ok true) := by
  obtain ⟨kept, filter_ran, rfl⟩ := buildDisruptionsBySelector_ok_iff.mp ran
  rw [mem_filter,
    Registry.mem_filterSubclasses_joined (isPhrase_effective given) composed filter_ran]
  tauto

lemma built_of_returns (given : IsPhrase text) (some_selector : IsPhrase selector)
    (composed : alternatives (runner.effectiveSelector text) =
      (alternatives selector).map (joinAll operands)) (accepted : ¬runner.registry.Refuses selector)
    (total : ∀ cls ∈ runner.registry.subclasses, runner.registry.SatisfiesLast selector cls →
      ∃ value, visitAll (runner.registry.context cls) operands = .ok value) :
    ∃ built, runner.buildDisruptionsBySelector text = .ok built := by
  obtain ⟨kept, filter_ran⟩ :=
    Registry.returns_joined (isPhrase_effective given) some_selector composed accepted total
  exact ⟨_, buildDisruptionsBySelector_ok_iff.mpr ⟨kept, filter_ran, rfl⟩⟩

lemma not_built_of_refuses (given : IsPhrase text) (some_selector : IsPhrase selector)
    (composed : alternatives (runner.effectiveSelector text) =
      (alternatives selector).map (joinAll operands)) (refused : runner.registry.Refuses selector)
    (ran : runner.buildDisruptionsBySelector text = .ok built) : False := by
  obtain ⟨kept, filter_ran, -⟩ := buildDisruptionsBySelector_ok_iff.mp ran
  obtain ⟨exc, raised⟩ :=
    Registry.refuses_joined (isPhrase_effective given) some_selector composed refused
  rw [filter_ran] at raised
  cases raised

lemma visitAll_backend (listed : cls ∈ runner.registry.subclasses) :
    visitAll (runner.registry.context cls) runner.backendOperands =
      .ok (!runner.onKubernetes || runner.registry.hasFlag cls "kubernetes") := by
  have flag := runner.registry.context_kubernetes listed
  unfold backendOperands
  cases runner.onKubernetes with
  | false => simp [visitAll]
  | true =>
    simp only [if_true, visitAll, visit, flag]
    cases runner.registry.hasFlag cls "kubernetes" <;> rfl

lemma visitAll_names (known : runner.registry.Known names) (nonempty : names ≠ [])
    (listed : cls ∈ runner.registry.subclasses) :
    visitAll (runner.registry.context cls) (namesExpr names :: runner.backendOperands) =
      .ok (decide (cls.name ∈ names) &&
        (!runner.onKubernetes || runner.registry.hasFlag cls "kubernetes")) := by
  obtain ⟨first, rest, rfl⟩ := exists_cons_of_ne_nil nonempty
  have own := Registry.verdict_names known cls
  rw [Registry.classVerdict] at own
  rw [visitAll, namesExpr, visit_disjunction, own, visitAll_backend listed]
  cases decide (cls.name ∈ first :: rest) <;> rfl

lemma visitAll_no_names (cls : NemesisClass) :
    visitAll (runner.registry.context cls) (namesExpr [] :: runner.backendOperands) =
      .error (.runtimeError "non-boolean expression") := by
  rw [visitAll, namesExpr, visit]

lemma build_of_no_selector (runner : Runner) :
    ∃ built, runner.buildDisruptionsBySelector "" = .ok built ∧ ∀ cls, cls ∈ built ↔
      cls ∈ runner.registry.subclasses ∧ cls.constructible = true ∧
        (!runner.onKubernetes || runner.registry.hasFlag cls "kubernetes") = true := by
  cases backend : runner.onKubernetes with
  | false =>
    have all : runner.registry.filterSubclasses (runner.effectiveSelector "") =
        .ok runner.registry.subclasses := by
      simp [effectiveSelector, backend, Registry.filterSubclasses]
    exact ⟨_, buildDisruptionsBySelector_ok_iff.mpr ⟨_, all, rfl⟩, by simp [mem_filter]⟩
  | true =>
    have text : runner.effectiveSelector "" = "kubernetes" := by
      simp [effectiveSelector, backend]
    have parsed : alternatives "kubernetes" = some [[.name "kubernetes"]] := by
      rw [alternatives, lex_of_isName isName_kubernetes]
      rfl
    have judged : ∀ cls ∈ runner.registry.subclasses,
        runner.registry.classVerdict cls [[.name "kubernetes"]] =
          .ok (runner.registry.hasFlag cls "kubernetes") := by
      intro cls listed
      have flag := runner.registry.context_kubernetes listed
      simp only [Registry.classVerdict, verdict, map_cons, map_nil, Expr.conjunction,
        visitAny, visit, flag]
      cases runner.registry.hasFlag cls "kubernetes" <;> rfl
    obtain ⟨kept, ran⟩ := runner.registry.filterSubclasses_returns isName_kubernetes.isPhrase parsed
      fun cls listed => ⟨_, judged cls listed⟩
    obtain ⟨again, read, -, kept_iff⟩ :=
      runner.registry.filterSubclasses_ok isName_kubernetes.isPhrase ran
    obtain rfl := Option.some.inj (parsed.symm.trans read)
    refine ⟨_, buildDisruptionsBySelector_ok_iff.mpr ⟨kept, text.symm ▸ ran, rfl⟩, ?_⟩
    intro cls
    rw [mem_filter, kept_iff]
    constructor
    · rintro ⟨⟨listed, passed⟩, able⟩
      rw [judged cls listed] at passed
      exact ⟨listed, able, Except.ok.inj passed⟩
    · rintro ⟨listed, able, flagged⟩
      rw [judged cls listed]
      exact ⟨⟨listed, congrArg _ flagged⟩, able⟩

section

variable (known : runner.registry.Known names) (nonempty : names ≠ [])

include known nonempty

lemma satisfiesEarly_names (cls : NemesisClass) :
    runner.registry.SatisfiesEarly (" or ".intercalate names) cls ↔
      cls.name ∈ names.dropLast := by
  have parsed := alternatives_names known.isName nonempty
  have before : runner.registry.Known names.dropLast := fun name listed =>
    known name (dropLast_subset names listed)
  have judged := Registry.verdict_names before cls
  unfold Registry.SatisfiesEarly
  rw [parsed]
  simp only [Option.some.injEq, exists_eq_left', ← map_dropLast, judged, Except.ok.injEq,
    decide_eq_true_eq]

lemma mem_names_of_satisfies {cls : NemesisClass} (given : IsPhrase (" or ".intercalate names))
    (satisfied : runner.registry.Satisfies (" or ".intercalate names) cls) :
    cls.name ∈ names := by
  rcases satisfied with empty | ⟨expr, parsed, passed⟩
  · exact absurd empty given.nonempty
  · rw [parse, alternatives_names known.isName nonempty] at parsed
    obtain rfl := Option.some.inj parsed
    rw [visit_disjunction] at passed
    have judged := Registry.verdict_names known cls
    rw [Registry.classVerdict, passed] at judged
    simpa using judged

lemma isPhrase_names : IsPhrase (" or ".intercalate names) where
  nonempty := by
    intro empty
    have parsed := alternatives_names known.isName nonempty
    rw [empty] at parsed
    cases parsed
  tokens := by
    rw [lex_names known.isName]
    exact unsupported_notMem_disjunctionTokens names

lemma names_accepted :
    ¬runner.registry.Refuses (" or ".intercalate names) := by
  rintro ⟨exc, raised⟩
  obtain ⟨kept, returned⟩ := runner.registry.filterSubclasses_returns
    (isPhrase_names known nonempty) (alternatives_names known.isName nonempty)
    fun cls _ => ⟨_, Registry.verdict_names known cls⟩
  rw [returned] at raised
  cases raised

end

/-! ## Selectors on Kubernetes -/

/-- Whatever is built has the `kubernetes` flag and satisfies the selector of the runner. -/
structure KubernetesBuilds (runner : Runner) (names : List String) : Prop where
  bySelector : ∀ built, runner.buildDisruptionsBySelector runner.nemesisSelector = .ok built →
    ∀ cls ∈ built, runner.registry.hasFlag cls "kubernetes" = true ∧
      runner.registry.Satisfies runner.nemesisSelector cls
  byName : ∀ built, runner.buildDisruptionsByName names = .ok built →
    ∀ cls ∈ built, runner.registry.hasFlag cls "kubernetes" = true ∧
      runner.registry.Satisfies runner.nemesisSelector cls

lemma kubernetesBuilds_of_refuses (given : IsPhrase runner.nemesisSelector)
    (refused : runner.registry.Refuses runner.nemesisSelector) :
    KubernetesBuilds runner names where
  bySelector := fun _ ran =>
    (not_built_of_refuses given given (alternatives_effective given) refused ran).elim
  byName := fun _ ran => by
    obtain ⟨known, filtered, built, -⟩ := buildDisruptionsByName_ok ran
    exact (not_built_of_refuses (isPhrase_namesSelector known given) given
      (alternatives_namesSelector known given) refused built).elim

/-- What is built by names under a selector: the classes that satisfy the selector early, and the
named ones among those that satisfy it by its last alternative. -/
lemma built_by_names (given : IsPhrase runner.nemesisSelector)
    (ran : runner.buildDisruptionsByName names = .ok built) (isBuilt : cls ∈ built) :
    cls ∈ runner.registry.subclasses ∧ cls.constructible = true ∧
      (runner.registry.SatisfiesEarly runner.nemesisSelector cls ∨
        runner.registry.SatisfiesLast runner.nemesisSelector cls ∧ cls.name ∈ names ∧
          (!runner.onKubernetes || runner.registry.hasFlag cls "kubernetes") = true) := by
  obtain ⟨known, filtered, made, same⟩ := buildDisruptionsByName_ok ran
  obtain ⟨listed, able, passed⟩ := (mem_built_iff (isPhrase_namesSelector known given)
    (alternatives_namesSelector known given) made cls).mp ((same cls).mp isBuilt)
  refine ⟨listed, able, passed.imp_right fun last => ⟨last.1, ?_⟩⟩
  have joined := last.2
  by_cases empty : names = []
  · rw [empty, visitAll_no_names] at joined
    cases joined
  · rw [visitAll_names known empty listed] at joined
    have both := Except.ok.inj joined
    rw [Bool.and_eq_true, decide_eq_true_eq] at both
    exact both

lemma kubernetesBuilds_of_early (onKubernetes : runner.onKubernetes = true)
    (given : IsPhrase runner.nemesisSelector)
    (early : ∀ cls ∈ runner.registry.subclasses, cls.constructible = true →
      runner.registry.SatisfiesEarly runner.nemesisSelector cls →
      runner.registry.hasFlag cls "kubernetes" = true) :
    KubernetesBuilds runner names := by
  constructor
  · intro built ran cls isBuilt
    obtain ⟨listed, able, passed⟩ :=
      (mem_built_iff given (alternatives_effective given) ran cls).mp isBuilt
    rcases passed with passed | ⟨passed, flagged⟩
    · exact ⟨early cls listed able passed, Registry.satisfies_of_early passed⟩
    · rw [visitAll_backend listed, onKubernetes] at flagged
      exact ⟨by simpa using flagged, Registry.satisfies_of_last passed⟩
  · intro built ran cls isBuilt
    obtain ⟨listed, able, passed⟩ := built_by_names given ran isBuilt
    rcases passed with passed | ⟨passed, -, flagged⟩
    · exact ⟨early cls listed able passed, Registry.satisfies_of_early passed⟩
    · rw [onKubernetes] at flagged
      exact ⟨by simpa using flagged, Registry.satisfies_of_last passed⟩

lemma kubernetesBuilds_of_no_selector (onKubernetes : runner.onKubernetes = true)
    (empty : runner.nemesisSelector = "")
    (named : ∀ cls ∈ runner.registry.subclasses, cls.constructible = true →
      cls.name ∈ names.dropLast → runner.registry.Known names →
      runner.registry.hasFlag cls "kubernetes" = true) :
    KubernetesBuilds runner names := by
  obtain ⟨all, admitted, all_iff⟩ := runner.build_of_no_selector
  have everything : ∀ built, runner.buildDisruptionsBySelector "" = .ok built →
      ∀ cls ∈ built, runner.registry.hasFlag cls "kubernetes" = true := by
    intro built ran cls isBuilt
    obtain rfl := Except.ok.inj (admitted.symm.trans ran)
    simpa [onKubernetes] using ((all_iff cls).mp isBuilt).2.2
  constructor
  · intro built ran cls isBuilt
    rw [empty] at ran
    exact ⟨everything built ran cls isBuilt, .inl empty⟩
  · intro built ran cls isBuilt
    obtain ⟨known, filtered, made, same⟩ := buildDisruptionsByName_ok ran
    refine ⟨?_, .inl empty⟩
    rw [namesSelector, if_pos empty] at made
    by_cases none : names = []
    · rw [none] at made
      exact everything filtered made cls ((same cls).mp isBuilt)
    · have given := isPhrase_names known none
      obtain ⟨listed, able, passed⟩ :=
        (mem_built_iff given (alternatives_effective given) made cls).mp ((same cls).mp isBuilt)
      rcases passed with passed | ⟨-, flagged⟩
      · exact named cls listed able ((satisfiesEarly_names known none cls).mp passed) known
      · rw [visitAll_backend listed, onKubernetes] at flagged
        simpa using flagged

/-- On Kubernetes every nemesis that is built has the flag and satisfies the selector exactly when
the selector is refused, or the classes that satisfy an alternative of it before the last have the
flag, or there is no selector and the classes named before the last have the flag. -/
theorem kubernetesBuilds_iff (runner : Runner) (names : List String)
    (phrase : runner.nemesisSelector ≠ "" → IsPhrase runner.nemesisSelector)
    (onKubernetes : runner.onKubernetes = true) :
    KubernetesBuilds runner names ↔
      runner.registry.Refuses runner.nemesisSelector ∨
      (runner.nemesisSelector ≠ "" ∧ ∀ cls ∈ runner.registry.subclasses,
        cls.constructible = true → runner.registry.SatisfiesEarly runner.nemesisSelector cls →
        runner.registry.hasFlag cls "kubernetes" = true) ∨
      (runner.nemesisSelector = "" ∧ ∀ cls ∈ runner.registry.subclasses,
        cls.constructible = true → cls.name ∈ names.dropLast → runner.registry.Known names →
        runner.registry.hasFlag cls "kubernetes" = true) := by
  constructor
  · intro builds
    by_cases empty : runner.nemesisSelector = ""
    · refine .inr (.inr ⟨empty, fun cls listed able before known => ?_⟩)
      have nonempty : names ≠ [] := by
        rintro rfl
        simp at before
      have given := isPhrase_names known nonempty
      have composed := @alternatives_effective runner _ given
      have accepted := names_accepted known nonempty
      obtain ⟨built, ran⟩ := built_of_returns given given composed accepted
        fun cls listed _ => ⟨_, visitAll_backend listed⟩
      have early := (satisfiesEarly_names known nonempty cls).mpr before
      have isBuilt := (mem_built_iff given composed ran cls).mpr ⟨listed, able, .inl early⟩
      have text : runner.namesSelector names = " or ".intercalate names := by
        rw [namesSelector, if_pos empty]
      obtain ⟨result, returned, present⟩ :=
        buildDisruptionsByName_returns known (text ▸ ran) isBuilt
      exact (builds.byName result returned cls present).1
    · by_cases refused : runner.registry.Refuses runner.nemesisSelector
      · exact .inl refused
      · refine .inr (.inl ⟨empty, fun cls listed able early => ?_⟩)
        have given := phrase empty
        have composed := @alternatives_effective runner _ given
        obtain ⟨built, ran⟩ := built_of_returns given given composed refused
          fun cls listed _ => ⟨_, visitAll_backend listed⟩
        have isBuilt := (mem_built_iff given composed ran cls).mpr ⟨listed, able, .inl early⟩
        exact (builds.bySelector built ran cls isBuilt).1
  · rintro (refused | ⟨given, early⟩ | ⟨empty, named⟩)
    · exact kubernetesBuilds_of_refuses (phrase (Registry.ne_of_refuses refused)) refused
    · exact kubernetesBuilds_of_early onKubernetes (phrase given) early
    · exact kubernetesBuilds_of_no_selector onKubernetes empty named

/-! ## Names under a selector -/

lemma built_by_names_of_early (known : runner.registry.Known names)
    (given : IsPhrase runner.nemesisSelector)
    (accepted : ¬runner.registry.Refuses runner.nemesisSelector)
    (reached : names = [] → ∀ cls ∈ runner.registry.subclasses,
      ¬runner.registry.SatisfiesLast runner.nemesisSelector cls)
    (listed : cls ∈ runner.registry.subclasses) (able : cls.constructible = true)
    (early : runner.registry.SatisfiesEarly runner.nemesisSelector cls) :
    ∃ built, runner.buildDisruptionsByName names = .ok built ∧ cls ∈ built := by
  have composed := @alternatives_namesSelector runner names known given
  obtain ⟨filtered, made⟩ := built_of_returns (isPhrase_namesSelector known given) given composed accepted
    (by
      intro other present last
      by_cases empty : names = []
      · exact absurd last (reached empty other present)
      · exact ⟨_, visitAll_names known empty present⟩)
  have isBuilt := (mem_built_iff (isPhrase_namesSelector known given) composed made cls).mpr
    ⟨listed, able, .inl early⟩
  exact buildDisruptionsByName_returns known made isBuilt

lemma not_built_of_reached (given : IsPhrase runner.nemesisSelector)
    (listed : cls ∈ runner.registry.subclasses)
    (last : runner.registry.SatisfiesLast runner.nemesisSelector cls)
    (ran : runner.buildDisruptionsByName [] = .ok built) : False := by
  obtain ⟨known, filtered, made, -⟩ := buildDisruptionsByName_ok ran
  obtain ⟨kept, filter_ran, -⟩ := buildDisruptionsBySelector_ok_iff.mp made
  obtain ⟨joined, read, all, -⟩ := runner.registry.filterSubclasses_ok
    (isPhrase_effective (isPhrase_namesSelector known given)) filter_ran
  obtain ⟨before, factors, parsed, early, passed⟩ := last
  rw [alternatives_namesSelector known given, parsed] at read
  obtain rfl := Option.some.inj read
  obtain ⟨value, judged⟩ := all cls listed
  rw [joinAll_append, Registry.classVerdict, verdict_append, visitAll_append,
    visitAll_no_names] at judged
  rw [Registry.classVerdict] at early
  simp [early, passed] at judged

lemma named_of_no_selector (empty : runner.nemesisSelector = "")
    (open_backend : names = [] → ∀ cls ∈ runner.registry.subclasses, cls.constructible = true →
      runner.onKubernetes = true ∧ runner.registry.hasFlag cls "kubernetes" = false)
    (ran : runner.buildDisruptionsByName names = .ok built) (isBuilt : cls ∈ built) :
    cls.name ∈ names := by
  obtain ⟨known, filtered, made, same⟩ := buildDisruptionsByName_ok ran
  rw [namesSelector, if_pos empty] at made
  by_cases none : names = []
  · obtain ⟨all, admitted, all_iff⟩ := runner.build_of_no_selector
    have phrase : " or ".intercalate names = "" := by
      rw [none]
      rfl
    rw [phrase] at made
    obtain rfl := Except.ok.inj (admitted.symm.trans made)
    obtain ⟨listed, able, flagged⟩ := (all_iff cls).mp ((same cls).mp isBuilt)
    obtain ⟨backend, unflagged⟩ := open_backend none cls listed able
    simp [backend, unflagged] at flagged
  · have given := isPhrase_names known none
    obtain ⟨-, -, passed⟩ :=
      (mem_built_iff given (alternatives_effective given) made cls).mp ((same cls).mp isBuilt)
    refine mem_names_of_satisfies known none given ?_
    rcases passed with passed | ⟨passed, -⟩
    · exact Registry.satisfies_of_early passed
    · exact Registry.satisfies_of_last passed

/-- What is built by names has one of the names and satisfies the selector exactly when a name is
unknown, or the selector is refused; or there is no selector, and some name is given or the
backend admits no class; or there is a selector, and the classes that satisfy an alternative of it
before the last are named, or no name is given and some class reaches the empty parentheses. -/
theorem namedBuilds_iff (runner : Runner) (names : List String)
    (phrase : runner.nemesisSelector ≠ "" → IsPhrase runner.nemesisSelector) :
    (∀ built, runner.buildDisruptionsByName names = .ok built → ∀ cls ∈ built,
      cls.name ∈ names ∧ runner.registry.Satisfies runner.nemesisSelector cls) ↔
      ¬runner.registry.Known names ∨ runner.registry.Refuses runner.nemesisSelector ∨
      (runner.nemesisSelector = "" ∧ (names = [] → ∀ cls ∈ runner.registry.subclasses,
        cls.constructible = true → runner.onKubernetes = true ∧
          runner.registry.hasFlag cls "kubernetes" = false)) ∨
      (runner.nemesisSelector ≠ "" ∧
        ((∀ cls ∈ runner.registry.subclasses, cls.constructible = true →
          runner.registry.SatisfiesEarly runner.nemesisSelector cls → cls.name ∈ names) ∨
        (names = [] ∧ ∃ cls ∈ runner.registry.subclasses,
          runner.registry.SatisfiesLast runner.nemesisSelector cls))) := by
  obtain ⟨all, admitted, all_iff⟩ := runner.build_of_no_selector
  constructor
  · intro builds
    by_cases known : runner.registry.Known names
    · refine .inr ?_
      by_cases refused : runner.registry.Refuses runner.nemesisSelector
      · exact .inl refused
      · refine .inr ?_
        by_cases empty : runner.nemesisSelector = ""
        · refine .inl ⟨empty, ?_⟩
          rintro rfl cls listed able
          have text : runner.namesSelector [] = "" := by
            rw [namesSelector, if_pos empty]
            rfl
          by_contra open_backend
          have isBuilt := (all_iff cls).mpr ⟨listed, able, by
            cases backend : runner.onKubernetes <;> simp_all⟩
          obtain ⟨result, returned, present⟩ :=
            buildDisruptionsByName_returns known (text ▸ admitted) isBuilt
          exact absurd (builds result returned cls present).1 not_mem_nil
        · refine .inr ⟨empty, ?_⟩
          by_cases reached : names = [] ∧ ∃ cls ∈ runner.registry.subclasses,
              runner.registry.SatisfiesLast runner.nemesisSelector cls
          · exact .inr reached
          · refine .inl fun cls listed able early => ?_
            obtain ⟨result, returned, present⟩ := built_by_names_of_early known (phrase empty)
              refused (fun none other present last => reached ⟨none, other, present, last⟩)
              listed able early
            exact (builds result returned cls present).1
    · exact .inl known
  · rintro (unknown | refused | ⟨empty, named⟩ | ⟨given, early | ⟨rfl, other, listed, last⟩⟩)
      built ran cls isBuilt
    · exact absurd (buildDisruptionsByName_ok ran).1 unknown
    · have given := phrase (Registry.ne_of_refuses refused)
      obtain ⟨known, filtered, made, -⟩ := buildDisruptionsByName_ok ran
      exact (not_built_of_refuses (isPhrase_namesSelector known given) given
        (alternatives_namesSelector known given) refused made).elim
    · exact ⟨named_of_no_selector empty named ran isBuilt, .inl empty⟩
    · obtain ⟨listed, able, passed⟩ := built_by_names (phrase given) ran isBuilt
      rcases passed with passed | ⟨passed, named, -⟩
      · exact ⟨early cls listed able passed, Registry.satisfies_of_early passed⟩
      · exact ⟨named, Registry.satisfies_of_last passed⟩
    · exact (not_built_of_reached (phrase given) listed last ran).elim

end Runner

/-! ## A selector with two alternatives -/

def flagged (name : String) (flags : List String) : NemesisClass where
  name := name
  flag := fun flag => decide (flag ∈ flags)
  constructible := true

def twoClasses : Registry where
  members := ["disruptive", "kubernetes", "networking"]
  subclasses := [flagged "HardReboot" ["disruptive"],
    flagged "Drain" ["networking", "kubernetes"]]
  kubernetes := by decide
  named := by
    intro cls listed
    simp only [mem_cons, not_mem_nil, or_false] at listed
    rcases listed with rfl | rfl <;> decide
  separate := by
    intro cls listed
    simp only [mem_cons, not_mem_nil, or_false] at listed
    rcases listed with rfl | rfl <;> decide
  unique := by
    intro cls listed other also same
    simp only [mem_cons, not_mem_nil, or_false] at listed also
    rcases listed with rfl | rfl <;> rcases also with rfl | rfl <;>
      first | rfl | exact absurd same (by decide)
  astParse := parse
  parses _ _ := rfl

def podRunner (selector : String) : Runner where
  registry := twoClasses
  onKubernetes := true
  ownSelector := some selector
  paramsSelector := none

lemma isName_networking : IsName "networking" := by decide

lemma not_satisfiesEarly_networking (registry : Registry) (cls : NemesisClass) :
    ¬registry.SatisfiesEarly "networking" cls := by
  have single := @alternatives_names ["networking"] (by simpa using isName_networking) (by simp)
  rintro ⟨parsed, read, passed⟩
  obtain rfl := Option.some.inj (single.symm.trans read)
  cases passed

theorem podRunner_networking_builds :
    Runner.KubernetesBuilds (podRunner "networking") ["Drain"] :=
  (Runner.kubernetesBuilds_iff (podRunner "networking") ["Drain"]
    (fun _ => isName_networking.isPhrase) rfl).mpr
    (.inr (.inl ⟨by decide, fun cls _ _ early =>
      absurd early (not_satisfiesEarly_networking _ cls)⟩))

theorem podRunner_networking_named :
    ∃ built, (podRunner "networking").buildDisruptionsByName ["Drain"] = .ok built ∧
      built.map NemesisClass.name = ["Drain"] ∧
      ∀ cls ∈ built, cls.name ∈ ["Drain"] ∧ twoClasses.Satisfies "networking" cls := by
  have names : ((podRunner "networking").buildDisruptionsByName ["Drain"]).toOption.map
      (fun built => built.map NemesisClass.name) = some ["Drain"] := by
    decide
  have holds := (Runner.namedBuilds_iff (podRunner "networking") ["Drain"]
    (fun _ => isName_networking.isPhrase)).mpr
    (.inr (.inr (.inr ⟨by decide, .inl fun cls _ _ early =>
      absurd early (not_satisfiesEarly_networking _ cls)⟩)))
  cases ran : (podRunner "networking").buildDisruptionsByName ["Drain"] with
  | error exc =>
    rw [ran] at names
    cases names
  | ok built =>
    rw [ran] at names
    exact ⟨built, rfl, Option.some.inj names, holds built ran⟩

/-- `and kubernetes` joins the second alternative alone, so a class without the flag is built. -/
theorem podRunner_builds_hardReboot :
    ((podRunner "disruptive or networking").buildDisruptionsBySelector
      "disruptive or networking").toOption.map
        (fun built => built.map fun cls => (cls.name, cls.flag "kubernetes")) =
      some [("HardReboot", false), ("Drain", true)] := by
  decide

/-- The names join the second alternative alone, so a class that was not asked for is built. -/
theorem podRunner_builds_unasked :
    ((podRunner "disruptive or networking").buildDisruptionsByName ["Drain"]).toOption.map
        (fun built => built.map NemesisClass.name) =
      some ["HardReboot", "Drain"] := by
  decide

end Sct.Nemesis
