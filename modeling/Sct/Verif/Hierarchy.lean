import Mathlib.Data.List.Nodup
import Mathlib.Logic.Relation
import Sct.Nemesis.Hierarchy

/-!
# Which classes a phrase chooses

A class below the base class is collected once for each line of inheritance from it, so that a class
with several bases can be chosen several times.
-/

namespace Sct.Nemesis

open PyExpr List

/-! ## Boolean expressions -/

mutual

/-- Names, `True` and `False`, joined by `and`, `or` and `not`. -/
def isBoolean : Expr → Bool
  | .name _ => true
  | .constant value => value.isSome
  | .tuple => false
  | .call => false
  | .not operand => isBoolean operand
  | .and values => areBoolean values
  | .or values => areBoolean values

def areBoolean : List Expr → Bool
  | [] => true
  | value :: rest => isBoolean value && areBoolean rest

end

mutual

/-- What an expression says when names are true as given. -/
def truth (names : String → Bool) : Expr → Bool
  | .name id => names id
  | .constant value => value.getD false
  | .tuple => false
  | .call => false
  | .not operand => !truth names operand
  | .and values => allTrue names values
  | .or values => anyTrue names values

def allTrue (names : String → Bool) : List Expr → Bool
  | [] => true
  | value :: rest => truth names value && allTrue names rest

def anyTrue (names : String → Bool) : List Expr → Bool
  | [] => false
  | value :: rest => truth names value || anyTrue names rest

end

mutual

lemma visit_eq_truth (context : Context) (expr : Expr) (boolean : isBoolean expr = true) :
    visit context expr = .ok (truth context expr) := by
  cases expr with
  | name id => rw [visit, truth]
  | constant value =>
    cases value with
    | none => simp [isBoolean] at boolean
    | some value => simp [visit, truth]
  | tuple => simp [isBoolean] at boolean
  | call => simp [isBoolean] at boolean
  | not operand =>
    rw [isBoolean] at boolean
    rw [visit, visit_eq_truth context operand boolean, truth]
  | and values =>
    rw [isBoolean] at boolean
    rw [visit, visitAll_eq_allTrue context values boolean, truth]
  | or values =>
    rw [isBoolean] at boolean
    rw [visit, visitAny_eq_anyTrue context values boolean, truth]

lemma visitAll_eq_allTrue (context : Context) (values : List Expr)
    (boolean : areBoolean values = true) :
    visitAll context values = .ok (allTrue context values) := by
  cases values with
  | nil => rw [visitAll, allTrue]
  | cons value rest =>
    rw [areBoolean, Bool.and_eq_true] at boolean
    rw [visitAll, visit_eq_truth context value boolean.1, allTrue,
      visitAll_eq_allTrue context rest boolean.2]
    cases truth context value <;> rfl

lemma visitAny_eq_anyTrue (context : Context) (values : List Expr)
    (boolean : areBoolean values = true) :
    visitAny context values = .ok (anyTrue context values) := by
  cases values with
  | nil => rw [visitAny, anyTrue]
  | cons value rest =>
    rw [areBoolean, Bool.and_eq_true] at boolean
    rw [visitAny, visit_eq_truth context value boolean.1, anyTrue,
      visitAny_eq_anyTrue context rest boolean.2]
    cases truth context value <;> rfl

end

namespace Hierarchy

/-! ## Lines of inheritance -/

section lines

variable {κ : Type} (hierarchy : Hierarchy κ)

def Inherits (sup sub : κ) : Prop := sub ∈ hierarchy.subclasses sup

/-- The superclasses of a class up to the base class along one line, the nearest first. -/
inductive Lineage : κ → List κ → Prop
  | base : Lineage hierarchy.baseClass []
  | sub {sup sub : κ} {line : List κ} :
      Lineage sup line → sub ∈ hierarchy.subclasses sup → Lineage sub (sup :: line)

/-- The lines of a length, each with the class it leads to. -/
def lines : Nat → List (κ × List κ)
  | 0 => [(hierarchy.baseClass, [])]
  | length + 1 => (lines length).flatMap fun line =>
    (hierarchy.subclasses line.1).map fun sub => (sub, line.1 :: line.2)

def allLines : List (κ × List κ) :=
  (range' 1 (hierarchy.height hierarchy.baseClass)).flatMap hierarchy.lines

variable {hierarchy} {cls : κ} {line : List κ}

lemma Lineage.height_add_length (lineage : hierarchy.Lineage cls line) :
    hierarchy.height cls + line.length ≤ hierarchy.height hierarchy.baseClass := by
  induction lineage with
  | base => rw [length_nil, Nat.add_zero]
  | @sub sup sub line _ inherits ih =>
    have lower := hierarchy.lower sup sub inherits
    rw [length_cons]
    omega

lemma mem_lines {length : Nat} :
    (cls, line) ∈ hierarchy.lines length ↔
      hierarchy.Lineage cls line ∧ line.length = length := by
  constructor
  · intro listed
    induction length generalizing cls line with
    | zero =>
      obtain ⟨rfl, rfl⟩ := Prod.mk.inj (mem_singleton.mp listed)
      exact ⟨.base, rfl⟩
    | succ length ih =>
      obtain ⟨⟨sup, above⟩, before, mapped⟩ := mem_flatMap.mp listed
      obtain ⟨sub, inherits, equal⟩ := mem_map.mp mapped
      obtain ⟨rfl, rfl⟩ := Prod.mk.inj equal
      obtain ⟨lineage, count⟩ := ih before
      exact ⟨.sub lineage inherits, congrArg (· + 1) count⟩
  · rintro ⟨lineage, rfl⟩
    induction lineage with
    | base => exact mem_singleton_self _
    | @sub sup sub line _ inherits ih =>
      exact mem_flatMap.mpr ⟨(sup, line), ih, mem_map.mpr ⟨sub, inherits, rfl⟩⟩

lemma mem_allLines :
    (cls, line) ∈ hierarchy.allLines ↔ hierarchy.Lineage cls line ∧ line ≠ [] := by
  constructor
  · intro listed
    obtain ⟨length, within, found⟩ := mem_flatMap.mp listed
    obtain ⟨lineage, rfl⟩ := mem_lines.mp found
    have positive := (mem_range'_1.mp within).1
    exact ⟨lineage, ne_nil_of_length_pos positive⟩
  · intro found
    have bound := found.1.height_add_length
    have positive := length_pos_of_ne_nil found.2
    exact mem_flatMap.mpr
      ⟨line.length, mem_range'_1.mpr ⟨positive, by omega⟩, mem_lines.mpr ⟨found.1, rfl⟩⟩

variable (hierarchy) in
lemma nodup_lines (length : Nat) : (hierarchy.lines length).Nodup := by
  induction length with
  | zero => exact nodup_singleton _
  | succ length ih =>
    refine nodup_flatMap.mpr ⟨fun line _ => ?_, ih.imp fun {first second} differ => ?_⟩
    · exact (hierarchy.nodup line.1).map fun _ _ equal => (Prod.mk.inj equal).1
    · intro line left right
      obtain ⟨sub, -, rfl⟩ := mem_map.mp left
      obtain ⟨other, -, equal⟩ := mem_map.mp right
      have same := cons.inj (Prod.mk.inj equal).2
      exact differ (Prod.ext same.1.symm same.2.symm)

variable (hierarchy) in
lemma nodup_allLines : hierarchy.allLines.Nodup := by
  refine nodup_flatMap.mpr ⟨fun length _ => hierarchy.nodup_lines length, ?_⟩
  have lengths : (range' 1 (hierarchy.height hierarchy.baseClass)).Nodup := nodup_range'
  refine lengths.imp fun differ line left right => differ ?_
  exact (mem_lines.mp left).2.symm.trans (mem_lines.mp right).2

lemma inherits_iff_lineage : Relation.TransGen hierarchy.Inherits hierarchy.baseClass cls ↔
    ∃ line, hierarchy.Lineage cls line ∧ line ≠ [] := by
  constructor
  · intro descends
    induction descends with
    | single inherits => exact ⟨_, .sub .base inherits, cons_ne_nil _ _⟩
    | tail _ inherits ih =>
      obtain ⟨line, lineage, -⟩ := ih
      exact ⟨_, .sub lineage inherits, cons_ne_nil _ _⟩
  · rintro ⟨line, lineage, nonempty⟩
    induction lineage with
    | base => exact absurd rfl nonempty
    | @sub sup sub line above inherits ih =>
      cases above with
      | base => exact .single inherits
      | sub further => exact .tail (ih (cons_ne_nil _ _)) inherits

variable (hierarchy) in
lemma map_fst_lines (length : Nat) :
    (hierarchy.lines (length + 1)).map Prod.fst =
      ((hierarchy.lines length).map Prod.fst).flatMap hierarchy.subclasses := by
  simp [lines, map_flatMap, flatMap_map, Function.comp_def]

variable (hierarchy) in
lemma foldlM_choose {expr : Expr} (boolean : isBoolean expr = true) (classes chosen : List κ) :
    classes.foldlM (hierarchy.choose expr) chosen = .ok (chosen ++
      classes.filter fun nemesis => truth (hierarchy.context nemesis) expr) := by
  induction classes generalizing chosen with
  | nil => simp [pure, Except.pure]
  | cons nemesis rest ih =>
    rw [foldlM_cons, choose, visit_eq_truth _ _ boolean]
    cases passed : truth (hierarchy.context nemesis) expr <;>
      simp [Except.map, bind, Except.bind, ih, passed]

end lines

/-! ## Collecting and choosing -/

variable {κ : Type} [DecidableEq κ] (hierarchy : Hierarchy κ)

lemma foldl_collect (classes later found : List κ) :
    classes.foldl hierarchy.collect (classes ++ later, found) =
      (later ++ classes.flatMap hierarchy.subclasses,
        found ++ classes.filter hierarchy.admits) := by
  induction classes generalizing later found with
  | nil => simp
  | cons nemesis rest ih =>
    rw [foldl_cons, collect, cons_append, erase_cons_head, append_assoc, ih, flatMap_cons,
      append_assoc]
    cases admitted : hierarchy.admits nemesis <;> simp [admitted]

lemma collectAll_nil (passes : Nat) (found : List κ) :
    hierarchy.collectAll passes ([], found) = some found := by
  cases passes <;> rfl

lemma collectAll_succ (passes : Nat) (state : List κ × List κ) :
    hierarchy.collectAll (passes + 1) state =
      hierarchy.collectAll passes (state.1.foldl hierarchy.collect state) := by
  rw [collectAll]
  split
  · rename_i empty
    obtain ⟨classes, found⟩ := state
    obtain rfl : classes = [] := isEmpty_iff.mp empty
    exact (hierarchy.collectAll_nil passes found).symm
  · rfl

lemma collectAll_lines {passes length : Nat} (found : List κ)
    (enough : hierarchy.lines (length + passes) = []) :
    hierarchy.collectAll passes ((hierarchy.lines length).map Prod.fst, found) =
      some (found ++
        (((range' length passes).flatMap hierarchy.lines).map Prod.fst).filter
          hierarchy.admits) := by
  induction passes generalizing length found with
  | zero =>
    rw [Nat.add_zero] at enough
    rw [enough, map_nil, collectAll_nil]
    simp
  | succ passes ih =>
    have pass := hierarchy.foldl_collect ((hierarchy.lines length).map Prod.fst) [] found
    rw [append_nil, nil_append, ← map_fst_lines] at pass
    rw [collectAll_succ, pass, ih _ (by rwa [Nat.add_right_comm, Nat.add_assoc]), range'_succ,
      flatMap_cons, map_append, filter_append, append_assoc]

/-- A class is collected once for each line that leads to it. -/
lemma getSubclasses_eq :
    hierarchy.getSubclasses =
      some ((hierarchy.allLines.map Prod.fst).filter hierarchy.admits) := by
  have first : (hierarchy.lines 1).map Prod.fst = hierarchy.subclasses hierarchy.baseClass := by
    simp [lines, Function.comp_def]
  have enough : hierarchy.lines (1 + hierarchy.height hierarchy.baseClass) = [] := by
    refine eq_nil_iff_forall_not_mem.mpr fun line listed => ?_
    obtain ⟨lineage, length⟩ := mem_lines.mp listed
    have bound := lineage.height_add_length
    omega
  rw [getSubclasses, ← first, hierarchy.collectAll_lines [] enough, nil_append]
  rfl

/-- A class that the phrase is to choose. -/
structure Wanted (expr : Expr) (cls : κ) : Prop where
  descends : Relation.TransGen hierarchy.Inherits hierarchy.baseClass cls
  included : cls ∉ hierarchy.excludedList
  concrete : hierarchy.isAbstract cls = false
  passes : truth (hierarchy.context cls) expr = true

/-- Each wanted class is chosen once, and no other class. -/
structure Chooses (expr : Expr) (chosen : List κ) : Prop where
  mem_iff : ∀ cls, cls ∈ chosen ↔ hierarchy.Wanted expr cls
  once : chosen.Nodup

/-- Each wanted class has one line of inheritance from the base class. -/
def SingleLines (expr : Expr) : Prop :=
  ∀ cls, hierarchy.Wanted expr cls → ∀ line other,
    hierarchy.Lineage cls line → hierarchy.Lineage cls other → line = other

/-- The lines that lead to classes the phrase is to choose. -/
def wantedLines (expr : Expr) : List (κ × List κ) :=
  hierarchy.allLines.filter fun line =>
    hierarchy.admits line.1 && truth (hierarchy.context line.1) expr

variable {hierarchy}

lemma mem_wantedLines {expr : Expr} {cls : κ} {line : List κ} :
    (cls, line) ∈ hierarchy.wantedLines expr ↔
      hierarchy.Wanted expr cls ∧ hierarchy.Lineage cls line := by
  rw [wantedLines, mem_filter, mem_allLines]
  simp only [admits, Bool.and_eq_true, decide_eq_true_eq, Bool.not_eq_true']
  constructor
  · rintro ⟨⟨lineage, nonempty⟩, ⟨included, concrete⟩, passes⟩
    have descends := inherits_iff_lineage.mpr ⟨line, lineage, nonempty⟩
    exact ⟨⟨descends, included, concrete, passes⟩, lineage⟩
  · rintro ⟨wanted, lineage⟩
    refine ⟨⟨lineage, ?_⟩, ⟨wanted.included, wanted.concrete⟩, wanted.passes⟩
    rintro rfl
    -- The base class would be below itself.
    obtain ⟨line, proper, nonempty⟩ := inherits_iff_lineage.mp wanted.descends
    have bound := proper.height_add_length
    have positive := length_pos_of_ne_nil nonempty
    cases lineage
    omega

lemma filterSubclasses_eq {logicalPhrase : String} {expr : Expr}
    (parsed : hierarchy.astParse logicalPhrase = some expr) (boolean : isBoolean expr = true) :
    hierarchy.filterSubclasses logicalPhrase =
      some (.ok ((hierarchy.wantedLines expr).map Prod.fst)) := by
  have given : logicalPhrase ≠ "" := by
    rintro rfl
    rw [hierarchy.blank] at parsed
    cases parsed
  rw [filterSubclasses, getSubclasses_eq, Option.map_some, if_neg given, parsed]
  simp only [foldlM_choose _ boolean, nil_append, filter_filter, filter_map, wantedLines]
  simp [Bool.and_comm]

/-- A Boolean phrase chooses each wanted class once exactly if each has one line of inheritance. -/
theorem filterSubclasses_chooses_iff {logicalPhrase : String} {expr : Expr}
    (parsed : hierarchy.astParse logicalPhrase = some expr) (boolean : isBoolean expr = true) :
    (∃ chosen, hierarchy.filterSubclasses logicalPhrase = some (.ok chosen) ∧
      hierarchy.Chooses expr chosen) ↔ hierarchy.SingleLines expr := by
  have nodup : (hierarchy.wantedLines expr).Nodup := hierarchy.nodup_allLines.filter _
  rw [filterSubclasses_eq parsed boolean]
  constructor
  · rintro ⟨chosen, equal, chooses⟩ cls wanted line other first second
    cases equal
    have same := inj_on_of_nodup_map chooses.once (mem_wantedLines.mpr ⟨wanted, first⟩)
      (mem_wantedLines.mpr ⟨wanted, second⟩) rfl
    exact (Prod.mk.inj same).2
  · intro single
    refine ⟨_, rfl, fun cls => ?_, nodup.map_on ?_⟩
    · rw [mem_map]
      constructor
      · rintro ⟨⟨cls, line⟩, listed, rfl⟩
        exact (mem_wantedLines.mp listed).1
      · intro wanted
        obtain ⟨line, lineage, -⟩ := inherits_iff_lineage.mp wanted.descends
        exact ⟨(cls, line), mem_wantedLines.mpr ⟨wanted, lineage⟩, rfl⟩
    · rintro ⟨cls, line⟩ first ⟨-, other⟩ second rfl
      obtain ⟨wanted, lineage⟩ := mem_wantedLines.mp first
      rw [single cls wanted line other lineage (mem_wantedLines.mp second).2]

/-- `DrainAndReboot` has the bases `Drain` and `Reboot`; each class is given by its name. -/
def diamond : Hierarchy String where
  baseClass := "Nemesis"
  subclasses cls :=
    if cls = "Nemesis" then ["Drain", "Reboot"]
    else if cls = "Drain" ∨ cls = "Reboot" then ["DrainAndReboot"] else []
  nodup cls := by split_ifs <;> decide
  height cls := if cls = "Nemesis" then 2 else if cls = "Drain" ∨ cls = "Reboot" then 1 else 0
  lower cls sub listed := by
    split_ifs at listed with base middle
    · rw [base]
      revert sub
      decide
    · rw [if_neg base, if_pos middle, mem_singleton.mp listed]
      decide
    · cases listed
  excludedList := []
  isAbstract _ := false
  members := ["disruptive"]
  name := id
  flag _ _ := true
  astParse := parse
  blank := rfl

theorem diamond_drain_single : diamond.SingleLines (.name "Drain") := by
  have parsed : diamond.astParse "Drain" = some (.name "Drain") := rfl
  have evaluated : diamond.filterSubclasses "Drain" = some (.ok ["Drain"]) := rfl
  refine (filterSubclasses_chooses_iff parsed rfl).mp
    ⟨["Drain"], evaluated, fun cls => ?_, nodup_singleton _⟩
  rw [mem_singleton]
  constructor
  · rintro rfl
    exact ⟨.single mem_cons_self, not_mem_nil, rfl, rfl⟩
  · intro wanted
    by_contra other
    have passes := wanted.passes
    simp [truth, context, diamond, Ne.symm other] at passes

/-- The class with two bases is chosen twice. -/
theorem diamond_chosen_twice :
    ¬ ∃ chosen, diamond.filterSubclasses "disruptive" = some (.ok chosen) ∧
      diamond.Chooses (.name "disruptive") chosen := by
  rintro ⟨chosen, equal, chooses⟩
  have evaluated : diamond.filterSubclasses "disruptive" =
      some (.ok ["Drain", "Reboot", "DrainAndReboot", "DrainAndReboot"]) := rfl
  rw [evaluated] at equal
  cases equal
  exact absurd chooses.once (by decide)

end Hierarchy

end Sct.Nemesis
