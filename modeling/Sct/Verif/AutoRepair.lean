import Sct.Utils.AutoRepair

/-!
# Auto-repair is switched back on

The nodes on which switching on is attempted are among those that were switched off. They are all
of them unless something is raised outside the `try`, an update that went through is reported as
failed, or switching on raises while nodes are left.
-/

open List

namespace Sct.Utils

/-- The flag is read without a raise, and where it is on, switching it off ends without one and
reports what it did. -/
def DataNode.Settles (node : DataNode) : Prop :=
  ∃ prior, node.priorValue = some prior ∧
    (isOn prior = true → setNodeAutoRepair node.off = some node.off.live.changes)

/-- The flag is read as on, and the update of the node goes through. -/
def DataNode.switchesOff (node : DataNode) : Bool :=
  node.priorValue.any isOn && node.off.live.changes

/-- Reading the flag raises, or it is on and switching it off raises. -/
def DataNode.raises (node : DataNode) : Bool :=
  match node.priorValue with
  | none => true
  | some prior => isOn prior && (setNodeAutoRepair node.off).isNone

lemma DataNode.Settles.raises_eq_false {node : DataNode} (settled : node.Settles) :
    node.raises = false := by
  obtain ⟨prior, read, reports⟩ := settled
  unfold DataNode.raises
  cases on : DataNode.isOn prior with
  | false => simp [read, on]
  | true => simp [read, reports on]

/-- The nodes up to the first that raises, and that one. -/
def reached : List DataNode → List DataNode
  | [] => []
  | node :: rest => node :: if node.raises then [] else reached rest

lemma reached_eq_self {nodes : List DataNode} (quiet : ∀ node ∈ nodes, node.raises = false) :
    reached nodes = nodes := by
  induction nodes with
  | nil => rfl
  | cons node rest ih =>
    rw [forall_mem_cons] at quiet
    rw [reached, quiet.1, ih quiet.2]
    rfl

lemma switched_eq (nodes : List DataNode) :
    (disableEach nodes).1 = (reached nodes).filter DataNode.switchesOff := by
  induction nodes with
  | nil => rfl
  | cons node rest ih =>
    rw [disableEach, reached, filter_cons, DataNode.switchesOff, DataNode.raises]
    cases node.priorValue with
    | none => simp
    | some prior =>
      cases on : DataNode.isOn prior with
      | false => simp [on, ih]
      | true =>
        cases setNodeAutoRepair node.off with
        | none => cases node.off.live.changes <;> simp [on]
        | some done => cases node.off.live.changes <;> simp [on, ih]

lemma changes_of_set {setting : Setting} (done : setNodeAutoRepair setting = some true) :
    setting.live.changes = true := by
  unfold setNodeAutoRepair at done
  split at done
  · rename_i updated
    rw [updated, LiveUpdate.changes]
  · cases done
  · cases done

/-- `disabled_nodes` are among the nodes that were switched off, and they are all of them, with no
raise, exactly if every node settles. -/
lemma disableEach_spec (nodes : List DataNode) :
    (disableEach nodes).2.1.Sublist (disableEach nodes).1 ∧
      ((disableEach nodes).2.2 = false ∧ (disableEach nodes).2.1 = (disableEach nodes).1 ↔
        ∀ node ∈ nodes, node.Settles) := by
  induction nodes with
  | nil => simp [disableEach]
  | cons node rest ih =>
    obtain ⟨inside, whole⟩ := ih
    rw [forall_mem_cons, ← whole, DataNode.Settles, disableEach]
    cases node.priorValue with
    | none => simp
    | some prior =>
      by_cases isOn : DataNode.isOn prior = true
      · cases returned : setNodeAutoRepair node.off with
        | none => simp [isOn]
        | some done =>
          have short := inside.length_le
          cases done with
          | true => simp [isOn, changes_of_set returned, inside]
          | false =>
            cases node.off.live.changes with
            | false => simp [isOn, inside]
            | true =>
              have fewer : (disableEach rest).2.1 ≠ node :: (disableEach rest).1 := fun equal => by
                rw [equal, length_cons] at short
                omega
              simp [isOn, inside.cons, fewer]
      · simp [isOn, inside]

lemma enableEach_starts (nodes : List DataNode) : enableEach nodes <+: nodes := by
  induction nodes with
  | nil => exact List.prefix_refl []
  | cons node rest ih =>
    rw [enableEach, prefix_cons_inj]
    split
    · exact ih
    · exact nil_prefix

lemma enableEach_eq_iff (nodes : List DataNode) :
    enableEach nodes = nodes ↔ ∀ node ∈ nodes.dropLast, (setNodeAutoRepair node.on).isSome = true := by
  induction nodes with
  | nil => simp [enableEach]
  | cons node rest ih =>
    rw [enableEach, cons_inj_right]
    cases rest with
    | nil => simp [enableEach]
    | cons next rest =>
      rw [dropLast_cons_cons, forall_mem_cons, ← ih]
      split <;> simp [*]

lemma attempted_eq_iff (dataNodes : List DataNode) (drainRaises : Bool) :
    (temporarilyDisableAutoRepair dataNodes drainRaises).2 =
        (temporarilyDisableAutoRepair dataNodes drainRaises).1 ↔
      (disableEach dataNodes).1 = [] ∨
        (∀ node ∈ dataNodes, node.Settles) ∧ drainRaises = false ∧
          ∀ node ∈ (disableEach dataNodes).1.dropLast,
            (setNodeAutoRepair node.on).isSome = true := by
  obtain ⟨inside, whole⟩ := disableEach_spec dataNodes
  rw [← whole, temporarilyDisableAutoRepair]
  generalize disableEach dataNodes = ended at *
  obtain ⟨switched, disabled, raised⟩ := ended
  dsimp only at *
  cases switched with
  | nil =>
    obtain rfl := sublist_nil.mp inside
    cases raised <;> simp [enableEach]
  | cons first others =>
    have attempted := enableEach_starts disabled
    have same : enableEach disabled = first :: others ↔
        disabled = first :: others ∧ enableEach disabled = disabled := by
      constructor
      · intro all
        rw [all] at attempted ⊢
        have equal := attempted.sublist.eq_of_length_le inside.length_le
        exact ⟨equal.symm, equal⟩
      · rintro ⟨rfl, all⟩
        exact all
    cases raised with
    | true => simp
    | false =>
      cases drainRaises with
      | true => cases disabled <;> simp [enableEach]
      | false =>
        simp only [Bool.and_false, Bool.or_false, Bool.false_eq_true, if_false, same, reduceCtorEq,
          false_or, true_and, enableEach_eq_iff]
        exact and_congr_right fun all => by rw [all]

/-- Switching on is attempted on exactly the nodes that were switched off, if and only if no node
is switched off up to the first that raises, or every node settles, the draining does not raise,
and switching on raises on none of the nodes switched off but the last. -/
theorem attempted_eq_switched_iff (dataNodes : List DataNode) (drainRaises : Bool) :
    (temporarilyDisableAutoRepair dataNodes drainRaises).2 =
        (temporarilyDisableAutoRepair dataNodes drainRaises).1 ↔
      (∀ node ∈ reached dataNodes, node.switchesOff = false) ∨
        (∀ node ∈ dataNodes, node.Settles) ∧ drainRaises = false ∧
          ∀ node ∈ (dataNodes.filter DataNode.switchesOff).dropLast,
            (setNodeAutoRepair node.on).isSome = true := by
  have quiet : (disableEach dataNodes).1 = [] ↔
      ∀ node ∈ reached dataNodes, node.switchesOff = false := by
    simp only [switched_eq, filter_eq_nil_iff, Bool.not_eq_true]
  rw [attempted_eq_iff, quiet]
  refine or_congr_right (and_congr_right fun settled => ?_)
  have all : reached dataNodes = dataNodes :=
    reached_eq_self fun node listed => (settled node listed).raises_eq_false
  rw [switched_eq, all]

def nodeOn (name : String) : DataNode := ⟨name, some (some "true"), ⟨.updated, false⟩, ⟨.updated, false⟩⟩

/-- The nemesis is killed while the repairs of the first node drain, or before the second node is
read. -/
theorem first_node_left_off :
    (temporarilyDisableAutoRepair [nodeOn "db-1"] true) = ([nodeOn "db-1"], []) ∧
      (temporarilyDisableAutoRepair [nodeOn "db-1", { nodeOn "db-2" with priorValue := none }]
        false) = ([nodeOn "db-1"], []) := by
  constructor <;> rfl

end Sct.Utils
