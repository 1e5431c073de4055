import Mathlib.Data.List.Perm.Subperm
import Mathlib.Data.List.TakeWhile

/-!
# Insertion at an index

Python's `list.insert(index, item)` puts an item before the one at the index, or at the end of a
list that is too short. Items that each name their index are inserted one after another: all of a
first group in any order, then all of a second. `increasing_insertAll_iff` says for which indices
the result is always in the order of the indices: an item finds its place in every order only if
nothing greater can come before it, or everything smaller always does.
-/

open List

namespace Sct.Insertion

variable {α β : Type}

/-- `items.insert(index, item)`. -/
def insert (index : Nat) (item : α) (items : List α) : List α :=
  items.take index ++ item :: items.drop index

lemma map_insert (change : α → β) (index : Nat) (item : α) (items : List α) :
    (insert index item items).map change = insert index (change item) (items.map change) := by
  simp [insert]

lemma insert_perm (index : Nat) (item : α) (items : List α) :
    (insert index item items).Perm (item :: items) := by
  have parts : item :: items = item :: (items.take index ++ items.drop index) := by
    rw [take_append_drop]
  rw [parts]
  exact perm_middle

variable {place : α → Nat}

/-- Insert items at the index each names. -/
def insertAll (place : α → Nat) (items : List α) (added : List α) : List α :=
  added.foldl (fun items item => insert (place item) item items) items

lemma insertAll_append (items first second : List α) :
    insertAll place items (first ++ second) =
      insertAll place (insertAll place items first) second := foldl_append

variable (items added : List α)

lemma insertAll_perm : (insertAll place items added).Perm (items ++ added) := by
  induction added generalizing items with
  | nil => simp [insertAll]
  | cons item added ih =>
    have step := ih (insert (place item) item items)
    refine step.trans (((insert_perm (place item) item items).append_right added).trans ?_)
    exact perm_middle.symm

lemma sublist_insertAll : items.Sublist (insertAll place items added) := by
  induction added generalizing items with
  | nil => exact List.Sublist.refl items
  | cons item added ih =>
    have parts : items.Sublist (items.take (place item) ++ items.drop (place item)) := by
      rw [take_append_drop]
    exact (parts.trans ((sublist_cons_self item _).append_left _)).trans (ih _)

/-- The indices increase along a list. -/
def Increasing (place : α → Nat) (items : List α) : Prop := (items.map place).Pairwise (· < ·)

variable {items : List α}

/-- How many items have a smaller index. -/
def smaller (place : α → Nat) (index : Nat) (items : List α) : Nat :=
  items.countP fun item => place item < index

lemma smaller_take_drop (index count : Nat) (items : List α) :
    smaller place index items =
      smaller place index (items.take count) + smaller place index (items.drop count) := by
  rw [smaller, smaller, smaller, ← countP_append, take_append_drop]

variable {item : α}

/-- An item is inserted in order when as many items are smaller as stand before it. -/
lemma increasing_insert (increasing : Increasing place items)
    (absent : place item ∉ items.map place)
    (counted : smaller place (place item) items = min (place item) items.length) :
    Increasing place (insert (place item) item items) := by
  have ordered := increasing
  rw [Increasing, ← take_append_drop (place item) items, map_append,
    pairwise_append] at ordered
  obtain ⟨before, after, apart⟩ := ordered
  rw [← length_take, smaller_take_drop (place item) (place item)] at counted
  -- A smaller item behind the index would make all items before it smaller as well.
  have behind : ∀ other ∈ items.drop (place item), ¬ place other < place item := by
    intro other listed below
    have all : smaller place (place item) (items.take (place item)) =
        (items.take (place item)).length := by
      rw [smaller, countP_eq_length]
      intro earlier present
      have order := apart _ (mem_map_of_mem present) _ (mem_map_of_mem listed)
      exact decide_eq_true (Nat.lt_trans order below)
    have some : 0 < smaller place (place item) (items.drop (place item)) :=
      countP_pos_iff.mpr ⟨other, listed, decide_eq_true below⟩
    omega
  have none : smaller place (place item) (items.drop (place item)) = 0 := by
    rw [smaller, countP_eq_zero]
    intro other listed below
    exact behind other listed (of_decide_eq_true below)
  rw [none, Nat.add_zero, smaller, countP_eq_length] at counted
  rw [Increasing, insert, map_append, map_cons, pairwise_append, pairwise_cons]
  have above : ∀ index ∈ (items.drop (place item)).map place, place item < index := by
    intro index listed
    obtain ⟨other, present, rfl⟩ := mem_map.mp listed
    have different : place other ≠ place item := fun equal =>
      absent (equal ▸ mem_map_of_mem (mem_of_mem_drop present))
    have notBelow := behind other present
    omega
  refine ⟨before, ⟨above, after⟩, ?_⟩
  intro first listed second later
  obtain ⟨other, present, rfl⟩ := mem_map.mp listed
  rcases mem_cons.mp later with rfl | later
  · exact of_decide_eq_true (counted other present)
  · exact apart _ listed _ later

/-- An item that was inserted in order has as many smaller items as stand before it. -/
lemma smaller_of_increasing (increasing : Increasing place (insert (place item) item items)) :
    smaller place (place item) items = min (place item) items.length := by
  rw [Increasing, insert, map_append, map_cons, pairwise_append,
    pairwise_cons] at increasing
  obtain ⟨-, ⟨after, -⟩, before⟩ := increasing
  have low : smaller place (place item) (items.take (place item)) =
      (items.take (place item)).length := by
    rw [smaller, countP_eq_length]
    intro other listed
    exact decide_eq_true (before _ (mem_map_of_mem listed) _ mem_cons_self)
  have high : smaller place (place item) (items.drop (place item)) = 0 := by
    rw [smaller, countP_eq_zero]
    intro other listed below
    have above := after _ (mem_map_of_mem listed)
    have below := of_decide_eq_true below
    omega
  rw [smaller_take_drop _ (place item), low, high, Nat.add_zero, length_take]

/-- A run of insertions is in order when each of them is, wherever the items before it stand. -/
lemma increasing_insertAll {items added : List α} (increasing : Increasing place items)
    (each : ∀ before item after, added = before ++ item :: after →
      ∀ present, present.Perm (items ++ before) →
        place item ∉ present.map place ∧
          smaller place (place item) present = min (place item) present.length) :
    Increasing place (insertAll place items added) := by
  induction added generalizing items with
  | nil => exact increasing
  | cons item added ih =>
    obtain ⟨absent, counted⟩ := each [] item added rfl items (by rw [append_nil])
    apply ih (increasing_insert increasing absent counted)
    intro before next after parts present arranged
    apply each (item :: before) next after (by rw [parts]; rfl) present
    refine arranged.trans (((insert_perm (place item) item items).append_right before).trans ?_)
    exact perm_middle.symm

section Counting

variable {items : List α} {index : Nat}

section

variable (distinct : (items.map place).Nodup)

include distinct

lemma length_le_of_forall_lt
    (below : ∀ item ∈ items, place item < index) : items.length ≤ index := by
  have inside : items.map place ⊆ List.range index := by
    intro other listed
    obtain ⟨item, present, rfl⟩ := mem_map.mp listed
    exact mem_range.mpr (below item present)
  have bound := (distinct.subperm inside).length_le
  rw [length_map, length_range] at bound
  exact bound

lemma smaller_le : smaller place index items ≤ index := by
  rw [smaller, countP_eq_length_filter]
  apply length_le_of_forall_lt (distinct.sublist (filter_sublist.map place))
  intro item listed
  exact of_decide_eq_true (mem_filter.mp listed).2

/-- Every index below a number occurs exactly when that many items are smaller. -/
lemma smaller_eq_iff :
    smaller place index items = index ↔ ∀ other < index, other ∈ items.map place := by
  have kept := distinct.sublist
    (filter_sublist (p := fun item => decide (place item < index)).map place)
  have inside : (items.filter fun item => place item < index).map place ⊆ List.range index := by
    intro other listed
    obtain ⟨item, present, rfl⟩ := mem_map.mp listed
    exact mem_range.mpr (of_decide_eq_true (mem_filter.mp present).2)
  constructor
  · intro counted other below
    rw [smaller, countP_eq_length_filter] at counted
    have all := (kept.subperm inside).perm_of_length_le (by
      rw [length_range, length_map, counted])
    have listed := all.mem_iff.mpr (mem_range.mpr below)
    exact (filter_sublist.map place).subset listed
  · intro occur
    apply Nat.le_antisymm (smaller_le distinct)
    have covered : List.range index ⊆
        (items.filter fun item => place item < index).map place := by
      intro other listed
      have below := mem_range.mp listed
      obtain ⟨item, present, rfl⟩ := mem_map.mp (occur other below)
      exact mem_map_of_mem (mem_filter.mpr ⟨present, decide_eq_true below⟩)
    have bound := (nodup_range.subperm covered).length_le
    rw [length_range, length_map] at bound
    rw [smaller, countP_eq_length_filter]
    exact bound

lemma counted_of_greatest (greatest : ∀ item ∈ items, place item < index) :
    smaller place index items = min index items.length := by
  have all : smaller place index items = items.length := by
    rw [smaller, countP_eq_length]
    intro item listed
    exact decide_eq_true (greatest item listed)
  have bound := length_le_of_forall_lt distinct greatest
  omega

lemma counted_of_covered (covered : ∀ other < index, other ∈ items.map place) :
    smaller place index items = min index items.length := by
  have counted := (smaller_eq_iff distinct).mpr covered
  have bound : smaller place index items ≤ items.length := countP_le_length
  omega

end

end Counting

/-- Indices for which all orders of a first and a second group give the order of the indices. -/
structure AnyOrder (place : α → Nat) (first second : List α) : Prop where
  distinct : ((first ++ second).map place).Nodup
  /-- An item of the first group goes to the front, or no other of them is greater. -/
  first_fits : ∀ item ∈ first, place item = 0 ∨ ∀ other ∈ first, place other ≤ place item
  /-- An item of the second group finds all smaller ones in the first, or none is greater. -/
  second_fits : ∀ item ∈ second, (∀ index < place item, index ∈ first.map place) ∨
    ∀ other ∈ first ++ second, place other ≤ place item

section Orders

variable {first second : List α}

/-- What stands in a list before an item is apart from it, and so is any arrangement of it. -/
lemma apart_of_parts {all before present : List α} {item : α} {after : List α}
    (distinct : (all.map place).Nodup) (parts : all = before ++ item :: after)
    (arranged : present.Perm before) :
    (present.map place).Nodup ∧ place item ∉ present.map place := by
  rw [parts, map_append, map_cons, nodup_append] at distinct
  obtain ⟨earlier, -, apart⟩ := distinct
  refine ⟨(arranged.map place).nodup_iff.mpr earlier, fun listed => ?_⟩
  have occurs := (arranged.map place).mem_iff.mp listed
  exact apart _ occurs _ mem_cons_self rfl

lemma AnyOrder.increasing (any : AnyOrder place first second) {f g : List α}
    (inFirst : f.Perm first) (inSecond : g.Perm second) :
    Increasing place (insertAll place [] (f ++ g)) := by
  have distinct : ((f ++ g).map place).Nodup :=
    ((inFirst.append inSecond).map place).nodup_iff.mpr any.distinct
  rw [insertAll_append]
  have firstDone : Increasing place (insertAll place [] f) := by
    refine increasing_insertAll List.Pairwise.nil ?_
    intro before item after parts present arranged
    have distinctFirst : (f.map place).Nodup := by
      rw [map_append] at distinct
      exact (nodup_append.mp distinct).1
    obtain ⟨nodup, absent⟩ := apart_of_parts distinctFirst parts arranged
    have listed : item ∈ first := inFirst.subset (by simp [parts])
    refine ⟨absent, ?_⟩
    rcases any.first_fits item listed with zero | greatest
    · apply counted_of_covered nodup
      omega
    · apply counted_of_greatest nodup
      intro other occurs
      have earlier : other ∈ first :=
        inFirst.subset (by rw [parts]; exact mem_append_left _ (arranged.subset occurs))
      have bound := greatest other earlier
      have different : place other ≠ place item := fun equal =>
        absent (equal ▸ mem_map_of_mem occurs)
      omega
  have firstPerm : (insertAll place [] f).Perm f := insertAll_perm [] f
  refine increasing_insertAll firstDone ?_
  intro before item after parts present arranged
  have arranged' : present.Perm (f ++ before) :=
    arranged.trans (firstPerm.append_right before)
  obtain ⟨nodup, absent⟩ := apart_of_parts distinct
    (by rw [parts, append_assoc]) arranged'
  have listed : item ∈ second := inSecond.subset (by simp [parts])
  refine ⟨absent, ?_⟩
  rcases any.second_fits item listed with covered | greatest
  · apply counted_of_covered nodup
    intro other below
    obtain ⟨early, occurs, equal⟩ := mem_map.mp (covered other below)
    rw [← equal]
    exact mem_map_of_mem (arranged'.mem_iff.mpr
      (mem_append_left _ (inFirst.mem_iff.mpr occurs)))
  · apply counted_of_greatest nodup
    intro other occurs
    have earlier : other ∈ first ++ second := by
      rcases mem_append.mp (arranged'.subset occurs) with early | late
      · exact mem_append_left _ (inFirst.subset early)
      · exact mem_append_right _ (inSecond.subset (by simp [parts, late]))
    have bound := greatest other earlier
    have different : place other ≠ place item := fun equal =>
      absent (equal ▸ mem_map_of_mem occurs)
    omega

variable {before after : List α}

lemma counted_of_increasing_insertAll {item : α}
    (increasing : Increasing place (insertAll place [] (before ++ item :: after))) :
    smaller place (place item) (insertAll place [] before) =
      min (place item) (insertAll place [] before).length := by
  apply smaller_of_increasing
  rw [insertAll_append] at increasing
  exact List.Pairwise.sublist ((sublist_insertAll _ after).map place) increasing

/-- An item inserted in order after a greater one found all smaller indices. -/
lemma covered_of_counted {item greater : α} (distinct : (before.map place).Nodup)
    (increasing : Increasing place (insertAll place [] (before ++ item :: after)))
    (listed : greater ∈ before) (above : place item < place greater) :
    ∀ index < place item, index ∈ before.map place := by
  have arranged : (insertAll place [] before).Perm before := insertAll_perm [] before
  have counted := counted_of_increasing_insertAll increasing
  have short : smaller place (place item) (insertAll place [] before) <
      (insertAll place [] before).length := by
    apply Nat.lt_of_le_of_ne countP_le_length
    intro all
    have below := countP_eq_length.mp all greater (arranged.mem_iff.mpr listed)
    have below := of_decide_eq_true below
    omega
  have exactly : smaller place (place item) (insertAll place [] before) = place item := by omega
  have nodup := (arranged.map place).nodup_iff.mpr distinct
  intro index below
  exact (arranged.map place).mem_iff.mp ((smaller_eq_iff nodup).mp exactly index below)

variable {items : List α}

lemma exists_perm_cons {item : α} (listed : item ∈ items) :
    ∃ rest, (item :: rest).Perm items := by
  obtain ⟨before, after, rfl⟩ := append_of_mem listed
  exact ⟨before ++ after, perm_middle.symm⟩

lemma exists_perm_cons_cons {item other : α} (listed : item ∈ items) (also : other ∈ items)
    (different : item ≠ other) : ∃ rest, (item :: other :: rest).Perm items := by
  obtain ⟨rest, arranged⟩ := exists_perm_cons listed
  have later : other ∈ rest :=
    (mem_cons.mp (arranged.mem_iff.mpr also)).resolve_left (Ne.symm different)
  obtain ⟨rest, arranged'⟩ := exists_perm_cons later
  exact ⟨rest, (arranged'.cons item).trans arranged⟩

lemma increasing_insertAll_iff :
    (∀ f g, f.Perm first → g.Perm second → Increasing place (insertAll place [] (f ++ g))) ↔
      AnyOrder place first second := by
  constructor
  · intro all
    have whole := all first second (.refl _) (.refl _)
    have distinct : ((first ++ second).map place).Nodup :=
      ((insertAll_perm [] (first ++ second)).map place).nodup_iff.mp
        (List.Pairwise.imp Nat.ne_of_lt whole)
    have distinctFirst : (first.map place).Nodup := by
      rw [map_append] at distinct
      exact (nodup_append.mp distinct).1
    refine ⟨distinct, fun item listed => ?_, fun item listed => ?_⟩
    · rw [or_iff_not_imp_right]
      intro notGreatest
      obtain ⟨greater, present, above⟩ : ∃ greater ∈ first, place item < place greater := by
        simpa using notGreatest
      -- The greater item is inserted first, then this one.
      have different : greater ≠ item := fun equal => by
        rw [equal] at above
        omega
      obtain ⟨rest, arranged⟩ := exists_perm_cons_cons present listed different
      have increasing := all _ second arranged (.refl _)
      have counted :=
        @counted_of_increasing_insertAll _ place [greater] (rest ++ second) item increasing
      have nothing : smaller place (place item) [greater] = 0 := by
        simp [smaller, Nat.le_of_lt above]
      have one : insertAll place [] [greater] = [greater] := by simp [insertAll, insert]
      rw [one, nothing, length_singleton] at counted
      omega
    · rw [or_iff_not_imp_right]
      intro notGreatest
      obtain ⟨greater, present, above⟩ :
          ∃ greater ∈ first ++ second, place item < place greater := by
        simpa using notGreatest
      have different : greater ≠ item := fun equal => by
        rw [equal] at above
        omega
      rcases mem_append.mp present with early | late
      · obtain ⟨rest, arranged⟩ := exists_perm_cons listed
        have increasing := all first _ (.refl _) arranged
        exact covered_of_counted distinctFirst increasing early above
      · obtain ⟨rest, arranged⟩ := exists_perm_cons_cons late listed different
        have increasing := all first _ (.refl _) arranged
        have parts : first ++ greater :: item :: rest = (first ++ [greater]) ++ item :: rest := by
          simp
        have distinctBefore : ((first ++ [greater]).map place).Nodup := by
          have inside := ((arranged.append_left first).map place).nodup_iff.mpr distinct
          rw [parts, map_append] at inside
          exact (nodup_append.mp inside).1
        rw [parts] at increasing
        intro index below
        have found := covered_of_counted distinctBefore increasing (by simp) above index below
        rw [map_append, mem_append] at found
        rcases found with found | found
        · exact found
        · have equal : index = place greater := by simpa using found
          omega
  · intro any f g inFirst inSecond
    exact any.increasing inFirst inSecond

end Orders

end Sct.Insertion
