import Mathlib.Data.List.Perm.Basic
import Sct.Lib.Dict

/-!
# Going through the same things in another order

What can be seen of a list through selections of its items: each selection can be given any order
by an order of the whole list. A dictionary gone through in another order has the same values.
-/

open List

namespace Sct.Reorder

variable {α β : Type}

/-- Taking some items out first keeps a list as it is when they stand in front of the others. -/
lemma filter_append_filter_eq_self_iff (keep : α → Bool) (items : List α) :
    items.filter keep ++ items.filter (fun item => !keep item) = items ↔
      items.Pairwise fun early late => keep late = true → keep early = true := by
  constructor
  · intro whole
    rw [← whole, pairwise_append]
    have kept : ∀ item ∈ items.filter keep, keep item = true := fun _ listed =>
      (mem_filter.mp listed).2
    have left : ∀ item ∈ items.filter fun item => !keep item, keep item = false := fun _ listed =>
      by simpa using (mem_filter.mp listed).2
    refine ⟨?_, ?_, ?_⟩
    · exact List.Pairwise.imp_of_mem (fun early _ _ _ => kept _ early) (pairwise_of_forall
        fun _ _ => trivial)
    · exact List.Pairwise.imp_of_mem (fun _ late _ taken => absurd (left _ late ▸ taken)
        Bool.false_ne_true) (pairwise_of_forall fun _ _ => trivial)
    · exact fun early first _ _ _ => kept early first
  · intro sorted
    induction items with
    | nil => rfl
    | cons item rest ih =>
      obtain ⟨front, sorted⟩ := pairwise_cons.mp sorted
      cases kept : keep item with
      | true => simpa [kept] using ih sorted
      | false =>
        have none : rest.filter keep = [] := by
          rw [filter_eq_nil_iff]
          intro other listed taken
          exact absurd (kept.symm.trans (front other listed taken)) Bool.false_ne_true
        have all := ih sorted
        rw [none, nil_append] at all
        simp [kept, none, all]

lemma filterMap_eq_self {items : List α} {select : α → Option α}
    (each : ∀ item ∈ items, select item = some item) : items.filterMap select = items := by
  induction items with
  | nil => rfl
  | cons item items ih =>
    rw [filterMap_cons_some (each item mem_cons_self),
      ih fun other listed => each other (mem_cons_of_mem _ listed)]

section Selections

variable {items : List α} {select : α → Option β} {back : β → α}
  (restores : ∀ item result, select item = some result → back result = item)

include restores

lemma map_back_filterMap :
    (items.filterMap select).map back = items.filter fun item => (select item).isSome := by
  induction items with
  | nil => rfl
  | cons item items ih =>
    cases found : select item with
    | none => simp [found, ih]
    | some result => simp [found, ih, restores item result found]

lemma select_back {result : β} (selected : result ∈ items.filterMap select) :
    select (back result) = some result := by
  obtain ⟨item, -, found⟩ := mem_filterMap.mp selected
  rw [restores item result found, found]

lemma filterMap_map_back {f : List β} (arranged : f.Perm (items.filterMap select)) :
    (f.map back).filterMap select = f := by
  rw [filterMap_map]
  exact filterMap_eq_self fun result listed => select_back restores (arranged.subset listed)

lemma filterMap_map_other {other : α → Option β}
    (apart : ∀ item, other item = none ∨ select item = none) {f : List β}
    (arranged : f.Perm (items.filterMap select)) : (f.map back).filterMap other = [] := by
  rw [filterMap_eq_nil_iff]
  intro item listed
  obtain ⟨result, selected, rfl⟩ := mem_map.mp listed
  have found := select_back restores (arranged.subset selected)
  exact (apart (back result)).resolve_right (by rw [found]; exact Option.some_ne_none result)

end Selections

/-- Two selections that share no item can be put in any two orders at once. -/
lemma exists_perm_filterMap {items : List α} {first second : α → Option β} {back : β → α}
    (backFirst : ∀ item result, first item = some result → back result = item)
    (backSecond : ∀ item result, second item = some result → back result = item)
    (apart : ∀ item, first item = none ∨ second item = none) {f g : List β}
    (inFirst : f.Perm (items.filterMap first)) (inSecond : g.Perm (items.filterMap second)) :
    ∃ order : List α, order.Perm items ∧ order.filterMap first = f ∧
      order.filterMap second = g := by
  let others := (items.filter fun item => !(first item).isSome).filter fun item =>
    !(second item).isSome
  have unselected : ∀ item ∈ others, first item = none ∧ second item = none := by
    intro item listed
    have outsideSecond := mem_filter.mp listed
    have outsideFirst := mem_filter.mp outsideSecond.1
    exact ⟨by simpa using outsideFirst.2, by simpa using outsideSecond.2⟩
  refine ⟨f.map back ++ (g.map back ++ others), ?_, ?_, ?_⟩
  · have firstPart := (inFirst.map back).trans (by rw [map_back_filterMap backFirst])
    have secondPart : (g.map back).Perm ((items.filter fun item => !(first item).isSome).filter
        fun item => (second item).isSome) := by
      refine (inSecond.map back).trans ?_
      rw [map_back_filterMap backSecond, filter_filter]
      refine List.Perm.of_eq (filter_congr fun item _ => ?_)
      rcases apart item with none | none
      · simp [none]
      · simp [none]
    refine (firstPart.append ((secondPart.append_right others).trans ?_)).trans
      (filter_append_perm (fun item => (first item).isSome) items)
    exact filter_append_perm (fun item => (second item).isSome) _
  · have notSecond := filterMap_map_other backSecond apart inSecond
    have notOthers : others.filterMap first = [] :=
      filterMap_eq_nil_iff.mpr fun item listed => (unselected item listed).1
    rw [filterMap_append, filterMap_append, notSecond, notOthers,
      filterMap_map_back backFirst inFirst]
    exact append_nil f
  · have notFirst := filterMap_map_other backFirst (fun item => (apart item).symm) inFirst
    have notOthers : others.filterMap second = [] :=
      filterMap_eq_nil_iff.mpr fun item listed => (unselected item listed).2
    rw [filterMap_append, filterMap_append, notFirst, notOthers,
      filterMap_map_back backSecond inSecond]
    exact append_nil g

/-- The last item of a list whose items are all the same does not depend on their order. -/
lemma getLast?_eq_of_perm {items order : List α} (arranged : order.Perm items)
    (same : ∀ item ∈ items, ∀ other ∈ items, item = other) :
    order.getLast? = items.getLast? := by
  cases last : order.getLast? with
  | none =>
    rw [getLast?_eq_none_iff] at last
    subst last
    rw [nil_perm.mp arranged]
    rfl
  | some item =>
    have listed := arranged.subset (mem_of_getLast? last)
    cases found : items.getLast? with
    | none =>
      rw [getLast?_eq_none_iff] at found
      subst found
      cases listed
    | some other => rw [same item listed other (mem_of_getLast? found)]

/-- Lists with the same images under a function that tells their items apart are the same. -/
lemma eq_of_map_eq {image : α → β} {first second : List α}
    (injective : ∀ item ∈ first, ∀ other ∈ second, image item = image other → item = other)
    (equal : first.map image = second.map image) : first = second := by
  induction first generalizing second with
  | nil => exact (map_eq_nil_iff.mp equal.symm).symm
  | cons item first ih =>
    cases second with
    | nil => cases equal
    | cons other second =>
      rw [map_cons, map_cons, List.cons.injEq] at equal
      have head := injective item mem_cons_self other mem_cons_self equal.1
      have tail := ih (fun left listed right also => injective left (mem_cons_of_mem _ listed)
        right (mem_cons_of_mem _ also)) equal.2
      rw [head, tail]

end Sct.Reorder

namespace Sct.Dict

variable {κ α : Type} [DecidableEq κ]

lemma get_eq_of_perm {first second : Dict κ α} (arranged : first.entries.Perm second.entries)
    (key : κ) : first.get key = second.get key := by
  ext value
  rw [← mem_entries_iff, ← mem_entries_iff, arranged.mem_iff]

lemma exists_reordered (dict : Dict κ α) {order : List κ} (arranged : order.Perm dict.keys) :
    ∃ other : Dict κ α, other.keys = order ∧ other.entries.Perm dict.entries := by
  let entryOf (key : κ) : Option (κ × α) := (dict.get key).map fun value => (key, value)
  have all : dict.keys.filterMap entryOf = dict.entries := by
    rw [keys, filterMap_map]
    apply Reorder.filterMap_eq_self
    rintro ⟨key, value⟩ listed
    have found := (mem_entries_iff dict key value).mp listed
    simp [entryOf, found]
  have names : (order.filterMap entryOf).map Prod.fst = order := by
    rw [map_filterMap]
    apply Reorder.filterMap_eq_self
    intro key listed
    obtain ⟨value, found⟩ := (mem_iff dict key).mp (arranged.subset listed)
    simp [entryOf, found]
  have distinct : ((order.filterMap entryOf).map Prod.fst).Nodup := by
    rw [names]
    exact arranged.nodup_iff.mpr dict.distinct
  refine ⟨⟨order.filterMap entryOf, distinct⟩, names, ?_⟩
  have moved := arranged.filterMap entryOf
  rw [all] at moved
  exact moved

/-- The value of a key is the last one it was set to. -/
lemma get_setAll_last (entries : List (κ × α)) (dict : Dict κ α) (key : κ) :
    (dict.setAll entries).get key =
      ((entries.filter fun entry => entry.1 = key).getLast?.map Prod.snd).or (dict.get key) := by
  induction entries using List.reverseRecOn with
  | nil => rfl
  | append_singleton entries entry ih =>
    have step : dict.setAll (entries ++ [entry]) = (dict.setAll entries).set entry.1 entry.2 :=
      foldl_append
    rw [step, get_set, filter_append]
    by_cases same : entry.1 = key
    · simp [same]
    · simp [same, Ne.symm same, ih]

end Sct.Dict
