import Mathlib.Data.Int.CardIntervalMod

/-!
# Dealing in turn

`total` items dealt in turn to `hands` hands: item `i` goes to hand `i % hands`. `share` is what
a hand ends up with, and `deal` counts it the way a loop does, one increment for each item. Two
deals made separately put as many items in every hand as one deal of their sum does exactly when
the hands divide one of the two totals.
-/

open List

namespace Sct.RoundRobin

/-- What a hand gets of a deal. -/
def share (total hands hand : Nat) : Nat :=
  total / hands + if hand < total % hands then 1 else 0

/-- Count the items of every hand, one item after another. -/
def deal (hands total : Nat) : List Nat :=
  (List.range total).foldl (fun counts item => counts.modify (item % hands) (· + 1))
    (List.replicate hands 0)

variable (hands total : Nat)

lemma deal_succ : deal hands (total + 1) = (deal hands total).modify (total % hands) (· + 1) := by
  unfold deal
  rw [range_succ, foldl_append]
  rfl

@[simp]
lemma length_deal : (deal hands total).length = hands := by
  induction total with
  | zero => simp [deal]
  | succ total ih => rw [deal_succ, length_modify, ih]

variable {hands hand : Nat}

lemma count_residue (valid : hand < hands) (total : Nat) :
    (List.range total).countP (fun item => decide (item % hands = hand)) =
      share total hands hand := by
  have some_hand : 0 < hands := by omega
  have counted := Nat.count_modEq_card total some_hand hand
  have residue : hand % hands = hand := Nat.mod_eq_of_lt valid
  simp only [Nat.ModEq, residue] at counted
  exact counted

lemma getD_deal (valid : hand < hands) (total : Nat) :
    (deal hands total).getD hand 0 = share total hands hand := by
  rw [← count_residue valid]
  induction total with
  | zero => simp [deal, valid]
  | succ total ih =>
    have present : hand < (deal hands total).length := by rwa [length_deal]
    rw [getD_eq_getElem?_getD, getElem?_eq_getElem present, Option.getD_some] at ih
    rw [deal_succ, getD_eq_getElem?_getD, getElem?_modify,
      getElem?_eq_getElem present, range_succ, countP_append, ← ih]
    by_cases mine : total % hands = hand
    · simp [mine]
    · simp [mine]

/-- The first hands share as many items as go round in full, and one more each while they
last. -/
lemma sum_share_range (total hands count : Nat) :
    ((List.range count).map (share total hands)).sum =
      count * (total / hands) + min count (total % hands) := by
  induction count with
  | zero => simp
  | succ count ih =>
    rw [range_succ, map_append, sum_append, ih, Nat.succ_mul]
    simp only [map_cons, map_nil, sum_cons, sum_nil, share]
    split <;> omega

variable {hands : Nat}

lemma share_ne_zero_iff {total hands hand : Nat} (valid : hand < hands) :
    share total hands hand ≠ 0 ↔ hand < total := by
  unfold share
  by_cases few : total < hands
  · rw [Nat.div_eq_of_lt few, Nat.mod_eq_of_lt few]
    split <;> omega
  · have round : 0 < total / hands := Nat.div_pos (Nat.le_of_not_lt few) (by omega)
    omega

lemma forall_share_eq_one_iff {total hands : Nat} (positive : 0 < total) (some : 0 < hands) :
    (∀ hand < min total hands, share total hands hand = 1) ↔ total ≤ hands := by
  unfold share
  constructor
  · intro one
    have first := one 0 (by omega)
    by_contra more
    have round : 0 < total / hands := Nat.div_pos (by omega) some
    have single : total / hands = 1 := by omega
    have even : ¬0 < total % hands := fun ahead => by rw [if_pos ahead] at first; omega
    have whole := Nat.div_add_mod total hands
    rw [single, Nat.mul_one] at whole
    omega
  · intro few hand valid
    by_cases less : total < hands
    · rw [Nat.div_eq_of_lt less, Nat.mod_eq_of_lt less, if_pos (by omega)]
    · have same : total = hands := by omega
      subst same
      rw [Nat.div_self positive, Nat.mod_self]
      rfl

/-- What a hand gets of a joint deal, by the remainders of the parts. -/
lemma share_joint (some_hand : 0 < hands) (first second hand : Nat) :
    share (first + second) hands hand = first / hands + second / hands +
      if hands ≤ first % hands + second % hands
      then 1 + if hand < first % hands + second % hands - hands then 1 else 0
      else if hand < first % hands + second % hands then 1 else 0 := by
  rw [share, Nat.add_div some_hand, Nat.add_mod_eq_ite]
  split <;> omega

/-- A hand has at least as much of a joint deal as of a part. -/
lemma share_le_joint (valid : hand < hands) (first second : Nat) :
    share first hands hand ≤ share (first + second) hands hand := by
  rw [share_joint (by omega)]
  unfold share
  generalize second / hands = rounds
  split_ifs <;> omega

/-- A deal that leaves no hand ahead adds to any other hand by hand. -/
lemma share_add {first second hands hand : Nat} (valid : hand < hands)
    (even : hands ∣ first ∨ hands ∣ second) :
    share (first + second) hands hand = share first hands hand + share second hands hand := by
  have first_short : first % hands < hands := Nat.mod_lt first (by omega)
  have second_short : second % hands < hands := Nat.mod_lt second (by omega)
  rw [share_joint (by omega)]
  unfold share
  rcases even with even | even
  · split_ifs <;> omega
  · split_ifs <;> omega

/-- Otherwise some hand is one ahead in both deals and has lost one of them in the joint deal. -/
lemma dvd_or_dvd_of_share_add {first second hands : Nat} (some_hand : 0 < hands)
    (added : ∀ hand < hands, 0 < share second hands hand →
      share (first + second) hands hand = share first hands hand + share second hands hand) :
    hands ∣ first ∨ hands ∣ second := by
  have first_short : first % hands < hands := Nat.mod_lt first some_hand
  have second_short : second % hands < hands := Nat.mod_lt second some_hand
  by_contra uneven
  -- the first hand when the remainders do not go round, otherwise the hand where they end
  obtain ⟨hand, chosen⟩ : ∃ hand, hand = first % hands + second % hands - hands := ⟨_, rfl⟩
  have ahead_first : hand < first % hands := by omega
  have ahead_second : hand < second % hands := by omega
  have dealt : share second hands hand = second / hands + 1 := by
    rw [share, if_pos ahead_second]
  have sum := added hand (by omega) (by rw [dealt]; exact Nat.succ_pos _)
  rw [share_joint some_hand, dealt, share, if_pos ahead_first] at sum
  split_ifs at sum <;> omega

/-- Sorting a list into the buckets of its keys moves its items and loses none. -/
lemma flatMap_buckets_perm {α β : Type} [DecidableEq β] (key : α → β) (items : List α)
    {keys : List β} (distinct : keys.Nodup) :
    (keys.flatMap fun bucket => items.filter fun item => decide (key item = bucket)).Perm
      (items.filter fun item => decide (key item ∈ keys)) := by
  induction keys with
  | nil => simp
  | cons first rest ih =>
    obtain ⟨fresh, distinct⟩ := nodup_cons.mp distinct
    have parts := filter_append_perm (fun item => decide (key item = first))
      (items.filter fun item => decide (key item ∈ first :: rest))
    refine List.Perm.trans ?_ parts
    rw [filter_filter, filter_filter]
    have mine : (items.filter fun item => decide (key item = first)) = items.filter fun item =>
        decide (key item = first) && decide (key item ∈ first :: rest) := by
      apply filter_congr
      intro item _
      by_cases same : key item = first <;> simp [same]
    have others : (items.filter fun item => decide (key item ∈ rest)) = items.filter fun item =>
        !decide (key item = first) && decide (key item ∈ first :: rest) := by
      apply filter_congr
      intro item _
      by_cases same : key item = first
      · simp [same, fresh]
      · simp [same]
    rw [← mine, ← others]
    exact (ih distinct).append_left _

end Sct.RoundRobin
