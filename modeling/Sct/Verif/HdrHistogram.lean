import Sct.Utils.HdrHistogram

/-!
# Windows that cover a span

The windows cover the span unless `range` raises: for a span of no whole second, and for a step that
is a float.
-/

namespace Sct.Utils

/-- Windows one after the other, none of them empty, from a time to another. -/
inductive Tiles : Int → List (Int × Int) → Int → Prop where
  | nil (time : Int) : Tiles time [] time
  | cons {start stop last : Int} {rest : List (Int × Int)} (nonempty : start < stop)
      (others : Tiles stop rest last) : Tiles start ((start, stop) :: rest) last

lemma truncate_mono {first second : ℚ} (ordered : first ≤ second) :
    truncate first ≤ truncate second := by
  have floors := Int.floor_mono ordered
  have ceilings := Int.ceil_mono ordered
  unfold truncate
  split
  · rename_i negative
    split
    · exact ceilings
    · rename_i other
      have below : ⌈first⌉ ≤ 0 := Int.ceil_le.mpr (by simpa using negative.le)
      have above : 0 ≤ ⌊second⌋ := Int.floor_nonneg.mpr (not_lt.mp other)
      omega
  · rename_i other
    rw [if_neg fun negative => other (ordered.trans_lt negative)]
    exact floors

variable {start stop step : Int}

/-- The steps up to the end, of which the last one may be cut short. -/
lemma tiles_steps (positive : 0 < step) (count : Nat) (more : start + count * step < stop)
    (enough : stop ≤ start + (count + 1) * step) :
    Tiles start (((List.range (count + 1)).map fun (index : Nat) => start + index * step).map
      (window stop step)) stop := by
  induction count generalizing start with
  | zero =>
    have last : window stop step start = (start, stop) := by
      unfold window
      split
      · rfl
      · simp only [Prod.mk.injEq, true_and]
        omega
    simpa [last] using Tiles.cons (by simpa using more) (.nil stop)
  | succ count ih =>
    have others := @ih (start + step) (by push_cast at more ⊢; linarith)
      (by push_cast at enough ⊢; linarith)
    have short : start + step < stop := by
      have rest : 0 ≤ (count : Int) * step := by positivity
      push_cast at more
      linarith
    have first : window stop step start = (start, start + step) := by
      rw [window, if_neg (by omega)]
    rw [List.range_succ_eq_map]
    simp only [List.map_cons, List.map_map, Function.comp_def, Nat.cast_zero, zero_mul, add_zero,
      first] at others ⊢
    refine .cons (by omega) ?_
    simpa only [Nat.cast_succ, add_mul, one_mul, add_comm step, add_assoc] using others

lemma steps_tile (positive : 0 < step) (ordered : start < stop) :
    ∃ starts, steps start stop step = .ok starts ∧
      Tiles start (starts.map (window stop step)) stop := by
  have found : steps start stop step = .ok ((List.range
      ((stop - start + step - 1) / step).toNat).map fun (index : Nat) => start + index * step) := by
    simp only [steps, positive, positive.ne', if_true, if_false]
  refine ⟨_, found, ?_⟩
  have division := Int.ediv_mul_add_emod (stop - start + step - 1) step
  have small := Int.emod_lt_of_pos (stop - start + step - 1) positive
  have rest := Int.emod_nonneg (stop - start + step - 1) positive.ne'
  obtain ⟨count, same⟩ : ∃ count : Nat, (stop - start + step - 1) / step = count + 1 := by
    have some : 1 ≤ (stop - start + step - 1) / step :=
      Int.le_ediv_of_mul_le positive (by omega)
    exact ⟨((stop - start + step - 1) / step - 1).toNat, by omega⟩
  rw [same] at division ⊢
  exact tiles_steps positive count (by linarith) (by linarith)

theorem windows_tile_iff (startTime endTime : ℚ) (interval : Number) (ordered : startTime ≤ endTime)
    (positive : 0 < interval.value) :
    (∃ windows, summaryWindows startTime endTime interval = .ok windows ∧
      Tiles (truncate startTime) windows (truncate endTime)) ↔
    truncate startTime ≠ truncate endTime ∧ ∀ value, interval = .float value →
      ((truncate endTime - truncate startTime : Int) : ℚ) < value := by
  have mono := truncate_mono ordered
  unfold summaryWindows
  generalize truncate startTime = start at mono ⊢
  generalize truncate endTime = stop at mono ⊢
  have tiled {step : Int} (some : 0 < step) (apart : start ≠ stop) :
      ∃ windows, (do
          let startIntervals ← steps start stop step
          pure (startIntervals.map (window stop step)) : Except String _) = .ok windows ∧
        Tiles start windows stop := by
    obtain ⟨starts, found, tiles⟩ := steps_tile some (lt_of_le_of_ne mono apart)
    exact ⟨_, by rw [found]; rfl, tiles⟩
  dsimp only [windowStep]
  by_cases short : ((stop - start : Int) : ℚ) < interval.value
  · rw [if_pos short]
    constructor
    · rintro ⟨windows, ran, -⟩
      refine ⟨fun same => ?_, fun value given => ?_⟩
      · subst same
        simp [steps] at ran
      · rw [given] at short
        exact short
    · exact fun allowed => tiled (by omega) allowed.1
  · rw [if_neg short, if_neg positive.ne']
    cases interval with
    | float value =>
      refine iff_of_false ?_ fun allowed => short (allowed.2 value rfl)
      rintro ⟨windows, ran, -⟩
      cases ran
    | int step =>
      have apart : start ≠ stop := by
        rintro rfl
        simp only [sub_self] at short
        exact short positive
      exact iff_of_true (tiled (by simpa [Number.value] using positive) apart)
        ⟨apart, fun value given => nomatch given⟩

theorem windows_of_long_span : ∃ windows, summaryWindows 0 1500 (.int 600) = .ok windows ∧
    Tiles (truncate 0) windows (truncate 1500) :=
  (windows_tile_iff 0 1500 (.int 600) (by norm_num) (by norm_num [Number.value])).mpr
    ⟨by decide, fun _ given => nomatch given⟩

theorem no_windows_within_second : (1 / 4 : ℚ) ≤ 3 / 4 ∧
    summaryWindows (1 / 4) (3 / 4) (.int 600) = .error "range() arg 3 must not be zero" := by
  have first : truncate (1 / 4) = 0 := by decide +kernel
  have last : truncate (3 / 4) = 0 := by decide +kernel
  refine ⟨by norm_num, ?_⟩
  unfold summaryWindows
  rw [first, last]
  simp [windowStep, Number.value, steps]

end Sct.Utils
