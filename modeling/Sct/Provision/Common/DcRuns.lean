import Mathlib.Algebra.BigOperators.Group.Finset.Piecewise
import Mathlib.Algebra.Order.BigOperators.Group.Finset
import Sct.Provision.Common.RegionRuns

/-!
# Runs of the multi-DC loop

`Moves` are the relocations a run makes, in order, up to the start of a later attempt. Each one
takes the next candidate of the data center that failed, so the relocations of a data center are
a sublist of its candidates, and a run makes at most one attempt more than there are candidates.
A data center without candidates left, an error that is attributed to none and an error that is
not about capacity all end the run with the placement restored.
-/

open Sct.Effect
open List
open EStateM (run_bind run_pure)

namespace Sct.DcFallback

variable {σ : Type}

/-- Restoring only writes settings, and building an exception always succeeds. -/
structure Settled (fallback : DcFallback σ) (restored : σ → σ) : Prop where
  restores : ∀ state, fallback.restore.run state = .ok () (restored state)
  builds : ∀ message state, ∃ error after,
    (fallback.errorFactory message).run state = .ok error after

def Yields (step : EStateM Exc σ (Option Candidate)) (candidate : Candidate) : Prop :=
  ∀ state value after, step.run state = .ok (some value) after → value = candidate

/-- The candidates of a data center are one of the lists offered to it, of which it may skip
some. -/
def Lists (fallback : DcFallback σ) (offered : Nat → List Candidate → Prop) : Prop :=
  ∀ dcIndex state steps after, (fallback.dcCandidates dcIndex).start.run state = .ok steps after →
    ∃ candidates, offered dcIndex candidates ∧ List.Forall₂ Yields steps candidates

/-- One iteration fails for capacity in a data center and moves it to its next candidate. -/
structure Moved (fallback : DcFallback σ) (dcIndex : Nat) (candidate : Candidate)
    (dcIterators : DcIterators σ) (state : σ) (nextIterators : DcIterators σ) (after : σ) :
    Prop where
  /-- The attempt failed for capacity, was attributed, cleaned up, and a candidate was found. -/
  step : ∃ exc failed attributed cleaned found,
    fallback.provisionOnce.run state = .error exc failed ∧
    fallback.isCapacityError exc = true ∧
    (fallback.failedDcIndex exc).run failed = .ok (some dcIndex) attributed ∧
    fallback.cleanup.run attributed = .ok () cleaned ∧
    (fallback.nextCandidate dcIterators dcIndex).run cleaned =
      .ok (some candidate, nextIterators) found ∧
    (fallback.switchDcRegion dcIndex candidate.1 candidate.2).run found = .ok () after

/-- The relocations a run makes from one start of an attempt to another. -/
inductive Moves (fallback : DcFallback σ) :
    List (Nat × Candidate) → DcIterators σ → σ → DcIterators σ → σ → Prop
  | nil (dcIterators : DcIterators σ) (state : σ) :
      Moves fallback [] dcIterators state dcIterators state
  | snoc {moves : List (Nat × Candidate)} {first last next : DcIterators σ}
      {start state after : σ} {dcIndex : Nat} {candidate : Candidate}
      (earlier : Moves fallback moves first start last state)
      (moved : Moved fallback dcIndex candidate last state next after) :
      Moves fallback (moves ++ [(dcIndex, candidate)]) first start next after

variable {fallback : DcFallback σ}

/-- Provisioning is guarded: its exception becomes a value. -/
lemma iteration_run (fallback : DcFallback σ) (dcIterators : DcIterators σ) (state : σ) :
    (fallback.iteration dcIterators).run state = match fallback.provisionOnce.run state with
      | .ok () after => .ok (.inr ()) after
      | .error exc failed =>
        if fallback.isCapacityError exc then (fallback.relocateFailed dcIterators exc).run failed
        else (do fallback.restore; throw exc : EStateM Exc σ (DcIterators σ ⊕ Unit)).run
          failed := by
  rw [iteration, run_bind, run_tryCatch, run_bind]
  cases fallback.provisionOnce.run state with
  | ok value after => rfl
  | error exc failed =>
    simp only [run_pure]
    cases fallback.isCapacityError exc with
    | true => rfl
    | false => rfl

variable {α : Type}

lemma exhausted_ne_ok (dcIndex : Option Nat) (exc : Exc) (state after : σ) (value : α) :
    (fallback.exhausted dcIndex exc).run state ≠ .ok value after := by
  intro ran
  obtain ⟨_, _, _, rest⟩ := bind_ok_iff.mp ran
  obtain ⟨_, _, _, threw⟩ := bind_ok_iff.mp rest
  simp at threw

lemma moved_iff (dcIterators nextIterators : DcIterators σ) (state after : σ) :
    (fallback.iteration dcIterators).run state = .ok (.inl nextIterators) after ↔
      ∃ dcIndex candidate,
        Moved fallback dcIndex candidate dcIterators state nextIterators after := by
  rw [iteration_run]
  constructor
  · intro ran
    cases provisioned : fallback.provisionOnce.run state with
    | ok value exit => simp [provisioned] at ran
    | error exc failed =>
      simp only [provisioned] at ran
      split at ran
      · rename_i capacity
        obtain ⟨dcIndex, attributed, attribution, rest⟩ := bind_ok_iff.mp ran
        obtain ⟨_, cleaned, cleanup, rest⟩ := bind_ok_iff.mp rest
        cases dcIndex with
        | none => exact absurd rest (exhausted_ne_ok _ _ _ _ _)
        | some index =>
          obtain ⟨⟨target, iterators⟩, found, searched, rest⟩ := bind_ok_iff.mp rest
          cases target with
          | none => exact absurd rest (exhausted_ne_ok _ _ _ _ _)
          | some candidate =>
            obtain ⟨_, moved, switched, ended⟩ := bind_ok_iff.mp rest
            obtain ⟨rfl, rfl⟩ := ended
            exact ⟨index, candidate, ⟨exc, failed, attributed, cleaned, found, provisioned,
              capacity, attribution, cleanup, searched, switched⟩⟩
      · obtain ⟨_, _, _, threw⟩ := bind_ok_iff.mp ran
        simp at threw
  · rintro ⟨dcIndex, candidate, exc, failed, attributed, cleaned, found, provisioned, capacity,
      attribution, cleanup, searched, switched⟩
    simp only [provisioned, capacity, ↓reduceIte, relocateFailed, run_bind, attribution,
      cleanup, searched, switched, run_pure]

variable {first last : DcIterators σ} {start state : σ} {moves : List (Nat × Candidate)}

lemma moves_of_laps {count : Nat} (laps : Laps fallback.iteration count first start last state)
    {origin : DcIterators σ} {entry : σ} (earlier : Moves fallback moves origin entry first start) :
    ∃ more, more.length = count ∧ Moves fallback (moves ++ more) origin entry last state := by
  induction laps generalizing moves with
  | nil carried state => exact ⟨[], rfl, by simpa using earlier⟩
  | cons continued others ih =>
    obtain ⟨dcIndex, candidate, moved⟩ := (moved_iff _ _ _ _).mp continued
    obtain ⟨more, length, all⟩ := ih (.snoc earlier moved)
    refine ⟨(dcIndex, candidate) :: more, by simp [length], ?_⟩
    simpa using all

lemma laps_of_moves (moved : Moves fallback moves first start last state) (fuel : Nat) :
    (repeatUntil fallback.iteration (moves.length + fuel) first).run start =
      (repeatUntil fallback.iteration fuel last).run state := by
  induction moved generalizing fuel with
  | nil dcIterators state => rw [length_nil, Nat.zero_add]
  | snoc earlier moved ih =>
    rename_i moves _ _ _ _ _ _ dcIndex candidate
    have continued := (moved_iff _ _ _ _).mpr ⟨dcIndex, candidate, moved⟩
    have fuels : (moves ++ [(dcIndex, candidate)]).length + fuel =
        moves.length + (fuel + 1) := by
      simp
      omega
    rw [fuels, ih, repeatUntil, run_bind, continued]

lemma nextOf_meets {holds : σ → Prop} {steps : List (EStateM Exc σ (Option Candidate))}
    (keeps : ∀ step ∈ steps, Keeps holds step) :
    Meets holds (nextOf steps) (fun found state => holds state ∧ ∀ step ∈ found.2, step ∈ steps)
      fun _ => holds := by
  induction steps with
  | nil => exact meets_pure _ fun _ reached => ⟨reached, by simp⟩
  | cons step rest ih =>
    refine meets_bind (keeps step mem_cons_self) fun outcome => ?_
    cases outcome with
    | none =>
      refine (ih fun other listed => keeps other (mem_cons_of_mem step listed)).weaken
        (fun _ reached => reached) (fun found _ reached => ?_) fun _ _ reached => reached
      exact ⟨reached.1, fun other left => mem_cons_of_mem step (reached.2 other left)⟩
    | some candidate =>
      exact meets_pure _ fun _ reached =>
        ⟨reached, fun other left => mem_cons_of_mem step left⟩

/-! ## Candidates are used once -/

variable {found : Option Candidate} {after : σ}

lemma nextOf_ok {steps rest : List (EStateM Exc σ (Option Candidate))}
    {candidates : List Candidate} (yields : List.Forall₂ Yields steps candidates)
    (ran : (nextOf steps).run state = .ok (found, rest) after) :
    ∃ left, List.Forall₂ Yields rest left ∧ (found.toList ++ left).Sublist candidates := by
  induction yields generalizing state with
  | nil =>
    obtain ⟨⟨rfl, rfl⟩, rfl⟩ := ran
    exact ⟨[], .nil, List.Sublist.refl []⟩
  | @cons step candidate steps candidates yielded others ih =>
    obtain ⟨outcome, middle, stepped, remaining⟩ := bind_ok_iff.mp ran
    cases outcome with
    | none =>
      obtain ⟨left, kept, sublist⟩ := ih remaining
      exact ⟨left, kept, sublist.cons candidate⟩
    | some value =>
      simp only [run_pure, EStateM.Result.ok.injEq, Prod.mk.injEq] at remaining
      obtain ⟨⟨rfl, rfl⟩, rfl⟩ := remaining
      have same := yielded state value middle stepped
      exact ⟨candidates, others, by simp [same]⟩

/-- What the iterator of a data center stands for, once it made these relocations: none before
its first use, and afterwards the rest of a list offered to it. -/
def Used (offered : Nat → List Candidate → Prop) (dcIterators : DcIterators σ) (dcIndex : Nat)
    (relocations : List Candidate) : Prop :=
  match dcIterators dcIndex with
  | none => relocations = []
  | some steps => ∃ candidates left, offered dcIndex candidates ∧
      List.Forall₂ Yields steps left ∧ (relocations ++ left).Sublist candidates

variable {offered : Nat → List Candidate → Prop}

lemma nextCandidate_ok (lists : Lists fallback offered)
    {dcIterators nextIterators : DcIterators σ} {dcIndex : Nat} {relocations : List Candidate}
    (used : Used offered dcIterators dcIndex relocations)
    (ran : (fallback.nextCandidate dcIterators dcIndex).run state = .ok (found, nextIterators)
      after) :
    Used offered nextIterators dcIndex (relocations ++ found.toList) ∧
      ∀ other, other ≠ dcIndex → nextIterators other = dcIterators other := by
  obtain ran | ⟨exc, middle, _, handled⟩ := tryCatch_ok_iff.mp ran
  · obtain ⟨steps, began, made, rest⟩ := bind_ok_iff.mp ran
    obtain ⟨⟨value, others⟩, middle, searched, ended⟩ := bind_ok_iff.mp rest
    obtain ⟨⟨rfl, rfl⟩, rfl⟩ := ended
    have known : ∃ candidates left, offered dcIndex candidates ∧
        List.Forall₂ Yields steps left ∧ (relocations ++ left).Sublist candidates := by
      unfold Used at used
      unfold iteratorOf at made
      cases iterator : dcIterators dcIndex with
      | none =>
        rw [iterator] at made used
        obtain ⟨candidates, offer, yields⟩ := lists dcIndex state steps began made
        exact ⟨candidates, candidates, offer, yields, by simp [used]⟩
      | some earlier =>
        rw [iterator] at made used
        simp only [run_pure, EStateM.Result.ok.injEq] at made
        rw [← made.1]
        exact used
    obtain ⟨candidates, left, offer, yields, sublist⟩ := known
    obtain ⟨fewer, kept, shorter⟩ := nextOf_ok yields searched
    refine ⟨?_, fun other different => Function.update_of_ne different _ _⟩
    have taken := ((List.Sublist.refl relocations).append shorter).trans sublist
    simp only [Used, Function.update_self]
    exact ⟨candidates, fewer, offer, kept, by simpa using taken⟩
  · obtain ⟨_, _, _, threw⟩ := bind_ok_iff.mp handled
    simp at threw

/-- The relocations of one data center, in order. -/
def movesOf (moves : List (Nat × Candidate)) (dcIndex : Nat) : List Candidate :=
  (moves.filter fun move => move.1 = dcIndex).map Prod.snd

lemma movesOf_snoc (moves : List (Nat × Candidate)) (dcIndex other : Nat)
    (candidate : Candidate) :
    movesOf (moves ++ [(dcIndex, candidate)]) other =
      movesOf moves other ++ if dcIndex = other then [candidate] else [] := by
  by_cases same : dcIndex = other
  · simp [movesOf, same]
  · simp [movesOf, same]

lemma moves_used (lists : Lists fallback offered)
    (moved : Moves fallback moves first start last state)
    (fresh : ∀ dcIndex, first dcIndex = none) :
    ∀ dcIndex, Used offered last dcIndex (movesOf moves dcIndex) := by
  induction moved with
  | nil dcIterators state =>
    simp [Used, fresh, movesOf]
  | @snoc moves first last next start state after index candidate earlier moved ih =>
    intro dcIndex
    obtain ⟨exc, failed, attributed, cleaned, found, _, _, _, _, searched, _⟩ := moved
    obtain ⟨used, others⟩ := nextCandidate_ok lists (ih fresh index) searched
    by_cases same : index = dcIndex
    · subst same
      rw [movesOf_snoc, if_pos rfl]
      exact used
    · have unchanged := ih fresh dcIndex
      have iterator := others dcIndex (Ne.symm same)
      rw [movesOf_snoc, if_neg same, append_nil]
      simpa only [Used, iterator] using unchanged

lemma movesOf_sublist (lists : Lists fallback offered)
    (moved : Moves fallback moves first start last state) (fresh : ∀ dcIndex, first dcIndex = none)
    (dcIndex : Nat) :
    movesOf moves dcIndex = [] ∨
      ∃ candidates, offered dcIndex candidates ∧ (movesOf moves dcIndex).Sublist candidates := by
  have used := moves_used lists moved fresh dcIndex
  unfold Used at used
  cases iterator : last dcIndex with
  | none =>
    rw [iterator] at used
    exact .inl used
  | some steps =>
    rw [iterator] at used
    obtain ⟨candidates, left, offer, _, sublist⟩ := used
    exact .inr ⟨candidates, offer, (sublist_append_left _ left).trans sublist⟩

lemma length_eq_sum_movesOf (moves : List (Nat × Candidate)) (dcCount : Nat)
    (within : ∀ move ∈ moves, move.1 < dcCount) :
    moves.length = ∑ dcIndex ∈ Finset.range dcCount, (movesOf moves dcIndex).length := by
  induction moves with
  | nil => simp [movesOf]
  | cons move rest ih =>
    have others := ih fun item listed => within item (mem_cons_of_mem move listed)
    have counted : ∀ dcIndex, (movesOf (move :: rest) dcIndex).length =
        (movesOf rest dcIndex).length + if move.1 = dcIndex then 1 else 0 := by
      intro dcIndex
      by_cases same : move.1 = dcIndex
      · simp [movesOf, same]
      · simp [movesOf, same]
    have inside : move.1 < dcCount := within move mem_cons_self
    simp only [counted, Finset.sum_add_distrib, Finset.sum_ite_eq, Finset.mem_range, inside,
      ↓reduceIte, ← others, length_cons]

lemma moves_length_le (lists : Lists fallback offered) {size : Nat → Nat}
    (bounded : ∀ dcIndex candidates, offered dcIndex candidates → candidates.length ≤ size dcIndex)
    {dcCount : Nat} (beyond : ∀ dcIndex, dcCount ≤ dcIndex → size dcIndex = 0)
    (moved : Moves fallback moves first start last state)
    (fresh : ∀ dcIndex, first dcIndex = none) :
    moves.length ≤ ∑ dcIndex ∈ Finset.range dcCount, size dcIndex := by
  have few : ∀ dcIndex, (movesOf moves dcIndex).length ≤ size dcIndex := by
    intro dcIndex
    obtain none | ⟨candidates, offer, sublist⟩ := movesOf_sublist lists moved fresh dcIndex
    · simp [none]
    · exact sublist.length_le.trans (bounded dcIndex candidates offer)
  have within : ∀ move ∈ moves, move.1 < dcCount := by
    intro move listed
    by_contra outside
    have own : move.2 ∈ movesOf moves move.1 :=
      mem_map.mpr ⟨move, mem_filter.mpr ⟨listed, by simp⟩, rfl⟩
    have positive := length_pos_of_mem own
    have zero := beyond move.1 (by omega)
    have bound := few move.1
    omega
  rw [length_eq_sum_movesOf moves dcCount within]
  exact Finset.sum_le_sum fun dcIndex _ => few dcIndex

/-! ## How a run ends -/

variable {restored : σ → σ}

lemma run_of_iteration_raised {entry exit : σ}
    (moved : Moves fallback moves (fun _ => none) entry last state) {fuel : Nat}
    (enough : moves.length < fuel) {error : Exc}
    (raised : (fallback.iteration last).run state = .error error exit) :
    (fallback.run fuel).run entry = .error error exit := by
  obtain ⟨spare, fuels⟩ : ∃ spare, fuel = moves.length + (spare + 1) :=
    ⟨fuel - moves.length - 1, by omega⟩
  rw [run, fuels, laps_of_moves moved, repeatUntil, run_bind, raised]

/-- The multi-DC loop makes at most one attempt more than there are candidates, moves each data
center through its candidates at most once, and, wherever an attempt fails hard, cannot be
attributed or finds its data center without candidates, ends with the placement restored. -/
theorem run_bounded_and_restored (settled : Settled fallback restored)
    {offered : Nat → List Candidate → Prop} (lists : Lists fallback offered) {size : Nat → Nat}
    (bounded : ∀ dcIndex candidates, offered dcIndex candidates →
      candidates.length ≤ size dcIndex)
    {dcCount : Nat} (beyond : ∀ dcIndex, dcCount ≤ dcIndex → size dcIndex = 0) (entry : σ)
    {fuel : Nat} (enough : 1 + ∑ dcIndex ∈ Finset.range dcCount, size dcIndex ≤ fuel) :
    (∀ after, (fallback.run fuel).run entry ≠ .ok none after) ∧
      ∀ moves last state, Moves fallback moves (fun _ => none) entry last state →
        moves.length + 1 ≤ 1 + ∑ dcIndex ∈ Finset.range dcCount, size dcIndex ∧
        (∀ dcIndex, movesOf moves dcIndex = [] ∨ ∃ candidates, offered dcIndex candidates ∧
          (movesOf moves dcIndex).Sublist candidates) ∧
        ∀ exc failed, fallback.provisionOnce.run state = .error exc failed →
          (fallback.isCapacityError exc = false →
            (fallback.run fuel).run entry = .error exc (restored failed)) ∧
          (fallback.isCapacityError exc = true → ∀ dcIndex attributed cleaned,
            (fallback.failedDcIndex exc).run failed = .ok dcIndex attributed →
            fallback.cleanup.run attributed = .ok () cleaned →
            ∀ stopped, (dcIndex = none ∧ stopped = cleaned ∨ ∃ index iterators,
                dcIndex = some index ∧
                (fallback.nextCandidate last index).run cleaned =
                  .ok (none, iterators) stopped) →
              ∃ error exit,
                (fallback.errorFactory (exhaustedMessage dcIndex exc)).run (restored stopped) =
                  .ok error exit ∧
                (fallback.run fuel).run entry = .error error exit) := by
  constructor
  · intro after ran
    obtain ⟨last, laps⟩ := laps_of_repeatUntil_none ran
    obtain ⟨moves, length, moved⟩ := moves_of_laps laps (.nil _ entry)
    rw [nil_append] at moved
    have bound := moves_length_le lists bounded beyond moved fun _ => rfl
    omega
  · intro moves last state moved
    have bound := moves_length_le lists bounded beyond moved fun _ => rfl
    refine ⟨by omega, movesOf_sublist lists moved fun _ => rfl, ?_⟩
    intro exc failed provisioned
    constructor
    · intro hard
      apply run_of_iteration_raised moved (by omega)
      rw [iteration_run, provisioned]
      simp [hard, settled.restores]
    · intro capacity dcIndex attributed cleaned attribution cleanup stopped reason
      obtain ⟨error, exit, built⟩ := settled.builds (exhaustedMessage dcIndex exc)
        (restored stopped)
      refine ⟨error, exit, built, ?_⟩
      apply run_of_iteration_raised moved (by omega)
      rw [iteration_run, provisioned]
      obtain ⟨rfl, rfl⟩ | ⟨index, iterators, rfl, searched⟩ := reason
      · simp only [capacity, ↓reduceIte, relocateFailed, run_bind, attribution, cleanup]
        simp [exhausted, settled.restores, built]
      · simp only [capacity, ↓reduceIte, relocateFailed, run_bind, attribution, cleanup,
          searched]
        simp [exhausted, settled.restores, built]

/-- The candidates of two data centers: one each. -/
def pairCandidates (dcIndex : Nat) : List Candidate :=
  if dcIndex < 2 then [("us-west1", ["b"])] else []

/-- Every attempt of the pair fails with this. -/
def stockout : Exc := .raised .zoneResourcesExhaustedError "stockout"

/-- Two data centers, no capacity anywhere, and the first one blamed. The state counts the
relocations in effect. -/
def stockedOutPair : DcFallback Nat where
  dcCandidates dcIndex := ⟨pure ((pairCandidates dcIndex).map fun candidate =>
    pure (some candidate))⟩
  provisionOnce := throw stockout
  failedDcIndex _ := pure (some 0)
  switchDcRegion _ _ _ := modify (· + 1)
  restore := set 0
  cleanup := pure ()
  isCapacityError _ := true
  errorFactory message := pure (.raised .provisionUnrecoverableError message)

lemma stockedOutPair_lists :
    Lists stockedOutPair fun dcIndex candidates => candidates = pairCandidates dcIndex := by
  intro dcIndex state steps after began
  obtain ⟨rfl, rfl⟩ := EStateM.Result.ok.inj began
  refine ⟨pairCandidates dcIndex, rfl, forall₂_map_left_iff.mpr ?_⟩
  refine forall₂_same.mpr fun candidate _ => ?_
  intro reached value ended ran
  exact (Option.some.inj (EStateM.Result.ok.inj ran).1).symm

/-- The pair moves once, finds the first data center without candidates and ends restored. -/
theorem stockedOutPair_bounded :
    ∃ error exit,
      (stockedOutPair.errorFactory (exhaustedMessage (some 0) stockout)).run 0 = .ok error exit ∧
      (stockedOutPair.run 3).run 0 = .error error exit := by
  have bounded := @run_bounded_and_restored Nat stockedOutPair (fun _ => 0)
    ⟨fun _ => rfl, fun _ _ => ⟨_, _, rfl⟩⟩ _ stockedOutPair_lists
    (fun dcIndex => (pairCandidates dcIndex).length)
    (fun _ _ same => same ▸ Nat.le_refl _) 2
    (fun dcIndex outside => by simp [pairCandidates, Nat.not_lt.mpr outside]) 0 3 (by decide)
  have moves : Moves stockedOutPair [(0, ("us-west1", ["b"]))] (fun _ => none) 0
      (Function.update (fun _ => none) 0 (some [])) 1 :=
    .snoc (.nil _ 0) ⟨stockout, 0, 0, 0, 0, rfl, rfl, rfl, rfl, rfl, rfl⟩
  exact ((bounded.2 _ _ _ moves).2.2 stockout 1 rfl).2 rfl (some 0) 1 1 rfl rfl 1
    (.inr ⟨0, Function.update (Function.update (fun _ => none) 0 (some [])) 0 (some []), rfl, rfl⟩)

end Sct.DcFallback
