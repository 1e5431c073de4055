import Sct.Cluster.AwsInstances

/-!
# The instances that AWS creation leaves running

A call is exact if it returns as many instances as were asked for and no other one that it started
runs, or if it raises and none runs. Requests one after the other add up, and what ran before a later
request raises runs on. So the call is exact just when all spot requests are fulfilled, or the first
one raises before an instance was started and the request on demand is refused or served.
-/

open Sct.Effect
open List
open EStateM (run_bind)
open Sct.Aws (RequestStatus spotCntLimit spotFleetLimit)

namespace Sct.AwsInstances

/-! ## Summing up -/

structure Ended where
  result : Except Failure Nat
  total : Nat

/-- It is how a run ended in which these instances were started. -/
def Ended.Describes (ended : Ended) (before : Ec2) (made : List Nat) :
    EStateM.Result Failure Ec2 (List Nat) → Prop
  | .ok ids after => ended.result = .ok ids.length ∧ ids.Sublist made ∧
      after.running = before.running ++ made
  | .error failure after => ended.result = .error failure ∧
      after.running = before.running ++ made

/-- Code ends in this way, whatever runs before. -/
def Yields (body : Action (List Nat)) (ended : Ended) : Prop :=
  ∀ before : Ec2, ∃ made : List Nat, made.length = ended.total ∧
    ended.Describes before made (body.run before)

/-- The call returns this many instances and no other that it started runs, or it raises and none
runs. -/
def Exact (body : Action (List Nat)) (count : Nat) (before : Ec2) : Prop :=
  match body.run before with
  | .ok ids after => ids.length = count ∧ after.running = before.running ++ ids
  | .error _ after => after.running = before.running

def Ended.Settles (ended : Ended) (count : Nat) : Prop :=
  match ended.result with
  | .ok number => number = count ∧ ended.total = number
  | .error _ => ended.total = 0

variable {body first second : Action (List Nat)} {ended early late : Ended}

lemma Yields.exact_iff (yields : Yields body ended) (count : Nat) (before : Ec2) :
    Exact body count before ↔ ended.Settles count := by
  obtain ⟨made, size, ran⟩ := yields before
  unfold Exact Ended.Settles
  cases outcome : body.run before with
  | ok ids after =>
    rw [outcome] at ran
    obtain ⟨result, inside, running⟩ := ran
    simp only [result, running, append_cancel_left_eq]
    apply and_congr_right
    intro _
    constructor
    · rintro rfl
      exact size.symm
    · intro all
      exact (inside.eq_of_length (all ▸ size).symm).symm
  | error failure after =>
    rw [outcome] at ran
    obtain ⟨result, running⟩ := ran
    simp only [result, running]
    rw [← size, length_eq_zero_iff, append_right_eq_self]

def Ended.andThen (early late : Ended) : Ended :=
  match early.result with
  | .error _ => early
  | .ok number => ⟨late.result.map (number + ·), early.total + late.total⟩

lemma Yields.append (one : Yields first early) (other : Yields second late) :
    Yields (do let new ← first; let more ← second; pure (new ++ more)) (early.andThen late) := by
  intro before
  obtain ⟨made, size, ran⟩ := one before
  cases outcome : first.run before with
  | error failure middle =>
    rw [outcome] at ran
    have stopped : early.andThen late = early := by
      unfold Ended.andThen
      rw [ran.1]
    rw [stopped, run_bind, outcome]
    exact ⟨made, size, ran⟩
  | ok new middle =>
    rw [outcome] at ran
    obtain ⟨result, inside, running⟩ := ran
    obtain ⟨further, more, after⟩ := other middle
    have both : early.andThen late =
        ⟨late.result.map (new.length + ·), early.total + late.total⟩ := by
      unfold Ended.andThen
      rw [result]
    rw [both, run_bind, outcome]
    refine ⟨made ++ further, by rw [length_append, size, more], ?_⟩
    simp only [run_bind]
    cases later : second.run middle with
    | error failure last =>
      rw [later] at after
      apply And.intro
      · rw [after.1]
        rfl
      · rw [after.2, running, append_assoc]
    | ok ids last =>
      rw [later] at after
      obtain ⟨returned, within, ran⟩ := after
      refine And.intro ?_ (And.intro (inside.append within) ?_)
      · rw [returned, length_append]
        rfl
      · rw [ran, running, append_assoc]

def Ended.attempt (ended : Ended) : Option Failure → Ended
  | none => ended
  | some failure =>
    match ended.result with
    | .error _ => ended
    | .ok _ => ⟨.error failure, ended.total⟩

lemma Yields.attempt (yields : Yields body ended) (call : Option Failure) :
    Yields (do let ids ← body; AwsInstances.attempt call; pure ids) (ended.attempt call) := by
  intro before
  obtain ⟨made, size, ran⟩ := yields before
  cases outcome : body.run before with
  | ok ids after =>
    rw [outcome] at ran
    rw [run_bind, outcome]
    cases call with
    | none => exact ⟨made, size, ran⟩
    | some failure =>
      have raised : ended.attempt (some failure) = ⟨.error failure, ended.total⟩ := by
        unfold Ended.attempt
        rw [ran.1]
      rw [raised]
      exact ⟨made, size, And.intro rfl ran.2.2⟩
  | error raised after =>
    rw [outcome] at ran
    have stopped : ended.attempt call = ended := by
      unfold Ended.attempt
      rw [ran.1]
      cases call <;> rfl
    rw [stopped, run_bind, outcome]
    exact ⟨made, size, ran⟩

/-- Other code instead, unless the failure is passed on. -/
def Ended.orElse (early late : Ended) (passes : Failure → Bool) : Ended :=
  match early.result with
  | .ok _ => early
  | .error failure => if passes failure then early else ⟨late.result, early.total + late.total⟩

lemma Yields.orElse (one : Yields first early) (other : Yields second late)
    (passes : Failure → Bool) :
    Yields (tryCatch first fun failure => if passes failure then throw failure else second)
      (early.orElse late passes) := by
  intro before
  obtain ⟨made, size, ran⟩ := one before
  rw [run_tryCatch]
  unfold Ended.orElse
  cases outcome : first.run before with
  | ok ids after =>
    rw [outcome] at ran
    rw [ran.1]
    exact ⟨made, size, ran⟩
  | error failure middle =>
    rw [outcome] at ran
    rw [ran.1]
    simp only []
    cases passed : passes failure with
    | true => exact ⟨made, size, ran⟩
    | false =>
      simp only [Bool.false_eq_true, if_false]
      obtain ⟨further, more, after⟩ := other middle
      refine ⟨made ++ further, by rw [length_append, size, more], ?_⟩
      cases later : second.run middle with
      | error raised last =>
        rw [later] at after
        apply And.intro after.1
        rw [after.2, ran.2, append_assoc]
      | ok ids last =>
        rw [later] at after
        obtain ⟨returned, within, running⟩ := after
        refine And.intro returned (And.intro (within.trans (sublist_append_right _ _)) ?_)
        rw [running, ran.2, append_assoc]

/-! ## One request -/

def Answer.outcome (isFleet : Bool) (count : Nat) (answer : Answer) : Ended :=
  match answer.refused, answer.waited isFleet count with
  | some failure, _ => ⟨.error failure, 0⟩
  | none, .raised failure => ⟨.error failure, min answer.started count⟩
  | none, .gaveUp hopeless =>
    match answer.cancel, isFleet with
    | some failure, _ => ⟨.error failure, min answer.started count⟩
    | none, true => ⟨.error ⟨true, true⟩, 0⟩
    | none, false => ⟨.error ⟨true, hopeless || answer.lastText⟩, min answer.started count⟩
  | none, .fulfilled =>
    match isFleet, answer.listed with
    | false, _ => (Ended.mk (.ok count) count).attempt (answer.tagging.or answer.cancel)
    | true, .error failure => ⟨.error failure, count⟩
    | true, .ok 0 => ⟨.error ⟨true, true⟩, count⟩
    | true, .ok listed =>
      (Ended.mk (.ok (min listed count)) count).attempt (answer.tagging.or answer.cancel)

lemma start_run (count : Nat) (before : Ec2) : (start count).run before =
    .ok (List.range' before.next count)
      ⟨before.running ++ List.range' before.next count, before.next + count⟩ := rfl

lemma yields_throw (failure : Failure) : Yields (throw failure) ⟨.error failure, 0⟩ :=
  fun _ => ⟨[], rfl, And.intro rfl (append_nil _).symm⟩

lemma yields_start_throw (count : Nat) (failure : Failure) :
    Yields (do let _ ← start count; throw failure) ⟨.error failure, count⟩ :=
  fun before => ⟨List.range' before.next count, length_range', And.intro rfl rfl⟩

lemma keepInstances_run {ids : List Nat} (some_ : ids ≠ []) (failure : Failure)
    (answer : Answer) (ec2 : Ec2) : (keepInstances ids failure answer).run ec2 =
      match answer.tagging.or answer.cancel with
      | some raised => .error raised ec2
      | none => .ok ids ec2 := by
  have listed : ids.isEmpty = false := isEmpty_eq_false_iff.mpr some_
  unfold keepInstances
  rw [listed]
  cases answer.tagging with
  | some raised => rfl
  | none =>
    cases answer.cancel with
    | some raised => rfl
    | none => rfl

lemma yields_start_keep {count number : Nat} (pick : List Nat → List Nat)
    (inside : ∀ ids, (pick ids).Sublist ids)
    (size : ∀ ids, ids.length = count → (pick ids).length = number) (positive : 0 < number)
    (failure : Failure) (answer : Answer) :
    Yields (do let ids ← start count; keepInstances (pick ids) failure answer)
      ((Ended.mk (.ok number) count).attempt (answer.tagging.or answer.cancel)) := by
  intro before
  have length := size (List.range' before.next count) length_range'
  have some_ : pick (List.range' before.next count) ≠ [] := by
    intro none
    rw [none] at length
    exact absurd length (Nat.ne_of_lt positive)
  rw [run_bind, start_run]
  simp only [keepInstances_run some_]
  cases answer.tagging.or answer.cancel with
  | some raised =>
    exact ⟨List.range' before.next count, length_range', And.intro rfl rfl⟩
  | none =>
    refine ⟨List.range' before.next count, length_range', ?_⟩
    refine And.intro ?_ (And.intro (inside _) rfl)
    rw [length]
    rfl

variable {count : Nat}

lemma yields_createSpotRequest (positive : 0 < count) (answer : Answer) :
    Yields (createSpotRequest count answer) (answer.outcome false count) := by
  unfold createSpotRequest Answer.outcome
  cases answer.refused with
  | some failure => exact yields_throw failure
  | none =>
    cases answer.waited false count with
    | raised failure => exact yields_start_throw _ failure
    | gaveUp hopeless =>
      cases answer.cancel with
      | some failure => exact yields_start_throw _ failure
      | none => exact yields_start_throw _ _
    | fulfilled =>
      exact yields_start_keep (fun ids => ids) List.Sublist.refl (fun _ size => size) positive _
        answer

lemma yields_createSpotFleet (positive : 0 < count) (answer : Answer) :
    Yields (createSpotFleet count answer) (answer.outcome true count) := by
  unfold createSpotFleet Answer.outcome
  cases answer.refused with
  | some failure => exact yields_throw failure
  | none =>
    cases answer.waited true count with
    | raised failure => exact yields_start_throw _ failure
    | gaveUp hopeless =>
      cases answer.cancel with
      | some failure => exact yields_start_throw _ failure
      | none => exact yields_throw _
    | fulfilled =>
      cases answer.listed with
      | error failure => exact yields_start_throw _ failure
      | ok listed =>
        cases listed with
        | zero => exact yields_start_throw _ _
        | succ listed =>
          have some_ : 0 < min (listed + 1) count := by omega
          apply yields_start_keep (fun ids => ids.take (listed + 1)) _ _ some_
          · exact fun ids => take_sublist _ ids
          · intro ids size
            rw [length_take, size]

/-- A request is fulfilled in full. -/
structure Answer.Served (isFleet : Bool) (count : Nat) (answer : Answer) : Prop where
  accepted : answer.refused = none
  fulfilled : answer.waited isFleet count = .fulfilled
  listed : isFleet = true → ∃ listed, answer.listed = .ok listed ∧ count ≤ listed
  tagged : answer.tagging = none
  cancelled : answer.cancel = none

/-- A request raises and none of its instances runs. -/
def Answer.Clear (isFleet : Bool) (count : Nat) (answer : Answer) : Prop :=
  answer.refused.isSome = true ∨
    (answer.waited isFleet count ≠ .fulfilled ∧
      (answer.started = 0 ∨
        (isFleet = true ∧ (∃ hopeless, answer.waited isFleet count = .gaveUp hopeless) ∧
          answer.cancel = none)))

variable {isFleet : Bool} {count : Nat} {answer : Answer}

lemma outcome_served (positive : 0 < count) (served : answer.Served isFleet count) :
    answer.outcome isFleet count = ⟨.ok count, count⟩ := by
  unfold Answer.outcome
  rw [served.accepted, served.fulfilled, served.tagged, served.cancelled]
  cases isFleet with
  | false => rfl
  | true =>
    obtain ⟨listed, listing, all⟩ := served.listed rfl
    rw [listing]
    cases listed with
    | zero => omega
    | succ listed =>
      show Ended.mk (.ok (min (listed + 1) count)) count = _
      rw [Nat.min_eq_right all]

lemma outcome_clear (clear : answer.Clear isFleet count) :
    ∃ failure, answer.outcome isFleet count = ⟨.error failure, 0⟩ := by
  unfold Answer.outcome
  cases refused : answer.refused with
  | some failure => exact ⟨failure, rfl⟩
  | none =>
    rcases clear with raised | ⟨unfulfilled, nothing⟩
    · rw [refused] at raised
      cases raised
    · cases waited : answer.waited isFleet count with
      | fulfilled => exact absurd waited unfulfilled
      | raised failure =>
        rcases nothing with none | ⟨-, ⟨hopeless, other⟩, -⟩
        · rw [none, Nat.zero_min]
          exact ⟨failure, rfl⟩
        · rw [waited] at other
          cases other
      | gaveUp hopeless =>
        rcases nothing with none | ⟨rfl, -, cancelled⟩
        · rw [none, Nat.zero_min]
          cases answer.cancel with
          | some failure => exact ⟨failure, rfl⟩
          | none => cases isFleet <;> exact ⟨_, rfl⟩
        · rw [cancelled]
          exact ⟨_, rfl⟩

/-- A request that is neither fulfilled in full nor clear leaves instances that it does not
return. -/
lemma outcome_other (positive : 0 < count) (short : ¬ answer.Served isFleet count)
    (unclear : ¬ answer.Clear isFleet count) :
    (∃ number, 0 < number ∧ number < count ∧
        answer.outcome isFleet count = ⟨.ok number, count⟩) ∨
      ∃ failure total, 0 < total ∧ answer.outcome isFleet count = ⟨.error failure, total⟩ := by
  have accepted : answer.refused = none := by
    cases refused : answer.refused with
    | none => rfl
    | some failure => exact absurd (.inl (by rw [refused]; rfl)) unclear
  have started : answer.waited isFleet count ≠ .fulfilled → 0 < min answer.started count := by
    intro unfulfilled
    have ran : answer.started ≠ 0 := fun none => unclear (.inr ⟨unfulfilled, .inl none⟩)
    omega
  unfold Answer.outcome
  rw [accepted]
  cases waited : answer.waited isFleet count with
  | raised failure => exact .inr ⟨failure, _, started (by rw [waited]; exact nofun), rfl⟩
  | gaveUp hopeless =>
    have ran := started (by rw [waited]; exact nofun)
    cases cancelled : answer.cancel with
    | some failure => exact .inr ⟨failure, _, ran, rfl⟩
    | none =>
      cases isFleet with
      | false => exact .inr ⟨_, _, ran, rfl⟩
      | true =>
        exact absurd (.inr ⟨by rw [waited]; exact nofun, .inr ⟨rfl, ⟨hopeless, waited⟩, cancelled⟩⟩)
          unclear
  | fulfilled =>
    cases kept : answer.tagging.or answer.cancel with
    | some failure =>
      cases isFleet with
      | false => exact .inr ⟨failure, count, positive, rfl⟩
      | true =>
        cases answer.listed with
        | error raised => exact .inr ⟨raised, count, positive, rfl⟩
        | ok listed =>
          cases listed with
          | zero => exact .inr ⟨_, count, positive, rfl⟩
          | succ listed => exact .inr ⟨failure, count, positive, rfl⟩
    | none =>
      obtain ⟨tagged, cancelled⟩ := Option.or_eq_none_iff.mp kept
      cases isFleet with
      | false => exact absurd ⟨accepted, waited, nofun, tagged, cancelled⟩ short
      | true =>
        cases listing : answer.listed with
        | error raised => exact .inr ⟨raised, count, positive, rfl⟩
        | ok listed =>
          cases listed with
          | zero => exact .inr ⟨_, count, positive, rfl⟩
          | succ listed =>
            have less : listed + 1 < count := by
              by_contra all
              exact short ⟨accepted, waited, fun _ => ⟨_, listing, by omega⟩, tagged, cancelled⟩
            refine .inl ⟨listed + 1, by omega, less, ?_⟩
            show Ended.mk (.ok (min (listed + 1) count)) count = _
            rw [Nat.min_eq_left (by omega)]

/-! ## The spot requests -/

def requestsOutcome (isFleet : Bool) (answers : Nat → Answer) : Nat → List Nat → Ended
  | _, [] => ⟨.ok 0, 0⟩
  | place, count :: rest =>
    ((answers place).outcome isFleet count).andThen
      (requestsOutcome isFleet answers (place + 1) rest)

def AllServed (isFleet : Bool) (answers : Nat → Answer) : Nat → List Nat → Prop
  | _, [] => True
  | place, count :: rest =>
    (answers place).Served isFleet count ∧ AllServed isFleet answers (place + 1) rest

variable {answers : Nat → Answer} (place : Nat)

lemma yields_createSpotRequests {counts : List Nat} (positive : ∀ count ∈ counts, 0 < count) :
    Yields (createSpotRequests isFleet answers place counts)
      (requestsOutcome isFleet answers place counts) := by
  induction counts generalizing place with
  | nil => exact fun _ => ⟨[], rfl, And.intro rfl (And.intro (.refl _) (append_nil _).symm)⟩
  | cons count rest ih =>
    have first := positive count mem_cons_self
    have later := ih (place + 1) fun other listed => positive other (mem_cons_of_mem _ listed)
    cases isFleet with
    | false => exact (yields_createSpotRequest first (answers place)).append later
    | true => exact (yields_createSpotFleet first (answers place)).append later

lemma requestsOutcome_served {counts : List Nat} (positive : ∀ count ∈ counts, 0 < count)
    (served : AllServed isFleet answers place counts) :
    requestsOutcome isFleet answers place counts = ⟨.ok counts.sum, counts.sum⟩ := by
  induction counts generalizing place with
  | nil => rfl
  | cons count rest ih =>
    rw [requestsOutcome, outcome_served (positive count mem_cons_self) served.1,
      ih (place + 1) (fun other listed => positive other (mem_cons_of_mem _ listed)) served.2,
      sum_cons]
    rfl

lemma requestsOutcome_short {counts : List Nat} (positive : ∀ count ∈ counts, 0 < count)
    (short : ¬ AllServed isFleet answers place counts) :
    (∃ number, number < counts.sum ∧
        (requestsOutcome isFleet answers place counts).result = .ok number) ∨
      ∃ failure, (requestsOutcome isFleet answers place counts).result = .error failure := by
  induction counts generalizing place with
  | nil => exact absurd trivial short
  | cons count rest ih =>
    have first := positive count mem_cons_self
    have others : ∀ other ∈ rest, 0 < other := fun other listed =>
      positive other (mem_cons_of_mem _ listed)
    have later : (∃ number, number ≤ rest.sum ∧
          (requestsOutcome isFleet answers (place + 1) rest).result = .ok number) ∨
        ∃ failure, (requestsOutcome isFleet answers (place + 1) rest).result = .error failure := by
      by_cases served : AllServed isFleet answers (place + 1) rest
      · rw [requestsOutcome_served (place + 1) others served]
        exact .inl ⟨_, Nat.le_refl _, rfl⟩
      · exact (ih (place + 1) others served).imp_left fun ⟨number, less, returned⟩ =>
          ⟨number, Nat.le_of_lt less, returned⟩
    rw [requestsOutcome, sum_cons]
    by_cases served : (answers place).Served isFleet count
    · have missing : ¬ AllServed isFleet answers (place + 1) rest := fun all => short ⟨served, all⟩
      rw [outcome_served first served]
      rcases ih (place + 1) others missing with ⟨number, less, returned⟩ | ⟨failure, raised⟩
      · exact .inl ⟨count + number, by omega, by simp only [Ended.andThen, returned, Except.map]⟩
      · exact .inr ⟨failure, by simp only [Ended.andThen, raised, Except.map]⟩
    · by_cases clear : (answers place).Clear isFleet count
      · obtain ⟨failure, ended⟩ := outcome_clear clear
        exact .inr ⟨failure, by simp only [ended, Ended.andThen]⟩
      · rcases outcome_other first served clear with
          ⟨few, -, less, ended⟩ | ⟨failure, total, -, ended⟩
        · rcases later with ⟨number, bound, returned⟩ | ⟨failure, raised⟩
          · refine .inl ⟨few + number, by omega, ?_⟩
            simp only [ended, Ended.andThen, returned, Except.map]
          · exact .inr ⟨failure, by simp only [ended, Ended.andThen, raised, Except.map]⟩
        · exact .inr ⟨failure, by simp only [ended, Ended.andThen]⟩

variable {place : Nat}

lemma requestsOutcome_unclear {rest : List Nat} (positive : 0 < count)
    (unclear : ¬ (answers place).Clear isFleet count) :
    0 < (requestsOutcome isFleet answers place (count :: rest)).total := by
  rw [requestsOutcome]
  by_cases served : (answers place).Served isFleet count
  · rw [outcome_served positive served]
    exact Nat.lt_of_lt_of_le positive (Nat.le_add_right _ _)
  · rcases outcome_other positive served unclear with
      ⟨number, -, -, ended⟩ | ⟨failure, total, some_, ended⟩
    · rw [ended]
      exact Nat.lt_of_lt_of_le positive (Nat.le_add_right _ _)
    · rw [ended]
      exact some_

/-! ## Provisioning -/

variable (ended : Ended)

lemma Ended.attempt_total (call : Option Failure) : (ended.attempt call).total = ended.total := by
  unfold Ended.attempt
  cases call with
  | none => rfl
  | some failure => cases ended.result <;> rfl

lemma Ended.attempt_ok_iff (call : Option Failure) (number : Nat) :
    (ended.attempt call).result = .ok number ↔ call = none ∧ ended.result = .ok number := by
  unfold Ended.attempt
  cases call with
  | none => simp
  | some failure => cases returned : ended.result <;> simp [returned]

lemma Ended.settles_iff (number : Nat) : ended.Settles number ↔
    (ended.result = .ok number ∧ ended.total = number) ∨
      ((∃ failure, ended.result = .error failure) ∧ ended.total = 0) := by
  unfold Ended.Settles
  cases ended.result with
  | ok returned =>
    constructor
    · rintro ⟨rfl, total⟩
      exact .inl ⟨rfl, total⟩
    · rintro (⟨same, total⟩ | ⟨⟨failure, raised⟩, -⟩)
      · cases same
        exact ⟨rfl, total⟩
      · cases raised
  | error failure =>
    constructor
    · exact fun none => .inr ⟨⟨failure, rfl⟩, none⟩
    · rintro (⟨same, -⟩ | ⟨-, none⟩)
      · cases same
      · exact none

lemma sum_requestCounts (limit count : Nat) : (requestCounts limit count).sum = count := by
  unfold requestCounts
  have whole := Nat.div_add_mod' count limit
  split
  · rw [sum_append, sum_replicate_nat]
    split
    · exact whole
    · rw [sum_nil]
      omega
  · exact sum_singleton

lemma requestCounts_eq_cons {limit count : Nat} (limited : 0 < limit) (positive : 0 < count) :
    (∃ rest, requestCounts limit count = min limit count :: rest) ∧
      ∀ size ∈ requestCounts limit count, 0 < size := by
  unfold requestCounts
  split
  · have some_ : 0 < count / limit := Nat.div_pos (by omega) limited
    constructor
    · obtain ⟨number, equal⟩ := Nat.exists_eq_succ_of_ne_zero (Nat.ne_of_gt some_)
      rw [equal, replicate_succ, Nat.min_eq_left (by omega)]
      exact ⟨_, rfl⟩
    · intro size listed
      rcases mem_append.mp listed with full | tail
      · rw [(mem_replicate.mp full).2]
        exact limited
      · split at tail
        · rw [mem_singleton.mp tail]
          omega
        · cases tail
  · constructor
    · rw [Nat.min_eq_right (by omega)]
      exact ⟨[], rfl⟩
    · intro size listed
      rw [mem_singleton.mp listed]
      exact positive

section

variable (setting : Setting) (count : Nat)

def limitOf : Nat := if setting.provision = .spotFleet then spotFleetLimit else spotCntLimit

lemma limitOf_pos : 0 < limitOf setting := by
  unfold limitOf
  split
  · decide
  · decide

def SpotServed : Prop :=
  AllServed (setting.isFleet count) setting.spot 0 (requestCounts (limitOf setting) count) ∧
    (setting.isZeroNode = true → setting.spotZeroTagging = none)

def SpotClear : Prop :=
  (setting.spot 0).Clear (setting.isFleet count) (min (limitOf setting) count)

/-- The on-demand request is refused, or served and the instances are tagged. -/
def OnDemandSafe : Prop :=
  setting.onDemandRefused.isSome = true ∨ (setting.onDemandTagging = none ∧
    (setting.isZeroNode = true → setting.onDemandZeroTagging = none))

/-- What the first spot request raises makes the code ask for on-demand instances. -/
def Retried : Prop :=
  setting.fallbackOnDemand = true ∧ ¬ (setting.provision = .spotFleet ∧ count > 1) ∧
    ∃ failure, ((setting.spot 0).outcome (setting.isFleet count)
        (min (limitOf setting) count)).result = .error failure ∧
      failure.caught = true ∧ failure.spotError = true

def Safe : Prop :=
  count = 0 ∨ (setting.provision = .onDemand ∧ OnDemandSafe setting) ∨
    (setting.provision ≠ .onDemand ∧ (SpotServed setting count ∨
      (SpotClear setting count ∧ (Retried setting count → OnDemandSafe setting))))

def spotOutcome : Ended :=
  (requestsOutcome (setting.isFleet count) setting.spot 0
    (requestCounts (limitOf setting) count)).attempt
      (if setting.isZeroNode then setting.spotZeroTagging else none)

def onDemandOutcome : Ended :=
  match setting.onDemandRefused with
  | some failure => ⟨.error failure, 0⟩
  | none => ((Ended.mk (.ok count) count).attempt setting.onDemandTagging).attempt
      (if setting.isZeroNode then setting.onDemandZeroTagging else none)

variable {count}

lemma yields_createSpotInstances (positive : 0 < count) :
    Yields (createSpotInstances setting count) (spotOutcome setting count) := by
  have sizes := (requestCounts_eq_cons (limitOf_pos setting) positive).2
  have requests := @yields_createSpotRequests (setting.isFleet count) setting.spot 0 _ sizes
  unfold createSpotInstances spotOutcome
  cases setting.isZeroNode with
  | false => exact requests.attempt none
  | true => exact requests.attempt setting.spotZeroTagging

lemma yields_createOnDemandInstances :
    Yields (createOnDemandInstances setting count) (onDemandOutcome setting count) := by
  have started : Yields (start count) ⟨.ok count, count⟩ := fun before =>
    ⟨List.range' before.next count, length_range', And.intro
      (by rw [length_range']) (And.intro (.refl _) rfl)⟩
  unfold createOnDemandInstances onDemandOutcome
  cases setting.onDemandRefused with
  | some failure => exact yields_throw failure
  | none =>
    cases setting.isZeroNode with
    | false => exact started.attempt setting.onDemandTagging
    | true =>
      have tagged := (started.attempt setting.onDemandTagging).attempt setting.onDemandZeroTagging
      simp only [bind_assoc, pure_bind] at tagged
      exact tagged

lemma spotOutcome_served (positive : 0 < count) (served : SpotServed setting count) :
    spotOutcome setting count = ⟨.ok count, count⟩ := by
  have sizes := (requestCounts_eq_cons (limitOf_pos setting) positive).2
  have untouched : (if setting.isZeroNode then setting.spotZeroTagging else none) = none := by
    split
    · rename_i zero
      exact served.2 zero
    · rfl
  unfold spotOutcome
  rw [requestsOutcome_served 0 sizes served.1, sum_requestCounts, untouched]
  rfl

lemma spotOutcome_clear (positive : 0 < count) (clear : SpotClear setting count) :
    spotOutcome setting count =
      (setting.spot 0).outcome (setting.isFleet count) (min (limitOf setting) count) := by
  obtain ⟨rest, first⟩ := (requestCounts_eq_cons (limitOf_pos setting) positive).1
  obtain ⟨failure, ended⟩ := outcome_clear clear
  unfold spotOutcome
  rw [first, requestsOutcome, ended]
  unfold Ended.attempt
  split <;> rfl

lemma spotOutcome_settles_iff (positive : 0 < count) :
    (spotOutcome setting count).Settles count ↔ SpotServed setting count ∨
      SpotClear setting count := by
  obtain ⟨⟨rest, first⟩, sizes⟩ := requestCounts_eq_cons (limitOf_pos setting) positive
  have head : 0 < min (limitOf setting) count := by
    have limited := limitOf_pos setting
    omega
  rw [Ended.settles_iff]
  constructor
  · unfold spotOutcome
    rw [Ended.attempt_ok_iff, Ended.attempt_total]
    rintro (⟨⟨untouched, returned⟩, -⟩ | ⟨-, nothing⟩)
    · refine .inl ⟨?_, ?_⟩
      · by_contra short
        rcases requestsOutcome_short 0 sizes short with ⟨number, less, few⟩ | ⟨failure, raised⟩
        · rw [few] at returned
          rw [sum_requestCounts] at less
          cases returned
          exact absurd less (Nat.lt_irrefl _)
        · rw [raised] at returned
          cases returned
      · intro zero
        rw [zero] at untouched
        exact untouched
    · refine .inr ?_
      by_contra unclear
      have some_ := @requestsOutcome_unclear _ _ _ 0 rest head unclear
      rw [← first, nothing] at some_
      exact absurd some_ (Nat.lt_irrefl 0)
  · rintro (served | clear)
    · rw [spotOutcome_served setting positive served]
      exact .inl ⟨rfl, rfl⟩
    · obtain ⟨failure, ended⟩ := outcome_clear clear
      rw [spotOutcome_clear setting positive clear, ended]
      exact .inr ⟨⟨failure, rfl⟩, rfl⟩

variable {number : Nat}

lemma onDemandOutcome_ok (returned : (onDemandOutcome setting count).result = .ok number) :
    (onDemandOutcome setting count).total = number := by
  unfold onDemandOutcome at returned ⊢
  cases refused : setting.onDemandRefused with
  | some failure =>
    rw [refused] at returned
    cases returned
  | none =>
    simp only [refused, Ended.attempt_ok_iff] at returned
    simp only [Ended.attempt_total]
    exact Except.ok.inj returned.2.2

lemma onDemandOutcome_settles_iff (positive : 0 < count) :
    (onDemandOutcome setting count).Settles count ↔ OnDemandSafe setting := by
  unfold onDemandOutcome OnDemandSafe
  rw [Ended.settles_iff]
  cases setting.onDemandRefused with
  | some failure =>
    apply iff_of_true
    · exact .inr ⟨⟨failure, rfl⟩, rfl⟩
    · exact .inl rfl
  | none =>
    simp only [Ended.attempt_ok_iff, Ended.attempt_total]
    constructor
    · rintro (⟨⟨zero, tagged, -⟩, -⟩ | ⟨-, nothing⟩)
      · refine .inr ⟨tagged, ?_⟩
        intro isZero
        rw [isZero] at zero
        exact zero
      · omega
    · rintro (raised | ⟨tagged, zero⟩)
      · cases raised
      · refine .inl ⟨⟨?_, tagged, trivial⟩, trivial⟩
        split
        · rename_i isZero
          exact zero isZero
        · rfl

lemma Ended.orElse_settles_iff {early late : Ended} {passes : Failure → Bool}
    (all : ∀ returned, late.result = .ok returned → late.total = returned) :
    (early.orElse late passes).Settles number ↔ early.Settles number ∧
      ∀ failure, early.result = .error failure → passes failure = false → late.Settles number := by
  unfold Ended.orElse
  cases ended : early.result with
  | ok returned =>
    simp only [reduceCtorEq, false_implies, implies_true, and_true]
  | error failure =>
    simp only [Except.error.injEq, forall_eq']
    have settles : early.Settles number ↔ early.total = 0 := by
      unfold Ended.Settles
      rw [ended]
    rw [settles]
    cases passed : passes failure with
    | true => simpa using settles
    | false =>
      simp only [Bool.false_eq_true, if_false, forall_const]
      unfold Ended.Settles
      cases returned : late.result with
      | ok more =>
        have total := all more returned
        simp only []
        omega
      | error raised =>
        simp only []
        omega

lemma yields_provisionByTypes_last {provisionType : InstanceProvision} {ended : Ended}
    (yields : Yields (createByType setting count provisionType) ended) :
    Yields (provisionByTypes setting count provisionType [provisionType]) ended := by
  have nothing : Yields (pure []) ⟨.ok 0, 0⟩ := fun _ =>
    ⟨[], rfl, And.intro rfl (And.intro (.refl _) (append_nil _).symm)⟩
  have ladder := yields.orElse nothing fun failure =>
    !failure.caught || decide (provisionType = provisionType) || !failure.spotError
  have whole : ended.orElse ⟨.ok 0, 0⟩ (fun failure =>
      !failure.caught || decide (provisionType = provisionType) || !failure.spotError) = ended := by
    unfold Ended.orElse
    cases ended.result <;> simp
  rw [whole] at ladder
  exact ladder

lemma yields_fallbackProvisionType (positive : 0 < count)
    (laddered : ¬ (setting.provision = .spotFleet ∧ count > 1))
    (spot : setting.provision ≠ .onDemand) :
    Yields (fallbackProvisionType setting count)
      ((spotOutcome setting count).orElse (onDemandOutcome setting count) fun failure =>
        !(setting.fallbackOnDemand && failure.caught && failure.spotError)) := by
  have first : (if setting.provision = .spot || setting.provision = .spotFleet && count = 1 then
      InstanceProvision.spot else setting.provision) = .spot := by
    cases provision : setting.provision with
    | spot => rfl
    | onDemand => exact absurd provision spot
    | spotFleet =>
      have one : count = 1 := by
        by_contra several
        exact laddered ⟨provision, by omega⟩
      rw [one]
      rfl
  have onSpot := yields_createSpotInstances setting positive
  have onDemand := @yields_createOnDemandInstances setting count
  unfold fallbackProvisionType provisionFallbacks
  simp only [first]
  cases setting.fallbackOnDemand with
  | false =>
    have passed : (spotOutcome setting count).orElse (onDemandOutcome setting count)
        (fun failure => !(false && failure.caught && failure.spotError)) =
          spotOutcome setting count := by
      unfold Ended.orElse
      cases (spotOutcome setting count).result <;> simp
    rw [passed]
    exact @yields_provisionByTypes_last setting count .spot _ onSpot
  | true =>
    have ladder := onSpot.orElse (@yields_provisionByTypes_last setting count .onDemand _ onDemand)
      fun failure => !failure.caught || decide (InstanceProvision.spot = .onDemand) ||
        !failure.spotError
    have same : (fun failure : Failure => !failure.caught ||
        decide (InstanceProvision.spot = .onDemand) || !failure.spotError) =
          fun failure => !(true && failure.caught && failure.spotError) := by
      funext failure
      cases failure.caught <;> cases failure.spotError <;> rfl
    rw [← same]
    exact ladder

/-- Creating instances is exact in these cases only. -/
theorem createInstances_exact_iff (before : Ec2) :
    Exact (createInstances setting count) count before ↔ Safe setting count := by
  unfold createInstances Safe
  by_cases zero : count = 0
  · rw [if_pos zero]
    apply iff_of_true
    · exact And.intro zero.symm (append_nil _).symm
    · exact .inl zero
  · have positive : 0 < count := Nat.pos_of_ne_zero zero
    rw [if_neg zero]
    by_cases onDemand : setting.provision = .onDemand
    · rw [if_pos onDemand, (yields_createOnDemandInstances setting).exact_iff,
        onDemandOutcome_settles_iff setting positive]
      simp [zero, onDemand]
    · rw [if_neg onDemand]
      simp only [zero, onDemand, ne_eq, not_false_eq_true, false_and, true_and, false_or]
      by_cases fleet : setting.provision = .spotFleet ∧ count > 1
      · rw [if_pos fleet, (yields_createSpotInstances setting positive).exact_iff,
          spotOutcome_settles_iff setting positive]
        have final : ¬ Retried setting count := fun retried => retried.2.1 fleet
        simp [final]
      · rw [if_neg fleet, (yields_fallbackProvisionType setting positive fleet onDemand).exact_iff,
          Ended.orElse_settles_iff fun _ => onDemandOutcome_ok setting,
          spotOutcome_settles_iff setting positive, onDemandOutcome_settles_iff setting positive,
          or_and_right]
        apply or_congr
        · apply and_iff_left_of_imp
          intro served failure raised
          rw [spotOutcome_served setting positive served] at raised
          cases raised
        · apply and_congr_right
          intro clear
          rw [spotOutcome_clear setting positive clear]
          constructor
          · rintro passed ⟨fallback, -, failure, raised, caught, known⟩
            exact passed failure raised (by rw [fallback, caught, known]; rfl)
          · intro retried failure raised passed
            simp only [Bool.not_eq_false', Bool.and_eq_true] at passed
            exact retried ⟨passed.1.1, fleet, failure, raised, passed.1.2, passed.2⟩

def servedAnswer : Answer where
  refused := none
  polls := fun _ => .answered fun _ => .fulfilled
  started := 0
  lastText := false
  listed := .ok 0
  tagging := none
  cancel := none

def shortAnswer : Answer :=
  { servedAnswer with polls := fun _ => .answered fun _ => .hopeless, started := 1 }

def secondShort : Setting where
  provision := .spot
  fallbackOnDemand := true
  isZeroNode := false
  spot := fun place => if place = 0 then servedAnswer else shortAnswer
  spotZeroTagging := none
  onDemandRefused := none
  onDemandTagging := none
  onDemandZeroTagging := none

/-- Of twelve instances, ten are started by the first request and one by the second, which fails;
then twelve are started on demand and returned, so that twenty-three run. -/
theorem createInstances_leaves_spot :
    ∃ after, (createInstances secondShort 12).run ⟨[], 0⟩ = .ok (List.range' 11 12) after ∧
      after.running = List.range' 0 23 :=
  ⟨_, rfl, rfl⟩

end

end Sct.AwsInstances
