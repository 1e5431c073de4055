import Mathlib.Data.List.Perm.Subperm
import Sct.Lib.Fallible
import Sct.Trigger.Triggering
import Sct.Verif.TriggerRegion

/-!
# What becomes of the entries of a matrix

A turn of the loop finds the job's path triggered already, skips the job, triggers it or fails. Every
turn but the first kind accounts for its entry. A path is triggered once; an entry is left out of
the results when its path was triggered for an earlier one, or when the filters drop it and keep
another entry of its name.
-/

namespace Sct.Trigger

open Sct.Fallible
open List

/-! ## Answers of Jenkins -/

def Response.isTriggered : Response → Bool
  | .triggered _ => true
  | _ => false

lemma countP_runAttempts (responses : List Response) :
    (runAttempts responses).1.countP Response.isTriggered =
      if (runAttempts responses).2.isSome then 1 else 0 := by
  induction responses with
  | nil => rfl
  | cons response rest ih =>
    cases response with
    | triggered url => rfl
    | error message => rfl
    | unexpected => exact ih
    | exception => exact ih

def Progress.answersFor (progress : Progress) (path : String) : List Response :=
  (progress.answered.filter (·.1 = path)).map Prod.snd

namespace TriggerRun

variable (run : TriggerRun)

/-- A build is available for a job, or it needs none. -/
def available (resolved : Resolved) (job : TriggerJob) : Bool :=
  match run.jobTarget job with
  | some (some target) => (resolved.unavailable.get target).isNone
  | _ => true

def succeeds (entry : TriggerJob × Nat) : Bool :=
  run.dryRun || ((run.jenkins entry.2).connects &&
    (runTriggerScript (run.jenkins entry.2)).2.isSome)

def triggers (resolved : Resolved) (entry : TriggerJob × Nat) : Bool :=
  run.available resolved entry.1 && run.succeeds entry

/-! ## One turn -/

section Turn

variable {run} {folder path jobVersion : String} {resolved : Resolved} {before after : Progress}
  {entry : TriggerJob × Nat}

/-- At most one of the answers says that the job was triggered, and none if the call fails. -/
def Answered (run : TriggerRun) (entry : TriggerJob × Nat) (responses : List Response) : Prop :=
  responses.countP Response.isTriggered ≤ if run.succeeds entry then 1 else 0

lemma answered_nil : run.Answered entry [] := Nat.zero_le _

lemma answered_runTriggerScript (dry : run.dryRun = false)
    (connects : (run.jenkins entry.2).connects = true) :
    run.Answered entry (runTriggerScript (run.jenkins entry.2)).1 ∧
      (runTriggerScript (run.jenkins entry.2)).2.isSome = run.succeeds entry := by
  have success : run.succeeds entry = (runTriggerScript (run.jenkins entry.2)).2.isSome := by
    rw [succeeds, dry, connects, Bool.false_or, Bool.true_and]
  refine ⟨?_, success.symm⟩
  rw [Answered, success]
  exact (countP_runAttempts _).le

lemma triggerWithQueue_answered (run : TriggerRun) (entry : TriggerJob × Nat) :
    run.Answered entry (triggerWithQueue run.dryRun (run.jenkins entry.2)).1 ∧
      (triggerWithQueue run.dryRun (run.jenkins entry.2)).2.isSome = run.succeeds entry := by
  unfold triggerWithQueue
  cases dry : run.dryRun with
  | true =>
    have success : run.succeeds entry = true := by rw [succeeds, dry, Bool.true_or]
    exact ⟨answered_nil, success.symm⟩
  | false =>
    cases connects : (run.jenkins entry.2).connects with
    | true => exact answered_runTriggerScript dry connects
    | false =>
      have failure : run.succeeds entry = false := by
        rw [succeeds, dry, connects, Bool.false_or, Bool.false_and]
      exact ⟨answered_nil, failure.symm⟩

lemma trigger_answered {responses : List Response} {success : Bool}
    (ran : trigger run.dryRun (run.jenkins entry.2) = .ok (responses, success)) :
    run.Answered entry responses ∧ success = run.succeeds entry := by
  unfold trigger at ran
  cases dry : run.dryRun with
  | true =>
    rw [dry] at ran
    cases ran
    have success : run.succeeds entry = true := by rw [succeeds, dry, Bool.true_or]
    exact ⟨answered_nil, success.symm⟩
  | false =>
    cases connects : (run.jenkins entry.2).connects with
    | true =>
      rw [dry, connects] at ran
      cases ran
      exact answered_runTriggerScript dry connects
    | false =>
      rw [dry, connects] at ran
      cases ran

def Called (run : TriggerRun) (path : String) (before : Progress) (entry : TriggerJob × Nat)
    (after : Progress) : Prop :=
  ∃ version responses, ∃ pending : List PendingWaitJob, run.Answered entry responses ∧
    after = if run.succeeds entry then
        { (before.call path version responses).trigger path entry.2 with pending := pending }
      else { (before.call path version responses).fail path entry.2 with pending := pending }

lemma called_of_callJob (ran : run.callJob path jobVersion before entry = .ok after) :
    run.Called path before entry after := by
  unfold callJob at ran
  dsimp only at ran
  split at ran
  · obtain ⟨answered, success⟩ := triggerWithQueue_answered run entry
    cases queueUrl : (triggerWithQueue run.dryRun (run.jenkins entry.2)).2 with
    | some url =>
      rw [queueUrl] at ran success
      cases ran
      exact ⟨_, _, _, answered, (if_pos success.symm).symm⟩
    | none =>
      rw [queueUrl] at ran success
      cases ran
      have failure : ¬ run.succeeds entry = true := Bool.eq_false_iff.mp success.symm
      exact ⟨_, _, before.pending, answered, (if_neg failure).symm⟩
  · cases called : trigger run.dryRun (run.jenkins entry.2) with
    | error failure =>
      rw [called] at ran
      cases ran
    | ok outcome =>
      obtain ⟨responses, success⟩ := outcome
      obtain ⟨answered, rfl⟩ := trigger_answered called
      rw [called] at ran
      cases ran
      exact ⟨_, responses, before.pending, answered, rfl⟩

lemma triggerJob_cases (ran : run.triggerJob folder resolved before entry = .ok after) :
    let path := resolveJobPath entry.1.jobName folder
    (path ∈ before.triggeredPaths ∧ after = before) ∨
      path ∉ before.triggeredPaths ∧
        (run.available resolved entry.1 = false ∧ after = before.skip entry.1.jobName entry.2 ∨
          run.available resolved entry.1 = true ∧ run.Called path before entry after) := by
  intro path
  unfold triggerJob at ran
  by_cases triggered : path ∈ before.triggeredPaths
  · rw [if_pos triggered] at ran
    cases ran
    exact Or.inl ⟨triggered, rfl⟩
  · rw [if_neg triggered] at ran
    refine Or.inr ⟨triggered, ?_⟩
    unfold available
    cases targeted : run.jobTarget entry.1 with
    | none =>
      rw [targeted] at ran
      cases ran
    | some found =>
      rw [targeted] at ran
      cases found with
      | none => exact Or.inr ⟨rfl, called_of_callJob ran⟩
      | some target =>
        dsimp only at ran ⊢
        cases reason : resolved.unavailable.get target with
        | none =>
          rw [reason] at ran
          exact Or.inr ⟨rfl, called_of_callJob ran⟩
        | some text =>
          rw [reason] at ran
          cases ran
          exact Or.inl ⟨rfl, rfl⟩

end Turn

/-! ## Entries the loop accounts for -/

def repeats (folder : String) (resolved : Resolved) (earlier : List (TriggerJob × Nat))
    (entry : TriggerJob × Nat) : Bool :=
  earlier.any fun other => resolveJobPath other.1.jobName folder =
    resolveJobPath entry.1.jobName folder && run.triggers resolved other

def recorded (folder : String) (resolved : Resolved) :
    List (TriggerJob × Nat) → List (TriggerJob × Nat) → List (TriggerJob × Nat)
  | _, [] => []
  | earlier, entry :: rest =>
    (if run.repeats folder resolved earlier entry then [] else [entry]) ++
      recorded folder resolved (earlier ++ [entry]) rest

section Recorded

variable {run} {folder : String} {resolved : Resolved}

lemma recorded_append (earlier first second : List (TriggerJob × Nat)) :
    run.recorded folder resolved earlier (first ++ second) =
      run.recorded folder resolved earlier first ++
        run.recorded folder resolved (earlier ++ first) second := by
  induction first generalizing earlier with
  | nil => rw [nil_append, append_nil]; rfl
  | cons entry rest ih =>
    rw [cons_append, recorded, recorded, ih, append_assoc, append_assoc,
      singleton_append]

variable (run : TriggerRun) (folder : String)

lemma recorded_sublist (resolved : Resolved) (earlier entries : List (TriggerJob × Nat)) :
    (run.recorded folder resolved earlier entries).Sublist entries := by
  induction entries generalizing earlier with
  | nil => exact List.Sublist.refl _
  | cons entry rest ih =>
    rw [recorded]
    split
    · exact (ih _).cons entry
    · exact (ih _).cons_cons entry

/-- Two entries of one path, the first of which triggers it, are not both accounted for. -/
def Apart (run : TriggerRun) (folder : String) (resolved : Resolved)
    (first later : TriggerJob × Nat) : Prop :=
  resolveJobPath first.1.jobName folder = resolveJobPath later.1.jobName folder →
    run.triggers resolved first = false

lemma repeats_append_eq_false_iff (earlier : List (TriggerJob × Nat))
    (last entry : TriggerJob × Nat) :
    run.repeats folder resolved (earlier ++ [last]) entry = false ↔
      run.repeats folder resolved earlier entry = false ∧ run.Apart folder resolved last entry := by
  rw [repeats, any_append, Bool.or_eq_false_iff]
  refine and_congr Iff.rfl ?_
  simp [Apart]

lemma recorded_eq_self_iff (resolved : Resolved) (earlier entries : List (TriggerJob × Nat)) :
    run.recorded folder resolved earlier entries = entries ↔
      (∀ entry ∈ entries, run.repeats folder resolved earlier entry = false) ∧
        entries.Pairwise (run.Apart folder resolved) := by
  induction entries generalizing earlier with
  | nil => simp [recorded]
  | cons entry rest ih =>
    rw [recorded, forall_mem_cons, pairwise_cons]
    by_cases repeated : run.repeats folder resolved earlier entry = true
    · rw [if_pos repeated, nil_append]
      refine iff_of_false (fun same => ?_) (fun holds => ?_)
      · have shorter := (recorded_sublist run folder resolved (earlier ++ [entry]) rest).length_le
        rw [same, length_cons] at shorter
        omega
      · rw [repeated] at holds
        cases holds.1.1
    · have fresh := Bool.eq_false_iff.mpr repeated
      rw [if_neg repeated, singleton_append, cons_inj_right, ih]
      simp only [repeats_append_eq_false_iff, fresh, true_and]
      constructor
      · rintro ⟨apart, pairwise⟩
        exact ⟨fun other listed => (apart other listed).1,
          fun other listed => (apart other listed).2, pairwise⟩
      · rintro ⟨unrepeated, apart, pairwise⟩
        exact ⟨fun other listed => ⟨unrepeated other listed, apart other listed⟩, pairwise⟩

end Recorded

/-! ## Whole runs -/

def accounted (progress : Progress) (account : Account) : List TriggerJob :=
  progress.accounts.filterMap fun entry => if entry.2 = account then run.jobs[entry.1]? else none

/-- The results are the paths and names of the jobs accounted for. -/
structure Listed (folder : String) (progress : Progress) : Prop where
  triggered : progress.triggered =
    (run.accounted progress .triggered).map fun job => resolveJobPath job.jobName folder
  skipped : progress.skipped = (run.accounted progress .skipped).map fun job => job.jobName
  failed : progress.failed =
    (run.accounted progress .failed).map fun job => resolveJobPath job.jobName folder

/-- What holds once some entries are behind the loop. -/
structure Reached (folder : String) (resolved : Resolved) (done : List (TriggerJob × Nat))
    (progress : Progress) : Prop where
  paths : ∀ path, path ∈ progress.triggeredPaths ↔
    ∃ entry ∈ done, resolveJobPath entry.1.jobName folder = path ∧
      run.triggers resolved entry = true
  distinct : progress.triggeredPaths.Nodup
  triggered : progress.triggered = progress.triggeredPaths.reverse
  answered : ∀ path, (progress.answersFor path).countP Response.isTriggered ≤
    if path ∈ progress.triggeredPaths then 1 else 0
  accounts : progress.accounts.map Prod.fst =
    (run.unmatched ++ run.recorded folder resolved [] done).map Prod.snd
  listed : run.Listed folder progress

section Reached

variable {run} {folder : String} {resolved : Resolved} {done : List (TriggerJob × Nat)}
  {before after : Progress} {entry : TriggerJob × Nat}

lemma accounted_append {account kind : Account} (placed : run.jobs[entry.2]? = some entry.1)
    (added : after.accounts = before.accounts ++ [(entry.2, kind)]) :
    run.accounted after account =
      run.accounted before account ++ if kind = account then [entry.1] else [] := by
  rw [accounted, accounted, added, filterMap_append]
  by_cases same : kind = account <;> simp [same, placed]

lemma Listed.append (listed : run.Listed folder before)
    (placed : run.jobs[entry.2]? = some entry.1) {kind : Account}
    (added : after.accounts = before.accounts ++ [(entry.2, kind)])
    (triggered : after.triggered = before.triggered ++
      if kind = .triggered then [resolveJobPath entry.1.jobName folder] else [])
    (skipped : after.skipped = before.skipped ++
      if kind = .skipped then [entry.1.jobName] else [])
    (failed : after.failed = before.failed ++
      if kind = .failed then [resolveJobPath entry.1.jobName folder] else []) :
    run.Listed folder after where
  triggered := by
    rw [triggered, listed.triggered, accounted_append placed added, map_append]
    split <;> rfl
  skipped := by
    rw [skipped, listed.skipped, accounted_append placed added, map_append]
    split <;> rfl
  failed := by
    rw [failed, listed.failed, accounted_append placed added, map_append]
    split <;> rfl

lemma answersFor_append {path other : String} {responses : List Response}
    (added : after.answered = before.answered ++ responses.map fun response => (path, response)) :
    after.answersFor other = before.answersFor other ++ if path = other then responses else [] := by
  rw [Progress.answersFor, Progress.answersFor, added, filter_append, map_append]
  by_cases same : path = other <;> simp [filter_map, Function.comp_def, same]

section

variable (reached : run.Reached folder resolved done before)

include reached

lemma Reached.mem_paths_append (path : String) :
    (∃ other ∈ done ++ [entry], resolveJobPath other.1.jobName folder = path ∧
        run.triggers resolved other = true) ↔
      path ∈ before.triggeredPaths ∨
        resolveJobPath entry.1.jobName folder = path ∧ run.triggers resolved entry = true := by
  rw [reached.paths]
  simp only [mem_append, mem_singleton, or_and_right, exists_or, exists_eq_left]

lemma Reached.repeats_iff :
    run.repeats folder resolved done entry = true ↔
      resolveJobPath entry.1.jobName folder ∈ before.triggeredPaths := by
  rw [reached.paths, repeats, any_eq_true]
  simp only [Bool.and_eq_true, decide_eq_true_eq]

lemma Reached.duplicate
    (repeated : resolveJobPath entry.1.jobName folder ∈ before.triggeredPaths) :
    run.Reached folder resolved (done ++ [entry]) before where
  paths path := by
    rw [reached.mem_paths_append]
    constructor
    · exact Or.inl
    · rintro (member | ⟨rfl, -⟩)
      · exact member
      · exact repeated
  distinct := reached.distinct
  triggered := reached.triggered
  answered := reached.answered
  accounts := by
    have left : run.recorded folder resolved done [entry] = [] := by
      rw [recorded, if_pos (reached.repeats_iff.mpr repeated)]
      rfl
    rw [recorded_append, nil_append, left, append_nil]
    exact reached.accounts
  listed := reached.listed

lemma Reached.accounts_append
    (fresh : resolveJobPath entry.1.jobName folder ∉ before.triggeredPaths) {account : Account}
    (added : after.accounts = before.accounts ++ [(entry.2, account)]) :
    after.accounts.map Prod.fst =
      (run.unmatched ++ run.recorded folder resolved [] (done ++ [entry])).map Prod.snd := by
  have taken : run.recorded folder resolved done [entry] = [entry] := by
    rw [recorded, if_neg (fun repeated => fresh (reached.repeats_iff.mp repeated))]
    rfl
  rw [recorded_append, nil_append, taken, ← append_assoc, map_append, added,
    map_append, reached.accounts]
  rfl

/-- A path gets its answers in one turn only, unless none of them triggered it. -/
lemma Reached.answered_append {path : String} {responses : List Response}
    (added : after.answered = before.answered ++ responses.map fun response => (path, response))
    (fresh : path ∉ before.triggeredPaths)
    (kept : ∀ other ∈ before.triggeredPaths, other ∈ after.triggeredPaths)
    (answered : responses.countP Response.isTriggered ≤
      if path ∈ after.triggeredPaths then 1 else 0) (other : String) :
    (after.answersFor other).countP Response.isTriggered ≤
      if other ∈ after.triggeredPaths then 1 else 0 := by
  have earlier := reached.answered other
  rw [answersFor_append added, countP_append]
  by_cases same : path = other
  · subst same
    rw [if_neg fresh] at earlier
    rw [if_pos rfl]
    omega
  · rw [if_neg same, countP_nil, Nat.add_zero]
    by_cases triggered : other ∈ before.triggeredPaths
    · rw [if_pos (kept other triggered)]
      rwa [if_pos triggered] at earlier
    · rw [if_neg triggered] at earlier
      omega

section

variable (placed : run.jobs[entry.2]? = some entry.1)
include placed

lemma Reached.skipped (fresh : resolveJobPath entry.1.jobName folder ∉ before.triggeredPaths)
    (unavailable : run.available resolved entry.1 = false) :
    run.Reached folder resolved (done ++ [entry]) (before.skip entry.1.jobName entry.2) where
  paths path := by
    have off : run.triggers resolved entry = false := by rw [triggers, unavailable, Bool.false_and]
    rw [reached.mem_paths_append, off]
    simp [Progress.skip]
  distinct := reached.distinct
  triggered := reached.triggered
  answered := reached.answered
  accounts := reached.accounts_append fresh rfl
  listed := reached.listed.append placed rfl (append_nil _).symm rfl (append_nil _).symm

lemma Reached.called (fresh : resolveJobPath entry.1.jobName folder ∉ before.triggeredPaths)
    (available : run.available resolved entry.1 = true)
    (called : run.Called (resolveJobPath entry.1.jobName folder) before entry after) :
    run.Reached folder resolved (done ++ [entry]) after := by
  obtain ⟨version, responses, pending, answered, rfl⟩ := called
  have on : run.triggers resolved entry = run.succeeds entry := by
    rw [triggers, available, Bool.true_and]
  cases success : run.succeeds entry with
  | true =>
    rw [success] at on
    rw [Answered, success] at answered
    refine ⟨fun path => ?_, ?_, ?_, ?_, ?_, ?_⟩
    · rw [reached.mem_paths_append, on]
      simp [Progress.trigger, Progress.call, or_comm, eq_comm]
    · exact nodup_cons.mpr ⟨fresh, reached.distinct⟩
    · change before.triggered ++ _ = _
      rw [reached.triggered]
      exact reverse_cons.symm
    · apply reached.answered_append rfl fresh
      · exact fun other triggered => mem_cons_of_mem _ triggered
      · exact answered.trans_eq (if_pos mem_cons_self).symm
    · exact reached.accounts_append fresh rfl
    · exact reached.listed.append placed rfl rfl (append_nil _).symm (append_nil _).symm
  | false =>
    rw [success] at on
    rw [Answered, success] at answered
    refine ⟨fun path => ?_, reached.distinct, reached.triggered, ?_, ?_, ?_⟩
    · rw [reached.mem_paths_append, on]
      simp [Progress.fail, Progress.call]
    · apply reached.answered_append rfl fresh
      · exact fun other triggered => triggered
      · exact answered.trans (Nat.zero_le _)
    · exact reached.accounts_append fresh rfl
    · exact reached.listed.append placed rfl (append_nil _).symm (append_nil _).symm rfl

lemma Reached.triggerJob (ran : run.triggerJob folder resolved before entry = .ok after) :
    run.Reached folder resolved (done ++ [entry]) after := by
  rcases triggerJob_cases ran with
    ⟨repeated, rfl⟩ | ⟨fresh, ⟨unavailable, rfl⟩ | ⟨available, called⟩⟩
  · exact reached.duplicate repeated
  · exact reached.skipped placed fresh unavailable
  · exact reached.called placed fresh available called

end

end

lemma getElem?_of_mem_entries (listed : entry ∈ run.entries) :
    run.jobs[entry.2]? = some entry.1 :=
  mem_zipIdx_iff_getElem?.mp listed

lemma accounted_start (account : Account) :
    run.accounted run.start account =
      if account = .skipped then run.unmatched.map Prod.fst else [] := by
  rw [accounted, start, filterMap_map]
  by_cases skipped : account = .skipped
  · subst skipped
    rw [if_pos rfl, ← filterMap_eq_map]
    apply filterMap_congr
    intro entry listed
    exact getElem?_of_mem_entries (mem_of_mem_filter listed)
  · rw [if_neg skipped]
    apply filterMap_eq_nil_iff.mpr
    intro entry _
    exact if_neg (Ne.symm skipped)

lemma reached_start : run.Reached folder resolved [] run.start where
  paths path := ⟨nofun, nofun⟩
  distinct := nodup_nil
  triggered := rfl
  answered path := Nat.zero_le _
  accounts := by
    rw [recorded, append_nil, start, map_map]
    rfl
  listed := by
    refine ⟨?_, ?_, ?_⟩
    · rw [accounted_start]
      rfl
    · rw [accounted_start, if_pos rfl, map_map]
      rfl
    · rw [accounted_start]
      rfl

lemma reached_of_triggerVersion (done : run.triggerVersion = .ok after) :
    ∃ folder resolved, run.prepare = .ok (folder, resolved) ∧
      run.Reached folder resolved run.filtered after := by
  unfold triggerVersion at done
  cases prepared : run.prepare with
  | error failure =>
    rw [prepared] at done
    cases done
  | ok settled =>
    obtain ⟨folder, resolved⟩ := settled
    rw [prepared] at done
    refine ⟨folder, resolved, rfl, ?_⟩
    have turn : ∀ done entry, entry ∈ run.filtered → ∀ before after,
        run.Reached folder resolved done before →
          run.triggerJob folder resolved before entry = .ok after →
            run.Reached folder resolved (done ++ [entry]) after :=
      fun done entry listed before after reached ran =>
        reached.triggerJob (getElem?_of_mem_entries (mem_of_mem_filter listed)) ran
    exact foldlM_invariant turn reached_start done

end Reached

/-! ## Accounts of a whole matrix -/

/-- No path is triggered twice, by the results and by the answers of Jenkins. -/
structure TriggeredOnce (progress : Progress) : Prop where
  results : progress.triggered.Nodup
  answers : ∀ path, (progress.answersFor path).countP Response.isTriggered ≤ 1

/-- The results are those of the accounts, and every entry of the matrix has one account. -/
structure AccountedOnce (progress : Progress) : Prop where
  listed : ∃ folder resolved, run.prepare = .ok (folder, resolved) ∧ run.Listed folder progress
  once : ∀ position < run.jobs.length, (progress.accounts.map Prod.fst).count position = 1

/-- The filters drop no entry of a name they keep, and no entry kept triggers the path of a later
one. -/
structure Separate : Prop where
  dropped : ∀ job ∈ run.jobs, run.keeps job = false → job.jobName ∉ run.filteredNames
  kept : ∀ folder resolved, run.prepare = .ok (folder, resolved) →
    run.filtered.Pairwise (run.Apart folder resolved)

section Accounts

variable {run} {folder : String} {resolved : Resolved} {progress : Progress}

lemma nodup_positions : (run.entries.map Prod.snd).Nodup := by
  rw [entries, zipIdx_map_snd]
  exact nodup_range'

lemma mem_positions_iff (position : Nat) :
    position ∈ run.entries.map Prod.snd ↔ position < run.jobs.length := by
  rw [entries, zipIdx_map_snd, mem_range'_1, Nat.zero_add]
  exact and_iff_right (Nat.zero_le _)

lemma eq_of_position {first second : TriggerJob × Nat} (left : first ∈ run.entries)
    (right : second ∈ run.entries) (same : first.2 = second.2) : first = second := by
  have leftJob := getElem?_of_mem_entries left
  rw [same, getElem?_of_mem_entries right] at leftJob
  exact Prod.ext (Option.some.inj leftJob).symm same

lemma not_mem_unmatched {entry : TriggerJob × Nat} (kept : entry ∈ run.filtered) :
    entry ∉ run.unmatched := fun skipped => by
  have absent : entry.1.jobName ∉ run.filteredNames := by
    simpa using (mem_filter.mp skipped).2
  exact absent (mem_map_of_mem kept)

lemma nodup_accounts (run : TriggerRun) (folder : String) (resolved : Resolved) :
    ((run.unmatched ++ run.recorded folder resolved [] run.filtered).map Prod.snd).Nodup := by
  have within : ∀ entry ∈ run.recorded folder resolved [] run.filtered, entry ∈ run.filtered :=
    fun entry listed => (recorded_sublist run folder resolved [] run.filtered).subset listed
  rw [map_append]
  refine nodup_append.mpr ⟨?_, ?_, ?_⟩
  · exact nodup_positions.sublist (filter_sublist.map _)
  · have sublist := (recorded_sublist run folder resolved [] run.filtered).trans filter_sublist
    exact nodup_positions.sublist (sublist.map _)
  · intro first skipped second recorded same
    obtain ⟨entry, unmatched, rfl⟩ := mem_map.mp skipped
    obtain ⟨other, listed, rfl⟩ := mem_map.mp recorded
    have kept := within other listed
    have equal : entry = other :=
      eq_of_position (mem_of_mem_filter unmatched) (mem_of_mem_filter kept) same
    exact not_mem_unmatched kept (equal ▸ unmatched)

lemma covered_iff (folder : String) (resolved : Resolved) :
    (∀ entry ∈ run.entries,
        entry ∈ run.unmatched ++ run.recorded folder resolved [] run.filtered) ↔
      (∀ job ∈ run.jobs, run.keeps job = false → job.jobName ∉ run.filteredNames) ∧
        run.filtered.Pairwise (run.Apart folder resolved) := by
  have sublist := recorded_sublist run folder resolved [] run.filtered
  have all := recorded_eq_self_iff run folder resolved [] run.filtered
  constructor
  · intro covered
    refine ⟨fun job listed dropped => ?_, ?_⟩
    · obtain ⟨position, placed⟩ := mem_iff_getElem?.mp listed
      have entry : (job, position) ∈ run.entries := mem_zipIdx_iff_getElem?.mpr placed
      rcases mem_append.mp (covered _ entry) with skipped | recorded
      · simpa using (mem_filter.mp skipped).2
      · have kept : run.keeps job = true := (mem_filter.mp (sublist.subset recorded)).2
        rw [dropped] at kept
        cases kept
    · have subset : run.filtered ⊆ run.recorded folder resolved [] run.filtered := by
        intro entry kept
        have accounted := covered entry (mem_of_mem_filter kept)
        exact (mem_append.mp accounted).resolve_left (not_mem_unmatched kept)
      have distinct : run.filtered.Nodup := nodup_positions.of_map.filter _
      have longer := (distinct.subperm subset).length_le
      exact (all.mp (sublist.eq_of_length_le longer)).2
  · rintro ⟨dropped, apart⟩ entry listed
    have recorded := all.mpr ⟨fun _ _ => rfl, apart⟩
    rw [recorded, mem_append]
    cases kept : run.keeps entry.1 with
    | true => exact Or.inr (mem_filter.mpr ⟨listed, kept⟩)
    | false =>
      have job : entry.1 ∈ run.jobs := mem_of_getElem? (getElem?_of_mem_entries listed)
      exact Or.inl (mem_filter.mpr ⟨listed, by simpa using dropped entry.1 job kept⟩)

/-- Every path is triggered at most once and every entry of the matrix is in exactly one result
exactly when the entries are separate. -/
theorem accountedOnce_iff_separate (run : TriggerRun) (progress : Progress)
    (returned : run.triggerVersion = .ok progress) :
    TriggeredOnce progress ∧ run.AccountedOnce progress ↔ run.Separate := by
  obtain ⟨folder, resolved, prepared, reached⟩ := reached_of_triggerVersion returned
  have once : TriggeredOnce progress := by
    refine ⟨?_, fun path => (reached.answered path).trans ?_⟩
    · rw [reached.triggered]
      exact nodup_reverse.mpr reached.distinct
    · split <;> omega
  have counted : (∀ position < run.jobs.length,
      (progress.accounts.map Prod.fst).count position = 1) ↔
        ∀ entry ∈ run.entries,
          entry ∈ run.unmatched ++ run.recorded folder resolved [] run.filtered := by
    have distinct := nodup_accounts run folder resolved
    have within : ∀ entry ∈ run.unmatched ++ run.recorded folder resolved [] run.filtered,
        entry ∈ run.entries := by
      intro entry accounted
      rcases mem_append.mp accounted with skipped | recorded
      · exact mem_of_mem_filter skipped
      · exact mem_of_mem_filter
          ((recorded_sublist run folder resolved [] run.filtered).subset recorded)
    rw [reached.accounts]
    constructor
    · intro counted entry listed
      have inside : entry.2 < run.jobs.length :=
        (mem_positions_iff entry.2).mp (mem_map_of_mem listed)
      have one := counted entry.2 inside
      have member := count_pos_iff.mp (one ▸ Nat.one_pos)
      obtain ⟨other, accounted, same⟩ := mem_map.mp member
      have equal := eq_of_position (within other accounted) listed same
      exact equal ▸ accounted
    · intro covered position inside
      obtain ⟨entry, listed, rfl⟩ := mem_map.mp ((mem_positions_iff position).mpr inside)
      exact count_eq_one_of_mem distinct (mem_map_of_mem (covered entry listed))
  constructor
  · rintro ⟨-, -, accounted⟩
    obtain ⟨dropped, apart⟩ := (covered_iff folder resolved).mp (counted.mp accounted)
    refine ⟨dropped, fun other settled same => ?_⟩
    cases prepared.symm.trans same
    exact apart
  · intro separate
    have covered := (covered_iff folder resolved).mpr
      ⟨separate.dropped, separate.kept folder resolved prepared⟩
    exact ⟨once, ⟨folder, resolved, prepared, reached.listed⟩, counted.mpr covered⟩

end Accounts

end TriggerRun

def dryRunOf (jobs : List TriggerJob) : TriggerRun where
  jobs := jobs
  defaults := Dict.empty
  configResolution := .perBackend
  versionResolution := none
  scyllaVersion := "2025.4.1"
  filterVersion := none
  jobFolder := none
  filters := ⟨none, none, [], some "x86_64"⟩
  dryRun := true
  overrides := Dict.empty
  loads := fun _ => none
  images := ⟨fun version _ => version, fun _ _ => true, fun _ _ _ _ => true⟩
  jenkins := fun _ => ⟨true, fun _ => .unexpected⟩

def TriggerRun.outcome (run : TriggerRun) :
    Except TriggerFailure (List String × List String × List String × List (Nat × Account)) :=
  run.triggerVersion.map fun progress =>
    (progress.triggered, progress.skipped, progress.failed, progress.accounts)

lemma TriggerRun.exists_of_outcome {run : TriggerRun} {triggered skipped failed : List String}
    {accounts : List (Nat × Account)}
    (ended : run.outcome = .ok (triggered, skipped, failed, accounts)) :
    ∃ progress, run.triggerVersion = .ok progress ∧ progress.triggered = triggered ∧
      progress.skipped = skipped ∧ progress.failed = failed ∧ progress.accounts = accounts := by
  unfold TriggerRun.outcome at ended
  cases ran : run.triggerVersion with
  | error failure =>
    rw [ran] at ended
    cases ended
  | ok progress =>
    rw [ran] at ended
    cases ended
    exact ⟨progress, rfl, rfl, rfl, rfl, rfl⟩

def artifactsJob : TriggerJob := { awsJob Dict.empty with jobName := "artifacts" }

lemma separate_twoJobs : (dryRunOf [awsJob Dict.empty, artifactsJob]).Separate where
  dropped := by
    have kept : ∀ job ∈ (dryRunOf [awsJob Dict.empty, artifactsJob]).jobs,
        (dryRunOf [awsJob Dict.empty, artifactsJob]).keeps job = true :=
      all_eq_true.mp (by decide)
    intro job listed dropped
    rw [kept job listed] at dropped
    cases dropped
  kept folder resolved prepared := by
    have folders : (dryRunOf [awsJob Dict.empty, artifactsJob]).prepare.map Prod.fst =
        .ok "scylla-2025.4" := by decide +kernel
    rw [prepared] at folders
    cases folders
    have filtered : (dryRunOf [awsJob Dict.empty, artifactsJob]).filtered =
        [(awsJob Dict.empty, 0), (artifactsJob, 1)] := by rfl
    rw [filtered]
    refine pairwise_pair.mpr fun same => absurd same ?_
    decide

/-- Two jobs are both accounted for. -/
theorem accountedOnce_twoJobs :
    ∃ progress, (dryRunOf [awsJob Dict.empty, artifactsJob]).triggerVersion = .ok progress ∧
      TriggerRun.TriggeredOnce progress ∧
      (dryRunOf [awsJob Dict.empty, artifactsJob]).AccountedOnce progress := by
  have ended : (dryRunOf [awsJob Dict.empty, artifactsJob]).outcome =
      .ok (["scylla-2025.4/longevity", "scylla-2025.4/artifacts"], [], [],
        [(0, .triggered), (1, .triggered)]) := by decide +kernel
  obtain ⟨progress, returned, -⟩ := TriggerRun.exists_of_outcome ended
  exact ⟨progress, returned,
    (TriggerRun.accountedOnce_iff_separate _ progress returned).mpr separate_twoJobs⟩

/-- An entry of a job for the releases of one year, on one architecture. -/
def yearJob (year arch : String) : TriggerJob :=
  { awsJob Dict.empty with includeVersions := [year], arch := arch }

/-- An entry in a second region is left out of the results, and so is the entry of a job for other
versions, which the filters drop. -/
theorem repeated_entry_unaccounted :
    (∃ progress, (dryRunOf [awsJob (onlyRegion "eu-west-1"),
        awsJob (onlyRegion "us-east-1")]).triggerVersion = .ok progress ∧
      progress.triggered = ["scylla-2025.4/longevity"] ∧ progress.skipped = [] ∧
      progress.failed = [] ∧
      ¬ (dryRunOf [awsJob (onlyRegion "eu-west-1"), awsJob (onlyRegion "us-east-1")]).AccountedOnce
        progress) ∧
    ∃ progress, (dryRunOf [yearJob "2025" "x86_64",
        yearJob "2026" "aarch64"]).triggerVersion = .ok progress ∧
      progress.triggered = ["scylla-2025.4/longevity"] ∧ progress.skipped = [] ∧
      progress.failed = [] ∧
      ¬ (dryRunOf [yearJob "2025" "x86_64", yearJob "2026" "aarch64"]).AccountedOnce
        progress := by
  have outcome : ∀ jobs : List TriggerJob, jobs.length = 2 →
      (dryRunOf jobs).outcome = .ok (["scylla-2025.4/longevity"], [], [], [(0, .triggered)]) →
      ∃ progress, (dryRunOf jobs).triggerVersion = .ok progress ∧
        progress.triggered = ["scylla-2025.4/longevity"] ∧ progress.skipped = [] ∧
        progress.failed = [] ∧ ¬ (dryRunOf jobs).AccountedOnce progress := by
    intro jobs two ended
    obtain ⟨progress, returned, triggered, skipped, failed, accounts⟩ :=
      TriggerRun.exists_of_outcome ended
    refine ⟨progress, returned, triggered, skipped, failed, fun accounted => ?_⟩
    have second := accounted.once 1 (two ▸ Nat.one_lt_two)
    rw [accounts] at second
    exact absurd second (by decide)
  exact ⟨outcome _ rfl (by decide +kernel), outcome _ rfl (by decide +kernel)⟩

end Sct.Trigger
