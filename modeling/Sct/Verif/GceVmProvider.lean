import Mathlib.Data.List.Nodup
import Sct.Provision.Gce.VmProvider

/-!
# What the GCE VM provider leaves behind

A name is settled when its VM runs and is cached, or when it is free and not cached. Waiting for an
insert touches its own name only, and draining settles every name it is given. The exits that do not
drain leave the other pending inserts in flight, and an API error that is neither a preemption nor
about a quota leaves the VM it is about, so that each retry finds the name taken.
-/

open Sct.Effect
open List
open EStateM (run_bind run_get)

namespace Sct.GceVm

variable {pricingModel : PricingModel} {request : Request} {provider : Provider} {name : String}

/-! ## Names -/

def Same (before after : Provider) (name : String) : Prop :=
  after.slots name = before.slots name ∧ after.cache name = before.cache name

lemma Same.refl (provider : Provider) (name : String) : Same provider provider name :=
  ⟨rfl, rfl⟩

lemma Same.trans {first second third : Provider} (early : Same first second name)
    (late : Same second third name) : Same first third name :=
  ⟨late.1.trans early.1, late.2.trans early.2⟩

/-- A name is cached with a running VM, or free to be inserted again. -/
def Settled (provider : Provider) (name : String) : Prop :=
  (provider.cache name = true ∧ provider.slots name = .machine true) ∨
    (provider.cache name = false ∧ provider.slots name = .free)

instance (provider : Provider) (name : String) : Decidable (Settled provider name) := by
  unfold Settled
  infer_instance

variable {before after : Provider}

lemma Same.settled_iff (same : Same before after name) :
    Settled after name ↔ Settled before name := by
  unfold Settled
  rw [same.1, same.2]

def InFlight (provider : Provider) (name : String) : Prop :=
  provider.slots name = .inserting ∧ provider.cache name = false

lemma Same.inFlight (same : Same before after name) (flying : InFlight before name) :
    InFlight after name :=
  ⟨same.1.trans flying.1, same.2.trans flying.2⟩

namespace Provider

@[simp]
lemma put_slots_self (slot : Slot) (cached : Bool) :
    (provider.put name slot cached).slots name = slot := Function.update_self ..

@[simp]
lemma put_cache_self (slot : Slot) (cached : Bool) :
    (provider.put name slot cached).cache name = cached := Function.update_self ..

lemma put_same {other : String} (differ : other ≠ name) (slot : Slot) (cached : Bool) :
    Same provider (provider.put name slot cached) other :=
  ⟨Function.update_of_ne differ .., Function.update_of_ne differ ..⟩

@[simp]
lemma put_put (slot later : Slot) (cached kept : Bool) :
    (provider.put name slot cached).put name later kept = provider.put name later kept := by
  simp [put]

lemma put_eq_self {slot : Slot} {cached : Bool} (slots : provider.slots name = slot)
    (cache : provider.cache name = cached) : provider.put name slot cached = provider := by
  subst slots cache
  simp [put]

end Provider

/-! ## One insert -/

/-- How waiting for an insert and its VM ends: the error it raises, if any, and what the name then
stands for. -/
def Attempt.ended (pricingModel : PricingModel) (attempt : Attempt) : Option Raised × Slot :=
  match attempt.wait with
  | .timeout => (some .timeout, .inserting)
  | .crashed left => (some .runtime, leftSlot left)
  | .failed error left => (some (.api error), leftSlot left)
  | .done =>
    match attempt.poll with
    | .running => (none, .machine true)
    | .stopped preempted =>
      (some (if pricingModel.isSpot && preempted then .preempted else .provision), .free)
    | .failed error => (some (.api error), .machine false)

lemma delete_run (uncached : provider.cache name = false) :
    (delete name).run provider = .ok () (provider.put name .free false) := by
  unfold delete
  rw [run_bind]
  cases slot : provider.slots name with
  | free =>
    simp only [run_get, slot]
    rw [Provider.put_eq_self slot uncached]
    rfl
  | inserting =>
    simp only [run_get, slot]
    rfl
  | machine running =>
    simp only [run_get, slot]
    rfl

lemma setSlot_run (uncached : provider.cache name = false) (slot : Slot) :
    (setSlot name slot).run provider = .ok () (provider.put name slot false) := by
  rw [← uncached]
  rfl

lemma awaitInstance_run (flying : InFlight provider request.name) (attempt : Nat) :
    (awaitInstance pricingModel request attempt).run provider =
      match (request.attempts attempt).ended pricingModel with
      | (none, slot) => .ok () (provider.put request.name slot true)
      | (some exc, slot) => .error exc (provider.put request.name slot false) := by
  have uncached := flying.2
  unfold awaitInstance Attempt.ended
  cases (request.attempts attempt).wait with
  | timeout =>
    show _ = EStateM.Result.error Raised.timeout (provider.put request.name .inserting false)
    rw [Provider.put_eq_self flying.1 uncached]
    rfl
  | crashed left =>
    simp [waitForExtendedOperation, setSlot_run uncached]
  | failed error left =>
    simp [waitForExtendedOperation, setSlot_run uncached]
  | done =>
    cases (request.attempts attempt).poll with
    | running =>
      simp [waitForExtendedOperation, setSlot_run uncached, waitUntilRunning, setSlot_run,
        keepInstance]
    | stopped preempted =>
      simp [waitForExtendedOperation, setSlot_run uncached, waitUntilRunning, delete_run]
    | failed error =>
      simp [waitForExtendedOperation, setSlot_run uncached, waitUntilRunning]

lemma drainOne_run (flying : InFlight provider request.name) :
    ∃ slot cached, (drainOne pricingModel request).run provider =
        .ok () (provider.put request.name slot cached) ∧
      Settled (provider.put request.name slot cached) request.name := by
  unfold drainOne
  rw [run_tryCatch, awaitInstance_run flying]
  unfold Attempt.ended
  cases (request.attempts 0).wait with
  | timeout => exact ⟨.free, false, by simp [delete_run], by simp [Settled]⟩
  | crashed left => exact ⟨.free, false, by simp [delete_run], by simp [Settled]⟩
  | failed error left => exact ⟨.free, false, by simp [delete_run], by simp [Settled]⟩
  | done =>
    cases (request.attempts 0).poll with
    | running => exact ⟨.machine true, true, rfl, by simp [Settled]⟩
    | stopped preempted =>
      refine ⟨.free, false, ?_, by simp [Settled]⟩
      cases reclaimed : pricingModel.isSpot && preempted with
      | true => simp [reclaimed]
      | false => simp [reclaimed]
    | failed error => exact ⟨.free, false, by simp [delete_run], by simp [Settled]⟩

/-- What an API error is raised as, and whether the VM it is about stays behind. -/
def failure (pricingModel : PricingModel) (error : ApiError) (left : Bool) :
    Option (Raised × Bool) :=
  some ((unrecoverable pricingModel error).getD (.api error),
    left && !(error.preemption || error.quota))

/-- How an accepted insert ends after its errors were handled: what is raised and whether a VM
stays behind, or nothing if its VM runs. -/
def Attempt.accepted (pricingModel : PricingModel) (attempt : Attempt) : Option (Raised × Bool) :=
  match attempt.ended pricingModel with
  | (none, _) => none
  | (some .timeout, _) => some (.provision, false)
  | (some (.api error), slot) => failure pricingModel error (slot != .free)
  | (some exc, slot) => some (exc, slot != .free)

/-- How a try of `_create_instance_with_retry` ends, where the name is taken or free. -/
def Attempt.tried (pricingModel : PricingModel) (attempt : Attempt) (taken : Bool) :
    Option (Raised × Bool) :=
  if taken then failure pricingModel alreadyExists true
  else
    match attempt.insert with
    | some error => failure pricingModel error false
    | none => attempt.accepted pricingModel

/-- An API error is followed by another try, where the name is taken or free. -/
def orRetry (ended : Option (Raised × Bool)) (again : Bool → Option (Raised × Bool)) :
    Option (Raised × Bool) :=
  match ended with
  | some (.api _, left) => again left
  | other => other

/-- How `_create_instance_with_retry` ends, with this many tries left after this one. -/
def Request.retryEnd (pricingModel : PricingModel) (request : Request) :
    Nat → Nat → Bool → Option (Raised × Bool)
  | 0, attempt, taken => (request.attempts attempt).tried pricingModel taken
  | left + 1, attempt, taken =>
    orRetry ((request.attempts attempt).tried pricingModel taken)
      (request.retryEnd pricingModel left (attempt + 1))

def Request.waitEnd (pricingModel : PricingModel) (request : Request) : Option (Raised × Bool) :=
  orRetry ((request.attempts 0).accepted pricingModel) (request.retryEnd pricingModel 2 1)

def endResult (provider : Provider) (name : String) :
    Option (Raised × Bool) → EStateM.Result Raised Provider Unit
  | none => .ok () (provider.put name (.machine true) true)
  | some (exc, left) => .error exc (provider.put name (leftSlot left) false)

lemma endResult_put (slot : Slot) (ended : Option (Raised × Bool)) :
    endResult (provider.put name slot false) name ended = endResult provider name ended := by
  cases ended with
  | none => simp [endResult]
  | some ended => simp [endResult]

lemma unrecoverable_ne_api {error other : ApiError} :
    unrecoverable pricingModel error ≠ some (.api other) := by
  unfold unrecoverable
  split
  · simp
  · split
    · simp
    · split <;> simp

lemma unrecoverable_alreadyExists : unrecoverable pricingModel alreadyExists = none := by
  simp [unrecoverable, alreadyExists, ApiError.zoneExhausted]

variable {left : Bool}

lemma cleanupFailedInstance_run (uncached : provider.cache name = false)
    (slot : provider.slots name = leftSlot left) (error : ApiError) :
    (cleanupFailedInstance name error).run provider =
      .ok () (provider.put name (leftSlot (left && !(error.preemption || error.quota))) false) := by
  unfold cleanupFailedInstance
  cases error.preemption || error.quota with
  | true =>
    rw [if_pos rfl, delete_run uncached]
    simp [leftSlot]
  | false =>
    rw [if_neg Bool.false_ne_true, Bool.not_false, Bool.and_true,
      Provider.put_eq_self slot uncached]
    rfl

lemma failure_run (uncached : provider.cache name = false)
    (slot : provider.slots name = leftSlot left) (error : ApiError) :
    (do cleanupFailedInstance name error
        throw ((unrecoverable pricingModel error).getD (.api error)) : Action Unit).run provider =
      endResult provider name (failure pricingModel error left) := by
  rw [run_bind, cleanupFailedInstance_run uncached slot]
  rfl

variable {slot : Slot} {attempt : Attempt}

lemma Attempt.ended_running (raised : attempt.ended pricingModel = (none, slot)) :
    slot = .machine true := by
  unfold Attempt.ended at raised
  split at raised
  · cases raised
  · cases raised
  · cases raised
  · split at raised
    · cases raised
      rfl
    · cases raised
    · cases raised

lemma Attempt.ended_slot {exc : Raised} (raised : attempt.ended pricingModel = (some exc, slot))
    (late : exc ≠ .timeout) : slot = leftSlot (slot != .free) := by
  unfold Attempt.ended at raised
  split at raised
  · cases raised
    exact absurd rfl late
  · cases raised
    rename_i left _
    cases left <;> rfl
  · cases raised
    rename_i left _
    cases left <;> rfl
  · split at raised
    · cases raised
    · cases raised
      rfl
    · cases raised
      rfl

/-- Both handlers around a wait differ in what they do with an API error only. -/
lemma handled_run (flying : InFlight provider request.name) (attempt : Nat)
    (again : ApiError → Action Unit) :
    (tryCatch (awaitInstance pricingModel request attempt) fun
      | .timeout => abandonTimedOutCreation request.name
      | .api error => again error
      | exc => throw exc).run provider =
      match (request.attempts attempt).ended pricingModel with
      | (some (.api error), slot) => (again error).run (provider.put request.name slot false)
      | _ =>
        endResult provider request.name ((request.attempts attempt).accepted pricingModel) := by
  rw [run_tryCatch, awaitInstance_run flying]
  unfold Attempt.accepted
  cases ended : (request.attempts attempt).ended pricingModel with
  | mk raised slot =>
    cases raised with
    | none =>
      rw [Attempt.ended_running ended]
      rfl
    | some exc =>
      cases exc with
      | timeout => simp [abandonTimedOutCreation, delete_run, endResult, leftSlot]
      | api error => rfl
      | runtime | provision | preempted | configuration | zoneExhausted =>
        have stays := Attempt.ended_slot ended nofun
        simp only [endResult, run_throw]
        rw [← stays]

lemma accepted_run (flying : InFlight provider request.name) (attempt : Nat) :
    (tryCatch (awaitInstance pricingModel request attempt) fun
      | .timeout => abandonTimedOutCreation request.name
      | .api error => do
        cleanupFailedInstance request.name error
        throw ((unrecoverable pricingModel error).getD (.api error))
      | exc => throw exc : Action Unit).run provider =
      endResult provider request.name ((request.attempts attempt).accepted pricingModel) := by
  rw [handled_run flying]
  split
  · rename_i error slot ended
    have slots : (provider.put request.name slot false).slots request.name =
        leftSlot (slot != .free) := by
      rw [Provider.put_slots_self]
      exact Attempt.ended_slot ended nofun
    rw [failure_run (Provider.put_cache_self _ _) slots, endResult_put]
    simp only [Attempt.accepted, ended]
  · rfl

lemma createInstance_run {taken : Bool} (uncached : provider.cache request.name = false)
    (slot : provider.slots request.name = leftSlot taken)
    (fits : request.tooManyInterfaces = false) (attempt : Nat) :
    (createInstance pricingModel request attempt).run provider =
      endResult provider request.name ((request.attempts attempt).tried pricingModel taken) := by
  have built : (buildAndInsertInstance request attempt).run provider =
      match taken, (request.attempts attempt).insert with
      | true, _ => .error (.api alreadyExists) provider
      | false, some error => .error (.api error) provider
      | false, none => .ok () (provider.put request.name .inserting false) := by
    unfold buildAndInsertInstance insert
    rw [fits, if_neg Bool.false_ne_true, run_bind]
    cases taken with
    | true => simp [slot, leftSlot]
    | false =>
      cases (request.attempts attempt).insert with
      | some error => simp [slot, leftSlot]
      | none => simp [slot, leftSlot, setSlot_run uncached]
  unfold createInstance Attempt.tried
  cases taken with
  | true =>
    rw [run_tryCatch, run_bind, built]
    exact failure_run uncached slot alreadyExists
  | false =>
    cases answer : (request.attempts attempt).insert with
    | some error =>
      rw [answer] at built
      rw [run_tryCatch, run_bind, built]
      exact failure_run uncached slot error
    | none =>
      rw [answer] at built
      have flying : InFlight (provider.put request.name .inserting false) request.name :=
        ⟨Provider.put_slots_self _ _, Provider.put_cache_self _ _⟩
      have ended := @accepted_run pricingModel request _ flying attempt
      rw [run_tryCatch] at ended
      rw [run_tryCatch, run_bind, built]
      exact ended.trans (endResult_put _ _)

lemma createInstanceWithRetry_run (fits : request.tooManyInterfaces = false) (left : Nat)
    {attempt : Nat} {taken : Bool} {provider : Provider}
    (uncached : provider.cache request.name = false)
    (slot : provider.slots request.name = leftSlot taken) :
    (createInstanceWithRetry pricingModel request attempt left).run provider =
      endResult provider request.name (request.retryEnd pricingModel left attempt taken) := by
  induction left generalizing attempt taken provider with
  | zero => exact createInstance_run uncached slot fits attempt
  | succ left ih =>
    unfold createInstanceWithRetry Request.retryEnd
    rw [run_tryCatch, createInstance_run uncached slot fits]
    cases (request.attempts attempt).tried pricingModel taken with
    | none => rfl
    | some ended =>
      obtain ⟨exc, stays⟩ := ended
      cases exc with
      | api error =>
        have again := @ih (attempt + 1) stays (provider.put request.name (leftSlot stays) false)
          (Provider.put_cache_self _ _) (Provider.put_slots_self _ _)
        exact again.trans (endResult_put _ _)
      | timeout | runtime | provision | preempted | configuration | zoneExhausted => rfl

lemma waitForInstanceCreation_run (fits : request.tooManyInterfaces = false)
    (flying : InFlight provider request.name) :
    (waitForInstanceCreation pricingModel request).run provider =
      endResult provider request.name (request.waitEnd pricingModel) := by
  unfold waitForInstanceCreation Request.waitEnd
  refine (handled_run flying 0 _).trans ?_
  unfold Attempt.accepted
  cases ended : (request.attempts 0).ended pricingModel with
  | mk raised slot =>
    cases raised with
    | none => rfl
    | some exc =>
      cases exc with
      | timeout | runtime | provision | preempted | configuration | zoneExhausted => rfl
      | api error =>
        have slots : (provider.put request.name slot false).slots request.name =
            leftSlot (slot != .free) := by
          rw [Provider.put_slots_self]
          exact Attempt.ended_slot ended (by simp)
        have cleaned := cleanupFailedInstance_run (Provider.put_cache_self _ _) slots error
        rw [Provider.put_put] at cleaned
        simp only [failure, run_bind, cleaned]
        cases known : unrecoverable pricingModel error with
        | none =>
          refine (createInstanceWithRetry_run fits 2 (Provider.put_cache_self _ _)
            (Provider.put_slots_self _ _)).trans ?_
          exact endResult_put _ _
        | some exc =>
          cases exc with
          | api other => exact absurd known unrecoverable_ne_api
          | timeout | runtime | provision | preempted | configuration | zoneExhausted => rfl

/-! ## The two loops -/

/-- The names of pending inserts: distinct, and in flight. -/
structure Pending (provider : Provider) (pending : List Request) : Prop where
  distinct : (pending.map Request.name).Nodup
  flying : ∀ request ∈ pending, InFlight provider request.name
  fits : ∀ request ∈ pending, request.tooManyInterfaces = false

variable {rest : List Request}

lemma Pending.tail (waiting : Pending provider (request :: rest)) (slot : Slot) (cached : Bool) :
    Pending (provider.put request.name slot cached) rest := by
  have distinct := nodup_cons.mp waiting.distinct
  refine ⟨distinct.2, ?_, fun other listed => waiting.fits other (mem_cons_of_mem _ listed)⟩
  intro other listed
  have differ : other.name ≠ request.name := by
    intro equal
    apply distinct.1
    rw [← equal]
    exact mem_map_of_mem listed
  exact (Provider.put_same differ slot cached).inFlight
    (waiting.flying other (mem_cons_of_mem _ listed))

variable {pending : List Request}

lemma drainPendingCreations_run {provider : Provider} (waiting : Pending provider pending) :
    ∃ after, (drainPendingCreations pricingModel pending).run provider = .ok () after ∧
      (∀ request ∈ pending, Settled after request.name) ∧
      ∀ name, name ∉ pending.map Request.name → Same provider after name := by
  induction pending generalizing provider with
  | nil => exact ⟨provider, rfl, fun _ listed => (nomatch listed), fun name _ => .refl _ name⟩
  | cons request rest ih =>
    obtain ⟨slot, cached, ran, settled⟩ :=
      @drainOne_run pricingModel request provider (waiting.flying request mem_cons_self)
    obtain ⟨after, drained, others, same⟩ := ih (waiting.tail slot cached)
    have apart := (nodup_cons.mp waiting.distinct).1
    refine ⟨after, ?_, ?_, ?_⟩
    · unfold drainPendingCreations at drained ⊢
      rw [forM_cons, run_bind, ran]
      exact drained
    · intro other listed
      rcases mem_cons.mp listed with rfl | later
      · exact (same _ apart).settled_iff.mpr settled
      · exact others other later
    · intro name fresh
      rw [map_cons, mem_cons, not_or] at fresh
      exact (Provider.put_same fresh.1 slot cached).trans (same name fresh.2)

/-- When waiting for these inserts settles their names. A VM that stays behind is never settled.
After an API error the others are waited for; an insert that timed out, or whose VM did not start
or was preempted, drains the others; every other error leaves them in flight. -/
def SafeWaits (pricingModel : PricingModel) : List Request → Prop
  | [] => True
  | request :: rest =>
    match request.waitEnd pricingModel with
    | none => SafeWaits pricingModel rest
    | some (exc, left) =>
      left = false ∧
        match exc with
        | .api _ => SafeWaits pricingModel rest
        | .provision => True
        | .preempted => True
        | _ => rest = []

variable {safe : Prop}

lemma settles_cons {cached : Bool} (apart : request.name ∉ rest.map Request.name)
    (others : (∀ other ∈ rest, Settled after other.name) ↔ safe)
    (same : ∀ name, name ∉ rest.map Request.name →
      Same (provider.put request.name slot cached) after name) :
    ((∀ other ∈ request :: rest, Settled after other.name) ↔
      Settled (provider.put request.name slot cached) request.name ∧ safe) ∧
    ∀ name, name ∉ (request :: rest).map Request.name → Same provider after name := by
  constructor
  · rw [forall_mem_cons, others, (same _ apart).settled_iff]
  · intro name fresh
    rw [map_cons, mem_cons, not_or] at fresh
    exact (Provider.put_same fresh.1 slot cached).trans (same name fresh.2)

lemma Pending.settled_iff (waiting : Pending provider pending) :
    (∀ request ∈ pending, Settled provider request.name) ↔ pending = [] := by
  constructor
  · intro settled
    apply eq_nil_iff_forall_not_mem.mpr
    intro request listed
    have own := settled request listed
    rw [Settled, (waiting.flying request listed).1] at own
    simp at own
  · rintro rfl request listed
    cases listed

lemma awaitInserts_settles {provider : Provider} (waiting : Pending provider pending)
    (instances : List String) (errorToRaise : Option ApiError) :
    ((∀ request ∈ pending, Settled (exitState
        ((awaitInserts pricingModel pending instances errorToRaise).run provider)) request.name) ↔
      SafeWaits pricingModel pending) ∧
    ∀ name, name ∉ pending.map Request.name → Same provider (exitState
      ((awaitInserts pricingModel pending instances errorToRaise).run provider)) name := by
  induction pending generalizing provider instances errorToRaise with
  | nil =>
    refine ⟨?_, fun name _ => .refl _ name⟩
    simp [SafeWaits]
  | cons request rest ih =>
    have ran := @waitForInstanceCreation_run pricingModel request provider
      (waiting.fits request mem_cons_self) (waiting.flying request mem_cons_self)
    have apart := (nodup_cons.mp waiting.distinct).1
    unfold awaitInserts SafeWaits
    rw [run_bind, run_tryCatch, run_bind, ran]
    cases request.waitEnd pricingModel with
    | none =>
      have others := ih (waiting.tail (.machine true) true) (instances ++ [request.name])
        errorToRaise
      have running : Settled (provider.put request.name (.machine true) true) request.name := by
        simp [Settled]
      have settles := settles_cons apart others.1 others.2
      rw [and_iff_right running] at settles
      exact settles
    | some ended =>
      obtain ⟨exc, left⟩ := ended
      have next := waiting.tail (leftSlot left) false
      have own : Settled (provider.put request.name (leftSlot left) false) request.name ↔
          left = false := by
        unfold Settled
        cases left <;> simp [leftSlot]
      cases exc with
      | api error =>
        have others := ih next instances (some error)
        have settles := settles_cons apart others.1 others.2
        rw [own] at settles
        exact settles
      | provision | preempted =>
        obtain ⟨after, drained, others, same⟩ :=
          @drainPendingCreations_run pricingModel rest _ next
        have settles := settles_cons apart (iff_true_intro others) same
        rw [own] at settles
        simp only [endResult, run_bind, drained]
        exact settles
      | timeout | runtime | configuration | zoneExhausted =>
        have settles := settles_cons apart next.settled_iff fun name _ => .refl _ name
        rw [own] at settles
        exact settles

/-- A name that an insert request for it makes pending. -/
def Insertable (provider : Provider) (name : String) : Prop :=
  provider.cache name = false ∧ provider.slots name = .free

lemma Insertable.settled (insertable : Insertable provider name) : Settled provider name :=
  .inr insertable

/-- The state in the first loop: the pending names were insertable and are in flight, the others
are as they were. -/
structure Began (start provider : Provider) (pending : List Request) : Prop where
  waiting : Pending provider pending
  fresh : ∀ request ∈ pending, Insertable start request.name
  same : ∀ name, name ∉ pending.map Request.name → Same start provider name

/-- When the call settles its names, with these definitions left and these inserts pending. A
definition whose name is cached, taken or refused with an error that is only recorded is passed; a
preempted one drains the pending inserts; every other error leaves them in flight. -/
def SafeInserts (pricingModel : PricingModel) (start : Provider) :
    List Request → List Request → Prop
  | [], pending => SafeWaits pricingModel pending
  | request :: rest, pending =>
    if start.cache request.name = true then SafeInserts pricingModel start rest pending
    else if request.tooManyInterfaces = true then pending = []
    else if start.slots request.name ≠ .free ∨ request.name ∈ pending.map Request.name then
      SafeInserts pricingModel start rest pending
    else
      match (request.attempts 0).insert with
      | none => SafeInserts pricingModel start rest (pending ++ [request])
      | some error =>
        match unrecoverable pricingModel error with
        | none => SafeInserts pricingModel start rest pending
        | some .preempted => True
        | some _ => pending = []

variable {start : Provider} {requests : List Request}

lemma Began.cache_eq (began : Began start provider pending) (name : String) :
    provider.cache name = start.cache name := by
  by_cases flying : name ∈ pending.map Request.name
  · obtain ⟨request, listed, rfl⟩ := mem_map.mp flying
    rw [(began.waiting.flying request listed).2, (began.fresh request listed).1]
  · exact (began.same name flying).2

lemma Began.free_iff (began : Began start provider pending) (name : String) :
    provider.slots name = .free ↔
      start.slots name = .free ∧ name ∉ pending.map Request.name := by
  by_cases flying : name ∈ pending.map Request.name
  · obtain ⟨request, listed, rfl⟩ := mem_map.mp flying
    rw [(began.waiting.flying request listed).1]
    simp [flying]
  · rw [(began.same name flying).1, and_iff_left flying]

lemma Began.nil (provider : Provider) : Began provider provider [] := by
  refine ⟨⟨nodup_nil, ?_, ?_⟩, ?_, fun name _ => .refl _ name⟩
  · exact fun _ listed => (nomatch listed)
  · exact fun _ listed => (nomatch listed)
  · exact fun _ listed => (nomatch listed)

section

variable (began : Began start provider pending)
include began

lemma Began.left_iff (requests : List Request) :
    (∀ request ∈ pending ++ requests, Settled provider request.name) ↔
      (∀ request ∈ requests, Settled start request.name) ∧ pending = [] := by
  rw [forall_mem_append, began.waiting.settled_iff, and_comm]
  apply and_congr_left
  rintro rfl
  apply forall₂_congr
  intro request _
  exact (began.same request.name (by simp)).settled_iff

lemma Began.drained_iff (requests : List Request)
    (settled : ∀ request ∈ pending, Settled after request.name)
    (same : ∀ name, name ∉ pending.map Request.name → Same provider after name) :
    (∀ request ∈ pending ++ requests, Settled after request.name) ↔
      ∀ request ∈ requests, Settled start request.name := by
  rw [forall_mem_append, and_iff_right settled]
  apply forall₂_congr
  intro request _
  by_cases flying : request.name ∈ pending.map Request.name
  · obtain ⟨other, listed, equal⟩ := mem_map.mp flying
    rw [← equal]
    exact iff_of_true (settled other listed) (began.fresh other listed).settled
  · exact ((began.same _ flying).trans (same _ flying)).settled_iff

lemma Began.accept (fits : request.tooManyInterfaces = false)
    (insertable : Insertable start request.name) (apart : request.name ∉ pending.map Request.name) :
    Began start (provider.put request.name .inserting false) (pending ++ [request]) := by
  have others : ∀ other ∈ pending, other.name ≠ request.name := by
    intro other listed equal
    apply apart
    rw [← equal]
    exact mem_map_of_mem listed
  refine ⟨⟨?_, ?_, ?_⟩, ?_, ?_⟩
  · rw [map_append, map_singleton]
    apply List.Nodup.append began.waiting.distinct (nodup_singleton _)
    exact disjoint_singleton.mpr apart
  · intro other listed
    rcases mem_append.mp listed with early | last
    · exact (Provider.put_same (others other early) _ _).inFlight
        (began.waiting.flying other early)
    · rw [mem_singleton.mp last]
      exact ⟨Provider.put_slots_self _ _, Provider.put_cache_self _ _⟩
  · intro other listed
    rcases mem_append.mp listed with early | last
    · exact began.waiting.fits other early
    · rw [mem_singleton.mp last]
      exact fits
  · intro other listed
    rcases mem_append.mp listed with early | last
    · exact began.fresh other early
    · rw [mem_singleton.mp last]
      exact insertable
  · intro name fresh
    rw [map_append, mem_append, not_or, map_singleton, mem_singleton] at fresh
    exact (began.same name fresh.1).trans (Provider.put_same fresh.2 _ _)

end

def finishBatch (pricingModel : PricingModel) (batch : Batch) : Action (List String) := do
  let (instances, errorToRaise) ←
    awaitInserts pricingModel batch.pending batch.instances batch.errorToRaise
  match errorToRaise with
  | none => pure instances
  | some error => throw ((unrecoverable pricingModel error).getD .provision)

lemma exitState_finishBatch (batch : Batch) :
    exitState ((finishBatch pricingModel batch).run provider) = exitState
      ((awaitInserts pricingModel batch.pending batch.instances batch.errorToRaise).run
        provider) := by
  unfold finishBatch
  rw [run_bind]
  cases
    (awaitInserts pricingModel batch.pending batch.instances batch.errorToRaise).run provider with
  | error exc after => rfl
  | ok result after =>
    obtain ⟨instances, errorToRaise⟩ := result
    cases errorToRaise <;> rfl

def leaves (pricingModel : PricingModel) (requests : List Request) (batch : Batch)
    (provider : Provider) : Provider :=
  exitState ((startInserts pricingModel requests batch >>= finishBatch pricingModel).run provider)

lemma drainPendingCreations_returns (pending : List Request) (provider : Provider) :
    ∃ after, (drainPendingCreations pricingModel pending).run provider = .ok () after := by
  have deleted : ∀ name state, ∃ after, (delete name).run state = .ok () after := by
    intro name state
    unfold delete
    simp only [run_bind, run_get]
    cases state.slots name <;> exact ⟨_, rfl⟩
  have drained : ∀ request state, ∃ after,
      (drainOne pricingModel request).run state = .ok () after := by
    intro request state
    unfold drainOne
    rw [run_tryCatch]
    cases (awaitInstance pricingModel request 0).run state with
    | ok value after => exact ⟨after, rfl⟩
    | error exc after =>
      cases exc with
      | provision | preempted => exact ⟨after, rfl⟩
      | api | timeout | runtime | configuration | zoneExhausted => exact deleted _ _
  obtain ⟨after, ran, -⟩ := forM_returns (fun _ _ => True)
    (fun request _ state _ => (drained request state).imp fun _ ran => ⟨ran, trivial⟩) trivial
  exact ⟨after, ran⟩

lemma startInserts_cons (rest : List Request) (batch : Batch) :
    (startInserts pricingModel (request :: rest) batch).run provider =
      if provider.cache request.name = true then
        (startInserts pricingModel rest
          { batch with instances := batch.instances ++ [request.name] }).run provider
      else
        match (buildAndInsertInstance request 0).run provider with
        | .ok _ after =>
          (startInserts pricingModel rest
            { batch with pending := batch.pending ++ [request] }).run after
        | .error (.api error) after =>
          match unrecoverable pricingModel error with
          | none =>
            (startInserts pricingModel rest { batch with errorToRaise := some error }).run after
          | some .preempted => .error .preempted
            (exitState ((drainPendingCreations pricingModel batch.pending).run after))
          | some exc => .error exc after
        | .error exc after => .error exc after := by
  simp only [startInserts, run_bind, run_get]
  cases provider.cache request.name with
  | true => rfl
  | false =>
    simp only [Bool.false_eq_true, if_false, run_bind, run_tryCatch]
    cases (buildAndInsertInstance request 0).run provider with
    | ok value after => rfl
    | error exc after =>
      cases exc with
      | api error =>
        simp only []
        cases unrecoverable pricingModel error with
        | none => rfl
        | some known =>
          cases known with
          | preempted =>
            obtain ⟨drained, ran⟩ :=
              @drainPendingCreations_returns pricingModel batch.pending after
            simp only [run_bind, ran]
            rfl
          | api | timeout | runtime | provision | configuration | zoneExhausted => rfl
      | timeout | runtime | provision | preempted | configuration | zoneExhausted => rfl

lemma buildAndInsertInstance_run (uncached : provider.cache request.name = false) :
    (buildAndInsertInstance request 0).run provider =
      if request.tooManyInterfaces = true then .error .provision provider
      else if provider.slots request.name = .free then
        match (request.attempts 0).insert with
        | none => .ok () (provider.put request.name .inserting false)
        | some error => .error (.api error) provider
      else .error (.api alreadyExists) provider := by
  unfold buildAndInsertInstance insert
  cases request.tooManyInterfaces with
  | true => rfl
  | false =>
    rw [if_neg Bool.false_ne_true, if_neg Bool.false_ne_true, run_bind]
    cases slot : provider.slots request.name with
    | free =>
      cases (request.attempts 0).insert with
      | none => simp [slot, setSlot_run uncached]
      | some error => simp [slot]
    | inserting => simp [slot]
    | machine running => simp [slot]

/-- The call settles the names of pending inserts and of definitions left in just the safe cases,
and touches no other name and none that it cannot insert. -/
structure Settles (start : Provider) (pending requests : List Request) (after : Provider)
    (safe : Prop) : Prop where
  settled_iff : (∀ request ∈ pending ++ requests, Settled after request.name) ↔
    (∀ request ∈ requests, Settled start request.name) ∧ safe
  same : ∀ name, name ∉ pending.map Request.name →
    (name ∉ requests.map Request.name ∨ ¬ Insertable start name) → Same start after name

/-- A definition that is passed is settled with the rest: its name is pending, or it is among the
names of the definitions left, or nothing happens to it. -/
lemma Settles.pass (began : Began start provider pending)
    (settles : Settles start pending requests after safe) :
    Settles start pending (request :: requests) after safe := by
  refine ⟨?_, ?_⟩
  · have own : (∀ other ∈ pending ++ requests, Settled after other.name) →
        (Settled after request.name ↔ Settled start request.name) := by
      intro settled
      by_cases flying : request.name ∈ pending.map Request.name
      · obtain ⟨other, listed, equal⟩ := mem_map.mp flying
        rw [← equal]
        exact iff_of_true (settled other (mem_append_left _ listed))
          (began.fresh other listed).settled
      · by_cases insertable : Insertable start request.name
        · by_cases later : request.name ∈ requests.map Request.name
          · obtain ⟨other, listed, equal⟩ := mem_map.mp later
            rw [← equal] at insertable ⊢
            exact iff_of_true (settled other (mem_append_right _ listed)) insertable.settled
          · exact (settles.same _ flying (.inl later)).settled_iff
        · exact (settles.same _ flying (.inr insertable)).settled_iff
    rw [forall_mem_append, forall_mem_cons, forall_mem_cons, and_left_comm,
      ← forall_mem_append, and_comm, and_congr_right own, settles.settled_iff]
    exact ⟨fun ⟨⟨others, safe⟩, first⟩ => ⟨⟨first, others⟩, safe⟩,
      fun ⟨⟨first, others⟩, safe⟩ => ⟨⟨others, safe⟩, first⟩⟩
  · intro name fresh untouched
    apply settles.same name fresh
    apply untouched.imp_left
    intro absent listed
    exact absent (mem_cons_of_mem _ listed)

lemma Settles.accept (insertable : Insertable start request.name)
    (settles : Settles start (pending ++ [request]) requests after safe) :
    Settles start pending (request :: requests) after safe := by
  refine ⟨?_, ?_⟩
  · have whole := settles.settled_iff
    rw [append_assoc, singleton_append] at whole
    rw [whole, forall_mem_cons, and_iff_right insertable.settled]
  · intro name fresh untouched
    have differ : name ≠ request.name := by
      rintro rfl
      rcases untouched with absent | taken
      · exact absent mem_cons_self
      · exact taken insertable
    apply settles.same name
    · rw [map_append, mem_append, not_or, map_singleton, mem_singleton]
      exact ⟨fresh, differ⟩
    · apply untouched.imp_left
      intro absent listed
      exact absent (mem_cons_of_mem _ listed)

lemma Began.settles_left (began : Began start provider pending) (requests : List Request) :
    Settles start pending requests provider (pending = []) :=
  ⟨began.left_iff requests, fun name fresh _ => began.same name fresh⟩

lemma Began.settles_drained (began : Began start provider pending) (requests : List Request) :
    Settles start pending requests
      (exitState ((drainPendingCreations pricingModel pending).run provider)) True := by
  obtain ⟨after, drained, settled, same⟩ :=
    @drainPendingCreations_run pricingModel pending provider began.waiting
  rw [drained]
  refine ⟨?_, fun name fresh _ => (began.same name fresh).trans (same name fresh)⟩
  rw [and_true]
  exact began.drained_iff requests settled same

lemma leaves_settles {batch : Batch} {provider : Provider} (requests : List Request)
    (began : Began start provider batch.pending) :
    Settles start batch.pending requests (leaves pricingModel requests batch provider)
      (SafeInserts pricingModel start requests batch.pending) := by
  induction requests generalizing provider batch with
  | nil =>
    have settles := @awaitInserts_settles pricingModel batch.pending provider began.waiting
      batch.instances batch.errorToRaise
    have exit : leaves pricingModel [] batch provider = exitState
        ((awaitInserts pricingModel batch.pending batch.instances batch.errorToRaise).run
          provider) := exitState_finishBatch batch
    rw [exit]
    refine ⟨?_, fun name fresh _ => (began.same name fresh).trans (settles.2 name fresh)⟩
    rw [append_nil, settles.1]
    simp [SafeInserts]
  | cons request rest ih =>
    rw [leaves, run_bind, startInserts_cons]
    unfold SafeInserts
    by_cases cached : start.cache request.name = true
    · rw [if_pos ((began.cache_eq request.name).trans cached), if_pos cached]
      exact (@ih { batch with instances := batch.instances ++ [request.name] } _ began).pass began
    · have uncached : provider.cache request.name = false :=
        (began.cache_eq request.name).trans (Bool.eq_false_iff.mpr cached)
      rw [if_neg cached, if_neg (Bool.eq_false_iff.mp uncached),
        buildAndInsertInstance_run uncached]
      by_cases tooMany : request.tooManyInterfaces = true
      · rw [if_pos tooMany, if_pos tooMany]
        exact began.settles_left _
      · rw [if_neg tooMany, if_neg tooMany]
        by_cases taken : start.slots request.name ≠ .free ∨
            request.name ∈ batch.pending.map Request.name
        · rw [if_pos taken, if_neg (mt (began.free_iff request.name).mp (not_and_or.mpr
            (taken.imp_right not_not_intro)))]
          simp only [unrecoverable_alreadyExists]
          exact (@ih { batch with errorToRaise := some alreadyExists } _ began).pass began
        · obtain ⟨free, apart⟩ := not_or.mp taken
          have free := not_not.mp free
          have insertable : Insertable start request.name := ⟨Bool.eq_false_iff.mpr cached, free⟩
          rw [if_neg taken, if_pos ((began.free_iff request.name).mpr ⟨free, apart⟩)]
          cases (request.attempts 0).insert with
          | none =>
            have fits := Bool.eq_false_iff.mpr tooMany
            exact (@ih { batch with pending := batch.pending ++ [request] } _
              (began.accept fits insertable apart)).accept insertable
          | some error =>
            simp only []
            cases unrecoverable pricingModel error with
            | none => exact (@ih { batch with errorToRaise := some error } _ began).pass began
            | some exc =>
              cases exc with
              | preempted => exact began.settles_drained _
              | api | timeout | runtime | provision | configuration | zoneExhausted =>
                exact began.settles_left _

/-- When `get_or_create` returns or raises, each requested name is cached with a running VM or free
to be inserted again if and only if it was so before, and the answers are safe. -/
theorem getOrCreate_settles_iff (pricingModel : PricingModel) (requests : List Request)
    (provider : Provider) :
    (∀ request ∈ requests, Settled
        (exitState ((getOrCreate pricingModel requests).run provider)) request.name) ↔
      (∀ request ∈ requests, Settled provider request.name) ∧
        SafeInserts pricingModel provider requests [] := by
  exact (@leaves_settles pricingModel provider ⟨[], [], none⟩ provider requests
    (.nil provider)).settled_iff

def servedAttempt : Attempt := ⟨none, .done, .running⟩

def exhaustedError : ApiError := ⟨false, false, true, false⟩

def otherError : ApiError := ⟨false, false, false, false⟩

def emptyProvider : Provider := ⟨fun _ => false, fun _ => .free⟩

def refusedPair : List Request :=
  [⟨"db-1", false, fun _ => servedAttempt⟩,
    ⟨"db-2", false, fun _ => ⟨some exhaustedError, .done, .running⟩⟩]

def unpolled : List Request := [⟨"db-1", false, fun _ => ⟨none, .done, .failed otherError⟩⟩]

/-- From an empty zone, the first batch raises with the insert of its first name in flight, and the
second with a VM that is neither cached nor deleted. -/
theorem getOrCreate_leaves_unsettled :
    (∀ request ∈ refusedPair ++ unpolled, Settled emptyProvider request.name) ∧
      (¬ ∀ request ∈ refusedPair, Settled
        (exitState ((getOrCreate .spot refusedPair).run emptyProvider)) request.name) ∧
      ¬ ∀ request ∈ unpolled, Settled
        (exitState ((getOrCreate .spot unpolled).run emptyProvider)) request.name := by
  decide

end Sct.GceVm
