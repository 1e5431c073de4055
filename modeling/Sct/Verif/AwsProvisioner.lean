import Sct.Provision.Aws.Provisioner
import Sct.Verif.AwsCluster

/-!
# What a provision plan leaves on AWS

A plan tries its steps one after another, each for all the instances. A batch on spot that is not
fulfilled gives nothing and does not end the step. So a plan ends with all its instances or with none
when the step it stops at is fulfilled in every batch, or every step is refused and nothing of its
batches keeps running.
-/

open Sct.Effect
open List

namespace Sct.Aws

/-! ## What a request gives -/

variable {isFleet : Bool} {number : Nat} {count : Nat}

lemma getProvisionedInstanceIds_le {poll : Poll}
    (given : getProvisionedInstanceIds isFleet count poll = some number) : number ≤ count := by
  unfold getProvisionedInstanceIds at given
  split at given
  · unfold getProvisionedFleetInstanceIds at given
    split at given
    · obtain ⟨active, _, rfl⟩ := Option.map_eq_some_iff.mp given
      exact Nat.min_le_left count active
    · cases given
    · cases given
      exact Nat.zero_le count
  · unfold getProvisionedSpotInstanceIds at given
    split at given
    · split at given
      · cases given
      · cases given
        exact Nat.zero_le count
      · cases given
        exact length_take_le _ _
    · cases given
      exact Nat.zero_le count

lemma waitForProvisionRequestDone_le (isFleet : Bool) (count : Nat) (polls : List Poll) :
    waitForProvisionRequestDone isFleet count polls ≤ count := by
  induction polls with
  | nil => exact Nat.zero_le count
  | cons poll rest ih =>
    unfold waitForProvisionRequestDone
    split
    · exact Nat.zero_le count
    · exact ih
    · rename_i number _ given
      exact getProvisionedInstanceIds_le given

/-- How many instances a request gives, unless it raises. -/
def Answer.gives (isFleet : Bool) (count : Nat) : Answer → Option Nat
  | .raised _ => none
  | .accepted request =>
    if request.obtained isFleet count = 0 then some 0
    else if request.cancelRaises = none then some (request.obtained isFleet count) else none

/-- Whether a request that gives nothing leaves nothing running. -/
def Answer.Clears (isFleet : Bool) (count : Nat) : Answer → Prop
  | .raised _ => True
  | .accepted request => min request.started count = 0 ∨
      (isFleet = true ∧ request.cancelRaises = none)

lemma Answer.gives_le {answer : Answer} (given : answer.gives isFleet count = some number) :
    number ≤ count := by
  unfold gives at given
  split at given
  · cases given
  · split at given
    · cases given
      exact Nat.zero_le count
    · split at given
      · cases given
        exact waitForProvisionRequestDone_le _ _ _
      · cases given

/-! ## Machines -/

def Cloud.shown (cloud : Cloud) (id : Nat) : Option (Bool × Option String) :=
  cloud.machines[id]?.map fun machine => (machine.running, machine.tags "Name")

def Cloud.Runs (cloud : Cloud) (ids : List Nat) (names : List (Option String)) : Prop :=
  ids.map cloud.shown = names.map fun name => some (true, name)

/-- Nothing runs of the machines started after the first ones. -/
def Cloud.Quiet (cloud : Cloud) (first : Nat) : Prop :=
  ∀ machine ∈ cloud.machines.drop first, machine.running = false

/-- A later state of EC2: machines were added. -/
structure Cloud.Extends (cloud after : Cloud) (made : List Machine) : Prop where
  machines : after.machines = cloud.machines ++ made
  answers : after.answers = cloud.answers

variable {cloud after : Cloud} {made : List Machine}

lemma Cloud.Extends.trans {middle : Cloud} {more : List Machine}
    (first : cloud.Extends middle made) (second : middle.Extends after more) :
    cloud.Extends after (made ++ more) := by
  constructor
  · rw [second.machines, first.machines, append_assoc]
  · rw [second.answers, first.answers]

variable {ids : List Nat}

lemma Cloud.Extends.runs (later : cloud.Extends after made) {names : List (Option String)}
    (runs : cloud.Runs ids names) : after.Runs ids names := by
  unfold Runs at runs ⊢
  rw [← runs]
  apply map_congr_left
  intro id listed
  have held := runs ▸ mem_map_of_mem listed
  obtain ⟨name, _, same⟩ := mem_map.mp held
  obtain ⟨machine, present, _⟩ := Option.map_eq_some_iff.mp same.symm
  have inside : id < cloud.machines.length := (List.getElem?_eq_some_iff.mp present).1
  rw [shown, shown, later.machines, getElem?_append_left inside]

variable {first : Nat}

lemma Cloud.Extends.started (later : cloud.Extends after made)
    (started : first ≤ cloud.machines.length) : first ≤ after.machines.length := by
  rw [later.machines, length_append]
  omega

lemma Cloud.Extends.quiet_iff (later : cloud.Extends after made)
    (started : first ≤ cloud.machines.length) :
    after.Quiet first ↔ cloud.Quiet first ∧ ∀ machine ∈ made, machine.running = false := by
  rw [Quiet, later.machines, drop_append_of_le_length started]
  exact forall_mem_append

def Named (tags : List Tags) : Prop := ∀ own ∈ tags, (own "Name").isSome

def namesOf (tags : List Tags) : List (Option String) := tags.map fun own => own "Name"

variable {tags : List Tags}

lemma runs_tagged (cloud : Cloud) (kind : String) (launch : Tags) (named : Named tags)
    (enough : number ≤ tags.length) :
    (cloud.start (tagged cloud kind launch tags number)).Runs (cloud.nextIds number)
      (namesOf (tags.reverse.take number)) := by
  apply ext_getElem
  · simp [Cloud.nextIds, namesOf, enough]
  · intro place first second
    have short : place < number := by simpa [Cloud.nextIds] using first
    have inside : place < tags.reverse.length := by
      rw [length_reverse]
      omega
    obtain ⟨name, given⟩ := Option.isSome_iff_exists.mp
      (named _ (mem_reverse.mp (getElem_mem inside)))
    have made : (tagged cloud kind launch tags number)[place]? = some
        ⟨writeTags kind launch (cloud.machines.length + place) place tags.reverse[place], true⟩ := by
      rw [tagged, getElem?_map, getElem?_range short, Option.map_some,
        getElem?_eq_getElem inside]
    have placed : (cloud.start (tagged cloud kind launch tags number)).shown
        (cloud.machines.length + place) = some (true, tags.reverse[place] "Name") := by
      rw [Cloud.shown, Cloud.start, getElem?_append_right (Nat.le_add_right _ _),
        Nat.add_sub_cancel_left, made, Option.map_some]
      simp only [writeTags, Tags.union, given]
      rfl
    simp only [Cloud.nextIds, getElem_range', Nat.one_mul, placed, namesOf, getElem_map,
      getElem_take]

/-! ## Batches -/

/-- The outcome of a request that returned: what it gives, what it leaves. -/
structure Served (isFleet : Bool) (count : Nat) (tags : List Tags) (cloud : Cloud) (ids : List Nat)
    (left : List Tags) (after : Cloud) (number : Nat) (made : List Machine) : Prop where
  gives : (cloud.answers cloud.requests).gives isFleet count = some number
  extends_ : cloud.Extends after made
  requests : after.requests = cloud.requests + 1
  length : ids.length = number
  left : left = tags.take (tags.length - number)
  runs : Named tags → after.Runs ids (namesOf (tags.reverse.take number))
  quiet : number = 0 → ((∀ machine ∈ made, machine.running = false) ↔
    (cloud.answers cloud.requests).Clears isFleet count)

lemma executeSpotRequest_ok {left : List Tags}
    (ran : (executeSpotRequest isFleet count tags).run cloud = .ok (ids, left) after) :
    ∃ number made, Served isFleet count tags cloud ids left after number made := by
  unfold executeSpotRequest at ran
  split at ran
  · cases ran
  · obtain ⟨seen, middle, asked, rest⟩ := bind_ok_iff.mp ran
    cases asked
    split at rest
    · cases rest
    · rename_i request answered
      simp only at rest
      split at rest
      · rename_i nothing
        cases rest
        refine ⟨0, _, ?_, ⟨rfl, rfl⟩, rfl, rfl, ?_, ?_, ?_⟩
        · rw [answered, Answer.gives, if_pos nothing]
        · rw [Nat.sub_zero, take_length]
        · intro _
          rfl
        · intro _
          rw [answered, Answer.Clears, forall_mem_replicate]
          simp only [Bool.not_eq_false', Bool.and_eq_true, Option.isNone_iff_eq_none]
      · rename_i something
        obtain ⟨_, started, changed, rest⟩ := bind_ok_iff.mp rest
        cases changed
        split at rest
        · cases rest
        · rename_i enough
          split at rest
          · cases rest
          · rename_i closed
            cases rest
            refine ⟨request.obtained isFleet count, _, ?_, ⟨rfl, rfl⟩, rfl, ?_, rfl, ?_, ?_⟩
            · rw [answered, Answer.gives, if_neg something, if_pos closed]
            · exact length_range'
            · intro named
              exact runs_tagged _ _ _ named (Nat.le_of_not_lt enough)
            · intro zero
              exact absurd zero something

lemma executeSpotRequest_returns (present : 0 < tags.length) (enough : number ≤ tags.length)
    (gives : (cloud.answers cloud.requests).gives isFleet count = some number) :
    ∃ ids left after, (executeSpotRequest isFleet count tags).run cloud = .ok (ids, left) after := by
  cases ran : (executeSpotRequest isFleet count tags).run cloud with
  | ok result after => exact ⟨result.1, result.2, after, rfl⟩
  | error exc after =>
    unfold executeSpotRequest at ran
    split at ran
    · exact absurd present (Nat.lt_irrefl 0)
    · cases bind_error_iff.mp ran with
      | inl asked => cases asked
      | inr later =>
        obtain ⟨seen, middle, asked, rest⟩ := later
        cases asked
        split at rest
        · rename_i answered
          rw [answered] at gives
          cases gives
        · rename_i request answered
          rw [answered, Answer.gives] at gives
          simp only at rest
          split at rest
          · cases rest
          · rename_i something
            rw [if_neg something] at gives
            cases bind_error_iff.mp rest with
            | inl changed => cases changed
            | inr later =>
              split at gives
              · rename_i closed
                cases gives
                rw [if_neg (Nat.not_lt.mpr enough), closed] at rest
                cases rest
              · cases gives

/-- What the batches of a step give, from a request on. -/
def Gives (answers : Nat → Answer) (count : Nat) : Nat → List Nat → List Nat → Prop
  | _, [], [] => True
  | request, size :: sizes, number :: numbers =>
    (answers request).gives (isProvisionTypeFleet count && decide (size > 1)) size = some number ∧
      Gives answers count (request + 1) sizes numbers
  | _, _, _ => False

/-- Whether batches that give nothing leave nothing running. -/
def Clear (answers : Nat → Answer) (count : Nat) : Nat → List Nat → Prop
  | _, [] => True
  | request, size :: sizes =>
    (answers request).Clears (isProvisionTypeFleet count && decide (size > 1)) size ∧
      Clear answers count (request + 1) sizes

lemma executeBatches_ok {sizes : List Nat} (enough : sizes.sum ≤ tags.length)
    (ran : (executeBatches count sizes tags).run cloud = .ok ids after) :
    ∃ numbers made, Gives cloud.answers count cloud.requests sizes numbers ∧
      cloud.Extends after made ∧ after.requests = cloud.requests + sizes.length ∧
      ids.length = numbers.sum ∧
      (Named tags → after.Runs ids (namesOf (tags.reverse.take numbers.sum))) ∧
      (numbers.sum = 0 → ((∀ machine ∈ made, machine.running = false) ↔
        Clear cloud.answers count cloud.requests sizes)) := by
  induction sizes generalizing tags cloud ids with
  | nil =>
    cases ran
    refine ⟨[], [], trivial, ⟨(append_nil _).symm, rfl⟩, rfl, rfl, fun _ => ?_, fun _ => ?_⟩
    · simp [Cloud.Runs, namesOf]
    · simp [Clear]
  | cons size sizes ih =>
    obtain ⟨⟨new, left⟩, middle, first, rest⟩ := bind_ok_iff.mp ran
    obtain ⟨more, last, others, ended⟩ := bind_ok_iff.mp rest
    cases ended
    obtain ⟨number, made, served⟩ := executeSpotRequest_ok first
    have short := Answer.gives_le served.gives
    rw [sum_cons] at enough
    have remaining : left.length = tags.length - number := by
      rw [served.left, length_take]
      omega
    obtain ⟨numbers, later, gives, grown, asked, length, runs, quiet⟩ :=
      ih (by omega) others
    rw [served.extends_.answers, served.requests] at gives quiet
    refine ⟨number :: numbers, made ++ later, ⟨served.gives, gives⟩, served.extends_.trans grown,
      ?_, ?_, ?_, ?_⟩
    · rw [asked, served.requests, length_cons]
      omega
    · rw [length_append, served.length, length, sum_cons]
    · intro named
      have kept : Named left := fun own held =>
        named own (mem_of_mem_take (served.left ▸ held))
      have split : tags.reverse.take (number :: numbers).sum =
          tags.reverse.take number ++ left.reverse.take numbers.sum := by
        rw [sum_cons, served.left, reverse_take, take_add]
        congr 2
        congr 1
        omega
      have earlier := grown.runs (served.runs named)
      have now := runs kept
      unfold Cloud.Runs at earlier now ⊢
      rw [split, namesOf, map_append, map_append, map_append, ← namesOf, ← namesOf,
        earlier, now]
    · intro nothing
      rw [sum_cons] at nothing
      rw [forall_mem_append, served.quiet (by omega), quiet (by omega)]
      rfl

lemma executeBatches_returns {sizes numbers : List Nat} (enough : sizes.sum ≤ tags.length)
    (positive : ∀ size ∈ sizes, 0 < size)
    (gives : Gives cloud.answers count cloud.requests sizes numbers) :
    ∃ ids after, (executeBatches count sizes tags).run cloud = .ok ids after := by
  induction sizes generalizing numbers tags cloud with
  | nil => exact ⟨[], cloud, rfl⟩
  | cons size sizes ih =>
    cases numbers with
    | nil => exact gives.elim
    | cons number numbers =>
      rw [sum_cons] at enough
      have asked := positive size mem_cons_self
      have short := Answer.gives_le gives.1
      have present : 0 < tags.length := by omega
      have room : number ≤ tags.length := by omega
      obtain ⟨new, left, middle, first⟩ := executeSpotRequest_returns present room gives.1
      obtain ⟨again, made, served⟩ := executeSpotRequest_ok first
      obtain rfl : again = number := Option.some.inj (served.gives.symm.trans gives.1)
      have remaining : left.length = tags.length - again := by
        rw [served.left, length_take]
        omega
      have later := gives.2
      rw [← served.extends_.answers, ← served.requests] at later
      have fits : sizes.sum ≤ left.length := by omega
      obtain ⟨more, after, others⟩ := ih fits
        (fun other listed => positive other (mem_cons_of_mem size listed)) later
      refine ⟨new ++ more, after, ?_⟩
      exact bind_ok_iff.mpr ⟨(new, left), middle, first,
        bind_ok_iff.mpr ⟨more, after, others, rfl⟩⟩

section

variable {answers : Nat → Answer} {count request : Nat} {sizes numbers : List Nat}

section

variable (gives : Gives answers count request sizes numbers)

include gives

lemma Gives.sum_le : numbers.sum ≤ sizes.sum := by
  fun_induction Gives answers count request sizes numbers with
  | case1 => exact Nat.le_refl _
  | case2 request size sizes number numbers ih =>
    exact Nat.add_le_add (Answer.gives_le gives.1) (ih gives.2)
  | case3 => exact gives.elim

lemma Gives.unique {others : List Nat}
    (also : Gives answers count request sizes others) : numbers = others := by
  fun_induction Gives answers count request sizes numbers generalizing others with
  | case1 =>
    cases others with
    | nil => rfl
    | cons other others => exact also.elim
  | case2 request size sizes number numbers ih =>
    cases others with
    | nil => exact also.elim
    | cons other others =>
      have first : number = other := Option.some.inj (gives.1.symm.trans also.1)
      rw [first, ih gives.2 also.2]
  | case3 => exact gives.elim

lemma Gives.eq_of_sum_eq (all : numbers.sum = sizes.sum) : numbers = sizes := by
  fun_induction Gives answers count request sizes numbers with
  | case1 => rfl
  | case2 request size sizes number numbers ih =>
    rw [sum_cons, sum_cons] at all
    have first := Answer.gives_le gives.1
    have rest := Gives.sum_le gives.2
    have same : number = size := by omega
    rw [same, ih gives.2 (by omega)]
  | case3 => exact gives.elim

lemma Gives.eq_of_sum_eq_zero (nothing : numbers.sum = 0) :
    numbers = List.replicate sizes.length 0 := by
  fun_induction Gives answers count request sizes numbers with
  | case1 => rfl
  | case2 request size sizes number numbers ih =>
    rw [sum_cons] at nothing
    have zero : number = 0 := by omega
    rw [zero, ih gives.2 (by omega)]
    rfl
  | case3 => exact gives.elim

end

end

variable {fuel rest : Nat} {limit : Nat}

lemma sum_spotBatches (some : 0 < limit) (enough : rest ≤ fuel) :
    (spotBatches limit fuel rest).sum = rest := by
  induction fuel generalizing rest with
  | zero => exact (Nat.le_zero.mp enough).symm
  | succ fuel ih =>
    unfold spotBatches
    split
    · rename_i nothing
      exact nothing.symm
    · simp only [sum_cons]
      split
      · rename_i full
        have below : limit ≤ rest := by
          by_contra less
          exact full (Nat.div_eq_of_lt (by omega))
        rw [ih (by omega)]
        omega
      · rw [ih (by omega)]
        omega

lemma spotBatches_positive (some : 0 < limit) :
    ∀ size ∈ spotBatches limit fuel rest, 0 < size := by
  induction fuel generalizing rest with
  | zero =>
    intro size listed
    cases listed
  | succ fuel ih =>
    unfold spotBatches
    split
    · intro size listed
      cases listed
    · intro size listed
      cases mem_cons.mp listed with
      | inl first =>
        rw [first]
        split <;> omega
      | inr later => exact ih size later

lemma provisionInstanceLimit_pos (count : Nat) : 0 < provisionInstanceLimit count := by
  unfold provisionInstanceLimit
  split <;> decide

lemma sum_batches (count : Nat) : (batches count).sum = count :=
  sum_spotBatches (provisionInstanceLimit_pos count) (Nat.le_refl count)

/-! ## Plans -/

def Fulfilled (answers : Nat → Answer) (count request : Nat) : Prop :=
  Gives answers count request (batches count) (batches count)

def Unfulfilled (answers : Nat → Answer) (count request : Nat) : Prop :=
  Gives answers count request (batches count) (List.replicate (batches count).length 0)

/-- A plan comes to a step that is fulfilled in every batch, after steps that are not in any. -/
def Succeeds (answers : Nat → Answer) (count : Nat) : Nat → List ProvisionKind → Prop
  | _, [] => False
  | request, .spot :: rest => Fulfilled answers count request ∨
      (Unfulfilled answers count request ∧
        Succeeds answers count (request + (batches count).length) rest)
  | request, .onDemand :: _ => ∃ launched, answers request = .accepted launched

/-- No step of a plan gives an instance, and nothing of its requests keeps running. -/
def Stops (answers : Nat → Answer) (count : Nat) : Nat → List ProvisionKind → Prop
  | _, [] => True
  | request, .spot :: rest => Unfulfilled answers count request ∧
      Clear answers count request (batches count) ∧
      Stops answers count (request + (batches count).length) rest
  | _, .onDemand :: _ => False

/-- A plan returns the instances asked for, which run under the names asked for, or nothing, and
then nothing it started runs. -/
def ProvisionsOrClears (request : Request) (plan : List ProvisionKind) (before : Cloud) : Prop :=
  ∃ ids after, (provisionInstances request (plan.map provisionStep)).run before = .ok ids after ∧
    ((ids.length = request.nodeCount ∧
        ∃ names : List String, names.Perm request.nodeNames ∧ after.Runs ids (names.map some)) ∨
      (ids = [] ∧ after.Quiet before.machines.length))

lemma length_nameTags (names : List String) (tags : List Tags) :
    (nameTags names tags).length = tags.length := by
  fun_induction nameTags names tags with
  | case1 name names own rest ih => rw [length_cons, length_cons, ih]
  | case2 => rfl

variable {names : List String}

lemma namesOf_nameTags (same : names.length = tags.length) :
    namesOf (nameTags names tags) = names.map some := by
  induction names generalizing tags with
  | nil =>
    obtain rfl : tags = [] := length_eq_zero_iff.mp same.symm
    rfl
  | cons name names ih =>
    cases tags with
    | nil => cases same
    | cons own rest =>
      have named := ih (Nat.succ.inj same)
      rw [nameTags, namesOf, map_cons, Tags.set_self, ← namesOf, named]
      rfl

lemma named_nameTags (same : names.length = tags.length) : Named (nameTags names tags) := by
  intro own listed
  have held : own "Name" ∈ namesOf (nameTags names tags) := mem_map_of_mem listed
  rw [namesOf_nameTags same] at held
  obtain ⟨name, _, given⟩ := mem_map.mp held
  rw [← given]
  rfl

variable {request : Request}

lemma provisionInstanceStep_sized {κ ι : Type} (sized : request.Sized) (step : ProvisionStep κ ι) :
    provisionInstanceStep step request =
      step { request with nodeTags := nameTags request.nodeNames request.nodeTags } := by
  unfold provisionInstanceStep
  rw [if_neg (fun wrong => wrong.2 sized.names), if_neg (fun wrong => wrong sized.tags)]

lemma runs_requested (sized : request.Sized)
    (runs : after.Runs ids (namesOf ((nameTags request.nodeNames request.nodeTags).reverse.take
      request.nodeCount))) :
    ∃ names : List String, names.Perm request.nodeNames ∧ after.Runs ids (names.map some) := by
  refine ⟨request.nodeNames.reverse, reverse_perm _, ?_⟩
  have same := sized.names.trans sized.tags.symm
  have whole : (nameTags request.nodeNames request.nodeTags).reverse.take request.nodeCount =
      (nameTags request.nodeNames request.nodeTags).reverse := by
    apply take_of_length_le
    rw [length_reverse, length_nameTags, sized.tags]
  have listed : namesOf (nameTags request.nodeNames request.nodeTags).reverse =
      request.nodeNames.reverse.map some := by
    rw [map_reverse, ← namesOf_nameTags same, namesOf, map_reverse]
    rfl
  rw [whole, listed] at runs
  exact runs

section

variable {request : Request} (sized : request.Sized) (positive : 0 < request.nodeCount)

include sized

variable {cloud : Cloud} {ids : List Nat} {after : Cloud}

lemma spotStep_ok
    (ran : (provisionInstanceStep (provisionStep .spot) request).run cloud = .ok ids after) :
    ∃ numbers made, Gives cloud.answers request.nodeCount cloud.requests
        (batches request.nodeCount) numbers ∧
      cloud.Extends after made ∧
      after.requests = cloud.requests + (batches request.nodeCount).length ∧
      ids.length = numbers.sum ∧
      (numbers.sum = request.nodeCount →
        ∃ names : List String, names.Perm request.nodeNames ∧ after.Runs ids (names.map some)) ∧
      (numbers.sum = 0 → ((∀ machine ∈ made, machine.running = false) ↔
        Clear cloud.answers request.nodeCount cloud.requests (batches request.nodeCount))) := by
  rw [provisionInstanceStep_sized sized] at ran
  have enough : (batches request.nodeCount).sum ≤
      (nameTags request.nodeNames request.nodeTags).length := by
    rw [sum_batches, length_nameTags, sized.tags]
  obtain ⟨numbers, made, gives, grown, asked, length, runs, quiet⟩ := executeBatches_ok enough ran
  refine ⟨numbers, made, gives, grown, asked, length, fun all => ?_, quiet⟩
  apply runs_requested sized
  have named := runs (named_nameTags (sized.names.trans sized.tags.symm))
  rwa [all] at named

lemma spotStep_returns {numbers : List Nat}
    (gives : Gives cloud.answers request.nodeCount cloud.requests (batches request.nodeCount)
      numbers) :
    ∃ ids after,
      (provisionInstanceStep (provisionStep .spot) request).run cloud = .ok ids after := by
  rw [provisionInstanceStep_sized sized]
  have enough : (batches request.nodeCount).sum ≤
      (nameTags request.nodeNames request.nodeTags).length := by
    rw [sum_batches, length_nameTags, sized.tags]
  exact executeBatches_returns enough (spotBatches_positive (provisionInstanceLimit_pos _)) gives

lemma spotStep_empty (refused : Unfulfilled cloud.answers request.nodeCount cloud.requests) :
    ∃ middle made,
      (provisionInstanceStep (provisionStep .spot) request).run cloud = .ok [] middle ∧
      cloud.Extends middle made ∧
      middle.requests = cloud.requests + (batches request.nodeCount).length ∧
      ((∀ machine ∈ made, machine.running = false) ↔
        Clear cloud.answers request.nodeCount cloud.requests (batches request.nodeCount)) := by
  obtain ⟨ids, middle, step⟩ := spotStep_returns sized refused
  obtain ⟨numbers, made, gives, grown, asked, length, _, quiet⟩ := spotStep_ok sized step
  have nothing : numbers.sum = 0 := by
    rw [gives.unique refused, sum_replicate_nat, Nat.mul_zero]
  have none : ids = [] := length_eq_zero_iff.mp (length.trans nothing)
  rw [none] at step
  exact ⟨middle, made, step, grown, asked, quiet nothing⟩

lemma onDemandStep_ok
    (ran : (provisionInstanceStep (provisionStep .onDemand) request).run cloud = .ok ids after) :
    (∃ launched, cloud.answers cloud.requests = .accepted launched) ∧
      ids.length = request.nodeCount ∧
      ∃ names : List String, names.Perm request.nodeNames ∧ after.Runs ids (names.map some) := by
  rw [provisionInstanceStep_sized sized] at ran
  change (provisionOnDemandInstances _).run cloud = _ at ran
  unfold provisionOnDemandInstances at ran
  have named := named_nameTags (sized.names.trans sized.tags.symm)
  have enough : request.nodeCount ≤ (nameTags request.nodeNames request.nodeTags).length := by
    rw [length_nameTags, sized.tags]
  split at ran
  · cases ran
  · rename_i first others given
    obtain ⟨seen, middle, asked, rest⟩ := bind_ok_iff.mp ran
    cases asked
    split at rest
    · cases rest
    · rename_i launched accepted
      obtain ⟨_, started, changed, rest⟩ := bind_ok_iff.mp rest
      cases changed
      split at rest
      · cases rest
      · cases rest
        refine ⟨⟨launched, accepted⟩, length_range', runs_requested sized ?_⟩
        exact runs_tagged cloud.asked "spot_fleet" first named enough

lemma onDemandStep_returns (positive : 0 < request.nodeCount) {launched : Accepted}
    (accepted : cloud.answers cloud.requests = .accepted launched) :
    ∃ ids after,
      (provisionInstanceStep (provisionStep .onDemand) request).run cloud = .ok ids after := by
  rw [provisionInstanceStep_sized sized]
  have length : (nameTags request.nodeNames request.nodeTags).length = request.nodeCount := by
    rw [length_nameTags, sized.tags]
  cases given : nameTags request.nodeNames request.nodeTags with
  | nil =>
    rw [given] at length
    exact absurd length (Nat.ne_of_lt positive)
  | cons first others =>
    rw [given] at length
    have enough : ¬(first :: others).length < request.nodeCount := by omega
    refine ⟨cloud.nextIds request.nodeCount, cloud.asked.start
      (tagged cloud.asked "spot_fleet" first (first :: others) request.nodeCount), ?_⟩
    refine bind_ok_iff.mpr ⟨cloud, cloud.asked, rfl, ?_⟩
    simp only [accepted]
    rw [if_neg enough]
    rfl

end

lemma provisionInstances_cons_ok_iff {kind : ProvisionKind} {rest : List ProvisionKind} :
    (provisionInstances request ((kind :: rest).map provisionStep)).run cloud = .ok ids after ↔
      ∃ given middle,
        (provisionInstanceStep (provisionStep kind) request).run cloud = .ok given middle ∧
        ((given = [] ∧
            (provisionInstances request (rest.map provisionStep)).run middle = .ok ids after) ∨
          (given ≠ [] ∧ ids = given ∧ after = middle)) := by
  rw [map_cons, provisionInstances, bind_ok_iff]
  apply exists_congr
  intro given
  apply exists_congr
  intro middle
  apply and_congr_right
  intro _
  cases given with
  | nil => simp
  | cons id more =>
    simp only [isEmpty_cons, Bool.false_eq_true, if_false, reduceCtorEq, false_and, false_or,
      ne_eq, not_false_eq_true, true_and]
    constructor
    · intro ended
      cases ended
      exact ⟨rfl, rfl⟩
    · intro ended
      obtain ⟨rfl, rfl⟩ := ended
      rfl

lemma provisionInstances_zero_iff (sized : request.Sized) (zero : request.nodeCount = 0)
    (plan : List ProvisionKind) (cloud : Cloud) :
    (provisionInstances request (plan.map provisionStep)).run cloud = .ok ids after ↔
      Stops cloud.answers request.nodeCount cloud.requests plan ∧ ids = [] ∧ after = cloud := by
  have untagged : nameTags request.nodeNames request.nodeTags = [] := by
    apply length_eq_zero_iff.mp
    rw [length_nameTags, sized.tags, zero]
  induction plan with
  | nil =>
    constructor
    · intro ran
      cases ran
      exact ⟨trivial, rfl, rfl⟩
    · intro stopped
      obtain ⟨_, rfl, rfl⟩ := stopped
      rfl
  | cons kind rest ih =>
    rw [provisionInstances_cons_ok_iff]
    cases kind with
    | spot =>
      have idle : (provisionInstanceStep (provisionStep .spot) request).run cloud =
          .ok [] cloud := by
        rw [provisionInstanceStep_sized sized]
        rw [zero]
        rfl
      have free : Stops cloud.answers request.nodeCount cloud.requests (.spot :: rest) ↔
          Stops cloud.answers request.nodeCount cloud.requests rest := by
        rw [zero]
        exact ⟨fun stopped => stopped.2.2, fun stopped => ⟨trivial, trivial, stopped⟩⟩
      rw [free, idle]
      constructor
      · intro ran
        obtain ⟨given, middle, same, ended⟩ := ran
        cases same
        cases ended with
        | inl later => exact ih.mp later.2
        | inr now => exact absurd rfl now.1
      · intro stopped
        exact ⟨[], cloud, rfl, .inl ⟨rfl, ih.mpr stopped⟩⟩
    | onDemand =>
      have raises : (provisionInstanceStep (provisionStep .onDemand) request).run cloud =
          .error indexError cloud := by
        rw [provisionInstanceStep_sized sized, untagged]
        rfl
      rw [raises]
      constructor
      · intro ran
        obtain ⟨given, middle, same, _⟩ := ran
        cases same
      · intro stopped
        exact stopped.1.elim

lemma provisions_iff (sized : request.Sized) (positive : 0 < request.nodeCount)
    (plan : List ProvisionKind) (started : first ≤ cloud.machines.length) :
    (∃ ids after, (provisionInstances request (plan.map provisionStep)).run cloud = .ok ids after ∧
      ((ids.length = request.nodeCount ∧
          ∃ names : List String, names.Perm request.nodeNames ∧ after.Runs ids (names.map some)) ∨
        (ids = [] ∧ after.Quiet first))) ↔
      Succeeds cloud.answers request.nodeCount cloud.requests plan ∨
        (cloud.Quiet first ∧ Stops cloud.answers request.nodeCount cloud.requests plan) := by
  induction plan generalizing cloud with
  | nil =>
    constructor
    · intro ran
      obtain ⟨ids, after, ended, good⟩ := ran
      cases ended
      cases good with
      | inl full => exact absurd full.1 (Nat.ne_of_lt positive)
      | inr quiet => exact .inr ⟨quiet.2, trivial⟩
    · intro good
      cases good with
      | inl success => exact success.elim
      | inr quiet => exact ⟨[], cloud, rfl, .inr ⟨rfl, quiet.1⟩⟩
  | cons kind rest ih =>
    simp only [provisionInstances_cons_ok_iff]
    cases kind with
    | spot =>
      constructor
      · intro ran
        obtain ⟨ids, after, ⟨given, middle, step, ended⟩, good⟩ := ran
        obtain ⟨numbers, made, gives, grown, asked, length, _, quiet⟩ := spotStep_ok sized step
        cases ended with
        | inl later =>
          obtain ⟨rfl, later⟩ := later
          have nothing : numbers.sum = 0 := length.symm
          have refused : Unfulfilled cloud.answers request.nodeCount cloud.requests := by
            have zeros := gives.eq_of_sum_eq_zero nothing
            rwa [zeros] at gives
          have rested := (ih (grown.started started)).mp ⟨ids, after, later, good⟩
          rw [grown.answers, asked, grown.quiet_iff started, quiet nothing] at rested
          cases rested with
          | inl success => exact .inl (.inr ⟨refused, success⟩)
          | inr stopped =>
            exact .inr ⟨stopped.1.1, refused, stopped.1.2, stopped.2⟩
        | inr now =>
          obtain ⟨some, rfl, rfl⟩ := now
          cases good with
          | inl full =>
            have all : numbers.sum = (batches request.nodeCount).sum := by
              rw [sum_batches, ← length, full.1]
            rw [gives.eq_of_sum_eq all] at gives
            exact .inl (.inl gives)
          | inr nothing => exact absurd nothing.1 some
      · intro good
        cases good with
        | inl success =>
          cases success with
          | inl fulfilled =>
            obtain ⟨ids, after, step⟩ := spotStep_returns sized fulfilled
            obtain ⟨numbers, made, gives, _, _, length, names, _⟩ := spotStep_ok sized step
            have all : numbers.sum = request.nodeCount := by
              rw [gives.unique fulfilled, sum_batches]
            have some : ids ≠ [] := ne_nil_of_length_pos (by omega)
            exact ⟨ids, after, ⟨ids, after, step, .inr ⟨some, rfl, rfl⟩⟩,
              .inl ⟨length.trans all, names all⟩⟩
          | inr later =>
            obtain ⟨middle, made, step, grown, asked, _⟩ := spotStep_empty sized later.1
            have success := later.2
            rw [← grown.answers, ← asked] at success
            obtain ⟨ids, after, ended, good⟩ := (ih (grown.started started)).mpr (.inl success)
            exact ⟨ids, after, ⟨[], middle, step, .inl ⟨rfl, ended⟩⟩, good⟩
        | inr stopped =>
          obtain ⟨still, refused, clear, stops⟩ := stopped
          obtain ⟨middle, made, step, grown, asked, quiet⟩ := spotStep_empty sized refused
          have silent : middle.Quiet first := (grown.quiet_iff started).mpr ⟨still, quiet.mpr clear⟩
          rw [← grown.answers, ← asked] at stops
          obtain ⟨ids, after, ended, good⟩ := (ih (grown.started started)).mpr (.inr ⟨silent, stops⟩)
          exact ⟨ids, after, ⟨[], middle, step, .inl ⟨rfl, ended⟩⟩, good⟩
    | onDemand =>
      constructor
      · intro ran
        obtain ⟨ids, after, ⟨given, middle, step, _⟩, _⟩ := ran
        exact .inl (onDemandStep_ok sized step).1
      · intro good
        cases good with
        | inl accepted =>
          obtain ⟨launched, accepted⟩ := accepted
          obtain ⟨ids, after, step⟩ := onDemandStep_returns sized positive accepted
          obtain ⟨_, length, names⟩ := onDemandStep_ok sized step
          have some : ids ≠ [] := ne_nil_of_length_pos (by omega)
          exact ⟨ids, after, ⟨ids, after, step, .inr ⟨some, rfl, rfl⟩⟩, .inl ⟨length, names⟩⟩
        | inr stopped => exact stopped.2.elim

/-- What a plan gives: the instances, when a step that is fulfilled in every batch comes after steps
that are not in any, or nothing, when no step gives an instance or leaves one running. -/
theorem provisionsOrClears_iff {request : Request} (sized : request.Sized)
    (plan : List ProvisionKind) (before : Cloud) :
    ProvisionsOrClears request plan before ↔
      (0 < request.nodeCount ∧
        Succeeds before.answers request.nodeCount before.requests plan) ∨
      Stops before.answers request.nodeCount before.requests plan := by
  have fresh : before.Quiet before.machines.length := by
    unfold Cloud.Quiet
    rw [drop_length]
    exact fun _ listed => (nomatch listed)
  by_cases zero : request.nodeCount = 0
  · have idle : ¬0 < request.nodeCount := by omega
    constructor
    · intro ran
      obtain ⟨ids, after, ended, _⟩ := ran
      exact .inr ((provisionInstances_zero_iff sized zero plan before).mp ended).1
    · intro good
      have stops := good.resolve_left fun success => idle success.1
      have ended := (provisionInstances_zero_iff sized zero plan before).mpr ⟨stops, rfl, rfl⟩
      exact ⟨[], before, ended, .inr ⟨rfl, fresh⟩⟩
  · have positive : 0 < request.nodeCount := by omega
    unfold ProvisionsOrClears
    rw [provisions_iff sized positive plan (Nat.le_refl _)]
    constructor
    · intro good
      exact good.imp (fun success => ⟨positive, success⟩) And.right
    · intro good
      exact good.imp And.right fun stops => ⟨fresh, stops⟩

def twoNodes : Request where
  regionId := 0
  azId := 0
  kind := .data
  nodeTags := [Tags.none, Tags.none]
  nodeNames := ["node-1", "node-2"]
  nodeCount := 2

/-- The first request comes to these statuses, with as many instances started as are fulfilled. -/
def shortOnSpot (statuses : List RequestStatus) : Nat → Answer
  | 0 => .accepted ⟨[.spot statuses], statuses.count .fulfilled, none⟩
  | _ => .accepted ⟨[], 0, none⟩

/-- Both nodes are started on demand when spot has none for them. -/
theorem two_nodes_on_demand :
    ProvisionsOrClears twoNodes [.spot, .onDemand] ⟨[], 0, shortOnSpot [.hopeless, .hopeless]⟩ := by
  apply (provisionsOrClears_iff ⟨rfl, rfl⟩ _ _).mpr
  refine .inl ⟨by decide, .inr ⟨?_, _, rfl⟩⟩
  exact ⟨rfl, trivial⟩

/-- One of two instances is started on spot: it runs on, and the plan returns nothing. -/
theorem spot_instance_left :
    ∃ after, (provisionInstances twoNodes ([ProvisionKind.spot].map provisionStep)).run
        ⟨[], 0, shortOnSpot [.fulfilled, .hopeless]⟩ = .ok [] after ∧
      after.machines.map Machine.running = [true] :=
  ⟨_, rfl, rfl⟩

end Sct.Aws
