import Mathlib.Tactic.Common

/-!
# Computations with state and exceptions

`EStateM ε σ` is the semantics of an imperative function that may raise: a raise keeps every
write made before it. This module gives the laws of that monad the shape the proofs use.
`bind_ok_iff`, `bind_error_iff` and the two laws of `tryCatch` take a run apart into the runs of
its parts. `Meets` is the triple with a postcondition for each of the two ways out, with one
rule a constructor. `foldUntil` is a loop over a list that carries local variables and may
return early; `foldUntil_cases` says every way it can end, and `meets_foldUntil` is its
invariant rule. `repeatUntil` is the same for `while True`, on fuel; `Laps` are its completed
iterations. `zoom` runs a computation on a part of the state and leaves the rest alone.
-/

open List
open EStateM (run_bind)

namespace Sct.Effect

variable {ε σ τ α β γ : Type}

instance decidableEqResult [DecidableEq ε] [DecidableEq σ] [DecidableEq α] :
    DecidableEq (EStateM.Result ε σ α)
  | .ok value state, .ok other exit =>
    decidable_of_iff (value = other ∧ state = exit) (by simp)
  | .error value state, .error other exit =>
    decidable_of_iff (value = other ∧ state = exit) (by simp)
  | .ok _ _, .error _ _ => .isFalse (by simp)
  | .error _ _, .ok _ _ => .isFalse (by simp)

/-- The state a run ended in, whichever way. -/
def exitState : EStateM.Result ε σ α → σ
  | .ok _ after => after
  | .error _ after => after

/-! ## Runs of composed computations -/

/-- Raising ends the computation in the state it started from. -/
@[simp]
lemma run_throw (exc : ε) (state : σ) :
    (throw exc : EStateM ε σ α).run state = .error exc state := rfl

/-- A handler runs in the state the raising computation left behind. -/
@[simp]
lemma run_tryCatch (body : EStateM ε σ α) (handler : ε → EStateM ε σ α) (state : σ) :
    (tryCatch body handler).run state = match body.run state with
      | .ok value after => .ok value after
      | .error exc after => (handler exc).run after := by
  change EStateM.tryCatch body handler state = _
  unfold EStateM.tryCatch EStateM.run
  cases body state <;> rfl

variable {state after : σ} {second : α → EStateM ε σ β} {first : EStateM ε σ α} {result : β}

lemma bind_ok_iff :
    (first >>= second).run state = .ok result after ↔
      ∃ value middle, first.run state = .ok value middle ∧
        (second value).run middle = .ok result after := by
  rw [run_bind]
  cases ran : first.run state with
  | ok value middle => simp
  | error exc middle => simp

variable {exc : ε}

/-- A sequence raises when its first part does, or its second does after the first returned. -/
lemma bind_error_iff :
    (first >>= second).run state = .error exc after ↔
      first.run state = .error exc after ∨
        ∃ value middle, first.run state = .ok value middle ∧
          (second value).run middle = .error exc after := by
  rw [run_bind]
  cases ran : first.run state with
  | ok value middle => simp
  | error raised middle => simp

variable {body : EStateM ε σ α} {f : α → β}

lemma map_ok_iff :
    (f <$> body).run state = .ok result after ↔
      ∃ value, body.run state = .ok value after ∧ f value = result := by
  rw [map_eq_pure_bind, bind_ok_iff]
  constructor
  · rintro ⟨value, middle, ran, ended⟩
    simp only [EStateM.run_pure, EStateM.Result.ok.injEq] at ended
    exact ⟨value, ended.2 ▸ ran, ended.1⟩
  · rintro ⟨value, ran, rfl⟩
    exact ⟨value, after, ran, rfl⟩

lemma map_error_iff :
    (f <$> body).run state = .error exc after ↔ body.run state = .error exc after := by
  rw [map_eq_pure_bind, bind_error_iff]
  simp

variable (f : α → β)

lemma exitState_map (body : EStateM ε σ α) (state : σ) :
    exitState ((f <$> body).run state) = exitState (body.run state) := by
  rw [map_eq_pure_bind, run_bind]
  cases body.run state <;> rfl

variable {handler : ε → EStateM ε σ α}

lemma tryCatch_ok_iff {result : α} :
    (tryCatch body handler).run state = .ok result after ↔
      body.run state = .ok result after ∨
        ∃ exc middle, body.run state = .error exc middle ∧
          (handler exc).run middle = .ok result after := by
  rw [run_tryCatch]
  cases ran : body.run state with
  | ok value middle => simp
  | error exc middle => simp

/-- `try: body` with `finally: final`: a raise of the body is raised again after the final part,
unless that raises itself. -/
def ensuring (body : EStateM ε σ α) (final : EStateM ε σ Unit) : EStateM ε σ α := do
  let value ← tryCatch body fun exc => do
    final
    throw exc
  final
  pure value

/-! ## Triples with two postconditions -/

/-- From every state satisfying `pre` the computation returns with `post` or raises with
`raised`. -/
def Meets (pre : σ → Prop) (body : EStateM ε σ α) (post : α → σ → Prop)
    (raised : ε → σ → Prop) : Prop :=
  ∀ state, pre state → match body.run state with
    | .ok value after => post value after
    | .error exc after => raised exc after

variable {pre : σ → Prop} {raised : ε → σ → Prop} {body : EStateM ε σ α} {post : α → σ → Prop}

/-- A triple is shown for the runs that return and for those that raise. -/
lemma meets_of
    (returned : ∀ state value after, pre state → body.run state = .ok value after → post value
      after)
    (threw : ∀ state exc after, pre state → body.run state = .error exc after → raised exc after) :
    Meets pre body post raised := by
  intro state holds
  cases ran : body.run state with
  | ok value after => exact returned state value after holds ran
  | error exc after => exact threw state exc after holds ran

variable {state after : σ} {value : α}

lemma Meets.of_ok (meets : Meets pre body post raised) (holds : pre state)
    (ran : body.run state = .ok value after) : post value after := by
  have result := meets state holds
  rw [ran] at result
  exact result

lemma Meets.of_error (meets : Meets pre body post raised) (holds : pre state)
    (ran : body.run state = .error exc after) : raised exc after := by
  have result := meets state holds
  rw [ran] at result
  exact result

variable {escaped : ε → σ → Prop} {stronger : σ → Prop}

lemma Meets.weaken {weaker : α → σ → Prop} (meets : Meets pre body post raised)
    (before : ∀ state, stronger state → pre state)
    (returned : ∀ value state, post value state → weaker value state)
    (threw : ∀ exc state, raised exc state → escaped exc state) :
    Meets stronger body weaker escaped := by
  intro state holds
  have result := meets state (before state holds)
  cases ran : body.run state with
  | ok value after =>
    rw [ran] at result
    exact returned value after result
  | error exc after =>
    rw [ran] at result
    exact threw exc after result

lemma Meets.given (meets : Meets pre body post raised)
    (before : ∀ state, stronger state → pre state) : Meets stronger body post raised :=
  fun state holds => meets state (before state holds)

lemma Meets.raising (meets : Meets pre body post raised)
    (threw : ∀ exc state, raised exc state → escaped exc state) : Meets pre body post escaped :=
  meets.weaken (fun _ holds => holds) (fun _ _ returned => returned) threw

lemma Meets.both {before : σ → Prop} {more : α → σ → Prop} (first : Meets pre body post raised)
    (second : Meets before body more escaped) :
    Meets (fun state => pre state ∧ before state) body
      (fun value state => post value state ∧ more value state)
      (fun exc state => raised exc state ∧ escaped exc state) :=
  meets_of (fun _ _ _ holds ran => ⟨first.of_ok holds.1 ran, second.of_ok holds.2 ran⟩)
    fun _ _ _ holds ran => ⟨first.of_error holds.1 ran, second.of_error holds.2 ran⟩

lemma meets_of_fact {fact : Prop} (meets : fact → Meets pre body post raised) :
    Meets (fun state => pre state ∧ fact) body post raised :=
  fun state holds => meets holds.2 state holds.1

variable (value : α)

lemma meets_pure (kept : ∀ state, pre state → post value state) :
    Meets pre (pure value : EStateM ε σ α) post raised :=
  fun state holds => kept state holds

lemma meets_throw (exc : ε) (kept : ∀ state, pre state → raised exc state) :
    Meets pre (throw exc : EStateM ε σ α) post raised :=
  fun state holds => kept state holds

lemma meets_get {post : σ → σ → Prop} (kept : ∀ state, pre state → post state state) :
    Meets pre (get : EStateM ε σ σ) post raised :=
  fun state holds => kept state holds

variable (update : σ → σ)

lemma meets_modify {post : Unit → σ → Prop} (kept : ∀ state, pre state → post () (update state)) :
    Meets pre (modify update : EStateM ε σ Unit) post raised :=
  fun state holds => kept state holds

lemma meets_bind {between : α → σ → Prop} {post : β → σ → Prop}
    (head : Meets pre first between raised)
    (tail : ∀ value, Meets (between value) (second value) post raised) :
    Meets pre (first >>= second) post raised := by
  intro state holds
  rw [run_bind]
  cases ran : first.run state with
  | ok value middle => exact tail value middle (head.of_ok holds ran)
  | error exc middle => exact head.of_error holds ran

lemma meets_map {post : β → σ → Prop}
    (meets : Meets pre body (fun value => post (f value)) raised) :
    Meets pre (f <$> body) post raised := by
  exact meets_bind meets fun value => meets_pure _ fun _ reached => reached

lemma meets_tryCatch {caught : ε → σ → Prop} (main : Meets pre body post caught)
    (recover : ∀ exc, Meets (caught exc) (handler exc) post raised) :
    Meets pre (tryCatch body handler) post raised := by
  intro state holds
  rw [run_tryCatch]
  cases ran : body.run state with
  | ok value middle => exact main.of_ok holds ran
  | error exc middle => exact recover exc middle (main.of_error holds ran)

variable {final : EStateM ε σ Unit}

lemma meets_ensuring {between : σ → Prop} {post : σ → Prop}
    (main : Meets pre body (fun _ => between) fun _ => between)
    (last : Meets between final (fun _ => post) fun _ => post) :
    Meets pre (ensuring body final) (fun _ => post) fun _ => post := by
  have caught (exc : ε) : Meets between (do final; throw exc : EStateM ε σ α) (fun _ => between)
      fun _ => post :=
    meets_bind last fun _ => meets_throw exc fun _ done => done
  have guarded := meets_tryCatch main caught
  apply meets_bind guarded
  intro value
  exact meets_bind last fun _ => meets_pure value fun _ done => done

/-! ## Loops with local variables and an early return -/

/-- Run `body` over the items in order, carrying `carried`; `.inl` continues with new local
variables and `.inr` returns from the loop. -/
def foldUntil (body : γ → α → EStateM ε σ (γ ⊕ β)) : γ → List α → EStateM ε σ (γ ⊕ β)
  | carried, [] => pure (.inl carried)
  | carried, item :: rest => do
    match ← body carried item with
    | .inl next => foldUntil body next rest
    | .inr result => pure (.inr result)

/-- The loop body continued on each of the items in turn, from the first pair of local
variables and state to the second. -/
inductive Passes (body : γ → α → EStateM ε σ (γ ⊕ β)) : γ → List α → σ → γ → σ → Prop
  | nil (carried : γ) (state : σ) : Passes body carried [] state carried state
  | cons {carried next last : γ} {item : α} {rest : List α} {state middle after : σ}
      (continued : (body carried item).run state = .ok (.inl next) middle)
      (others : Passes body next rest middle last after) :
      Passes body carried (item :: rest) state last after

variable {carried last : γ} {items : List α}

/-- The items passed are behind the loop: what is left runs from where they ended. -/
lemma foldUntil_of_passes {body : γ → α → EStateM ε σ (γ ⊕ β)}
    (passes : Passes body carried items state last after) (rest : List α) :
    (foldUntil body carried (items ++ rest)).run state = (foldUntil body last rest).run after := by
  induction passes with
  | nil carried state => rfl
  | cons continued others ih => simp [foldUntil, continued, ih]

/-- A loop that passed all its items ends with the local variables they left. -/
lemma foldUntil_passed {body : γ → α → EStateM ε σ (γ ⊕ β)}
    (passes : Passes body carried items state last after) :
    (foldUntil body carried items).run state = .ok (.inl last) after := by
  have ended := foldUntil_of_passes passes []
  rw [append_nil] at ended
  rw [ended]
  rfl

/-- A loop that reached an item does to it what its body does. -/
lemma foldUntil_reached {body : γ → α → EStateM ε σ (γ ⊕ β)} {before after : List α} {item : α}
    {middle : σ} (passes : Passes body carried before state last middle) :
    (foldUntil body carried (before ++ item :: after)).run state =
      match (body last item).run middle with
      | .ok (.inl next) reached => (foldUntil body next after).run reached
      | .ok (.inr result) reached => .ok (.inr result) reached
      | .error exc reached => .error exc reached := by
  rw [foldUntil_of_passes passes, foldUntil, run_bind]
  cases (body last item).run middle with
  | ok outcome reached => cases outcome <;> rfl
  | error exc reached => rfl

/-- Every way a loop can end: all items passed, an early return at some item, or a raise. -/
lemma foldUntil_cases (body : γ → α → EStateM ε σ (γ ⊕ β)) (carried : γ) (items : List α)
    (state : σ) :
    (∃ last after, Passes body carried items state last after) ∨
      ∃ before item rest last middle, items = before ++ item :: rest ∧
        Passes body carried before state last middle ∧
          ((∃ result after, (body last item).run middle = .ok (.inr result) after) ∨
            ∃ exc after, (body last item).run middle = .error exc after) := by
  induction items generalizing carried state with
  | nil => exact .inl ⟨carried, state, .nil carried state⟩
  | cons item rest ih =>
    cases ran : (body carried item).run state with
    | error exc after =>
      exact .inr ⟨[], item, rest, carried, state, rfl, .nil _ _, .inr ⟨exc, after, ran⟩⟩
    | ok outcome middle =>
      cases outcome with
      | inr result =>
        exact .inr ⟨[], item, rest, carried, state, rfl, .nil _ _, .inl ⟨result, middle, ran⟩⟩
      | inl next =>
        obtain ⟨last, after, passes⟩ | ⟨before, found, others, last, reached, split, passes, ended⟩ :=
          ih next middle
        · exact .inl ⟨last, after, .cons ran passes⟩
        · refine .inr ⟨item :: before, found, others, last, reached, ?_, .cons ran passes, ended⟩
          rw [split, cons_append]

/-- The invariant rule of a loop: the body keeps the invariant whenever it continues. -/
lemma meets_foldUntil {body : γ → α → EStateM ε σ (γ ⊕ β)} {outcome : γ ⊕ β → σ → Prop}
    (items : List α) (step : ∀ carried, ∀ item ∈ items,
      Meets (outcome (.inl carried)) (body carried item) outcome raised) (carried : γ) :
    Meets (outcome (.inl carried)) (foldUntil body carried items) outcome raised := by
  induction items generalizing carried with
  | nil => exact meets_pure _ fun _ reached => reached
  | cons item rest ih =>
    refine meets_bind (step carried item mem_cons_self) fun ended => ?_
    cases ended with
    | inl next =>
      refine ih (fun carried item listed => ?_) next
      exact step carried item (mem_cons_of_mem _ listed)
    | inr result => exact meets_pure _ fun _ reached => reached

/-- The rule of a loop that carries nothing: each round leaves what it found. -/
lemma meets_forM {body : α → EStateM ε σ PUnit} {holds : σ → Prop} (items : List α)
    (step : ∀ item ∈ items, Meets holds (body item) (fun _ => holds) raised) :
    Meets holds (forM items body) (fun _ => holds) raised := by
  induction items with
  | nil => exact meets_pure _ fun _ kept => kept
  | cons item rest ih =>
    apply meets_bind (step item mem_cons_self)
    intro _
    exact ih fun other listed => step other (mem_cons_of_mem item listed)

/-- A loop of which every round returns does so. What holds before a round is about the items that are
left. -/
lemma forM_returns {body : α → EStateM ε σ PUnit} (holds : List α → σ → Prop)
    (round : ∀ item rest state, holds (item :: rest) state →
      ∃ after, (body item).run state = .ok ⟨⟩ after ∧ holds rest after)
    {items : List α} {state : σ} (start : holds items state) :
    ∃ after, (items.forM body).run state = .ok ⟨⟩ after ∧ holds [] after := by
  induction items generalizing state with
  | nil => exact ⟨state, rfl, start⟩
  | cons item rest ih =>
    obtain ⟨middle, ran, left⟩ := round item rest state start
    obtain ⟨after, later, done⟩ := ih left
    refine ⟨after, ?_, done⟩
    show EStateM.run (body item >>= fun _ => rest.forM body) state = _
    rw [run_bind, ran]
    exact later

/-! ## Loops without a bound -/

/-- Repeat `body`, carrying local variables, until it returns; `none` when the fuel runs out
first. -/
def repeatUntil (body : γ → EStateM ε σ (γ ⊕ β)) : Nat → γ → EStateM ε σ (Option β)
  | 0, _ => pure none
  | fuel + 1, carried => do
    match ← body carried with
    | .inl next => repeatUntil body fuel next
    | .inr result => pure (some result)

/-- The body continued so many times in a row, from the first pair of local variables and state
to the second. -/
inductive Laps (body : γ → EStateM ε σ (γ ⊕ β)) : Nat → γ → σ → γ → σ → Prop
  | nil (carried : γ) (state : σ) : Laps body 0 carried state carried state
  | cons {count : Nat} {carried next last : γ} {state middle after : σ}
      (continued : (body carried).run state = .ok (.inl next) middle)
      (others : Laps body count next middle last after) :
      Laps body (count + 1) carried state last after

variable {count : Nat}

lemma Laps.invariant {body : γ → EStateM ε σ (γ ⊕ β)}
    (laps : Laps body count carried state last after) (holds : γ → σ → Prop)
    (step : ∀ carried state next after, holds carried state →
      (body carried).run state = .ok (.inl next) after → holds next after)
    (start : holds carried state) : holds last after := by
  induction laps with
  | nil carried state => exact start
  | cons continued others ih => exact ih (step _ _ _ _ start continued)

/-- A loop whose laps each use up some of a measure makes no more laps than the measure allows. -/
lemma Laps.count_add_le {body : γ → EStateM ε σ (γ ⊕ β)}
    (laps : Laps body count carried state last after) (holds : γ → σ → Prop) (measure : γ → σ → Nat)
    (step : ∀ carried state next after, holds carried state →
      (body carried).run state = .ok (.inl next) after →
      holds next after ∧ measure next after < measure carried state) (start : holds carried state) :
    count + measure last after ≤ measure carried state := by
  induction laps with
  | nil carried state => omega
  | cons continued others ih =>
    have stepped := step _ _ _ _ start continued
    have bound := ih stepped.1
    omega

/-- A loop that used up its fuel made a lap with each unit of it. -/
lemma laps_of_repeatUntil_none {body : γ → EStateM ε σ (γ ⊕ β)} {fuel : Nat}
    (ran : (repeatUntil body fuel carried).run state = .ok none after) :
    ∃ last, Laps body fuel carried state last after := by
  induction fuel generalizing carried state with
  | zero =>
    have same : state = after := by simpa [repeatUntil] using ran
    exact ⟨carried, same ▸ .nil carried state⟩
  | succ fuel ih =>
    obtain ⟨outcome, middle, continued, rest⟩ := bind_ok_iff.mp ran
    cases outcome with
    | inl next =>
      obtain ⟨last, laps⟩ := ih rest
      exact ⟨last, .cons continued laps⟩
    | inr result => simp at rest

lemma meets_repeatUntil {body : γ → EStateM ε σ (γ ⊕ β)} {outcome : γ ⊕ β → σ → Prop}
    {post : Option β → σ → Prop}
    (step : ∀ carried, Meets (outcome (.inl carried)) (body carried) outcome raised)
    (ended : ∀ carried state, outcome (.inl carried) state → post none state)
    (returned : ∀ result state, outcome (.inr result) state → post (some result) state)
    (fuel : Nat) (carried : γ) :
    Meets (outcome (.inl carried)) (repeatUntil body fuel carried) post raised := by
  induction fuel generalizing carried with
  | zero => exact meets_pure _ (ended carried)
  | succ fuel ih =>
    refine meets_bind (step carried) fun ended => ?_
    cases ended with
    | inl next => exact ih next
    | inr result => exact meets_pure _ (returned result)

/-! ## Properties that hold throughout -/

/-- The computation keeps a property of the state, whichever way it ends. -/
def Keeps (holds : σ → Prop) (body : EStateM ε σ α) : Prop :=
  Meets holds body (fun _ => holds) fun _ => holds

variable {holds : σ → Prop}

lemma keeps_pure : Keeps holds (pure value : EStateM ε σ α) :=
  meets_pure value fun _ kept => kept

lemma keeps_throw (exc : ε) : Keeps holds (throw exc : EStateM ε σ α) :=
  meets_throw exc fun _ kept => kept

lemma keeps_get : Keeps holds (get : EStateM ε σ σ) :=
  meets_get fun _ kept => kept

lemma keeps_modify (kept : ∀ state, holds state → holds (update state)) :
    Keeps holds (modify update : EStateM ε σ Unit) :=
  meets_modify update kept

lemma keeps_bind (head : Keeps holds first) (tail : ∀ value, Keeps holds (second value)) :
    Keeps holds (first >>= second) :=
  meets_bind head tail

lemma keeps_map (kept : Keeps holds body) : Keeps holds (f <$> body) :=
  meets_map f kept

lemma keeps_tryCatch (main : Keeps holds body) (recover : ∀ exc, Keeps holds (handler exc)) :
    Keeps holds (tryCatch body handler) :=
  meets_tryCatch main recover

lemma keeps_ensuring (main : Keeps holds body) (last : Keeps holds final) :
    Keeps holds (ensuring body final) :=
  meets_ensuring main last

lemma keeps_foldUntil {body : γ → α → EStateM ε σ (γ ⊕ β)} (items : List α)
    (step : ∀ carried, ∀ item ∈ items, Keeps holds (body carried item)) (carried : γ) :
    Keeps holds (foldUntil body carried items) :=
  @meets_foldUntil _ _ _ _ _ _ body (fun _ => holds) items step carried

variable {body : α → EStateM ε σ β}

lemma keeps_mapM (items : List α) (step : ∀ item, Keeps holds (body item)) :
    Keeps holds (items.mapM body) := by
  induction items with
  | nil => exact keeps_pure _
  | cons item rest ih =>
    rw [mapM_cons]
    exact keeps_bind (step item) fun _ => keeps_bind ih fun _ => keeps_pure _

lemma keeps_foldlM {body : β → α → EStateM ε σ β} (items : List α)
    (step : ∀ carried item, Keeps holds (body carried item)) (carried : β) :
    Keeps holds (items.foldlM body carried) := by
  induction items generalizing carried with
  | nil => exact keeps_pure _
  | cons item rest ih =>
    exact keeps_bind (step carried item) fun next => ih next

lemma mapM_ok_forall₂ {related : α → β → Prop}
    (step : ∀ item ∈ items, ∀ state result after, (body item).run state = .ok result after →
      related item result) {results : List β}
    (ran : (items.mapM body).run state = .ok results after) :
    List.Forall₂ related items results := by
  induction items generalizing state results with
  | nil =>
    obtain ⟨rfl, rfl⟩ := EStateM.Result.ok.inj ran
    exact .nil
  | cons item rest ih =>
    rw [mapM_cons] at ran
    obtain ⟨result, middle, first, later⟩ := bind_ok_iff.mp ran
    obtain ⟨others, reached, mapped, ended⟩ := bind_ok_iff.mp later
    obtain ⟨rfl, rfl⟩ := EStateM.Result.ok.inj ended
    refine .cons (step item mem_cons_self _ _ _ first) (ih ?_ mapped)
    exact fun other listed => step other (mem_cons_of_mem item listed)

/-! ## Part of the state -/

/-- Run a computation on the part of the state that `view` shows and `update` writes back. -/
def zoom (view : σ → τ) (update : τ → σ → σ) (body : EStateM ε τ α) : EStateM ε σ α := fun state =>
  match body.run (view state) with
  | .ok value part => .ok value (update part state)
  | .error exc part => .error exc (update part state)

lemma zoom_run (view : σ → τ) (update : τ → σ → σ) (body : EStateM ε τ α) (state : σ) :
    (zoom view update body).run state = match body.run (view state) with
      | .ok value part => .ok value (update part state)
      | .error exc part => .error exc (update part state) := rfl

variable {body : EStateM ε τ α} {update : τ → σ → σ} {view : σ → τ}

lemma zoom_ok_iff {value : α} :
    (zoom view update body).run state = .ok value after ↔
      ∃ part, body.run (view state) = .ok value part ∧ after = update part state := by
  rw [zoom_run]
  cases body.run (view state) with
  | ok result part => simp [eq_comm]
  | error exc part => simp

lemma zoom_error_iff :
    (zoom view update body).run state = .error exc after ↔
      ∃ part, body.run (view state) = .error exc part ∧ after = update part state := by
  rw [zoom_run]
  cases body.run (view state) with
  | ok result part => simp
  | error raised part => simp [eq_comm]

/-- A computation on a part keeps what does not depend on the part. -/
lemma keeps_zoom (view : σ → τ) (update : τ → σ → σ) (body : EStateM ε τ α)
    (kept : ∀ part state, holds state → holds (update part state)) :
    Keeps holds (zoom view update body) := by
  intro state before
  rw [zoom_run]
  cases body.run (view state) with
  | ok value part => exact kept part state before
  | error exc part => exact kept part state before

lemma meets_zoom {before : τ → Prop} {post : α → τ → Prop} {escaped : ε → τ → Prop}
    (meets : Meets before body post escaped) (view : σ → τ) (update : τ → σ → σ)
    (written : ∀ part state, view (update part state) = part) :
    Meets (fun state => before (view state)) (zoom view update body)
      (fun value state => post value (view state)) fun exc state => escaped exc (view state) := by
  intro state holds
  have result := meets (view state) holds
  rw [zoom_run]
  cases ran : body.run (view state) with
  | ok value part =>
    rw [ran] at result
    simp only [written]
    exact result
  | error exc part =>
    rw [ran] at result
    simp only [written]
    exact result

end Sct.Effect
