import Mathlib.Data.List.Nodup
import Mathlib.Tactic.Ring
import Sct.Utils.LoaderUtils

/-!
# How many stress threads a load starts

Every call of `_run_all_stress_cmds` multiplies the list it is given, and that list is the
configured one. With one call for each keyspace the second one finds the list already multiplied:
call `i` starts `n * m ^ i` threads, and the configuration keeps the longer list. The threads and
the list are as configured exactly when nothing is multiplied.
-/

namespace Sct.Loader

open Effect
open List
open Function (comp_def update update_eq_self update_self)

def Action.thread? : Action → Option (Params × String)
  | .runStressThread params stressCmd _ => some (params, stressCmd)
  | _ => none

def State.threads (state : State) : List (Params × String) :=
  state.actions.filterMap Action.thread?

namespace Tester

variable (tester : Tester)

/-- The command can be rendered, to one that is supported. -/
def Starts (command : String) : Prop :=
  ∃ renderedCmd, tester.renderStressCmd command = .ok renderedCmd ∧ isSupported renderedCmd = true

/-- How often a list is repeated in one call. -/
def factor : Nat := if tester.stressMultiplier > 1 then tester.stressMultiplier.toNat else 1

lemma multiplied_of_le (single : tester.stressMultiplier ≤ 1) (commands : List String) :
    tester.multiplied commands = commands := by
  rw [multiplied, if_neg (by omega)]

lemma length_multiplied (commands : List String) :
    (tester.multiplied commands).length = tester.factor * commands.length := by
  unfold multiplied factor
  split
  · simp [repeated]
  · exact (Nat.one_mul _).symm

lemma mem_multiplied_iff (commands : List String) (command : String) :
    command ∈ tester.multiplied commands ↔ command ∈ commands := by
  unfold multiplied
  split
  · rename_i several
    have positive : 0 < tester.stressMultiplier := by omega
    simp [repeated, mem_replicate, positive]
  · exact Iff.rfl

/-! ## One call -/

variable {tester} {params : Params} {before after : State} {command : String}

lemma runStressCmd_returns (before : State) (starts : tester.Starts command) :
    ∃ after, (tester.runStressCmd params command).run before = .ok ⟨⟩ after ∧
      after.lists = before.lists ∧ after.threads = before.threads ++ [(params, command)] := by
  obtain ⟨renderedCmd, rendered, supported⟩ := starts
  unfold runStressCmd
  simp only [rendered, supported, if_true]
  refine ⟨_, rfl, rfl, ?_⟩
  have prepared : (tester.prepareCounters renderedCmd).filterMap Action.thread? = [] := by
    unfold prepareCounters
    split
    · split <;> rfl
    · rfl
  unfold State.threads
  rw [filterMap_append, filterMap_append, prepared, append_nil]
  rfl

lemma starts_of_runStressCmd
    (ran : (tester.runStressCmd params command).run before = .ok ⟨⟩ after) :
    tester.Starts command := by
  unfold runStressCmd at ran
  cases rendered : tester.renderStressCmd command with
  | error text =>
    rw [rendered] at ran
    cases ran
  | ok renderedCmd =>
    refine ⟨renderedCmd, rendered, ?_⟩
    by_contra unsupported
    simp only [rendered, unsupported, if_false] at ran
    cases ran

lemma forM_runStressCmd_returns (commands : List String)
    (starts : ∀ command ∈ commands, tester.Starts command) (before : State) :
    ∃ after, (forM commands (tester.runStressCmd params)).run before = .ok ⟨⟩ after ∧
      after.lists = before.lists ∧
      after.threads = before.threads ++ commands.map (Prod.mk params) := by
  induction commands generalizing before with
  | nil => exact ⟨before, rfl, rfl, (append_nil _).symm⟩
  | cons command rest ih =>
    have first := starts command mem_cons_self
    have others : ∀ other ∈ rest, tester.Starts other := fun other listed =>
      starts other (mem_cons_of_mem _ listed)
    obtain ⟨middle, ran, lists, threads⟩ := @runStressCmd_returns tester params command before first
    obtain ⟨after, ranRest, listsRest, threadsRest⟩ := ih others middle
    refine ⟨after, ?_, listsRest.trans lists, ?_⟩
    · exact bind_ok_iff.mpr ⟨⟨⟩, middle, ran, ranRest⟩
    · rw [threadsRest, threads, append_assoc]
      rfl

lemma starts_of_forM (commands : List String)
    (ran : (forM commands (tester.runStressCmd params)).run before = .ok ⟨⟩ after) :
    ∀ command ∈ commands, tester.Starts command := by
  induction commands generalizing before with
  | nil => exact fun _ listed => absurd listed not_mem_nil
  | cons first rest ih =>
    obtain ⟨_, middle, ranFirst, ranRest⟩ := bind_ok_iff.mp ran
    intro command listed
    cases mem_cons.mp listed with
    | inl same => exact same ▸ starts_of_runStressCmd ranFirst
    | inr later => exact ih ranRest command later

lemma runAllStressCmds_returns (before : State)
    (starts : ∀ command ∈ before.lists params.stressCmd, tester.Starts command) :
    ∃ after, (tester.runAllStressCmds params).run before = .ok ⟨⟩ after ∧
      after.lists = update before.lists params.stressCmd
        (tester.multiplied (before.lists params.stressCmd)) ∧
      after.threads = before.threads ++
        (tester.multiplied (before.lists params.stressCmd)).map (Prod.mk params) := by
  let middle : State := { before with
    lists := update before.lists params.stressCmd
      (tester.multiplied (before.lists params.stressCmd)) }
  have held : middle.lists params.stressCmd =
      tester.multiplied (before.lists params.stressCmd) := update_self _ _ _
  have rendered : ∀ command ∈ middle.lists params.stressCmd, tester.Starts command := by
    intro command listed
    rw [held, mem_multiplied_iff] at listed
    exact starts command listed
  obtain ⟨after, ran, lists, threads⟩ :=
    @forM_runStressCmd_returns tester params _ rendered middle
  refine ⟨after, ran, ?_, ?_⟩
  · exact lists
  · rw [threads, held]
    rfl

/-! ## One call after the other -/

/-- The threads of these calls, each with the list the one before left. -/
def startedBy (tester : Tester) : List Params → List String → List (Params × String)
  | [], _ => []
  | call :: rest, commands =>
    (tester.multiplied commands).map (Prod.mk call) ++
      tester.startedBy rest (tester.multiplied commands)

lemma length_iterate_multiplied (calls : Nat) (commands : List String) :
    (tester.multiplied^[calls] commands).length = tester.factor ^ calls * commands.length := by
  induction calls generalizing commands with
  | zero => simp
  | succ calls ih =>
    rw [Function.iterate_succ_apply, ih, length_multiplied, pow_succ, Nat.mul_assoc]

lemma startedBy_of_le (single : tester.stressMultiplier ≤ 1) (calls : List Params)
    (commands : List String) :
    tester.startedBy calls commands = calls.flatMap fun call => commands.map (Prod.mk call) := by
  induction calls with
  | nil => rfl
  | cons call rest ih => rw [startedBy, multiplied_of_le _ single, ih, flatMap_cons]

variable {stressCmd : String}

lemma forM_runAllStressCmds_returns (calls : List Params)
    (named : ∀ call ∈ calls, call.stressCmd = stressCmd) (before : State)
    (starts : ∀ command ∈ before.lists stressCmd, tester.Starts command) :
    ∃ after, (forM calls tester.runAllStressCmds).run before = .ok ⟨⟩ after ∧
      after.lists = update before.lists stressCmd
        (tester.multiplied^[calls.length] (before.lists stressCmd)) ∧
      after.threads = before.threads ++ tester.startedBy calls (before.lists stressCmd) := by
  induction calls generalizing before with
  | nil => exact ⟨before, rfl, (update_eq_self _ _).symm, (append_nil _).symm⟩
  | cons call rest ih =>
    have own : call.stressCmd = stressCmd := named call mem_cons_self
    subst own
    obtain ⟨middle, ran, lists, threads⟩ := runAllStressCmds_returns before starts
    have held : middle.lists call.stressCmd =
        tester.multiplied (before.lists call.stressCmd) := by
      rw [lists, update_self]
    have still : ∀ command ∈ middle.lists call.stressCmd, tester.Starts command := by
      intro command listed
      rw [held, mem_multiplied_iff] at listed
      exact starts command listed
    obtain ⟨after, ranRest, listsRest, threadsRest⟩ :=
      ih (fun other listed => named other (mem_cons_of_mem _ listed)) middle still
    refine ⟨after, ?_, ?_, ?_⟩
    · exact bind_ok_iff.mpr ⟨⟨⟩, middle, ran, ranRest⟩
    · rw [listsRest, held, lists, Function.update_idem]
      rfl
    · rw [threadsRest, threads, held, append_assoc]
      rfl

/-! ## A load -/

def calls (tester : Tester) (stressCmd : String) (keyspaceNum : Nat) (duration : Option Int) :
    List Params :=
  if keyspaceNum > 1 ∧ tester.roundRobin = true then
    (List.range' 1 keyspaceNum).map fun ksNumber =>
      ⟨stressCmd, .name (getKeyspaceName ksNumber), duration, true⟩
  else [⟨stressCmd, .num keyspaceNum, duration, tester.roundRobin⟩]

variable {duration : Option Int} {keyspaceNum : Nat}

lemma stressCmd_of_mem_calls {call : Params}
    (listed : call ∈ tester.calls stressCmd keyspaceNum duration) : call.stressCmd = stressCmd := by
  unfold calls at listed
  split at listed
  · obtain ⟨ksNumber, -, rfl⟩ := mem_map.mp listed
    rfl
  · rw [mem_singleton.mp listed]

lemma calls_ne_nil (tester : Tester) (stressCmd : String) (keyspaceNum : Nat)
    (duration : Option Int) : tester.calls stressCmd keyspaceNum duration ≠ [] := by
  unfold calls
  split
  · intro none
    have length := congrArg List.length none
    rw [length_map, length_range', length_nil] at length
    omega
  · exact cons_ne_nil _ _

lemma runForKeyspaces_run (configured : before.lists stressCmd ≠ []) :
    (tester.runForKeyspaces stressCmd keyspaceNum duration).run before =
      (forM (tester.calls stressCmd keyspaceNum duration) tester.runAllStressCmds).run before := by
  have entered : (tester.runForKeyspaces stressCmd keyspaceNum duration).run before =
      (if keyspaceNum > 1 ∧ tester.roundRobin = true then
        forM (List.range' 1 keyspaceNum) fun ksNumber => tester.runAllStressCmds
          ⟨stressCmd, .name (getKeyspaceName ksNumber), duration, true⟩
      else
        tester.runAllStressCmds
          ⟨stressCmd, .num keyspaceNum, duration, tester.roundRobin⟩).run before := by
    show (if before.lists stressCmd ≠ [] then _ else _ : Run PUnit).run before = _
    rw [if_pos configured]
  rw [entered, calls]
  split
  · rw [forM_map]
  · rw [forM_cons, forM_nil, bind_pure_unit]

end Tester

def Keyspaces.includes : Keyspaces → Nat → Bool
  | .name keyspaceName, ksNumber => keyspaceName == getKeyspaceName ksNumber
  | .num keyspaceNum, ksNumber => 1 ≤ ksNumber && ksNumber ≤ keyspaceNum

lemma getKeyspaceName_injective : Function.Injective getKeyspaceName := by
  intro first second same
  exact toString_injective ((String.append_right_inj _).mp same)

/-- The loads. -/
inductive Load where
  | prepare
  | main (stressCmd : String) (keyspaceNum : Nat)

namespace Load

variable (tester : Tester)

def run : Load → Run PUnit
  | prepare => tester.runPrepareWriteCmd
  | main stressCmd keyspaceNum => tester.assembleAndRunAllStressCmd stressCmd keyspaceNum

def stressCmd : Load → String
  | prepare => "prepare_write_cmd"
  | main stressCmd _ => stressCmd

def keyspaceNum : Load → Nat
  | prepare => tester.keyspaceNum
  | main _ keyspaceNum => keyspaceNum

def duration : Load → Option Int
  | prepare => tester.prepareStressDuration
  | main _ _ => none

lemma run_eq (load : Load) : load.run tester =
    tester.runForKeyspaces load.stressCmd (load.keyspaceNum tester) (load.duration tester) := by
  cases load <;> rfl

end Load

/-- Each command is started as often as the multiplier says on each keyspace, and the configuration
is as it was. -/
structure AsConfigured (tester : Tester) (load : Load) (lists : String → List String)
    (after : State) : Prop where
  total : (after.threads.length : Int) =
    load.keyspaceNum tester * (lists load.stressCmd).length * tester.stressMultiplier
  each : ∀ ksNumber ∈ List.range' 1 (load.keyspaceNum tester), ∀ command ∈ lists load.stressCmd,
    (after.threads.countP (fun thread =>
      thread.1.keyspaces.includes ksNumber && thread.2 == command) : Int) =
        tester.stressMultiplier * (lists load.stressCmd).count command
  kept : after.lists = lists

/-- The load runs to its end, and as configured. -/
def Tester.RunsAsConfigured (tester : Tester) (load : Load) (lists : String → List String) : Prop :=
  ∃ after, (load.run tester).run ⟨lists, []⟩ = .ok ⟨⟩ after ∧ AsConfigured tester load lists after

section Load

variable {tester : Tester} {load : Load} {lists : String → List String} {after : State}

lemma runsAsConfigured_nil (empty : lists load.stressCmd = []) :
    tester.RunsAsConfigured load lists := by
  refine ⟨⟨lists, []⟩, ?_, ?_, ?_, rfl⟩
  · rw [Load.run_eq]
    show (if lists load.stressCmd ≠ [] then _ else _ : Run PUnit).run ⟨lists, []⟩ = _
    rw [if_neg (not_not_intro empty)]
    rfl
  · rw [empty, length_nil]
    simp [State.threads]
  · intro _ _ command listed
    rw [empty] at listed
    exact absurd listed not_mem_nil

lemma load_returns (configured : lists load.stressCmd ≠ [])
    (starts : ∀ command ∈ lists load.stressCmd, tester.Starts command) :
    ∃ after, (load.run tester).run ⟨lists, []⟩ = .ok ⟨⟩ after ∧
      after.lists = update lists load.stressCmd
        (tester.multiplied^[(tester.calls load.stressCmd (load.keyspaceNum tester)
          (load.duration tester)).length] (lists load.stressCmd)) ∧
      after.threads = tester.startedBy (tester.calls load.stressCmd (load.keyspaceNum tester)
        (load.duration tester)) (lists load.stressCmd) := by
  obtain ⟨after, ran, left, threads⟩ := Tester.forM_runAllStressCmds_returns
    (tester.calls load.stressCmd (load.keyspaceNum tester) (load.duration tester))
    (fun call listed => Tester.stressCmd_of_mem_calls listed) ⟨lists, []⟩ starts
  refine ⟨after, ?_, left, threads⟩
  rw [Load.run_eq, Tester.runForKeyspaces_run configured]
  exact ran

lemma starts_of_load (ran : (load.run tester).run ⟨lists, []⟩ = .ok ⟨⟩ after) :
    ∀ command ∈ lists load.stressCmd, tester.Starts command := by
  intro command listed
  have configured : lists load.stressCmd ≠ [] := ne_nil_of_mem listed
  rw [Load.run_eq, Tester.runForKeyspaces_run configured] at ran
  cases made : tester.calls load.stressCmd (load.keyspaceNum tester) (load.duration tester) with
  | nil =>
    have some_call := Tester.calls_ne_nil tester load.stressCmd (load.keyspaceNum tester)
      (load.duration tester)
    exact absurd made some_call
  | cons call rest =>
    rw [made, forM_cons] at ran
    obtain ⟨_, middle, ranFirst, -⟩ := Effect.bind_ok_iff.mp ran
    have own : call.stressCmd = load.stressCmd :=
      Tester.stressCmd_of_mem_calls (made ▸ mem_cons_self)
    apply Tester.starts_of_forM _ ranFirst
    show command ∈ update lists call.stressCmd
      (tester.multiplied (lists call.stressCmd)) call.stressCmd
    rw [update_self, Tester.mem_multiplied_iff, own]
    exact listed

lemma countP_flatMap (calls : List Params) (commands : List String) (among : Params → Bool)
    (command : String) :
    (calls.flatMap fun call => commands.map (Prod.mk call)).countP
      (fun thread => among thread.1 && thread.2 == command) =
        calls.countP among * commands.count command := by
  induction calls with
  | nil => simp
  | cons call rest ih =>
    rw [flatMap_cons, countP_append, ih, countP_map, countP_cons]
    cases counted : among call with
    | false => simp [comp_def, counted]
    | true =>
      have all : commands.countP ((fun thread : Params × String =>
          among thread.1 && thread.2 == command) ∘ Prod.mk call) = commands.count command := by
        simp only [comp_def, counted, Bool.true_and]
        rfl
      rw [all, if_pos rfl, Nat.add_mul, Nat.one_mul, Nat.add_comm]

lemma length_calls (spread : tester.roundRobin = true) (stressCmd : String) (keyspaceNum : Nat)
    (duration : Option Int) :
    (tester.calls stressCmd keyspaceNum duration).length = max 1 keyspaceNum := by
  unfold Tester.calls
  by_cases several : keyspaceNum > 1
  · rw [if_pos ⟨several, spread⟩, length_map, length_range']
    omega
  · rw [if_neg (fun both => several both.1), length_singleton]
    omega

lemma countP_calls (spread : tester.roundRobin = true) (stressCmd : String) {keyspaceNum : Nat}
    (duration : Option Int) {ksNumber : Nat} (listed : ksNumber ∈ List.range' 1 keyspaceNum) :
    (tester.calls stressCmd keyspaceNum duration).countP
      (fun call => call.keyspaces.includes ksNumber) = 1 := by
  unfold Tester.calls
  by_cases several : keyspaceNum > 1
  · have same : ((fun call : Params => call.keyspaces.includes ksNumber) ∘ fun other =>
        (⟨stressCmd, .name (getKeyspaceName other), duration, true⟩ : Params)) =
          (· == ksNumber) := by
      funext other
      rw [Bool.eq_iff_iff]
      show (getKeyspaceName other == getKeyspaceName ksNumber) = true ↔ _
      rw [beq_iff_eq, beq_iff_eq, getKeyspaceName_injective.eq_iff]
    rw [if_pos ⟨several, spread⟩, countP_map, same]
    exact count_eq_one_of_mem nodup_range' listed
  · have bounds := mem_range'_1.mp listed
    rw [if_neg (fun both => several both.1), countP_singleton, if_pos]
    simp only [Keyspaces.includes, Bool.and_eq_true, decide_eq_true_eq]
    omega

lemma runsAsConfigured_one (spread : tester.roundRobin = true)
    (configured : lists load.stressCmd ≠ [])
    (starts : ∀ command ∈ lists load.stressCmd, tester.Starts command)
    (single : tester.stressMultiplier = 1) (some_keyspace : 1 ≤ load.keyspaceNum tester) :
    tester.RunsAsConfigured load lists := by
  obtain ⟨after, ran, left, threads⟩ := load_returns configured starts
  have id_multiplied : tester.multiplied = id := by
    funext commands
    exact tester.multiplied_of_le (by omega) commands
  rw [Tester.startedBy_of_le (by omega)] at threads
  refine ⟨after, ran, ?_, ?_, ?_⟩
  · rw [threads, length_flatMap]
    simp only [length_map, map_const', sum_replicate_nat, length_calls spread]
    rw [single, max_eq_right some_keyspace]
    push_cast
    ring
  · intro ksNumber listed command _
    rw [threads, countP_flatMap _ _ (fun call => call.keyspaces.includes ksNumber),
      countP_calls spread _ _ listed, single]
    push_cast
    ring
  · rw [left, id_multiplied, Function.iterate_id]
    exact update_eq_self _ _

lemma multiplier_le_of_kept (configured : lists load.stressCmd ≠ [])
    {calls : Nat} (called : 1 ≤ calls)
    (kept : tester.multiplied^[calls] (lists load.stressCmd) = lists load.stressCmd) :
    tester.stressMultiplier ≤ 1 := by
  by_contra several
  have length := congrArg List.length kept
  rw [Tester.length_iterate_multiplied] at length
  have positive : 0 < (lists load.stressCmd).length := length_pos_iff.mpr configured
  have larger : 1 < tester.factor := by
    unfold Tester.factor
    rw [if_pos (by omega)]
    omega
  have grown : 1 < tester.factor ^ calls := Nat.one_lt_pow (by omega) larger
  have more := Nat.mul_lt_mul_of_pos_right grown positive
  omega

def spreadTester (stressMultiplier : Int) : Tester where
  stressMultiplier := stressMultiplier
  roundRobin := true
  keyspaceNum := 2
  prepareStressDuration := none
  renderStressCmd := Except.ok
  tabletsEnabled := false

def multipliedLoad : State :=
  exitState ((Load.run (spreadTester 2) (.main "stress_cmd" 2)).run ⟨fun _ => ["latte run"], []⟩)

end Load

end Sct.Loader
