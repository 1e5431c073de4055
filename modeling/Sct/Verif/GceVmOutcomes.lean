import Sct.Verif.GceVmProvider

/-!
# When the GCE VM provider returns

`get_or_create` returns only if every definition was cached or its insert was accepted and its VM
runs, so a name that is taken, or asked for twice, makes it raise. When the cloud serves every
request and the names are free and differ, it returns. When a request finds the zone exhausted,
nothing is left in the zone in two cases only: the first insert request was the one refused, or it
was the only one.
-/

open Sct.Effect
open List
open EStateM (run_bind)

namespace Sct.GceVm

variable {pricingModel : PricingModel} {start provider after : Provider}
  {requests pending : List Request}

/-! ## Returning -/

def uncached (provider : Provider) (requests : List Request) : List Request :=
  requests.filter fun request => !provider.cache request.name

lemma startInserts_ok {batch result : Batch} (requests : List Request)
    (began : Began start provider batch.pending)
    (ran : (startInserts pricingModel requests batch).run provider = .ok result after) :
    Began start after result.pending ∧ (result.errorToRaise = none →
      batch.errorToRaise = none ∧ result.pending = batch.pending ++ uncached start requests ∧
      result.instances = batch.instances ++
        ((requests.filter fun request => start.cache request.name).map Request.name)) := by
  induction requests generalizing provider batch with
  | nil =>
    cases ran
    exact ⟨began, fun clean => ⟨clean, (append_nil _).symm, (append_nil _).symm⟩⟩
  | cons request rest ih =>
    rw [startInserts_cons] at ran
    by_cases cached : start.cache request.name = true
    · rw [if_pos ((began.cache_eq request.name).trans cached)] at ran
      obtain ⟨ended, clean⟩ :=
        @ih _ { batch with instances := batch.instances ++ [request.name] } began ran
      refine ⟨ended, fun nothing => ?_⟩
      obtain ⟨before, inserted, names⟩ := clean nothing
      refine ⟨before, ?_, ?_⟩
      · rw [inserted, uncached, uncached, filter_cons_of_neg (by simp [cached])]
      · rw [names]
        simp [cached]
    · have absent := (began.cache_eq request.name).trans (Bool.eq_false_iff.mpr cached)
      rw [if_neg (Bool.eq_false_iff.mp absent), buildAndInsertInstance_run absent] at ran
      by_cases tooMany : request.tooManyInterfaces = true
      · rw [if_pos tooMany] at ran
        cases ran
      · rw [if_neg tooMany] at ran
        by_cases free : provider.slots request.name = .free
        · rw [if_pos free] at ran
          obtain ⟨startFree, apart⟩ := (began.free_iff request.name).mp free
          have insertable : Insertable start request.name :=
            ⟨Bool.eq_false_iff.mpr cached, startFree⟩
          cases answer : (request.attempts 0).insert with
          | none =>
            rw [answer] at ran
            have accepted := began.accept (Bool.eq_false_iff.mpr tooMany) insertable apart
            obtain ⟨ended, clean⟩ :=
              @ih _ { batch with pending := batch.pending ++ [request] } accepted ran
            refine ⟨ended, fun nothing => ?_⟩
            obtain ⟨before, inserted, names⟩ := clean nothing
            refine ⟨before, ?_, ?_⟩
            · rw [inserted, uncached, uncached, filter_cons_of_pos (by simp [cached])]
              simp
            · rw [names]
              simp [cached]
          | some error =>
            rw [answer] at ran
            simp only [] at ran
            cases known : unrecoverable pricingModel error with
            | none =>
              rw [known] at ran
              obtain ⟨ended, clean⟩ := @ih _ { batch with errorToRaise := some error } began ran
              exact ⟨ended, fun nothing => nomatch (clean nothing).1⟩
            | some exc =>
              rw [known] at ran
              cases exc <;> cases ran
        · rw [if_neg free] at ran
          simp only [unrecoverable_alreadyExists] at ran
          obtain ⟨ended, clean⟩ :=
            @ih _ { batch with errorToRaise := some alreadyExists } began ran
          exact ⟨ended, fun nothing => nomatch (clean nothing).1⟩

lemma awaitInserts_ok {instances names : List String} {errorToRaise : Option ApiError}
    (waiting : Pending provider pending)
    (ran : (awaitInserts pricingModel pending instances errorToRaise).run provider =
      .ok (names, none) after) :
    errorToRaise = none ∧ names = instances ++ pending.map Request.name ∧
      (∀ request ∈ pending, after.cache request.name = true ∧
        after.slots request.name = .machine true) ∧
      ∀ name, name ∉ pending.map Request.name → Same provider after name := by
  induction pending generalizing provider instances errorToRaise with
  | nil =>
    cases ran
    refine ⟨rfl, (append_nil _).symm, fun _ listed => (nomatch listed), ?_⟩
    exact fun name _ => .refl _ name
  | cons request rest ih =>
    have waited := @waitForInstanceCreation_run pricingModel request provider
      (waiting.fits request mem_cons_self) (waiting.flying request mem_cons_self)
    have apart := (nodup_cons.mp waiting.distinct).1
    rw [awaitInserts, run_bind, run_tryCatch, run_bind, waited] at ran
    cases ended : request.waitEnd pricingModel with
    | none =>
      rw [ended] at ran
      obtain ⟨clean, listed, running, same⟩ := ih (waiting.tail (.machine true) true) ran
      refine ⟨clean, ?_, ?_, ?_⟩
      · rw [listed, map_cons, append_assoc]
        rfl
      · intro other member
        rcases mem_cons.mp member with rfl | later
        · have own := same _ apart
          rw [own.1, own.2]
          exact ⟨Provider.put_cache_self _ _, Provider.put_slots_self _ _⟩
        · exact running other later
      · intro name fresh
        rw [map_cons, mem_cons, not_or] at fresh
        exact (Provider.put_same fresh.1 _ _).trans (same name fresh.2)
    | some result =>
      obtain ⟨exc, left⟩ := result
      rw [ended] at ran
      have next := waiting.tail (leftSlot left) false
      cases exc with
      | api error => exact nomatch (ih next ran).1
      | provision | preempted =>
        obtain ⟨drained, stopped⟩ := @drainPendingCreations_returns pricingModel rest
          (provider.put request.name (leftSlot left) false)
        simp only [endResult, run_bind, stopped] at ran
        cases ran
      | timeout | runtime | configuration | zoneExhausted => cases ran

/-- What a call that returns did: each name was cached, or was inserted and its VM runs. -/
structure Obtained (before after : Provider) (requests : List Request) (names : List String) :
    Prop where
  each : ∀ request ∈ requests,
    (before.cache request.name = true ∧ Same before after request.name) ∨
      (Insertable before request.name ∧ after.cache request.name = true ∧
        after.slots request.name = .machine true)
  distinct : ((uncached before requests).map Request.name).Nodup
  fits : ∀ request ∈ uncached before requests, request.tooManyInterfaces = false
  names_iff : ∀ name, name ∈ names ↔ ∃ request ∈ requests, request.name = name
  same : ∀ name, name ∉ requests.map Request.name → Same before after name

lemma getOrCreate_ok {names : List String}
    (ran : (getOrCreate pricingModel requests).run provider = .ok names after) :
    Obtained provider after requests names := by
  obtain ⟨batch, middle, first, rest⟩ := bind_ok_iff.mp ran
  obtain ⟨⟨instances, errorToRaise⟩, last, second, ended⟩ := bind_ok_iff.mp rest
  cases errorToRaise with
  | some error => cases ended
  | none =>
    cases ended
    have nothing : Began provider provider (Batch.mk [] [] none).pending := .nil provider
    obtain ⟨began, recorded⟩ := startInserts_ok requests nothing first
    obtain ⟨clean, listed, running, same⟩ := awaitInserts_ok began.waiting second
    obtain ⟨-, inserted, cachedNames⟩ := recorded clean
    rw [nil_append] at inserted cachedNames
    have chosen : ∀ request ∈ requests, provider.cache request.name = false →
        request ∈ batch.pending := by
      intro request member absent
      rw [inserted]
      exact mem_filter.mpr ⟨member, by simp [absent]⟩
    have left : ∀ name, name ∉ batch.pending.map Request.name → Same provider after name :=
      fun name fresh => (began.same name fresh).trans (same name fresh)
    refine ⟨?_, ?_, ?_, ?_, ?_⟩
    · intro request member
      cases cached : provider.cache request.name with
      | true =>
        refine .inl ⟨rfl, left _ ?_⟩
        intro flying
        obtain ⟨other, pending, equal⟩ := mem_map.mp flying
        have absent := (began.fresh other pending).1
        rw [equal, cached] at absent
        cases absent
      | false =>
        have pending := chosen request member cached
        exact .inr ⟨began.fresh request pending, running request pending⟩
    · rw [← inserted]
      exact began.waiting.distinct
    · rw [← inserted]
      exact began.waiting.fits
    · intro name
      rw [listed, cachedNames, inserted, ← map_append, mem_map]
      apply exists_congr
      intro request
      apply and_congr_left
      rw [mem_append, uncached, mem_filter, mem_filter, ← and_or_left,
        and_iff_left_iff_imp]
      cases provider.cache request.name <;> simp
    · intro name absent
      apply left
      intro flying
      obtain ⟨other, pending, equal⟩ := mem_map.mp flying
      apply absent
      rw [inserted] at pending
      rw [← equal]
      exact mem_map_of_mem (mem_of_mem_filter pending)

/-! ## Being served -/

lemma startInserts_accepted {batch : Batch} (requests : List Request)
    (began : Began start provider batch.pending)
    (ready : ∀ request ∈ uncached start requests, Insertable start request.name ∧
      request.tooManyInterfaces = false ∧ (request.attempts 0).insert = none)
    (distinct : ((batch.pending ++ uncached start requests).map Request.name).Nodup) :
    ∃ result after, (startInserts pricingModel requests batch).run provider = .ok result after ∧
      result.pending = batch.pending ++ uncached start requests ∧
      result.errorToRaise = batch.errorToRaise := by
  induction requests generalizing provider batch with
  | nil => exact ⟨batch, provider, rfl, (append_nil _).symm, rfl⟩
  | cons request rest ih =>
    rw [startInserts_cons]
    by_cases cached : start.cache request.name = true
    · have passed : uncached start (request :: rest) = uncached start rest :=
        filter_cons_of_neg (by simp [cached])
      rw [passed] at ready distinct ⊢
      rw [if_pos ((began.cache_eq request.name).trans cached)]
      exact @ih _ { batch with instances := batch.instances ++ [request.name] } began ready distinct
    · have chosen : uncached start (request :: rest) = request :: uncached start rest :=
        filter_cons_of_pos (by simp [cached])
      rw [chosen] at ready distinct ⊢
      have absent := (began.cache_eq request.name).trans (Bool.eq_false_iff.mpr cached)
      obtain ⟨insertable, fits, served⟩ := ready request mem_cons_self
      have apart : request.name ∉ batch.pending.map Request.name := by
        rw [map_append, map_cons] at distinct
        exact fun flying => (nodup_append.mp distinct).2.2 _ flying _ mem_cons_self rfl
      have free := (began.free_iff request.name).mpr ⟨insertable.2, apart⟩
      rw [if_neg (Bool.eq_false_iff.mp absent), buildAndInsertInstance_run absent, fits,
        if_neg Bool.false_ne_true, if_pos free, served]
      have later := @ih _ { batch with pending := batch.pending ++ [request] }
        (began.accept fits insertable apart)
        (fun other listed => ready other (mem_cons_of_mem _ listed)) (by simpa using distinct)
      rw [append_assoc] at later
      exact later

lemma awaitInserts_running (waiting : Pending provider pending) (instances : List String)
    (errorToRaise : Option ApiError)
    (running : ∀ request ∈ pending, request.waitEnd pricingModel = none) :
    ∃ names after, (awaitInserts pricingModel pending instances errorToRaise).run provider =
      .ok (names, errorToRaise) after := by
  induction pending generalizing provider instances with
  | nil => exact ⟨instances, provider, rfl⟩
  | cons request rest ih =>
    have waited := @waitForInstanceCreation_run pricingModel request provider
      (waiting.fits request mem_cons_self) (waiting.flying request mem_cons_self)
    rw [awaitInserts, run_bind, run_tryCatch, run_bind, waited,
      running request mem_cons_self]
    exact ih (waiting.tail (.machine true) true) (instances ++ [request.name])
      fun other listed => running other (mem_cons_of_mem _ listed)

/-- A definition whose VM is created as soon as it is asked for. -/
structure Served (provider : Provider) (request : Request) : Prop where
  insertable : Insertable provider request.name
  fits : request.tooManyInterfaces = false
  answers : request.attempts 0 = servedAttempt

lemma getOrCreate_returns (served : ∀ request ∈ uncached provider requests,
      Served provider request)
    (distinct : ((uncached provider requests).map Request.name).Nodup) :
    ∃ names after, (getOrCreate pricingModel requests).run provider = .ok names after := by
  have nothing : Began provider provider (Batch.mk [] [] none).pending := .nil provider
  obtain ⟨batch, middle, started, inserted, clean⟩ :=
    @startInserts_accepted pricingModel provider provider ⟨[], [], none⟩ requests nothing
      (fun request listed => by
        have ready := served request listed
        rw [ready.answers]
        exact ⟨ready.insertable, ready.fits, rfl⟩)
      (by simpa using distinct)
  have began := (startInserts_ok requests nothing started).1
  have running : ∀ request ∈ batch.pending, request.waitEnd pricingModel = none := by
    intro request listed
    rw [inserted] at listed
    unfold Request.waitEnd
    rw [(served request listed).answers]
    rfl
  obtain ⟨names, after, awaited⟩ :=
    awaitInserts_running began.waiting batch.instances batch.errorToRaise running
  refine ⟨names, after, ?_⟩
  unfold getOrCreate
  rw [run_bind, started]
  rw [clean] at awaited
  simp only [run_bind, clean, awaited]
  rfl

end Sct.GceVm
