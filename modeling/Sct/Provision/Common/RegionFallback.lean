import Mathlib.Logic.Function.Basic
import Sct.Lib.Effect
import Sct.Provision.Placement

/-!
# Whole-cluster fallback loops

The two loops of `sdcm/provision/common/region_fallback.py`, over the state of their callers: every
effect is a callback that may do anything to it and may raise. A Python generator is a list of steps
that run only when the next value is asked for; a step may yield a value, yield nothing or raise.
-/

open Sct.Effect

namespace Sct

/-- A lazily run iterable: making it ready returns the steps that look for the next value. -/
structure Generator (m : Type → Type) (α : Type) where
  /-- What the first `next` runs before the first step. -/
  start : m (List (m (Option α)))

/-- Carry every effect of a generator into another monad. -/
def Generator.lift {m n : Type → Type} [Functor n] {α : Type} (arrow : {β : Type} → m β → n β)
    (generator : Generator m α) : Generator n α where
  start := (fun steps => steps.map arrow) <$> arrow generator.start

/-- A fallback target: a region and the zone letters to use there. -/
abbrev Candidate := String × List String

variable {σ : Type}

/-- Run a computation; if it raises, restore and raise the same exception. -/
def restoringOnRaise {α : Type} (restore : EStateM Exc σ Unit) (body : EStateM Exc σ α) :
    EStateM Exc σ α :=
  tryCatch body fun exc => do
    restore
    throw exc

/-- `_restoring_on_error`: a raise of the first call or of any later `next` restores first. -/
def restoringOnError {α : Type} (candidates : Generator (EStateM Exc σ) α)
    (restore : EStateM Exc σ Unit) : Generator (EStateM Exc σ) α where
  start := do
    let steps ← restoringOnRaise restore candidates.start
    pure (steps.map (restoringOnRaise restore))

/-! ## One region -/

structure RegionFallback (σ : Type) where
  originalRegion : Option String
  regionCandidates : Generator (EStateM Exc σ) Candidate
  provisionOnce : EStateM Exc σ Unit
  switchRegion : String → List String → EStateM Exc σ Unit
  restoreRegion : EStateM Exc σ Unit
  cleanupRegion : Option String → EStateM Exc σ Unit
  isCapacityError : Exc → Bool
  /-- Build the exception of a fallback with no region left. -/
  errorFactory : String → EStateM Exc σ Exc

namespace RegionFallback

variable (fallback : RegionFallback σ)

/-- `attempt`: `none` on success, otherwise the capacity error, with the region cleaned up. -/
def attempt (region : Option String) :
    EStateM Exc σ (Option Exc) := do
  let failure ← tryCatch (do fallback.provisionOnce; pure none) fun exc =>
    if fallback.isCapacityError exc then pure (some exc)
    else do
      fallback.restoreRegion
      throw exc
  match failure with
  | none => pure none
  | some exc => do
    fallback.cleanupRegion region
    pure (some exc)

/-- One iteration over the candidates: look for the next target, move there and try. The local
variables are the regions tried and the last capacity error. -/
def relocate (carried : List String × Exc) (step : EStateM Exc σ (Option Candidate)) :
    EStateM Exc σ ((List String × Exc) ⊕ Unit) := do
  match ← step with
  | none => pure (.inl carried)
  | some (targetRegion, azLetters) => do
    fallback.switchRegion targetRegion azLetters
    match ← fallback.attempt (some targetRegion) with
    | none => pure (.inr ())
    | some exc => pure (.inl (carried.1 ++ [targetRegion], exc))

/-- The text of the exception raised when every region is exhausted. -/
def exhaustedMessage (originalRegion : Option String) (triedRegions : List String)
    (lastError : Exc) : String :=
  let tried := if triedRegions.isEmpty then "(no eligible candidates)"
    else ", ".intercalate triedRegions
  "Failed creating clusters in region '" ++ formatOptional originalRegion ++
    "' and all fallback candidates [" ++ tried ++ "]: " ++ lastError.message

def candidates : Generator (EStateM Exc σ) Candidate :=
  restoringOnError fallback.regionCandidates fallback.restoreRegion

/-- Restore and raise the exception that says every region was tried. -/
def exhausted (triedRegions : List String) (lastError : Exc) :
    EStateM Exc σ Unit := do
  fallback.restoreRegion
  let error ← fallback.errorFactory
    (exhaustedMessage fallback.originalRegion triedRegions lastError)
  throw error

/-- `provision_with_region_fallback`. -/
def run : EStateM Exc σ Unit := do
  match ← fallback.attempt fallback.originalRegion with
  | none => pure ()
  | some exc => do
    let steps ← fallback.candidates.start
    match ← foldUntil fallback.relocate ([], exc) steps with
    | .inr () => pure ()
    | .inl (triedRegions, lastError) => fallback.exhausted triedRegions lastError

end RegionFallback

/-! ## Several data centers -/

structure DcFallback (σ : Type) where
  dcCandidates : Nat → Generator (EStateM Exc σ) Candidate
  provisionOnce : EStateM Exc σ Unit
  /-- The data center whose region a capacity error is about, when it can be told. -/
  failedDcIndex : Exc → EStateM Exc σ (Option Nat)
  switchDcRegion : Nat → String → List String → EStateM Exc σ Unit
  restore : EStateM Exc σ Unit
  cleanup : EStateM Exc σ Unit
  isCapacityError : Exc → Bool
  /-- Build the exception of a data center with no candidate left. -/
  errorFactory : String → EStateM Exc σ Exc

/-- `dc_iterators`: the steps left of each data center that was exhausted before. -/
abbrev DcIterators (σ : Type) := Nat → Option (List (EStateM Exc σ (Option Candidate)))

/-- `next(iterator, None)`, with the steps that are left. -/
def nextOf : List (EStateM Exc σ (Option Candidate)) →
    EStateM Exc σ (Option Candidate × List (EStateM Exc σ (Option Candidate)))
  | [] => pure (none, [])
  | step :: rest => do
    match ← step with
    | none => nextOf rest
    | some candidate => pure (some candidate, rest)

namespace DcFallback

variable (fallback : DcFallback σ) (dcIterators : DcIterators σ)

/-- The steps a data center has left: those of its iterator, made on first use. -/
def iteratorOf (dcIndex : Nat) : EStateM Exc σ (List (EStateM Exc σ (Option Candidate))) :=
  match dcIterators dcIndex with
  | some steps => pure steps
  | none => (fallback.dcCandidates dcIndex).start

/-- `next_candidate`: the next target of a data center, and the iterators afterwards. -/
def nextCandidate (dcIndex : Nat) : EStateM Exc σ (Option Candidate × DcIterators σ) :=
  restoringOnRaise fallback.restore do
    let steps ← fallback.iteratorOf dcIterators dcIndex
    let found ← nextOf steps
    pure (found.1, Function.update dcIterators dcIndex (some found.2))

/-- The text of the exception raised when a data center has no candidate left. -/
def exhaustedMessage (dcIndex : Option Nat) (exc : Exc) : String :=
  "Failed creating multi-DC clusters; DC " ++ formatOptional (dcIndex.map Nat.repr) ++
    " exhausted its fallback candidates: " ++ exc.message

/-- Restore and raise the exception that says the data center has no candidate left. -/
def exhausted {α : Type} (fallback : DcFallback σ) (dcIndex : Option Nat) (exc : Exc) :
    EStateM Exc σ α := do
  fallback.restore
  let error ← fallback.errorFactory (exhaustedMessage dcIndex exc)
  throw error

/-- What the handler of a capacity error does: attribute it, clean up, and move the data center
to its next target, or stop. -/
def relocateFailed (exc : Exc) :
    EStateM Exc σ (DcIterators σ ⊕ Unit) := do
  let dcIndex ← fallback.failedDcIndex exc
  fallback.cleanup
  match dcIndex with
  | none => fallback.exhausted none exc
  | some index => do
    let found ← fallback.nextCandidate dcIterators index
    match found.1 with
    | none => fallback.exhausted (some index) exc
    | some (targetRegion, azLetters) => do
      fallback.switchDcRegion index targetRegion azLetters
      pure (.inl found.2)

/-- One iteration of `while True`. -/
def iteration :
    EStateM Exc σ (DcIterators σ ⊕ Unit) := do
  let failure ← tryCatch (do fallback.provisionOnce; pure none) fun exc => pure (some exc)
  match failure with
  | none => pure (.inr ())
  | some exc =>
    if fallback.isCapacityError exc then fallback.relocateFailed dcIterators exc
    else do
      fallback.restore
      throw exc

/-- `provision_with_dc_fallback`, for so many attempts at most; `none` when they were not
enough. -/
def run (fuel : Nat) : EStateM Exc σ (Option Unit) :=
  repeatUntil fallback.iteration fuel fun _ => none

end DcFallback

end Sct
