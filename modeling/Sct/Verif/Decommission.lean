import Sct.Nemesis.Decommission

/-!
# What the monitoring of a decommission lets through

A `KillNemesis` is let through only if the first poll finds the decommission ended: while it goes on,
the monitoring waits for it and swallows the exception, and an error of its own takes its place.
-/

namespace Sct.Nemesis

lemma Exit.verified_eq_suppressed {exit : Exit} (suppressed : exit.verified = .suppressed) :
    verifyDecommission exit.findings = .ok () := by
  unfold Exit.verified at suppressed
  split at suppressed
  · assumption
  · cases suppressed

lemma Exit.verified_ne_passed (exit : Exit) : exit.verified ≠ .passed := by
  unfold Exit.verified
  split <;> nofun

/-- What stands for a verified decommission: a poll after the first says that it has ended, and the
verification accepts it. -/
def Exit.Accepted (exit : Exit) : Prop :=
  (exit.second = .ended ∨ .ended ∈ exit.later) ∧ verifyDecommission exit.findings = .ok ()

lemma Exit.accepted_of_suppressed {exit : Exit} (suppressed : exit.run = .suppressed) :
    exit.Accepted := by
  unfold Exit.run at suppressed
  split at suppressed
  · cases suppressed
  split at suppressed
  · split at suppressed
    · cases suppressed
    · rename_i ended
      exact ⟨.inl ended, Exit.verified_eq_suppressed suppressed⟩
    · split at suppressed
      · rename_i ended
        exact ⟨.inr ended, Exit.verified_eq_suppressed suppressed⟩
      · cases suppressed
  · cases suppressed

lemma Exit.run_killNemesis_iff {exit : Exit} (killed : exit.exception = some .killNemesis) :
    exit.run = .passed ↔ exit.first = .ended := by
  unfold Exit.run
  cases exit.first with
  | failed => simp
  | ended => simp [killed]
  | inProgress =>
    simp only [reduceCtorEq, if_false, or_true, if_true, iff_false]
    split
    · nofun
    · exact exit.verified_ne_passed
    · split
      · exact exit.verified_ne_passed
      · nofun

theorem exit_propagates_iff (exit : Exit) :
    ((exit.exception = some .killNemesis → exit.run = .passed) ∧
      (exit.exception = some .other → exit.run = .suppressed → exit.Accepted)) ↔
    (exit.exception = some .killNemesis → exit.first = .ended) := by
  constructor
  · intro sound killed
    exact (Exit.run_killNemesis_iff killed).mp (sound.1 killed)
  · intro ended
    exact ⟨fun killed => (Exit.run_killNemesis_iff killed).mpr (ended killed),
      fun _ => Exit.accepted_of_suppressed⟩

/-- A nemesis is killed while the node is still being decommissioned, and the exception is lost. -/
theorem kill_swallowed : Exit.run ⟨some .killNemesis, .inProgress, .ended, [],
    ⟨"10.0.0.1", some ["10.0.0.2"], [], true, true⟩⟩ = .suppressed := by
  decide

end Sct.Nemesis
