import Descent.Parse

/-!
# How runs come to match

A run that goes on behind another matches where both do, and a run that stands in for another
matches where either does.  A repetition matches whatever its elements do; what it puts out is told
by an invariant of the items and the rest, which every further element has to keep
(`further_matched`).
-/

namespace Descent

variable {M : Type}

namespace Outcome

/-- The match, if there is one. -/
def match? : Outcome M → Option (Match M)
  | matched m => some m
  | _ => none

theorem match?_eq_some_iff {o : Outcome M} {m : Match M} : o.match? = some m ↔ o = .matched m := by
  cases o <;> simp [match?]

theorem ofExcept_eq_matched_iff {x : Except ParseError (Match M)} {m : Match M} :
    ofExcept x = .matched m ↔ x = .ok m := by
  cases x <;> simp [ofExcept]

end Outcome

namespace Run

theorem onMatch_eq_matched_iff {r : Run M} {k : Match M → Run M} {n : Match M} :
    (r.onMatch k).outcome = .matched n ↔
      ∃ m, r.outcome = .matched m ∧ (k m).outcome = .matched n := by
  unfold onMatch
  cases h : r.outcome with
  | matched m => simp
  | failed e => simp [h]
  | aborted a => simp [h]
  | unfinished => simp [h]

theorem onMismatch_eq_matched_iff {r : Run M} {k : ParseError → Run M} {n : Match M} :
    (r.onMismatch k).outcome = .matched n ↔
      r.outcome = .matched n ∨
        ∃ e, r.outcome = .failed e ∧ e.isRecoverable = true ∧ (k e).outcome = .matched n := by
  unfold onMismatch
  cases h : r.outcome with
  | matched m => simp [h]
  | failed e =>
      by_cases he : e.isRecoverable = true
      · simp [he]
      · simp [h, he]
  | aborted a => simp [h]
  | unfinished => simp [h]

/-- What holds of the items and the rest at some element, and is kept by every element that matches,
holds when the repetition ends. -/
theorem further_matched {element : Text → Run M} {next : Text → Option Text}
    {I : List (Value M) → Text → Prop}
    (step : ∀ {items rest u m}, I items rest → next rest = some u →
      (element u).outcome = .matched m → I (items ++ m.output.solidItems) m.rest) :
    ∀ {fuel : Nat} {items : List (Value M)} {before rest : Text} {n : Match M}, I items rest →
      (further element next fuel items before rest).outcome = .matched n →
        ∃ items', n.output = .sequence items' ∧ I items' n.rest := by
  intro fuel
  induction fuel with
  | zero =>
      intro items before rest n hI h
      cases h
      exact ⟨items, rfl, hI⟩
  | succ fuel ih =>
      intro items before rest n hI h
      rw [further] at h
      split at h
      next =>
        split at h
        next => cases h; exact ⟨items, rfl, hI⟩
        next u hu =>
          simp only at h
          split at h
          next m hm => exact ih (step hI hu hm) h
          next e he =>
            split at h
            next => cases h; exact ⟨items, rfl, hI⟩
            next => rw [he] at h; cases h
          next hno _ => exact absurd h (hno n)
      next => cases h; exact ⟨items, rfl, hI⟩

end Run

end Descent
