import Descent.Regex.Footprint
import Descent.Regex.Program
import Descent.Regex.Reader

/-!
# Compiled expressions

A compiled expression keeps the text that it was read from beside its program.  Compiling can be
told that case does not matter; the text then does not show it.  An expression that is too large to
be run as an automaton is refused.
-/

namespace Descent

/-- A compiled regular expression. -/
structure Regex where
  /-- The text of the expression. -/
  source : Text
  /-- The program of the expression. -/
  program : Regex.Program
deriving Repr, Inhabited

namespace Regex

/-- A result that passes a test is one. -/
theorem exists_ok {ε α : Type} {x : Except ε α} {f : α → Bool} (h : x.toOption.any f = true) :
    ∃ a, x = .ok a ∧ f a = true := by
  cases x with
  | error e => cases h
  | ok a => exact ⟨a, rfl, h⟩

/-- Compiles an expression; where `caseless` is set, case does not matter in it. -/
def compile (source : Text) (caseless : Bool := false) : Except Fault Regex := do
  let expr ← Expr.read { caseless } source
  if expr.fits then .ok ⟨source, expr.program⟩ else .error .tooLarge

theorem compile_of_read {source : Text} {caseless : Bool} {e : Expr}
    (h : Expr.read { caseless } source = .ok e) : compile source caseless =
      if e.fits then .ok ⟨source, e.program⟩ else .error .tooLarge := by
  rw [compile, h]
  rfl

theorem compile_of_read_error {source : Text} {caseless : Bool} {fault : Fault}
    (h : Expr.read { caseless } source = .error fault) :
    compile source caseless = .error fault := by
  rw [compile, h]
  rfl

theorem compile_eq_ok_iff {source : Text} {caseless : Bool} {r : Regex} :
    compile source caseless = .ok r ↔ ∃ e, Expr.read { caseless } source = .ok e ∧
      e.fits = true ∧ r = ⟨source, e.program⟩ := by
  constructor
  · intro hr
    cases h : Expr.read { caseless } source with
    | error fault =>
      rw [compile_of_read_error h] at hr
      cases hr
    | ok e =>
      rw [compile_of_read h] at hr
      split at hr
      next hfits =>
        cases hr
        exact ⟨e, rfl, hfits, rfl⟩
      next => cases hr
  · rintro ⟨e, h, hfits, rfl⟩
    rw [compile_of_read h, if_pos hfits]

/-- The text of an expression with the start of the text required in front. -/
def anchored (source : Text) : Text := ['^', '(', '?', ':'] ++ source ++ [')']

/-- The first match in a text, with what follows it. -/
def find? (r : Regex) (t : Text) : Option (Text × Text) := r.program.find? t

end Regex

end Descent
