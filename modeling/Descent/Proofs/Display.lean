import Descent.Proofs.Escapes
import Descent.Value

/-!
# Display texts

The display text of a value says what the value is (`display_determines`), for all values that are
put together from units, tokens and sequences.  Tokens may have commas, brackets, quotes and
backslashes in them.

Such a text says where it ends, whatever comes behind it (`Unconverted.selfDelimiting`): the
parentheses of a unit are fixed, quotes close a token and brackets a sequence.  The first character
tells the three apart.  None starts with the bracket that closes a sequence, so a sequence is empty
just where this bracket comes first, and behind an entry there is another one just where a comma is.
-/

namespace Descent

/-! ## Texts in a row -/

theorem Text.joinWith_cons (sep t : Text) (ts : List Text) :
    Text.joinWith sep (t :: ts) = t ++ ts.flatMap (sep ++ ·) := by
  induction ts generalizing t with
  | nil => simp [Text.joinWith]
  | cons u ts ih => rw [Text.joinWith, ih, List.flatMap_cons, List.append_assoc, List.append_assoc]

namespace Value

variable {M : Type}

/-- The value is put together from units, tokens and sequences, at all depths. -/
inductive Unconverted : Value M → Prop where
  | unit : Unconverted unit
  | token (t) : Unconverted (token t)
  | sequence {vs} : (∀ v ∈ vs, Unconverted v) → Unconverted (sequence vs)

variable [Debug M]

theorem displays_eq_map (vs : List (Value M)) : displays vs = vs.map display := by
  induction vs with
  | nil => rfl
  | cons v vs ih => rw [displays, ih, List.map_cons]

/-- What is written behind the first entry of a sequence. -/
def displayRest (vs : List (Value M)) : Text := vs.flatMap fun v => ',' :: ' ' :: v.display

theorem displayRest_cons (v : Value M) (vs : List (Value M)) :
    displayRest (v :: vs) = ',' :: ' ' :: (v.display ++ displayRest vs) := List.flatMap_cons

theorem display_sequence_nil_append (x : Text) :
    (sequence [] : Value M).display ++ x = '[' :: ']' :: x := rfl

theorem display_sequence_cons_append (v : Value M) (vs : List (Value M)) (x : Text) :
    (sequence (v :: vs)).display ++ x = '[' :: (v.display ++ (displayRest vs ++ ']' :: x)) := by
  rw [display, displays_eq_map, List.map_cons, bracketed, Text.joinWith_cons, List.flatMap_map]
  simp [displayRest]

/-! ## Where display texts end -/

/-- The display text tells the value from all others that are put together from units, tokens and
sequences, and it tells where it ends. -/
def SelfDelimiting (v : Value M) : Prop :=
  ∀ {w : Value M}, w.Unconverted → ∀ {x y : Text}, v.display ++ x = w.display ++ y → v = w ∧ x = y

theorem selfDelimiting_unit : (unit : Value M).SelfDelimiting := by
  intro w hw x y h
  cases hw with
  | unit => exact ⟨rfl, List.append_cancel_left h⟩
  | token u => simp [display, Text.quoted] at h
  | sequence hws => simp [display, bracketed] at h

/-- The quotation marks around a token end it, as those inside are escaped. -/
theorem selfDelimiting_token (t : Text) : (token t : Value M).SelfDelimiting := by
  intro w hw x y h
  cases hw with
  | unit => simp [display, Text.quoted] at h
  | token u =>
      obtain ⟨rfl, hxy⟩ := Text.quoted_append_inj h
      exact ⟨rfl, hxy⟩
  | sequence hws => simp [display, Text.quoted, bracketed] at h

/-- No value starts like the end of a sequence, so a reader can tell whether another entry follows.
-/
theorem Unconverted.closing_ne {v : Value M} (h : v.Unconverted) (t u : Text) :
    ']' :: t ≠ v.display ++ u := by
  cases h with
  | unit => simp [display]
  | token t => simp [display, Text.quoted]
  | sequence h => simp [display, bracketed]

/-- What is written behind an entry tells the entries behind it, up to the closing bracket. -/
theorem displayRest_append_inj {vs : List (Value M)} (hvs : ∀ v ∈ vs, v.SelfDelimiting)
    {ws : List (Value M)} (hws : ∀ w ∈ ws, w.Unconverted) {x y : Text}
    (h : displayRest vs ++ ']' :: x = displayRest ws ++ ']' :: y) : vs = ws ∧ x = y := by
  induction vs generalizing ws with
  | nil =>
      cases ws with
      | nil => exact ⟨rfl, (List.cons.inj h).2⟩
      | cons w ws => simp [displayRest] at h
  | cons v vs ih =>
      obtain ⟨hv, hvs'⟩ := List.forall_mem_cons.mp hvs
      cases ws with
      | nil => simp [displayRest] at h
      | cons w ws =>
          obtain ⟨hw, hws'⟩ := List.forall_mem_cons.mp hws
          simp only [displayRest_cons, List.cons_append, List.append_assoc, List.cons.injEq,
            true_and] at h
          obtain ⟨rfl, hrest⟩ := hv hw h
          obtain ⟨rfl, hxy⟩ := ih hvs' hws' hrest
          exact ⟨rfl, hxy⟩

/-- The entries of a sequence are read off one by one, up to the bracket that closes it. -/
theorem selfDelimiting_sequence {vs : List (Value M)} (hvs : ∀ v ∈ vs, v.Unconverted)
    (ends : ∀ v ∈ vs, v.SelfDelimiting) : (sequence vs).SelfDelimiting := by
  intro w hw x y h
  cases hw with
  | unit => simp [display, bracketed] at h
  | token u => simp [display, Text.quoted, bracketed] at h
  | @sequence ws hws =>
      cases vs with
      | nil =>
          rw [display_sequence_nil_append] at h
          cases ws with
          | nil => exact ⟨rfl, (List.cons.inj (List.cons.inj h).2).2⟩
          | cons w ws =>
              rw [display_sequence_cons_append] at h
              exact absurd (List.cons.inj h).2 ((hws w List.mem_cons_self).closing_ne _ _)
      | cons v vs =>
          rw [display_sequence_cons_append] at h
          cases ws with
          | nil =>
              rw [display_sequence_nil_append] at h
              exact absurd (List.cons.inj h).2.symm ((hvs v List.mem_cons_self).closing_ne _ _)
          | cons w ws =>
              rw [display_sequence_cons_append] at h
              -- with a comma in front, all the entries are written as the rest behind another one
              have rests : displayRest (v :: vs) ++ ']' :: x = displayRest (w :: ws) ++ ']' :: y := by
                simp [displayRest_cons, (List.cons.inj h).2]
              obtain ⟨heq, hxy⟩ := displayRest_append_inj ends hws rests
              exact ⟨congrArg sequence heq, hxy⟩

/-- By induction on how the value is put together. -/
theorem Unconverted.selfDelimiting {v : Value M} (h : v.Unconverted) : v.SelfDelimiting := by
  induction h with
  | unit => exact selfDelimiting_unit
  | token t => exact selfDelimiting_token t
  | sequence hvs ih => exact selfDelimiting_sequence hvs ih

/-- Values that are put together from units, tokens and sequences, to any depth and with any texts
for tokens, have the same display text only if they are the same. -/
theorem display_determines {v w : Value M} (hv : v.Unconverted) (hw : w.Unconverted) :
    v.display = w.display ↔ v = w := by
  constructor
  · intro h
    exact (hv.selfDelimiting hw (congrArg (· ++ []) h)).1
  · rintro rfl
    rfl

/-- A token with a quote, a comma and another quote in it does not look like two tokens, nor a unit
inside a sequence like one in front of it. -/
theorem display_determines_divided :
    let v : Value Text := .sequence [.token ['a', '"', ',', ' ', '"', 'b'], .sequence [.unit]]
    let w : Value Text := .sequence [.token ['a'], .token ['b'], .unit, .sequence []]
    v.display = "[\"a\\\", \\\"b\", [()]]".toList ∧ w.display = "[\"a\", \"b\", (), []]".toList ∧
    v.display ≠ w.display := by
  intro v w
  have hv : v.Unconverted := .sequence <| List.forall_mem_cons.mpr
    ⟨.token _, List.forall_mem_singleton.mpr (.sequence (List.forall_mem_singleton.mpr .unit))⟩
  have hw : w.Unconverted := .sequence <| List.forall_mem_cons.mpr ⟨.token _,
    List.forall_mem_cons.mpr ⟨.token _, List.forall_mem_cons.mpr ⟨.unit,
      List.forall_mem_singleton.mpr (.sequence nofun)⟩⟩⟩
  have hne : v ≠ w := by
    intro h
    have hlen := congrArg (fun u => u.items.length) h
    exact absurd hlen (by decide)
  exact ⟨by decide, by decide, fun h => hne ((display_determines hv hw).mp h)⟩

end Value

end Descent
