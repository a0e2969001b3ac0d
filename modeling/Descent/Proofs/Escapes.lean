import Descent.Text.Clipped
import Descent.Text.Hex
import Mathlib.Logic.Function.Basic

/-!
# Reading escapes

Texts are escaped between double quotes and in the fields of the log.  Both write a character in one
of three ways (`WrittenAs`): as itself, as a backslash and a letter, or as its code in braces.  They
differ in the characters that they write as themselves, but they do not contradict each other.  So
one reader reads them both (`WrittenAs.read`): it gives the first character and leaves what comes
behind, whatever that is.

A way to write characters that can be read so is `Legible`.  What a text is written as, one character
after the other, then has no other reading (`Legible.flatMap_append_inj`), and a text in double
quotes says where it ends (`quoted_append_inj`).
-/

namespace Descent

/-! ## Hexadecimal digits -/

namespace Hex

theorem digit?_digitChar : ∀ {d : Nat}, d < 16 → digit? (Nat.digitChar d) = some d := by decide

theorem value_concat (digits : List Char) {c : Char} {d : Nat} (h : digit? c = some d) :
    value (digits ++ [c]) = 16 * value digits + d := by
  simp [value, h]

/-- A number is written with one digit, or with one more digit behind those of its sixteenth part. -/
theorem toDigits_induction {P : Nat → List Char → Prop}
    (digit : ∀ d < 16, P d [Nat.digitChar d])
    (more : ∀ n, ∀ d < 16, P n (Nat.toDigits 16 n) →
      P (16 * n + d) (Nat.toDigits 16 n ++ [Nat.digitChar d])) (n : Nat) :
    P n (Nat.toDigits 16 n) := by
  induction n using Nat.strongRecOn with
  | ind n ih =>
      by_cases h : n < 16
      · rw [Nat.toDigits_of_lt_base h]
        exact digit n h
      · have hlt : n / 16 < n := by omega
        have step := more (n / 16) (n % 16) (Nat.mod_lt n (by decide)) (ih _ hlt)
        rwa [Nat.div_add_mod, ← Nat.toDigits_of_base_le (by decide) (Nat.not_lt.mp h)] at step

/-- The digits that write a number are read back. -/
theorem value_toDigits (n : Nat) : value (Nat.toDigits 16 n) = n := by
  refine toDigits_induction (P := fun n digits => value digits = n) (fun d hd => ?_)
    (fun n d hd ih => ?_) n
  · rw [← List.nil_append [Nat.digitChar d], value_concat [] (digit?_digitChar hd)]
    exact Nat.zero_add d
  · rw [value_concat _ (digit?_digitChar hd), ih]

/-- What holds of the sixteen digits holds of all characters that a number is written with. -/
theorem forall_mem_toDigits {P : Char → Prop} (h : ∀ d < 16, P (Nat.digitChar d)) (n : Nat) :
    ∀ c ∈ Nat.toDigits 16 n, P c :=
  toDigits_induction (P := fun _ digits => ∀ c ∈ digits, P c)
    (fun d hd => List.forall_mem_singleton.mpr (h d hd))
    (fun _ d hd ih => List.forall_mem_append.mpr ⟨ih, List.forall_mem_singleton.mpr (h d hd)⟩) n

end Hex

namespace Text

/-! ## The reader -/

/-- The character that a letter stands for behind a backslash. -/
def unabbreviated : Char → Char
  | 't' => '\t'
  | 'r' => '\r'
  | 'n' => '\n'
  | '0' => '\x00'
  | c => c

/-- The first character that is written in a text, and what is left of the text. -/
def readChar? : Text → Option (Char × Text)
  | [] => none
  | '\\' :: 'u' :: '{' :: t =>
    some (Char.ofNat (Hex.value (t.takeWhile (· != '}'))), (t.dropWhile (· != '}')).drop 1)
  | '\\' :: c :: t => some (unabbreviated c, t)
  | c :: t => some (c, t)

/-! ## Ways to write a character -/

/-- The ways in which a character may be written. -/
inductive WrittenAs (c : Char) : Text → Prop where
  | self : c ≠ '\\' → WrittenAs c [c]
  | letter {k} : k ≠ 'u' → unabbreviated k = c → WrittenAs c ['\\', k]
  | code : WrittenAs c (codeEscape c)

theorem codeEscape_append (c : Char) (t : Text) :
    codeEscape c ++ t = '\\' :: 'u' :: '{' :: (Nat.toDigits 16 c.toNat ++ '}' :: t) := by
  simp [codeEscape]

/-- However a character is written, it is read back. -/
theorem WrittenAs.read {c : Char} {w : Text} (h : WrittenAs c w) (t : Text) :
    readChar? (w ++ t) = some (c, t) := by
  cases h with
  | self hc => simp [readChar?, hc]
  | letter hk hc => simp [readChar?, hk, hc]
  | code =>
      have digits : ∀ d ∈ Nat.toDigits 16 c.toNat, (d != '}') = true :=
        Hex.forall_mem_toDigits (by decide) _
      rw [codeEscape_append, readChar?, List.takeWhile_append_of_pos digits,
        List.dropWhile_append_of_pos digits]
      simp [Hex.value_toDigits, Char.ofNat_toNat]

theorem writtenAs_escaped (c : Char) : WrittenAs c (escaped c) := by
  unfold escaped
  split
  · exact .letter (by decide) rfl
  · exact .letter (by decide) rfl
  · exact .letter (by decide) rfl
  · exact .letter (by decide) rfl
  · exact .letter (by decide) rfl
  · exact .letter (by decide) rfl
  next hbackslash _ _ _ _ =>
    split
    · exact .self hbackslash
    · exact .code

theorem writtenAs_asciiEscaped (c : Char) : WrittenAs c (asciiEscaped c) := by
  unfold asciiEscaped
  split
  · exact .letter (by decide) rfl
  · exact .letter (by decide) rfl
  · exact .letter (by decide) rfl
  · exact .letter (by decide) rfl
  · exact .letter (by decide) rfl
  · exact .letter (by decide) rfl
  next hbackslash =>
    split
    · exact .self hbackslash
    · exact .code

/-! ## Legible texts -/

/-- Every character can be read back from what it is written as, with any text behind it. -/
def Legible (f : Char → Text) : Prop := ∀ c t, readChar? (f c ++ t) = some (c, t)

theorem legible_of_writtenAs {f : Char → Text} (h : ∀ c, WrittenAs c (f c)) : Legible f :=
  fun c t => (h c).read t

namespace Legible

variable {f : Char → Text} (h : Legible f)

include h

theorem append_inj {c d : Char} {t u : Text} (heq : f c ++ t = f d ++ u) : c = d ∧ t = u := by
  have hc := h c t
  rw [heq, h d u] at hc
  cases hc
  exact ⟨rfl, rfl⟩

theorem ne_nil (c : Char) : f c ≠ [] := by
  intro hnil
  have hc := h c []
  rw [hnil] at hc
  cases hc

/-- A character that is written with a backslash in front stands in front of nothing that is
written. -/
theorem cons_ne {c : Char} {w : Text} (hw : f c = '\\' :: w) (hc : c ≠ '\\') (t : Text) (d : Char)
    (u : Text) : c :: t ≠ f d ++ u := by
  intro heq
  have hread : readChar? (c :: t) = some (c, t) := (WrittenAs.self hc).read t
  rw [heq, h d u] at hread
  cases hread
  rw [hw] at heq
  exact hc (List.cons.inj heq).1

/-- Texts that are written with something behind that writes no character come from one text. -/
theorem flatMap_append_inj {x y : Text} (hx : ∀ c z, x ≠ f c ++ z) (hy : ∀ c z, y ≠ f c ++ z) :
    ∀ {t u : Text}, t.flatMap f ++ x = u.flatMap f ++ y → t = u ∧ x = y
  | [], [], heq => ⟨rfl, heq⟩
  | [], d :: u, heq => by
      rw [List.flatMap_cons, List.append_assoc] at heq
      exact absurd heq (hx d _)
  | c :: t, [], heq => by
      rw [List.flatMap_cons, List.append_assoc] at heq
      exact absurd heq.symm (hy c _)
  | c :: t, d :: u, heq => by
      rw [List.flatMap_cons, List.flatMap_cons, List.append_assoc, List.append_assoc] at heq
      obtain ⟨rfl, hrest⟩ := h.append_inj heq
      obtain ⟨rfl, hxy⟩ := flatMap_append_inj hx hy hrest
      exact ⟨rfl, hxy⟩

/-- Different texts are written differently. -/
theorem flatMap_injective : Function.Injective fun t : Text => t.flatMap f := by
  intro t u heq
  have hnil : ∀ c z, [] ≠ f c ++ z := fun c z hz =>
    h.ne_nil c (List.append_eq_nil_iff.mp hz.symm).1
  exact (h.flatMap_append_inj hnil hnil (congrArg (· ++ []) heq)).1

end Legible

/-! ## Quoted texts -/

theorem legible_escaped : Legible escaped := legible_of_writtenAs writtenAs_escaped

/-- A text in double quotes determines itself and where it ends. -/
theorem quoted_append_inj {t u x y : Text} (h : t.quoted ++ x = u.quoted ++ y) :
    t = u ∧ x = y := by
  simp only [quoted, List.cons_append, List.append_assoc, List.nil_append, List.cons.injEq,
    true_and] at h
  have hquote (z : Text) : ∀ c v, '"' :: z ≠ escaped c ++ v :=
    legible_escaped.cons_ne rfl (by decide) z
  obtain ⟨rfl, hxy⟩ := legible_escaped.flatMap_append_inj (hquote x) (hquote y) h
  exact ⟨rfl, (List.cons.inj hxy).2⟩

end Text

end Descent
