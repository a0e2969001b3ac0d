import Descent.Proofs.Consumption
import Descent.Proofs.Limit
import Descent.Proofs.Readings
import Descent.Proofs.Walks

/-!
# Balanced nesting

A rule that is an opening bracket, perhaps the rule again, and a closing bracket reads the texts of
brackets in each other, with blanks in front of any bracket, and no others (`balanced_exactly`).

`Text.Nest` builds these texts from the innermost pair outwards, as the rule reads them.  What they
look like from outside is said by `Text.balanced_iff`: they end in a bracket, and without their
blanks they are opening brackets followed by as many closing ones.  The option in the middle never
costs a match: it reads a nest where there is one, and then no other reading of the text would do,
or there is none and the rule can only close.
-/

namespace Descent

variable {M : Type}

/-! ## Nests of brackets -/

namespace Text

/-- So many pairs of brackets in each other, with blanks in front of any bracket. -/
inductive Nest : Nat → Text → Prop where
  | empty : Nest 0 []
  | wrap {n} {w x w' : Text} : (∀ c ∈ w, isBlank c = true) → Nest n x →
      (∀ c ∈ w', isBlank c = true) → Nest (n + 1) (w ++ '[' :: (x ++ (w' ++ [']'])))

/-- The characters of a text that are not blank. -/
def solid (t : Text) : Text := t.filter fun c => !isBlank c

theorem solid_append (t u : Text) : solid (t ++ u) = solid t ++ solid u := List.filter_append ..

theorem solid_cons {c : Char} (hc : isBlank c = false) (t : Text) : solid (c :: t) = c :: solid t :=
  List.filter_cons_of_pos (by rw [hc]; rfl)

theorem solid_eq_nil_iff {t : Text} : solid t = [] ↔ ∀ c ∈ t, isBlank c = true := by
  simp [solid]

/-- A text is taken apart at the first of its characters that is not blank. -/
theorem exists_of_solid_eq_cons {t u : Text} {c : Char} (h : solid t = c :: u) :
    ∃ w v : Text, (∀ c ∈ w, isBlank c = true) ∧ t = w ++ c :: v ∧ solid v = u := by
  obtain ⟨w, v, rfl, hw, -, hv⟩ := List.filter_eq_cons_iff.mp h
  exact ⟨w, v, fun c hc => by simpa using hw c hc, rfl, hv⟩

/-- And at the last. -/
theorem exists_of_solid_eq_concat {t u : Text} {c : Char} (h : solid t = u ++ [c]) :
    ∃ v w : Text, solid v = u ∧ t = v ++ c :: w ∧ ∀ c ∈ w, isBlank c = true := by
  obtain ⟨v, s, rfl, hv, hs⟩ := List.filter_eq_append_iff.mp h
  obtain ⟨w, w', hw, rfl, hw'⟩ := exists_of_solid_eq_cons hs
  refine ⟨v ++ w, w', ?_, (List.append_assoc ..).symm, solid_eq_nil_iff.mp hw'⟩
  rw [solid_append, solid_eq_nil_iff.mpr hw, List.append_nil]
  exact hv

theorem trimStart_blanks_append {w : Text} (hw : ∀ c ∈ w, isBlank c = true) {c : Char}
    (hc : isBlank c = false) (t : Text) : trimStart (w ++ c :: t) = c :: t := by
  rw [trimStart, List.dropWhile_append_of_pos hw, List.dropWhile_cons_of_neg (by simp [hc])]

namespace Nest

variable {n : Nat} {u : Text}

/-- Blanks left out, a nest is as many closing brackets as opening ones in front of them. -/
theorem solid_eq (h : Nest n u) : solid u = List.replicate n '[' ++ List.replicate n ']' := by
  induction h with
  | empty => rfl
  | @wrap n w x w' hw _ hw' ih =>
      rw [solid_append, solid_cons (by rfl), solid_append, solid_append, ih,
        solid_eq_nil_iff.mpr hw, solid_eq_nil_iff.mpr hw', List.replicate_succ,
        List.replicate_succ']
      simp [solid, isBlank]

theorem getLast?_eq (h : Nest (n + 1) u) : u.getLast? = some ']' := by
  cases h with
  | @wrap _ w x w' _ _ _ =>
      have hsplit : w ++ '[' :: (x ++ (w' ++ [']'])) = (w ++ '[' :: (x ++ w')) ++ [']'] := by simp
      rw [hsplit, List.getLast?_concat]

end Nest

/-- Brackets in each other come first in a text that is such brackets but for blanks. -/
theorem exists_nest_of_solid : ∀ {n : Nat} {u : Text},
    solid u = List.replicate n '[' ++ List.replicate n ']' →
      ∃ x w, Nest n x ∧ (∀ c ∈ w, isBlank c = true) ∧ u = x ++ w := by
  intro n
  induction n with
  | zero => exact fun hu => ⟨[], _, .empty, solid_eq_nil_iff.mp hu, rfl⟩
  | succ n ih =>
      intro u hu
      rw [List.replicate_succ, List.cons_append] at hu
      obtain ⟨w, y, hw, rfl, hy⟩ := exists_of_solid_eq_cons hu
      rw [List.replicate_succ', ← List.append_assoc] at hy
      obtain ⟨y', w'', hy', rfl, hw''⟩ := exists_of_solid_eq_concat hy
      obtain ⟨x, w', hx, hw', rfl⟩ := ih hy'
      exact ⟨_, w'', .wrap hw hx hw', hw'', by simp⟩

/-- The text ends in a closing bracket, and without its blanks it is opening brackets followed by as
many closing ones. -/
def Balanced (u : Text) : Prop :=
  u.getLast? = some ']' ∧ ∃ n, 1 ≤ n ∧ solid u = List.replicate n '[' ++ List.replicate n ']'

theorem balanced_iff {u : Text} : Balanced u ↔ ∃ n, Nest (n + 1) u := by
  constructor
  · rintro ⟨hlast, n, hn, hsolid⟩
    obtain ⟨n, rfl⟩ : ∃ k, n = k + 1 := ⟨n - 1, by omega⟩
    obtain ⟨x, w, hx, hw, rfl⟩ := exists_nest_of_solid hsolid
    -- blanks behind the nest would be the end of the text
    obtain rfl | hne := eq_or_ne w []
    · exact ⟨n, (List.append_nil x).symm ▸ hx⟩
    · rw [List.getLast?_append_of_ne_nil _ hne] at hlast
      cases hw ']' (List.mem_of_getLast? hlast)
  · rintro ⟨n, h⟩
    exact ⟨h.getLast?_eq, n + 1, Nat.succ_pos n, h.solid_eq⟩

end Text

/-! ## The rule of nests -/

namespace Parser

/-- An opening bracket, perhaps a rule, and a closing bracket. -/
def brackets (r : Rule) : Parser M :=
  .seq (.seq (.literal ['[']) (.optional (.rule r))) (.literal [']'])

theorem eq_of_mem_parts_brackets {r r' : Rule}
    (h : .rule r' ∈ (brackets r : Parser M).parts) : r' = r := by
  simpa [brackets, parts] using h

section Readings

variable {run : Rule → Text → Run M} {r : Rule} {n : Nat} {t x z w w' : Text} {v : Value M}

theorem not_opens (hw : ∀ c ∈ w, Text.isBlank c = true) (z : Text) :
    ¬['['] <+: Text.trimStart (w ++ ']' :: z) := by
  rw [Text.trimStart_blanks_append hw rfl]
  simp

variable (hrun : ∀ t, run r t = (brackets r).call run t)

include hrun

theorem rule_reads (h : (brackets r).Reads run t v z) : (rule r).Reads run t v z := by
  rw [Reads, body, hrun]
  exact h

theorem rule_rejects (h : (brackets r).Rejects run t) : (rule r).Rejects run t := by
  rw [Rejects, body, hrun]
  exact h

/-- Only a bracket lets the rule go any further. -/
theorem rule_rejects_of_not_opens (h : ¬['['] <+: Text.trimStart t) : (rule r).Rejects run t :=
  rule_rejects hrun (Rejects.literal h).seqLeft.seqLeft

/-- What the option reads behind an opening bracket, the rule reads with a bracket on either side. -/
theorem rule_reads_wrap (hw : ∀ c ∈ w, Text.isBlank c = true)
    (hw' : ∀ c ∈ w', Text.isBlank c = true) (hv : v.solidItems = [])
    (h : (Parser.optional (rule r)).Reads run (x ++ (w' ++ ']' :: z)) v (w' ++ ']' :: z)) :
    (rule r).Reads run (w ++ '[' :: (x ++ (w' ++ [']'])) ++ z) (.sequence []) z := by
  have hopen : (literal ['['] : Parser M).Reads run (w ++ '[' :: (x ++ (w' ++ ']' :: z))) .unit
      (x ++ (w' ++ ']' :: z)) := .literal (Text.trimStart_blanks_append hw rfl _)
  have hclose : (literal [']'] : Parser M).Reads run (w' ++ ']' :: z) .unit z :=
    .literal (Text.trimStart_blanks_append hw' rfl _)
  have hread := rule_reads hrun ((hopen.seq h).seq hclose)
  rw [Value.join_eq, Value.solidItems_join, hv] at hread
  have htext : w ++ '[' :: (x ++ (w' ++ [']'])) ++ z = w ++ '[' :: (x ++ (w' ++ ']' :: z)) := by
    simp
  exact htext ▸ hread

/-- The option reads a nest in front of what opens no other. -/
theorem optional_reads_nest (hx : Text.Nest n x) : ∀ {z}, ¬['['] <+: Text.trimStart z →
    ∃ v, (Parser.optional (rule r)).Reads run (x ++ z) v z ∧ v.solidItems = [] := by
  induction hx with
  | empty => exact fun hz => ⟨.unit, (rule_rejects_of_not_opens hrun hz).optional, rfl⟩
  | wrap hw _ hw' ih =>
      intro z _
      obtain ⟨v, hread, hv⟩ := ih (not_opens hw' z)
      exact ⟨.sequence [], (rule_reads_wrap hrun hw hw' hv hread).optional, rfl⟩

theorem rule_reads_nest (hx : Text.Nest (n + 1) x) (z : Text) :
    (rule r).Reads run (x ++ z) (.sequence []) z := by
  cases hx with
  | wrap hw hx hw' =>
      obtain ⟨v, hread, hv⟩ := optional_reads_nest hrun hx (not_opens hw' z)
      exact rule_reads_wrap hrun hw hw' hv hread

/-- The rule reads a nest or rejects the text. -/
theorem rule_reads_or_rejects (t : Text) :
    (∃ n x z, t = x ++ z ∧ Text.Nest (n + 1) x ∧ (rule r).Reads run t (.sequence []) z) ∨
      (rule r).Rejects run t := by
  induction hlen : t.length using Nat.strong_induction_on generalizing t with
  | _ len ih =>
    obtain ⟨w, hw, ht⟩ := Text.exists_blanks_append_trimStart t
    by_cases hstart : ['['] <+: Text.trimStart t
    · obtain ⟨y, hy⟩ := hstart
      rw [← hy, List.singleton_append] at ht
      have hlt : y.length < len := by
        rw [← hlen, ht]
        simp
        omega
      -- what the option reads behind the bracket is a nest of any depth
      obtain ⟨n, x, z, v, rfl, hx, hread, hv⟩ : ∃ n x z v, y = x ++ z ∧ Text.Nest n x ∧
          (Parser.optional (rule r)).Reads run y v z ∧ v.solidItems = [] := by
        rcases ih y.length hlt y rfl with ⟨n, x, z, hyz, hx, hread⟩ | hrej
        · exact ⟨n + 1, x, z, _, hyz, hx, hread.optional, rfl⟩
        · exact ⟨0, [], y, _, rfl, .empty, hrej.optional, rfl⟩
      obtain ⟨w', hw', hz⟩ := Text.exists_blanks_append_trimStart z
      by_cases hend : [']'] <+: Text.trimStart z
      · obtain ⟨z', hz'⟩ := hend
        rw [← hz', List.singleton_append] at hz
        subst hz
        have hall : t = w ++ '[' :: (x ++ (w' ++ [']'])) ++ z' := by simp [ht]
        exact Or.inl ⟨n, _, z', hall, .wrap hw hx hw', hall ▸ rule_reads_wrap hrun hw hw' hv hread⟩
      · have hopen : (literal ['['] : Parser M).Reads run t .unit (x ++ z) := .literal hy.symm
        exact Or.inr (rule_rejects hrun (.seqRight (hopen.seq hread) (.literal hend)))
    · exact Or.inr (rule_rejects_of_not_opens hrun hstart)

end Readings

end Parser

namespace RuleBook

variable {b : RuleBook M} {r : Rule}

theorem reaches_brackets (hdef : b.definition? r = some (.brackets r)) {q : Parser M}
    (h : b.Reaches (.rule r) q) : q = .rule r ∨ q ∈ (Parser.brackets r).parts := by
  induction h with
  | refl => exact Or.inl rfl
  | @tail q s _ huse ih =>
      cases huse with
      | part hpart =>
          rcases ih with rfl | hmem
          · cases hpart
          · exact Or.inr (hpart.mem_parts hmem)
      | @definition r' d hd =>
          obtain rfl : r' = r := ih.elim (fun h => (Parser.rule.injEq ..).mp h)
            Parser.eq_of_mem_parts_brackets
          cases hdef.symm.trans hd
          exact Or.inr (Parser.self_mem_parts _)

/-- So there is one definition to look at, whatever else the book has. -/
theorem eq_of_reaches_brackets (hdef : b.definition? r = some (.brackets r)) {r' : Rule}
    (h : b.Reaches (.rule r) (.rule r')) : r' = r := by
  rcases reaches_brackets hdef h with h | h
  · exact (Parser.rule.injEq ..).mp h
  · exact Parser.eq_of_mem_parts_brackets h

theorem closed_brackets (hdef : b.definition? r = some (.brackets r)) : b.Closed (.rule r) :=
  fun _ h => ⟨_, eq_of_reaches_brackets hdef h ▸ hdef⟩

theorem leavesGiveBack_brackets (hdef : b.definition? r = some (.brackets r)) :
    b.LeavesGiveBack (.rule r) := by
  intro x f h
  rcases reaches_brackets hdef h with h | h
  · cases h
  · simp [Parser.brackets, Parser.parts] at h

/-- The rule comes back to itself behind a bracket only. -/
theorem not_leftRecursive_brackets (hdef : b.definition? r = some (.brackets r)) :
    ¬b.LeftRecursive (.rule r) := by
  rintro ⟨r', hr', hloop⟩
  obtain rfl := eq_of_reaches_brackets hdef hr'
  obtain ⟨s, ⟨d, hd, hs⟩, -⟩ := Relation.TransGen.head'_iff.mp hloop
  cases hdef.symm.trans hd
  cases hs with
  | seqLeft hs =>
      cases hs with
      | seqLeft hs => cases hs
      | seqRight hopen _ => exact hopen (consumes_literal (List.cons_ne_nil _ _))
  | seqRight _ hs => cases hs

end RuleBook

/-- A rule that is an opening bracket, perhaps the rule again, and a closing bracket can be sealed.
It matches a text if and only if a balanced text stands at its front; it puts out an empty sequence
and leaves what stands behind.  Any other text is a mismatch. -/
theorem balanced_exactly {b : RuleBook M} {r : Rule}
    (hdef : b.definition? r = some (.brackets r)) :
    ∃ g, b.seal (.rule r) = .ok g ∧ ∀ t,
      (∀ v rest, b.parse g.root t = .matched ⟨v, rest⟩ ↔
        v = .sequence [] ∧ ∃ u, t = u ++ rest ∧ Text.Balanced u) ∧
      ((b.parse g.root t).IsMismatch ↔ ¬∃ u rest, t = u ++ rest ∧ Text.Balanced u) := by
  have leaves := RuleBook.leavesGiveBack_brackets hdef
  have acyclic := RuleBook.not_leftRecursive_brackets hdef
  have hrun : ∀ t, b.limit r t = (Parser.brackets r).call b.limit t :=
    RuleBook.limit_eq_call_of_acyclic hdef leaves acyclic
  obtain ⟨g, hg⟩ := RuleBook.exists_seal_iff.mpr (RuleBook.closed_brackets hdef)
  refine ⟨g, hg, fun t => ?_⟩
  rw [RuleBook.root_of_seal hg, RuleBook.parse_eq_limit (RuleBook.parse_finished leaves acyclic t)]
  have reads : ∀ {u rest}, t = u ++ rest → Text.Balanced u →
      (Parser.rule r).Reads b.limit t (.sequence []) rest := by
    rintro u rest rfl hu
    obtain ⟨n, hn⟩ := Text.balanced_iff.mp hu
    exact Parser.rule_reads_nest hrun hn rest
  have dichotomy := Parser.rule_reads_or_rejects hrun t
  constructor
  · intro v rest
    constructor
    · intro hmatch
      rcases dichotomy with ⟨n, u, rest', ht, hu, hread⟩ | ⟨e, hfail, -⟩
      · cases hmatch.symm.trans hread
        exact ⟨rfl, u, ht, Text.balanced_iff.mpr ⟨n, hu⟩⟩
      · cases hmatch.symm.trans hfail
    · rintro ⟨rfl, u, ht, hu⟩
      exact reads ht hu
  · constructor
    · rintro ⟨e, hfail, -⟩ ⟨u, rest, ht, hu⟩
      cases hfail.symm.trans (reads ht hu)
    · intro hno
      rcases dichotomy with ⟨n, u, rest, ht, hu, -⟩ | hrej
      · exact absurd ⟨u, rest, ht, Text.balanced_iff.mpr ⟨n, hu⟩⟩ hno
      · exact hrej

/-- Declares a rule and defines it as a bracket, perhaps the rule again, and a bracket. -/
def bracketSteps : List (Step Unit) :=
  [.declare ['r'] ['r'],
    .define ['r'] (.seq (.seq (.literal ['[']) (.optional (.ref ['r']))) (.literal [']']))]

/-- Blanks may stand in front of any bracket, and those behind the last are left.  Where a bracket is
missing, no part of the text is read: the pair inside has another bracket in front. -/
theorem balanced_exactly_blanks :
    let b := (Session.start.after .off bracketSteps).book
    let r : Rule := ⟨0, ['r']⟩
    b.definition? r = some (.brackets r) ∧
      b.parse (.rule r) " [ [\t] ] !".toList = .matched ⟨.sequence [], " !".toList⟩ ∧
      (b.parse (.rule r) "[[]".toList).IsMismatch ∧
      ¬∃ u rest, "[[]".toList = u ++ rest ∧ Text.Balanced u := by
  intro b r
  have hdef : b.definition? r = some (.brackets r) := rfl
  obtain ⟨g, hg, hexact⟩ := balanced_exactly hdef
  obtain rfl : g = ⟨.rule r, [r]⟩ := (Except.ok.inj hg).symm
  have fails : (b.parse (.rule r) "[[]".toList).IsMismatch := ⟨_, rfl, rfl⟩
  refine ⟨hdef, ((hexact _).1 _ _).mpr ⟨rfl, " [ [\t] ]".toList, rfl, rfl, 2, by decide, rfl⟩,
    fails, (hexact _).2.mp fails⟩

end Descent
