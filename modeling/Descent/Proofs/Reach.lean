import Descent.Grammar
import Mathlib.Logic.Relation

/-!
# The parsers below a parser

A parser is put together from *parts*.  A rule has no parts, but a rule book may give it a
definition.  The parsers that are *reached* from a parser are the parser itself, its parts, the
definitions of the rules among them, and so on.  Rules may refer to each other, so they can be
reached along a cycle.

`Parser.parts` lists the parts at any depth, but not through definitions, and `Parser.rules` lists
the rules among them: `mem_rules_iff` says so for all combinators.  In a book of which all parts
are known, `Reaches.of_parts` tells what is reached.
-/

namespace Descent

variable {M : Type}

namespace Parser

/-! ## Names -/

/-- The parser without the names it is given. -/
def unnamed : Parser M → Parser M
  | named p _ => p.unnamed
  | p => p

/-- Names around a rule do not hide it, but any other combinator does. -/
theorem asRule?_eq_some_iff {r : Rule} : ∀ {p : Parser M}, p.asRule? = some r ↔ p.unnamed = rule r
  | literal _ => by simp [asRule?, unnamed]
  | pattern _ _ => by simp [asRule?, unnamed]
  | custom _ _ => by simp [asRule?, unnamed]
  | rule _ => by simp [asRule?, unnamed]
  | seq _ _ => by simp [asRule?, unnamed]
  | choice _ _ => by simp [asRule?, unnamed]
  | map _ _ => by simp [asRule?, unnamed]
  | tryMap _ _ => by simp [asRule?, unnamed]
  | optional _ => by simp [asRule?, unnamed]
  | many _ => by simp [asRule?, unnamed]
  | sepBy _ _ => by simp [asRule?, unnamed]
  | named p _ => by
      rw [asRule?, unnamed]
      exact asRule?_eq_some_iff

/-! ## Parts -/

/-- The second parser is one of those that the first is put together from. -/
inductive Part : Parser M → Parser M → Prop where
  | seqLeft {p q} : Part (seq p q) p
  | seqRight {p q} : Part (seq p q) q
  | choiceLeft {p q} : Part (choice p q) p
  | choiceRight {p q} : Part (choice p q) q
  | map {p f} : Part (map p f) p
  | tryMap {p f} : Part (tryMap p f) p
  | optional {p} : Part (optional p) p
  | many {p} : Part (many p) p
  | sepBy {p sep} : Part (sepBy p sep) p
  | named {p name} : Part (named p name) p

/-- The parser and all parts of it at any depth, from the left to the right. -/
def parts : Parser M → List (Parser M)
  | literal word => [literal word]
  | pattern source regex => [pattern source regex]
  | custom x f => [custom x f]
  | rule r => [rule r]
  | seq p q => seq p q :: (p.parts ++ q.parts)
  | choice p q => choice p q :: (p.parts ++ q.parts)
  | map p f => map p f :: p.parts
  | tryMap p f => tryMap p f :: p.parts
  | optional p => optional p :: p.parts
  | many p => many p :: p.parts
  | sepBy p sep => sepBy p sep :: p.parts
  | named p name => named p name :: p.parts

theorem self_mem_parts (p : Parser M) : p ∈ p.parts := by
  cases p <;> exact List.mem_cons_self ..

theorem Part.mem_parts {p q s : Parser M} (h : Part q s) (hq : q ∈ p.parts) : s ∈ p.parts := by
  induction p with
  | literal _ => cases List.mem_singleton.mp hq; cases h
  | pattern _ _ => cases List.mem_singleton.mp hq; cases h
  | custom _ _ => cases List.mem_singleton.mp hq; cases h
  | rule _ => cases List.mem_singleton.mp hq; cases h
  | seq p₁ p₂ ih₁ ih₂ =>
      refine List.mem_cons_of_mem _ (List.mem_append.mpr ?_)
      rcases List.mem_cons.mp hq with rfl | hq
      · cases h with
        | seqLeft => exact Or.inl (self_mem_parts s)
        | seqRight => exact Or.inr (self_mem_parts s)
      · exact (List.mem_append.mp hq).imp ih₁ ih₂
  | choice p₁ p₂ ih₁ ih₂ =>
      refine List.mem_cons_of_mem _ (List.mem_append.mpr ?_)
      rcases List.mem_cons.mp hq with rfl | hq
      · cases h with
        | choiceLeft => exact Or.inl (self_mem_parts s)
        | choiceRight => exact Or.inr (self_mem_parts s)
      · exact (List.mem_append.mp hq).imp ih₁ ih₂
  | map p f ih | tryMap p f ih | optional p ih | many p ih | sepBy p f ih | named p f ih =>
      refine List.mem_cons_of_mem _ ?_
      rcases List.mem_cons.mp hq with rfl | hq
      · cases h
        exact self_mem_parts s
      · exact ih hq

/-! ## The rules of a parser -/

/-- A rule that is there already is not added again, which makes no difference to membership. -/
theorem mem_foldl_merge {r : Rule} (ss : List Rule) :
    ∀ rs : List Rule,
      r ∈ ss.foldl (fun rs s => if rs.contains s then rs else rs ++ [s]) rs ↔ r ∈ rs ∨ r ∈ ss := by
  induction ss with
  | nil => simp
  | cons s ss ih =>
      intro rs
      rw [List.foldl_cons, ih]
      by_cases hs : rs.contains s
      · have hmem : s ∈ rs := by simpa using hs
        simp only [hs, if_true, List.mem_cons]
        constructor
        · rintro (h | h)
          · exact Or.inl h
          · exact Or.inr (Or.inr h)
        · rintro (h | rfl | h)
          · exact Or.inl h
          · exact Or.inl hmem
          · exact Or.inr h
      · rw [if_neg hs]
        simp [or_assoc]

/-- Merging keeps the rules of both lists and adds none. -/
theorem mem_mergeRules {r : Rule} {rs ss : List Rule} :
    r ∈ mergeRules rs ss ↔ r ∈ rs ∨ r ∈ ss := by
  unfold mergeRules
  split
  · simp
  · simp
  · exact mem_foldl_merge ss rs

/-- No combinator drops a rule of a part of it. -/
theorem rules_subset_of_part {p q : Parser M} (h : Part p q) : q.rules ⊆ p.rules := by
  intro r hr
  cases h with
  | seqLeft => exact mem_mergeRules.mpr (Or.inl hr)
  | seqRight => exact mem_mergeRules.mpr (Or.inr hr)
  | choiceLeft => exact mem_mergeRules.mpr (Or.inl hr)
  | choiceRight => exact mem_mergeRules.mpr (Or.inr hr)
  | map => exact hr
  | tryMap => exact hr
  | optional => exact hr
  | many => exact hr
  | sepBy => exact hr
  | named => exact hr

/-- The rules listed are those among the parts. -/
theorem mem_rules_iff {r : Rule} {p : Parser M} : r ∈ p.rules ↔ rule r ∈ p.parts := by
  induction p with
  | literal _ | pattern _ _ | custom _ _ => simp [rules, parts]
  | rule s => simp [rules, parts]
  | seq p q ihp ihq | choice p q ihp ihq => simp [rules, parts, mem_mergeRules, ihp, ihq]
  | map p f ih | tryMap p f ih | optional p ih | many p ih | sepBy p f ih | named p f ih =>
      simp [rules, parts, ih]

end Parser

/-! ## Reaching through definitions -/

namespace RuleBook

/-- The second parser is a part of the first, or the definition of the rule that the first is. -/
inductive Uses (b : RuleBook M) : Parser M → Parser M → Prop where
  | part {p q} : p.Part q → Uses b p q
  | definition {r d} : b.definition? r = some d → Uses b (.rule r) d

/-- The second parser is the first, or is used in it at any depth. -/
def Reaches (b : RuleBook M) : Parser M → Parser M → Prop := Relation.ReflTransGen b.Uses

variable {b : RuleBook M}

namespace Reaches

theorem refl (p : Parser M) : b.Reaches p p := Relation.ReflTransGen.refl

theorem trans {p q s : Parser M} (h : b.Reaches p q) (h' : b.Reaches q s) : b.Reaches p s :=
  Relation.ReflTransGen.trans h h'

theorem of_part {p q : Parser M} (h : p.Part q) : b.Reaches p q := .single (.part h)

theorem of_definition {r : Rule} {d : Parser M} (h : b.definition? r = some d) :
    b.Reaches (.rule r) d := .single (.definition h)

/-- The parts at any depth are reached without going through definitions. -/
theorem of_mem_parts {p q : Parser M} (h : q ∈ p.parts) : b.Reaches p q := by
  induction p with
  | literal _ | pattern _ _ | custom _ _ | rule _ =>
      cases List.mem_singleton.mp h
      exact refl _
  | seq p s ihp ihs =>
      rcases List.mem_cons.mp h with rfl | h
      · exact refl _
      · exact (List.mem_append.mp h).elim (fun h => (of_part .seqLeft).trans (ihp h))
          fun h => (of_part .seqRight).trans (ihs h)
  | choice p s ihp ihs =>
      rcases List.mem_cons.mp h with rfl | h
      · exact refl _
      · exact (List.mem_append.mp h).elim (fun h => (of_part .choiceLeft).trans (ihp h))
          fun h => (of_part .choiceRight).trans (ihs h)
  | map p f ih | tryMap p f ih | optional p ih | many p ih | sepBy p f ih | named p f ih =>
      rcases List.mem_cons.mp h with rfl | h
      · exact refl _
      · exact (of_part (by constructor)).trans (ih h)

theorem of_mem_rules {p : Parser M} {r : Rule} (h : r ∈ p.rules) : b.Reaches p (.rule r) :=
  of_mem_parts (Parser.mem_rules_iff.mp h)

theorem unnamed : ∀ p : Parser M, b.Reaches p p.unnamed
  | .literal _ => refl _
  | .pattern _ _ => refl _
  | .custom _ _ => refl _
  | .rule _ => refl _
  | .seq _ _ => refl _
  | .choice _ _ => refl _
  | .map _ _ => refl _
  | .tryMap _ _ => refl _
  | .optional _ => refl _
  | .many _ => refl _
  | .sepBy _ _ => refl _
  | .named p _ => (of_part .named).trans (unnamed p)

theorem asRule? {p : Parser M} {r : Rule} (h : p.asRule? = some r) : b.Reaches p (.rule r) := by
  have hr := unnamed (b := b) p
  rwa [Parser.asRule?_eq_some_iff.mp h] at hr

/-- What holds of the parts of a parser, and of those of all definitions, holds of all that the
parser reaches. -/
theorem of_parts {P : Parser M → Prop} {p q : Parser M} (hp : ∀ s ∈ p.parts, P s)
    (hb : ∀ e ∈ b.definitions, ∀ s ∈ e.2.parts, P s) (h : b.Reaches p q) : P q := by
  have hmem : q ∈ p.parts ∨ ∃ e ∈ b.definitions, q ∈ e.2.parts := by
    induction h with
    | refl => exact Or.inl p.self_mem_parts
    | tail _ huse ih =>
        cases huse with
        | part hpart =>
            exact ih.imp hpart.mem_parts fun ⟨e, he, hs⟩ => ⟨e, he, hpart.mem_parts hs⟩
        | definition hd =>
            obtain ⟨e, he, rfl⟩ := Option.map_eq_some_iff.mp hd
            exact Or.inr ⟨e, List.mem_of_find?_eq_some he, e.2.self_mem_parts⟩
  rcases hmem with hq | ⟨e, he, hq⟩
  · exact hp q hq
  · exact hb e he q hq

end Reaches

/-- Every rule that is reached from the parser has a definition. -/
def Closed (b : RuleBook M) (p : Parser M) : Prop :=
  ∀ r, b.Reaches p (.rule r) → ∃ d, b.definition? r = some d

end RuleBook

end Descent
