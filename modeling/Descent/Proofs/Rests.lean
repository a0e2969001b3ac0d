import Descent.Proofs.Matches
import Descent.Proofs.Reach

/-!
# What is left of a text

A match leaves a part of its text, and a repetition goes on with smaller and smaller parts.  A
relation is `Trailing` when it holds between the end of a text and the text and can be chained, as
`size u ≤ size t` can.  What a parser leaves stands in every trailing relation to the text that its
custom leaves stand in (`RuleBook.call_leaves`), whatever the rules are.

The rounds of a repetition depend neither on the bound that is set to them nor on the text in front
of the first, as long as that text has been made smaller (`Run.further_eq`).
-/

namespace Descent

variable {M : Type}

/-! ## Ends of texts -/

namespace Text

theorem size_le_of_suffix {u t : Text} (h : u <:+ t) : size u ≤ size t := by
  obtain ⟨w, rfl⟩ := h
  rw [size_append]
  exact Nat.le_add_left _ _

theorem trimStart_suffix (t : Text) : trimStart t <:+ t := List.dropWhile_suffix _

theorem trimStart_eq_self {t : Text} (h : ∀ c ∈ t.head?, isBlank c = false) :
    trimStart t = t := by
  cases t with
  | nil => rfl
  | cons c t => rw [trimStart, List.dropWhile_cons_of_neg (by simp [h c rfl])]

theorem suffix_of_afterSeparator? {sep t u : Text} (h : afterSeparator? sep t = some u) :
    u <:+ t := by
  have hdrop := after?_eq_some_iff.mp h
  exact (List.suffix_append_of_suffix (List.suffix_refl u)).trans
    (hdrop ▸ List.dropWhile_suffix _)

end Text

/-- What is found in a text, and what follows it, are the end of the text. -/
theorem Regex.Program.suffix_of_findFrom? {p : Program} {token rest : Text} :
    ∀ {t : Text} {before : Option Char}, p.findFrom? before t = some (token, rest) →
      token ++ rest <:+ t := by
  intro t
  induction t with
  | nil =>
      intro before h
      rw [findFrom?] at h
      split at h
      · cases h
        exact ⟨[], List.take_append_drop _ _⟩
      · cases h
  | cons c t ih =>
      intro before h
      rw [findFrom?] at h
      split at h
      · cases h
        exact ⟨[], List.take_append_drop _ _⟩
      · exact (ih h).trans (List.suffix_cons c t)

/-! ## Trailing relations -/

/-- The relation holds between the end of a text and the text, and can be chained. -/
structure Trailing (R : Text → Text → Prop) : Prop where
  of_suffix : ∀ {u t}, u <:+ t → R u t
  trans : ∀ {u t s}, R u t → R t s → R u s

namespace Trailing

theorem size_le : Trailing fun u t => Text.size u ≤ Text.size t where
  of_suffix := Text.size_le_of_suffix
  trans := Nat.le_trans

theorem suffix : Trailing fun u t => u <:+ t := ⟨id, List.IsSuffix.trans⟩

variable {R : Text → Text → Prop}

theorem refl (hR : Trailing R) (t : Text) : R t t := hR.of_suffix (List.suffix_refl t)

end Trailing

/-- Where the run matches, what it leaves stands in a relation to the text. -/
def Run.Leaves (R : Text → Text → Prop) (t : Text) (r : Run M) : Prop :=
  ∀ m, r.outcome = .matched m → R m.rest t

namespace Run.Leaves

variable {R : Text → Text → Prop} {t : Text}

theorem pure (hR : Trailing R) (v : Value M) (u : Text) : (pure (.matched ⟨v, u⟩)).Leaves R u := by
  intro m hm
  cases hm
  exact hR.refl u

theorem onMatch (hR : Trailing R) {r : Run M} {k : Match M → Run M} (hr : r.Leaves R t)
    (hk : ∀ m, (k m).Leaves R m.rest) : (r.onMatch k).Leaves R t := by
  intro n hn
  obtain ⟨m, hm, hn⟩ := onMatch_eq_matched_iff.mp hn
  exact hR.trans (hk m n hn) (hr m hm)

theorem onMismatch {r : Run M} {k : ParseError → Run M} (hr : r.Leaves R t)
    (hk : ∀ e, (k e).Leaves R t) : (r.onMismatch k).Leaves R t := by
  intro n hn
  rcases onMismatch_eq_matched_iff.mp hn with hn | ⟨e, -, -, hn⟩
  · exact hr n hn
  · exact hk e n hn

theorem repeatFrom (hR : Trailing R) {element : Text → Run M} {next : Text → Option Text}
    (he : ∀ u, (element u).Leaves R u) (hnext : ∀ rest u, next rest = some u → R u rest)
    (m : Match M) : (repeatFrom element next t m).Leaves R m.rest := by
  intro n hn
  obtain ⟨_, -, hrest⟩ := further_matched (I := fun _ rest => R rest m.rest)
    (fun hrest hu hm' => hR.trans (he _ _ hm') (hR.trans (hnext _ _ hu) hrest)) (hR.refl m.rest) hn
  exact hrest

end Run.Leaves

/-! ## Parsers -/

namespace Leaf

theorem literal_eq_ok_iff {word t : Text} {m : Match M} :
    literal word t = .ok m ↔ m.output = .unit ∧ Text.trimStart t = word ++ m.rest := by
  rw [literal, ← Text.after?_eq_some_iff]
  obtain ⟨v, u⟩ := m
  cases Text.after? word (Text.trimStart t) with
  | none => simp
  | some rest => simp [eq_comm]

theorem pattern_eq_ok_iff {source t : Text} {regex : Regex} {m : Match M} :
    pattern source regex t = .ok m ↔
      ∃ token, m.output = .token token ∧
        regex.find? (Text.trimStart t) = some (token, m.rest) := by
  rw [pattern]
  obtain ⟨v, u⟩ := m
  cases regex.find? (Text.trimStart t) with
  | none => simp
  | some found =>
      obtain ⟨token, rest⟩ := found
      constructor
      · intro h
        cases h
        exact ⟨token, rfl, rfl⟩
      · rintro ⟨_, rfl, h⟩
        cases h
        rfl

variable {R : Text → Text → Prop}

theorem leaves_literal (hR : Trailing R) (word t : Text) :
    (Run.pure (.ofExcept (literal word t)) : Run M).Leaves R t := by
  intro m hm
  obtain ⟨-, htrim⟩ := literal_eq_ok_iff.mp (Outcome.ofExcept_eq_matched_iff.mp hm)
  exact hR.of_suffix (List.IsSuffix.trans ⟨word, htrim.symm⟩ (Text.trimStart_suffix t))

theorem leaves_pattern (hR : Trailing R) (source : Text) (regex : Regex) (t : Text) :
    (Run.pure (.ofExcept (pattern source regex t)) : Run M).Leaves R t := by
  intro m hm
  obtain ⟨token, -, hfind⟩ := pattern_eq_ok_iff.mp (Outcome.ofExcept_eq_matched_iff.mp hm)
  have htrim := Regex.Program.suffix_of_findFrom? hfind
  exact hR.of_suffix
    (((List.suffix_append token m.rest).trans htrim).trans (Text.trimStart_suffix t))

/-- A word that is not empty is read from the text behind the blanks. -/
theorem size_lt_of_literal {word t : Text} {m : Match M} (hword : word ≠ [])
    (h : literal word t = .ok m) : Text.size m.rest < Text.size (Text.trimStart t) := by
  have hpos : 0 < Text.size word :=
    Nat.pos_of_ne_zero fun hzero => hword (Text.size_eq_zero_iff.mp hzero)
  rw [(literal_eq_ok_iff.mp h).2, Text.size_append]
  exact Nat.lt_add_of_pos_left hpos

/-- So is a token that is not empty. -/
theorem size_lt_of_pattern {source t : Text} {regex : Regex} {m : Match M}
    (solid : ∀ token rest, regex.find? (Text.trimStart t) = some (token, rest) → token ≠ [])
    (h : pattern source regex t = .ok m) : Text.size m.rest < Text.size (Text.trimStart t) := by
  obtain ⟨token, -, hfind⟩ := pattern_eq_ok_iff.mp h
  have hpos : 0 < Text.size token := Nat.pos_of_ne_zero fun hzero =>
    solid token m.rest hfind (Text.size_eq_zero_iff.mp hzero)
  have hle := Text.size_le_of_suffix (Regex.Program.suffix_of_findFrom? hfind)
  rw [Text.size_append] at hle
  exact Nat.lt_of_lt_of_le (Nat.lt_add_of_pos_left hpos) hle

end Leaf

theorem Parser.suffix_of_elementAfter? {sep t u : Text} (h : elementAfter? sep t = some u) :
    u <:+ t := by
  unfold elementAfter? at h
  split at h
  next hsep =>
    cases h
    exact Text.suffix_of_afterSeparator? hsep
  next => cases h

namespace RuleBook

variable {b : RuleBook M} {p : Parser M} {R : Text → Text → Prop}

/-- Parsers leave what their custom leaves and rules leave, or the end of the text. -/
theorem body_leaves (hR : Trailing R)
    (custom : ∀ x f, b.Reaches p (.custom x f) → ∀ t m, f t = .ok m → R m.rest t)
    {resolve : Rule → Text → Run M}
    (rules : ∀ r t, b.Reaches p (.rule r) → (resolve r t).Leaves R t) :
    ∀ (q : Parser M) (t : Text), b.Reaches p q → (q.body resolve t).Leaves R t
  | .literal word, t, _ => Leaf.leaves_literal hR word t
  | .pattern source regex, t, _ => Leaf.leaves_pattern hR source regex t
  | .custom x f, t, h => fun m hm =>
      custom x f h t m (Outcome.ofExcept_eq_matched_iff.mp hm)
  | .rule r, t, h => rules r t h
  | .seq q s, t, h => by
      refine .onMatch hR (body_leaves hR custom rules q t (h.trans (.of_part .seqLeft))) fun m => ?_
      refine .onMatch hR ?_ fun n => .pure hR _ n.rest
      exact body_leaves hR custom rules s m.rest (h.trans (.of_part .seqRight))
  | .choice q s, t, h => by
      refine .onMismatch (body_leaves hR custom rules q t (h.trans (.of_part .choiceLeft))) ?_
      intro _
      refine .onMismatch (body_leaves hR custom rules s t (h.trans (.of_part .choiceRight))) ?_
      exact fun _ => nofun
  | .map q f, t, h => by
      refine .onMatch hR (body_leaves hR custom rules q t (h.trans (.of_part .map))) fun m => ?_
      split
      · exact .pure hR _ m.rest
      · exact nofun
  | .tryMap q f, t, h => by
      refine .onMatch hR (body_leaves hR custom rules q t (h.trans (.of_part .tryMap))) fun m => ?_
      split
      · exact .pure hR _ m.rest
      · exact nofun
      · exact nofun
  | .optional q, t, h => by
      refine .onMismatch (body_leaves hR custom rules q t (h.trans (.of_part .optional))) ?_
      exact fun _ => .pure hR _ t
  | .many q, t, h => by
      have element : ∀ u, ((q.body resolve u).asCall q u).Leaves R u := fun u =>
        body_leaves hR custom rules q u (h.trans (.of_part .many))
      refine .onMatch hR (element t) fun m => .repeatFrom hR element ?_ m
      intro rest u hu
      cases hu
      exact hR.refl rest
  | .sepBy q sep, t, h => by
      have element : ∀ u, ((q.body resolve u).asCall q u).Leaves R u := fun u =>
        body_leaves hR custom rules q u (h.trans (.of_part .sepBy))
      refine .onMismatch ?_ fun _ => nofun
      refine .onMatch hR (element t) fun m => .repeatFrom hR element ?_ m
      exact fun _ _ hu => hR.of_suffix (Parser.suffix_of_elementAfter? hu)
  | .named q _, t, h => body_leaves hR custom rules q t (h.trans (.of_part .named))

theorem resolve_leaves (hR : Trailing R)
    (custom : ∀ x f, b.Reaches p (.custom x f) → ∀ t m, f t = .ok m → R m.rest t) :
    ∀ (fuel : Nat) (r : Rule) (t : Text), b.Reaches p (.rule r) → (b.resolve fuel r t).Leaves R t
  | 0, _, _, _ => nofun
  | fuel + 1, r, t, h => by
      rw [resolve]
      cases hd : b.definition? r with
      | none => exact nofun
      | some d =>
          exact body_leaves hR custom (resolve_leaves hR custom fuel) d t
            (h.trans (.of_definition hd))

/-- What a parser leaves stands in a trailing relation to the text if what its custom leaves leave
does. -/
theorem call_leaves (hR : Trailing R)
    (custom : ∀ x f, b.Reaches p (.custom x f) → ∀ t m, f t = .ok m → R m.rest t) {q : Parser M}
    (hq : b.Reaches p q) (fuel : Nat) (t : Text) : (q.call (b.resolve fuel) t).Leaves R t :=
  body_leaves hR custom (resolve_leaves hR custom fuel) q t hq

end RuleBook

/-! ## Rounds of a repetition -/

namespace Run

variable {element : Text → Run M} {next : Text → Option Text}

theorem further_of_not_go {n : Nat} {items : List (Value M)} {before rest : Text}
    (h : ¬(Text.size rest < Text.size before ∧ rest ≠ [])) :
    further element next n items before rest = pure (.matched ⟨.sequence items, rest⟩) := by
  cases n with
  | zero => rfl
  | succ n => rw [further, if_neg h]

/-- A repetition whose bound is at least the size of the text in front is not ended by its bound, and
of that text it matters only whether the rest is smaller. -/
theorem further_eq : ∀ {n n' : Nat} {items : List (Value M)} {before before' rest : Text},
    (Text.size rest < Text.size before ↔ Text.size rest < Text.size before') →
      Text.size before ≤ n → Text.size before' ≤ n' →
        further element next n items before rest = further element next n' items before' rest := by
  intro n
  induction n with
  | zero =>
      intro n' items before before' rest hgo hn hn'
      rw [further_of_not_go (by omega), further_of_not_go (by omega)]
  | succ n ih =>
      intro n' items before before' rest hgo hn hn'
      by_cases h : Text.size rest < Text.size before ∧ rest ≠ []
      · have h' : Text.size rest < Text.size before' ∧ rest ≠ [] := ⟨hgo.mp h.1, h.2⟩
        obtain ⟨k, rfl⟩ : ∃ k, n' = k + 1 := ⟨n' - 1, by omega⟩
        rw [further, further, if_pos h, if_pos h']
        cases next rest with
        | none => rfl
        | some u =>
            cases hu : (element u).outcome with
            | matched m =>
                simp only [hu]
                have hle : Text.size rest ≤ n ∧ Text.size rest ≤ k := by omega
                rw [ih Iff.rfl hle.1 hle.2]
            | failed e => simp only [hu]
            | aborted a => simp only [hu]
            | unfinished => simp only [hu]
      · have h' : ¬(Text.size rest < Text.size before' ∧ rest ≠ []) := by rwa [← hgo]
        rw [further_of_not_go h, further_of_not_go h']

end Run

end Descent
