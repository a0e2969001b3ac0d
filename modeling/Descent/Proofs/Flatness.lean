import Descent.Proofs.Rests

/-!
# Flat outputs

A value is *flat* when it is no sequence, or one whose entries are tokens and results of conversions:
there is no unit and no sequence within a sequence.  Values become longer in two ways, by `join`,
which puts two of them together, and in a repetition, which appends the items of one element after
the other.  Either way the items of flat values are entries of the new sequence, so everything that
a parser puts out is flat if its conversions and its custom leaves keep to flat values
(`matched_flat`).  A rule may occur in its own definition; the list that it puts out is then spliced
into the list around it and does not become an entry.
-/

namespace Descent

variable {M : Type}

/-! ## Flat values -/

namespace Value

/-- The value is a token or the result of a conversion. -/
def IsAtom : Value M → Prop
  | token _ => True
  | mapped _ => True
  | _ => False

/-- The value is no sequence, or one of tokens and results of conversions. -/
def IsFlat : Value M → Prop
  | sequence vs => ∀ v ∈ vs, v.IsAtom
  | _ => True

theorem IsFlat.solidItems {v : Value M} (h : v.IsFlat) : ∀ w ∈ v.solidItems, w.IsAtom := by
  intro w hw
  obtain ⟨hw, -⟩ := List.mem_filter.mp hw
  cases v with
  | unit => cases hw
  | token t =>
      cases List.mem_singleton.mp hw
      trivial
  | sequence vs => exact h w hw
  | mapped m =>
      cases List.mem_singleton.mp hw
      trivial

theorem IsFlat.join {v w : Value M} (hv : v.IsFlat) (hw : w.IsFlat) : (v.join w).IsFlat := by
  rw [join_eq]
  intro u hu
  exact (List.mem_append.mp hu).elim (hv.solidItems u) (hw.solidItems u)

end Value

/-! ## Runs by what they put out -/

/-- Where the run matches, what it puts out is of a kind. -/
def Run.PutsOut (P : Value M → Prop) (r : Run M) : Prop :=
  ∀ m, r.outcome = .matched m → P m.output

namespace Run.PutsOut

variable {P Q : Value M → Prop}

theorem any {r : Run M} : r.PutsOut fun _ => True := fun _ _ => trivial

theorem onMatch {r : Run M} {k : Match M → Run M} (hr : r.PutsOut P)
    (hk : ∀ m, P m.output → (k m).PutsOut Q) : (r.onMatch k).PutsOut Q := by
  intro n hn
  obtain ⟨m, hm, hn⟩ := onMatch_eq_matched_iff.mp hn
  exact hk m (hr m hm) n hn

theorem onMismatch {r : Run M} {k : ParseError → Run M} (hr : r.PutsOut P)
    (hk : ∀ e, (k e).PutsOut P) : (r.onMismatch k).PutsOut P := by
  intro m hm
  rcases onMismatch_eq_matched_iff.mp hm with hm | ⟨e, -, -, hm⟩
  · exact hr m hm
  · exact hk e m hm

theorem repeatFrom_sequence {element : Text → Run M} {next : Text → Option Text} (t : Text)
    (m : Match M) : (repeatFrom element next t m).PutsOut fun v => ∃ items, v = .sequence items := by
  intro n hn
  obtain ⟨items, hitems, -⟩ :=
    further_matched (I := fun _ _ => True) (fun _ _ _ => trivial) trivial hn
  exact ⟨items, hitems⟩

/-- A repetition of elements that put out flat values puts out a flat sequence. -/
theorem repeatFrom {element : Text → Run M} {next : Text → Option Text}
    (he : ∀ u, (element u).PutsOut Value.IsFlat) (t : Text) {m : Match M} (hm : m.output.IsFlat) :
    (repeatFrom element next t m).PutsOut Value.IsFlat := by
  intro n hn
  obtain ⟨items, hitems, hflat⟩ := further_matched (I := fun items _ => ∀ v ∈ items, v.IsAtom)
    (fun hitems _ hu v hv =>
      (List.mem_append.mp hv).elim (hitems v) ((he _ _ hu).solidItems v)) hm.solidItems hn
  rw [hitems]
  exact hflat

end Run.PutsOut

/-! ## Parsers that keep to flat values -/

namespace Parser

/-- The parser puts the outputs of other parsers together. -/
def IsComposition : Parser M → Prop
  | seq _ _ => True
  | many _ => True
  | sepBy _ _ => True
  | named p _ => p.IsComposition
  | _ => False

/-- What a composition puts out is a sequence. -/
theorem IsComposition.putsOut (resolve : Rule → Text → Run M) (t : Text) :
    ∀ {p : Parser M}, p.IsComposition →
      (p.body resolve t).PutsOut fun v => ∃ items, v = .sequence items
  | .seq p q, _ => by
      refine .onMatch .any fun m _ => .onMatch .any fun m' _ n hn => ?_
      cases hn
      exact ⟨_, rfl⟩
  | .many p, _ => .onMatch .any fun m _ => .repeatFrom_sequence t m
  | .sepBy p sep, _ => by
      refine .onMismatch ?_ fun _ => nofun
      exact .onMatch .any fun m _ => .repeatFrom_sequence t m
  | .named p _, h => IsComposition.putsOut resolve t (p := p) h

end Parser

namespace RuleBook

/-- The custom leaves that the parser reaches put out flat values, and its conversions make flat
values of flat values. -/
structure KeepsFlat (b : RuleBook M) (p : Parser M) : Prop where
  custom : ∀ x f, b.Reaches p (.custom x f) → ∀ t m, f t = .ok m → m.output.IsFlat
  map : ∀ q f, b.Reaches p (.map q f) → ∀ v w, v.IsFlat → f v = .ok w → w.IsFlat
  tryMap : ∀ q f, b.Reaches p (.tryMap q f) → ∀ v w, v.IsFlat → f v = .ok w → w.IsFlat

variable {b : RuleBook M} {p : Parser M}

/-- Bodies of parsers that are reached put out flat values, if rules do. -/
theorem body_flat (keeps : b.KeepsFlat p) {resolve : Rule → Text → Run M}
    (rules : ∀ r t, b.Reaches p (.rule r) → (resolve r t).PutsOut Value.IsFlat) :
    ∀ (q : Parser M) (t : Text), b.Reaches p q → (q.body resolve t).PutsOut Value.IsFlat
  | .literal word, t, _ => by
      intro m hm
      rw [(Leaf.literal_eq_ok_iff.mp (Outcome.ofExcept_eq_matched_iff.mp hm)).1]
      trivial
  | .pattern source regex, t, _ => by
      intro m hm
      obtain ⟨token, htoken, -⟩ :=
        Leaf.pattern_eq_ok_iff.mp (Outcome.ofExcept_eq_matched_iff.mp hm)
      rw [htoken]
      trivial
  | .custom x f, t, h => fun m hm => keeps.custom x f h t m (Outcome.ofExcept_eq_matched_iff.mp hm)
  | .rule r, t, h => rules r t h
  | .seq q s, t, h => by
      refine .onMatch (body_flat keeps rules q t (h.trans (.of_part .seqLeft))) fun m hm => ?_
      refine .onMatch (body_flat keeps rules s m.rest (h.trans (.of_part .seqRight))) ?_
      intro n hn x hx
      cases hx
      exact hm.join hn
  | .choice q s, t, h => by
      have first := body_flat keeps rules q t (h.trans (.of_part .choiceLeft))
      have second := body_flat keeps rules s t (h.trans (.of_part .choiceRight))
      exact Run.PutsOut.onMismatch first fun _ => .onMismatch second fun _ => nofun
  | .map q f, t, h => by
      refine .onMatch (body_flat keeps rules q t (h.trans (.of_part .map))) fun m hm => ?_
      split
      next v hv =>
        intro n hn
        cases hn
        exact keeps.map q f h m.output v hm hv
      next => exact nofun
  | .tryMap q f, t, h => by
      refine .onMatch (body_flat keeps rules q t (h.trans (.of_part .tryMap))) fun m hm => ?_
      split
      next v hv =>
        intro n hn
        cases hn
        exact keeps.tryMap q f h m.output v hm hv
      next => exact nofun
      next => exact nofun
  | .optional q, t, h => by
      refine .onMismatch (body_flat keeps rules q t (h.trans (.of_part .optional))) ?_
      intro _ m hm
      cases hm
      trivial
  | .many q, t, h => by
      have element : ∀ u, ((q.body resolve u).asCall q u).PutsOut Value.IsFlat := fun u =>
        body_flat keeps rules q u (h.trans (.of_part .many))
      exact .onMatch (element t) fun m hm => .repeatFrom element t hm
  | .sepBy q sep, t, h => by
      have element : ∀ u, ((q.body resolve u).asCall q u).PutsOut Value.IsFlat := fun u =>
        body_flat keeps rules q u (h.trans (.of_part .sepBy))
      refine .onMismatch ?_ fun _ => nofun
      exact .onMatch (element t) fun m hm => .repeatFrom element t hm
  | .named q _, t, h => body_flat keeps rules q t (h.trans (.of_part .named))

theorem resolve_flat (keeps : b.KeepsFlat p) :
    ∀ (fuel : Nat) (r : Rule) (t : Text), b.Reaches p (.rule r) →
      (b.resolve fuel r t).PutsOut Value.IsFlat
  | 0, _, _, _ => nofun
  | fuel + 1, r, t, h => by
      rw [resolve]
      cases hd : b.definition? r with
      | none =>
          intro m hm
          cases hm
      | some d =>
          exact body_flat keeps (resolve_flat keeps fuel) d t (h.trans (.of_definition hd))

end RuleBook

/-- Whatever a parser that keeps to flat values puts out is flat, and so is what the parsers that it
reaches put out on the way.  What a sequence or a repetition puts out is always a sequence. -/
theorem matched_flat (b : RuleBook M) (p : Parser M) :
    (b.KeepsFlat p → ∀ q, b.Reaches p q → ∀ fuel t m,
      (q.call (b.resolve fuel) t).outcome = .matched m → m.output.IsFlat) ∧
    ∀ q : Parser M, q.IsComposition → ∀ fuel t m,
      (q.call (b.resolve fuel) t).outcome = .matched m → ∃ items, m.output = .sequence items := by
  constructor
  · intro keeps q hq fuel t m hm
    exact RuleBook.body_flat keeps (RuleBook.resolve_flat keeps fuel) q t hq m hm
  · intro q hq fuel t m hm
    exact hq.putsOut (b.resolve fuel) t m hm

/-- The length of a token in place of the token. -/
def tokenLength : Value Nat → Except Abort (Value Nat)
  | .token t => .ok (.mapped t.length)
  | v => .ok v

/-- A list has lists and single characters in parentheses, with commas between. -/
def listOfLists : Parser Nat :=
  .seq (.literal ['('])
    (.seq (.sepBy (.choice (.rule ⟨0, ['l']⟩) (.map (.custom ['.'] (Leaf.take ['.'] 1 .token))
      tokenLength)) [',']) (.literal [')']))

/-- The inner list of `((a,b),c)` does not become an entry of the outer one. -/
theorem matched_flat_nested_list :
    let b : RuleBook Nat := ⟨1, [(⟨0, ['l']⟩, listOfLists)]⟩
    b.KeepsFlat listOfLists ∧ listOfLists.IsComposition ∧
      ∃ m, b.parse listOfLists "((a,b),c)!".toList = .matched m ∧ m.output.IsFlat ∧
        ∃ items, m.output = .sequence items ∧ items.length = 3 := by
  intro b
  have leaf : ∀ x f, b.Reaches listOfLists (.custom x f) → f = Leaf.take ['.'] 1 .token := by
    intro x f h
    exact h.of_parts (P := fun q => ∀ x f, q = .custom x f → f = Leaf.take ['.'] 1 .token)
      (by simp [listOfLists, Parser.parts]) (by simp [b, listOfLists, Parser.parts]) x f rfl
  have conversion : ∀ q f, b.Reaches listOfLists (.map q f) → f = tokenLength := by
    intro q f h
    exact h.of_parts (P := fun s => ∀ q f, s = .map q f → f = tokenLength)
      (by simp [listOfLists, Parser.parts]) (by simp [b, listOfLists, Parser.parts]) q f rfl
  have check : ∀ q f, ¬b.Reaches listOfLists (.tryMap q f) := by
    intro q f h
    exact h.of_parts (P := fun s => ∀ q f, s ≠ .tryMap q f)
      (by simp [listOfLists, Parser.parts]) (by simp [b, listOfLists, Parser.parts]) q f rfl
  have keeps : b.KeepsFlat listOfLists := by
    refine ⟨fun x f h t m hm => ?_, fun q f h v w hv hw => ?_, fun q f h => absurd h (check q f)⟩
    · rw [leaf x f h, Leaf.take] at hm
      split at hm
      · cases hm
        trivial
      · cases hm
    · rw [conversion q f h] at hw
      cases v with
      | token t => cases hw; trivial
      | unit | sequence vs | mapped n => cases hw; exact hv
  have ends : (b.parse listOfLists "((a,b),c)!".toList).match?.map (fun m => m.output.items.length) =
      some 3 := by decide +kernel
  obtain ⟨m, hm, hlength⟩ := Option.map_eq_some_iff.mp ends
  rw [Outcome.match?_eq_some_iff] at hm
  obtain ⟨flat, sequence⟩ := matched_flat b listOfLists
  obtain ⟨items, hitems⟩ := sequence listOfLists trivial _ _ m hm
  refine ⟨keeps, trivial, m, hm, flat keeps listOfLists (.refl _) _ _ m hm, items, hitems, ?_⟩
  rw [hitems] at hlength
  exact hlength

end Descent
