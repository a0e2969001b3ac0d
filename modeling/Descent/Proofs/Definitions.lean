import Descent.Proofs.Declarations

/-!
# Definitions

To define a rule takes a parser that *stands for* it, the rule itself or the rule under names that it
has been given since.  What only contains the rule does not stand for it.  An attempt to define a rule
either adds this one definition and changes nothing else, or fails and changes nothing at all.

In a row of steps the attempts to define rules are those of the steps that come to it, each with the
rule and the definition offered.  Each attempt leaves what there is in its place
(`definitions_step`), so a rule has the definition that it had at the start, or else the first that
was offered (`definition?_after`).
-/

namespace Descent

variable {M : Type}

/-! ## Parsers that stand for a rule -/

namespace Parser

/-- The parser is the rule, perhaps under other names. -/
inductive StandsFor : Parser M → Rule → Prop where
  | rule (r) : StandsFor (rule r) r
  | named {p r} (name) : StandsFor p r → StandsFor (named p name) r

theorem StandsFor.asRule? {p : Parser M} {r : Rule} (h : p.StandsFor r) : p.asRule? = some r := by
  induction h with
  | rule r => rfl
  | named name _ ih => exact ih

theorem StandsFor.of_asRule? {p : Parser M} {r : Rule} (h : p.asRule? = some r) :
    p.StandsFor r := by
  induction p with
  | rule s =>
      cases h
      exact .rule r
  | named p name ih => exact .named name (ih h)
  | literal _ | pattern _ _ | custom _ _ | seq _ _ | choice _ _ | map _ _ | tryMap _ _
  | optional _ | many _ | sepBy _ _ => cases h

theorem StandsFor.mem_rules {p : Parser M} {r : Rule} (h : p.StandsFor r) : r ∈ p.rules := by
  induction h with
  | rule r => exact List.mem_singleton.mpr rfl
  | named name _ ih => exact ih

theorem asRule?_eq_none {p : Parser M} (h : ∀ r, ¬p.StandsFor r) : p.asRule? = none := by
  cases hp : p.asRule? with
  | none => rfl
  | some r => exact absurd (.of_asRule? hp) (h r)

end Parser

/-! ## Rule books -/

namespace RuleBook

variable {b : RuleBook M} {p q d : Parser M} {r s : Rule}

theorem definition?_eq_lookup (b : RuleBook M) (r : Rule) :
    b.definition? r = b.definitions.lookup r := by
  obtain ⟨n, ds⟩ := b
  induction ds with
  | nil => rfl
  | cons e ds ih =>
      obtain ⟨s, d⟩ := e
      rw [definition?_cons, ih, List.lookup_cons]
      by_cases h : s = r
      · simp [h]
      · have hne : (r == s) = false := beq_false_of_ne (Ne.symm h)
        simp only [h, hne, if_false]

theorem define_of_undefined (hp : p.StandsFor r) (hr : b.definition? r = none) :
    b.define p d = .ok { b with definitions := (r, d) :: b.definitions } := by
  simp only [define, hp.asRule?, hr]

theorem define_of_defined (hp : p.StandsFor r) (hr : b.definition? r ≠ none) :
    b.define p d = .error (.alreadyDefined r.name) := by
  obtain ⟨e, he⟩ := Option.ne_none_iff_exists'.mp hr
  simp only [define, hp.asRule?, he]

theorem define_of_no_rule (h : ∀ r, ¬p.StandsFor r) :
    b.define p d = .error (.notDeclared p.label) := by
  simp only [define, Parser.asRule?_eq_none h]

theorem isDefined_eq (hp : p.StandsFor r) : b.isDefined p = (b.definition? r).isSome := by
  simp only [isDefined, hp.asRule?]

/-- A new definition is the one of its rule, and the other rules keep theirs. -/
theorem definition?_define (b : RuleBook M) (r s : Rule) (d : Parser M) :
    ({ b with definitions := (r, d) :: b.definitions } : RuleBook M).definition? s =
      if s = r then some d else b.definition? s := by
  rw [definition?_cons]
  simp only [eq_comm]

/-- Nothing but whether it is defined is known of a parser from the book. -/
theorem info_eq_of_isDefined (b : RuleBook M) {b' : RuleBook M} {x : Bool}
    (h : b'.isDefined q = x) : b'.info q = { b.info q with isDefined := x } := by
  rw [info, info, h]

theorem isDefined_define_of_standsFor (hq : q.StandsFor r) :
    ({ b with definitions := (r, d) :: b.definitions } : RuleBook M).isDefined q = true := by
  rw [isDefined_eq hq, definition?_define, if_pos rfl]
  rfl

theorem isDefined_define_of_not_standsFor (hq : ¬q.StandsFor r) :
    ({ b with definitions := (r, d) :: b.definitions } : RuleBook M).isDefined q =
      b.isDefined q := by
  cases hs : q.asRule? with
  | none => simp only [isDefined, hs]
  | some s =>
      have hne : s ≠ r := by
        rintro rfl
        exact hq (.of_asRule? hs)
      simp only [isDefined, hs, definition?_define, if_neg hne]

end RuleBook

/-! ## Definitions that are offered -/

/-- The definitions after one more is offered, which does not take the place of another. -/
def offer (ds : List (Rule × Parser M)) (e : Rule × Parser M) : List (Rule × Parser M) :=
  match ds.lookup e.1 with
  | some _ => ds
  | none => e :: ds

theorem lookup_offer (ds : List (Rule × Parser M)) (e : Rule × Parser M) (r : Rule) :
    (offer ds e).lookup r = (ds.lookup r).or ([e].lookup r) := by
  obtain ⟨s, d⟩ := e
  rw [offer]
  by_cases h : r = s
  · subst h
    cases hr : ds.lookup r with
    | some e => simp [hr]
    | none => simp
  · have hne : (r == s) = false := beq_false_of_ne h
    cases ds.lookup s with
    | some e => simp [List.lookup_cons, hne]
    | none => simp [List.lookup_cons, hne]

/-- Of several definitions of a rule the first that is offered stands. -/
theorem lookup_foldl_offer (es ds : List (Rule × Parser M)) (r : Rule) :
    (es.foldl offer ds).lookup r = (ds.lookup r).or (es.lookup r) := by
  induction es generalizing ds with
  | nil => simp
  | cons e es ih =>
      rw [List.foldl_cons, ih, lookup_offer, Option.or_assoc, ← List.lookup_append]
      rfl

/-! ## Sessions -/

/-- The rule that a step tries to define, with the definition that it offers. -/
def Step.offer? (kept : Text → Option (Parser M)) : Step M → Option (Rule × Parser M)
  | .define id recipe =>
    match recipe.build kept, kept id with
    | .ok d, some p => p.asRule?.map fun r => (r, d)
    | _, _ => none
  | _ => none

/-- A definition is offered for a rule that a parser kept stands for. -/
theorem Step.exists_of_offer? {kept : Text → Option (Parser M)} {e : Rule × Parser M} :
    ∀ {st : Step M}, st.offer? kept = some e → ∃ id p, kept id = some p ∧ p.StandsFor e.1
  | .define id recipe, h => by
      rw [offer?] at h
      split at h
      next d p _ hp =>
        obtain ⟨r, hr, rfl⟩ := Option.map_eq_some_iff.mp h
        exact ⟨id, p, hp, .of_asRule? hr⟩
      next => cases h

namespace Session

variable {s : Session M}

/-- The definitions that are offered in a row of steps, the first in front. -/
def offers (s : Session M) (level : Log.Level) : List (Step M) → List (Rule × Parser M)
  | [] => []
  | st :: sts => (st.offer? s.parser?).toList ++ (s.step level st).session.offers level sts

theorem definitions_withKept {α : Type} {id : Text} {kept : Option α} {k : α → Reply M}
    (h : ∀ a, (k a).session.book.definitions = s.book.definitions) :
    (s.withKept id kept k).session.book.definitions = s.book.definitions := by
  cases kept with
  | none => rfl
  | some a => exact h a

theorem definitions_withBuilt {recipe : Recipe M} {k : Parser M → Reply M}
    (h : ∀ p, (k p).session.book.definitions = s.book.definitions) :
    (s.withBuilt recipe k).session.book.definitions = s.book.definitions := by
  unfold withBuilt
  split
  · exact h _
  · rfl

theorem definitions_sealAs (level : Log.Level) (p : Parser M) (target : Text) :
    (s.sealAs level p target).session.book.definitions = s.book.definitions := by
  unfold sealAs
  split
  · rfl
  · rfl

theorem definitions_define (s : Session M) (level : Log.Level) (p d : Parser M) :
    (s.define level p d).session.book.definitions =
      (p.asRule?.map fun r => (r, d)).toList.foldl offer s.book.definitions := by
  unfold define RuleBook.define
  cases p.asRule? with
  | none => rfl
  | some r =>
      simp only [RuleBook.definition?_eq_lookup, Option.map_some, Option.toList_some,
        List.foldl_cons, List.foldl_nil, offer]
      cases s.book.definitions.lookup r with
      | none => rfl
      | some e => rfl

theorem step_define {id : Text} {recipe : Recipe M} {p d : Parser M} (level : Log.Level)
    (hd : recipe.build s.parser? = .ok d) (hp : s.parser? id = some p) :
    s.step level (.define id recipe) = s.define level p d := by
  simp only [step, withBuilt, withKept, hd, hp]

/-- A step offers at most one definition, and changes no other. -/
theorem definitions_step (s : Session M) (level : Log.Level) : ∀ st : Step M,
    (s.step level st).session.book.definitions =
      (st.offer? s.parser?).toList.foldl offer s.book.definitions
  | .define id recipe => by
      cases hd : recipe.build s.parser? with
      | error e => simp [step, withBuilt, Step.offer?, hd, fail]
      | ok d =>
          cases hp : s.parser? id with
          | none => simp [step, withBuilt, withKept, Step.offer?, hd, hp, fail]
          | some p =>
              rw [step_define level hd hp, definitions_define]
              simp only [Step.offer?, hd, hp]
  | .build _ _ => definitions_withBuilt fun _ => rfl
  | .declare _ _ => rfl
  | .info _ => definitions_withKept fun _ => rfl
  | .seal _ target => definitions_withKept fun p => definitions_sealAs level p target
  | .unseal _ _ => definitions_withKept fun _ => rfl
  | .parse _ _ => definitions_withKept fun _ => rfl
  | .parseGrammar _ _ => definitions_withKept fun _ => rfl
  | .setCursor _ => rfl
  | .next _ => by
      refine definitions_withKept fun p => ?_
      simp only
      split
      · rfl
      · rfl

theorem definitions_after (level : Log.Level) : ∀ (sts : List (Step M)) (s : Session M),
    (s.after level sts).book.definitions =
      (s.offers level sts).foldl offer s.book.definitions
  | [], _ => rfl
  | st :: sts, s => by
      have rest := definitions_after level sts (s.step level st).session
      rw [definitions_step, ← List.foldl_append] at rest
      exact rest

/-- A rule keeps the definition that it has, or else has the first that was offered. -/
theorem definition?_after (s : Session M) (level : Log.Level) (sts : List (Step M)) (r : Rule) :
    (s.after level sts).book.definition? r =
      (s.book.definition? r).or ((s.offers level sts).lookup r) := by
  rw [RuleBook.definition?_eq_lookup, RuleBook.definition?_eq_lookup, definitions_after,
    lookup_foldl_offer]

/-! ## Rules that are new -/

theorem Lists.id_lt_of_standsFor {names : List Text} (h : s.Lists names) {id : Text}
    {p : Parser M} (hp : s.parser? id = some p) {r : Rule} (hr : p.StandsFor r) :
    r.id < s.book.declared := by
  obtain ⟨hlt, -⟩ := List.getElem?_eq_some_iff.mp (h.parser? hp r hr.mem_rules)
  rwa [h.length_eq] at hlt

theorem Leads.id_lt_of_definition? {s : Session M} (h : Session.start.Leads s) {r : Rule}
    {d : Parser M} (hd : s.book.definition? r = some d) : r.id < s.book.declared := by
  induction h with
  | refl => cases hd
  | @step s level st h ih =>
      obtain ⟨names, hs⟩ := h.exists_lists
      obtain ⟨more, hs'⟩ := hs.step level st
      have hle : s.book.declared ≤ (s.step level st).session.book.declared := by
        rw [← hs.length_eq, ← hs'.length_eq]
        simp
      refine Nat.lt_of_lt_of_le ?_ hle
      have hstep : (s.book.definition? r).or ((s.offers level [st]).lookup r) = some d :=
        (definition?_after s level [st] r).symm.trans hd
      rcases Option.or_eq_some_iff.mp hstep with hd | ⟨-, hd⟩
      · exact ih hd
      · obtain ⟨l₁, l₂, hoffers, -⟩ := List.lookup_eq_some_iff.mp hd
        have hmem : (r, d) ∈ s.offers level [st] := by simp [hoffers]
        rw [offers, offers, List.append_nil, Option.mem_toList] at hmem
        obtain ⟨id, p, hp, hr⟩ := Step.exists_of_offer? hmem
        exact hs.id_lt_of_standsFor hp hr

/-- A rule that is declared has no definition, and nothing that is kept stands for it. -/
theorem Leads.declare_new (h : Session.start.Leads s) (name : Text) :
    s.book.definition? (s.book.declare name).1 = none ∧
      ∀ id p, s.parser? id = some p → ¬p.StandsFor (s.book.declare name).1 := by
  constructor
  · cases hd : s.book.definition? (s.book.declare name).1 with
    | none => rfl
    | some d => exact absurd (h.id_lt_of_definition? hd) (Nat.lt_irrefl _)
  · intro id p hp hr
    obtain ⟨names, hs⟩ := h.exists_lists
    exact Nat.lt_irrefl _ (hs.id_lt_of_standsFor hp hr)

/-! ## Attempts -/

variable {p d : Parser M} {r : Rule}

theorem define_of_undefined (level : Log.Level) (hp : p.StandsFor r)
    (hr : s.book.definition? r = none) :
    (s.define level p d).answer = .done ∧ (s.define level p d).session =
      { s with book := { s.book with definitions := (r, d) :: s.book.definitions } } := by
  simp [define, RuleBook.define_of_undefined hp hr]

theorem define_of_defined (level : Log.Level) (hp : p.StandsFor r)
    (hr : s.book.definition? r ≠ none) :
    s.define level p d = ⟨.problem (.grammar (.alreadyDefined r.name)), [], s⟩ := by
  simp only [define, RuleBook.define_of_defined hp hr, fail]

theorem define_of_no_rule (level : Log.Level) (h : ∀ r, ¬p.StandsFor r) :
    s.define level p d = ⟨.problem (.grammar (.notDeclared p.label)), [], s⟩ := by
  simp only [define, RuleBook.define_of_no_rule h, fail]

theorem define_done_iff (s : Session M) (level : Log.Level) (p d : Parser M) :
    (s.define level p d).answer = .done ↔
      ∃ r, p.StandsFor r ∧ s.book.definition? r = none := by
  constructor
  · intro hdone
    by_cases hrule : ∃ r, p.StandsFor r
    · obtain ⟨r, hp⟩ := hrule
      refine ⟨r, hp, Classical.byContradiction fun hr => ?_⟩
      rw [define_of_defined level hp hr] at hdone
      cases hdone
    · rw [define_of_no_rule level (not_exists.mp hrule)] at hdone
      cases hdone
  · rintro ⟨r, hp, hr⟩
    exact (define_of_undefined level hp hr).1

end Session

/-- Defining a rule is atomic.  It succeeds if and only if the parser stands for a rule that has no
definition.  Then this rule has the definition and the other rules are as they were, whatever their
names, and no more is known of any parser than that those which stand for the rule are defined.
Otherwise the error has the name that was declared, or the label of a parser that is no rule, and
nothing changes.  A rule that is declared is none of those there are, though it has the name of one,
and has no definition yet.  So after any steps every rule has the first definition that was offered
for it, or none if none was. -/
theorem define_exact (s : Session M) (level : Log.Level) (p d : Parser M) :
    ((s.define level p d).answer = .done ↔
      ∃ r, p.StandsFor r ∧ s.book.definition? r = none) ∧
    (∀ r, p.StandsFor r → s.book.definition? r = none →
      let b := (s.define level p d).session.book
      (s.define level p d).session = { s with book := b } ∧
      b.declared = s.book.declared ∧
      (∀ x, b.definition? x = if x = r then some d else s.book.definition? x) ∧
      ∀ q : Parser M,
        (q.StandsFor r → s.book.isDefined q = false ∧
          b.info q = { s.book.info q with isDefined := true }) ∧
        (¬q.StandsFor r → b.info q = s.book.info q)) ∧
    (∀ r, p.StandsFor r → s.book.definition? r ≠ none →
      s.define level p d = ⟨.problem (.grammar (.alreadyDefined r.name)), [], s⟩) ∧
    ((∀ r, ¬p.StandsFor r) →
      s.define level p d = ⟨.problem (.grammar (.notDeclared p.label)), [], s⟩) ∧
    (Session.start.Leads s → ∀ name, s.book.definition? (s.book.declare name).1 = none ∧
      ∀ id q, s.parser? id = some q → ¬q.StandsFor (s.book.declare name).1) ∧
    ∀ (sts : List (Step M)) (r : Rule), (Session.start.after level sts).book.definition? r =
      (Session.start.offers level sts).lookup r := by
  refine ⟨Session.define_done_iff s level p d, fun r hp hr => ?_,
    fun r => Session.define_of_defined level, Session.define_of_no_rule level,
    Session.Leads.declare_new, fun sts r => Session.definition?_after Session.start level sts r⟩
  rw [(Session.define_of_undefined level hp hr).2]
  refine ⟨rfl, rfl, fun x => RuleBook.definition?_define s.book r x d, fun q => ⟨fun hq => ?_, ?_⟩⟩
  · refine ⟨?_, s.book.info_eq_of_isDefined (RuleBook.isDefined_define_of_standsFor hq)⟩
    rw [RuleBook.isDefined_eq hq, hr]
    rfl
  · intro hq
    exact s.book.info_eq_of_isDefined (RuleBook.isDefined_define_of_not_standsFor hq)

/-- Two rules of the same name, and the second under another name. -/
def renamed : List (Step Unit) :=
  [.declare ['a'] ['x'], .declare ['b'] ['x'], .build ['c'] (.named (.ref ['b']) ['y'])]

/-- The second rule is defined under its other name, and the first is not, though it has the name
that the second was declared under.  A further attempt fails with that name and one on an option of
the rule with a label; the definition is still the first. -/
theorem define_exact_same_name :
    let s := Session.start.after .debug renamed
    let p : Parser Unit := .named (.rule ⟨1, ['x']⟩) ['y']
    let s' := (s.define .debug p (.literal ['1'])).session
    (s.define .debug p (.literal ['1'])).answer = .done ∧
    s'.book.definition? ⟨0, ['x']⟩ = none ∧
    s'.book.info (.rule ⟨0, ['x']⟩) = s.book.info (.rule ⟨0, ['x']⟩) ∧
    s'.define .debug p (.literal ['2']) = ⟨.problem (.grammar (.alreadyDefined ['x'])), [], s'⟩ ∧
    s'.define .debug (.optional p) (.literal ['2']) =
      ⟨.problem (.grammar (.notDeclared "optional y".toList)), [], s'⟩ ∧
    s.book.definition? (s.book.declare ['x']).1 = none ∧
    (Session.start.after .debug (renamed ++ [.define ['c'] (.literal ['1']),
      .define ['b'] (.literal ['2'])])).book.definition? ⟨1, ['x']⟩ = some (.literal ['1']) := by
  intro s p s'
  have stands : p.StandsFor ⟨1, ['x']⟩ := .named ['y'] (.rule _)
  have apart : ¬(Parser.rule ⟨0, ['x']⟩ : Parser Unit).StandsFor ⟨1, ['x']⟩ := by
    intro h
    cases h
  have noRule : ∀ r, ¬(Parser.optional p).StandsFor r := by
    intro r h
    cases h
  have started : Session.start.Leads s := (Session.Leads.refl _).after .debug renamed
  obtain ⟨done, defines, -, -, new, first⟩ := define_exact s .debug p (.literal ['1'])
  obtain ⟨-, -, others, known⟩ := defines _ stands rfl
  obtain ⟨-, -, again, -⟩ := define_exact s' .debug p (.literal ['2'])
  obtain ⟨-, -, -, wrapped, -⟩ := define_exact s' .debug (.optional p) (.literal ['2'])
  refine ⟨done.mpr ⟨_, stands, rfl⟩, others ⟨0, ['x']⟩, (known _).2 apart, again _ stands ?_,
    wrapped noRule, (new started ['x']).1, first _ _⟩
  rw [others ⟨1, ['x']⟩]
  exact nofun

end Descent
