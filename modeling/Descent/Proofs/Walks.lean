import Descent.Proofs.Declarations
import Descent.Proofs.Sealing
import Mathlib.Data.List.Nodup

/-!
# What sealing finds

`Walks` is the walk of sealing without a bound on its rounds: it relates the rules that are pending
and those that have been seen to the result of a walk that comes to an end.  Every walk that starts
at a parser comes to an end, also where rules refer to each other, and its result is the one that
`RuleBook.reachable` gives (`walks_iff`).

What a walk finds has no rule twice, and all of it is reached from a rule that was pending; what it
complains of is such a rule that has no definition.  With what `walk_ok` says, that a walk that
succeeds has met all that there is, sealing is exact (`seal_exact`).  The rules found in a session
differ by the numbers of their declarations.
-/

namespace Descent

variable {M : Type}

namespace RuleBook

/-! ## Walks without a bound -/

/-- A walk through the pending rules, past those already seen, comes to an end with a result. -/
inductive Walks (b : RuleBook M) : (pending seen : List Rule) → Except GrammarError (List Rule) →
    Prop where
  /-- Nothing is pending. -/
  | finished {seen} : Walks b [] seen (.ok seen)
  /-- The next rule has been seen. -/
  | again {r pending seen found} : r ∈ seen → Walks b pending seen found →
      Walks b (r :: pending) seen found
  /-- The next rule has no definition. -/
  | undefined {r pending seen} : r ∉ seen → b.definition? r = none →
      Walks b (r :: pending) seen (.error (.undefined r.name))
  /-- The next rule has a definition, whose rules are pending then. -/
  | enter {r d pending seen found} : r ∉ seen → b.definition? r = some d →
      Walks b (d.rules.reverse ++ pending) (r :: seen) found → Walks b (r :: pending) seen found

variable {b : RuleBook M} {pending seen rules : List Rule}
  {found found' : Except GrammarError (List Rule)}

namespace Walks

theorem unique (h : b.Walks pending seen found) (h' : b.Walks pending seen found') :
    found = found' := by
  induction h with
  | finished =>
      cases h'
      rfl
  | again hr _ ih =>
      cases h' with
      | again _ h' => exact ih h'
      | undefined hr' _ => exact absurd hr hr'
      | enter hr' _ _ => exact absurd hr hr'
  | undefined hr hnone =>
      cases h' with
      | again hr' _ => exact absurd hr' hr
      | undefined _ _ => rfl
      | enter _ hd _ => rw [hnone] at hd; cases hd
  | enter hr hd _ ih =>
      cases h' with
      | again hr' _ => exact absurd hr' hr
      | undefined _ hnone => rw [hd] at hnone; cases hnone
      | enter _ hd' h' =>
          rw [hd, Option.some.injEq] at hd'
          subst hd'
          exact ih h'

theorem of_walk : ∀ {fuel : Nat} {pending seen : List Rule},
    pending.length + b.unseen seen ≤ fuel → b.Walks pending seen (b.walk fuel pending seen)
  | fuel, [], seen, _ => by
      have hwalk : b.walk fuel [] seen = .ok seen := by cases fuel <;> rfl
      rw [hwalk]
      exact .finished
  | 0, r :: pending, seen, hfuel => by
      rw [List.length_cons] at hfuel
      omega
  | fuel + 1, r :: pending, seen, hfuel => by
      rw [List.length_cons] at hfuel
      rw [walk]
      by_cases hseen : r ∈ seen
      · rw [if_pos (List.contains_iff_mem.mpr hseen)]
        exact .again hseen (of_walk (by omega))
      · rw [if_neg fun hc => hseen (List.contains_iff_mem.mp hc)]
        cases hd : b.definition? r with
        | none => exact .undefined hseen hd
        | some d =>
            have hless := unseenIn_cons_add_le hseen (mem_definitions hd)
            refine .enter hseen hd (of_walk ?_)
            rw [List.length_append, List.length_reverse, unseen]
            rw [unseen] at hfuel
            omega

theorem nodup (h : b.Walks pending seen (.ok rules)) (hseen : seen.Nodup) : rules.Nodup := by
  generalize hfound : Except.ok rules = found at h
  induction h with
  | finished =>
      cases hfound
      exact hseen
  | again _ _ ih => exact ih hseen hfound
  | undefined => cases hfound
  | enter hr _ _ ih => exact ih (List.nodup_cons.mpr ⟨hr, hseen⟩) hfound

/-- What is reached from the rules that are pending when a rule is entered, is reached from those
that were pending before. -/
theorem exists_reaches_of_enter {r x : Rule} {d : Parser M} (hd : b.definition? r = some d)
    (h : ∃ y ∈ d.rules.reverse ++ pending, b.Reaches (.rule y) (.rule x)) :
    ∃ y ∈ r :: pending, b.Reaches (.rule y) (.rule x) := by
  obtain ⟨y, hy, hx⟩ := h
  rcases List.mem_append.mp hy with hy | hy
  · have hr : b.Reaches (.rule r) (.rule y) :=
      (Reaches.of_definition hd).trans (.of_mem_rules (List.mem_reverse.mp hy))
    exact ⟨r, List.mem_cons_self, hr.trans hx⟩
  · exact ⟨y, List.mem_cons_of_mem r hy, hx⟩

/-- What a walk finds has been seen before or is reached from a rule that was pending. -/
theorem reaches_of_mem (h : b.Walks pending seen (.ok rules)) {x : Rule} (hx : x ∈ rules) :
    x ∈ seen ∨ ∃ y ∈ pending, b.Reaches (.rule y) (.rule x) := by
  generalize hfound : Except.ok rules = found at h
  induction h with
  | finished =>
      cases hfound
      exact Or.inl hx
  | again _ _ ih =>
      exact (ih hfound).imp_right fun ⟨y, hy, hreach⟩ => ⟨y, List.mem_cons_of_mem _ hy, hreach⟩
  | undefined => cases hfound
  | @enter r d _ _ _ _ hd _ ih =>
      rcases ih hfound with hx | hx
      · rcases List.mem_cons.mp hx with rfl | hx
        · exact Or.inr ⟨x, List.mem_cons_self, .refl _⟩
        · exact Or.inl hx
      · exact Or.inr (exists_reaches_of_enter hd hx)

/-- A walk complains of a rule that is reached from a pending one and has no definition. -/
theorem exists_undefined {e : GrammarError} (h : b.Walks pending seen (.error e)) :
    ∃ x, (∃ y ∈ pending, b.Reaches (.rule y) (.rule x)) ∧ b.definition? x = none ∧
      e = .undefined x.name := by
  generalize hfound : Except.error e = found at h
  induction h with
  | finished => cases hfound
  | again _ _ ih =>
      obtain ⟨x, ⟨y, hy, hreach⟩, hx⟩ := ih hfound
      exact ⟨x, ⟨y, List.mem_cons_of_mem _ hy, hreach⟩, hx⟩
  | @undefined r _ _ _ hnone =>
      cases hfound
      exact ⟨r, ⟨r, List.mem_cons_self, .refl _⟩, hnone, rfl⟩
  | enter _ hd _ ih =>
      obtain ⟨x, hreach, hx⟩ := ih hfound
      exact ⟨x, exists_reaches_of_enter hd hreach, hx⟩

end Walks

/-! ## Walks from parsers -/

variable {p : Parser M}

theorem walks_reachable (b : RuleBook M) (p : Parser M) :
    b.Walks p.rules.reverse [] (b.reachable p) := .of_walk (Nat.le_of_eq (walkFuel_eq b p).symm)

/-- The walk from a parser comes to an end, and this is how. -/
theorem walks_iff : b.Walks p.rules.reverse [] found ↔ b.reachable p = found := by
  constructor
  · exact (walks_reachable b p).unique
  · rintro rfl
    exact walks_reachable b p

theorem reaches_of_pending {x : Rule}
    (h : ∃ y ∈ p.rules.reverse, b.Reaches (.rule y) (.rule x)) : b.Reaches p (.rule x) := by
  obtain ⟨y, hy, hx⟩ := h
  exact (Reaches.of_mem_rules (List.mem_reverse.mp hy)).trans hx

theorem seal_eq_ok_iff {g : Grammar M} :
    b.seal p = .ok g ↔ g.root = p ∧ b.reachable p = .ok g.rules := by
  rw [RuleBook.seal]
  cases b.reachable p with
  | error e => simp [Except.map]
  | ok rules =>
      obtain ⟨root, rules'⟩ := g
      simp [Except.map, eq_comm]

theorem seal_eq_error_iff {e : GrammarError} : b.seal p = .error e ↔ b.reachable p = .error e := by
  rw [RuleBook.seal]
  cases b.reachable p with
  | error e' => simp [Except.map]
  | ok rules => simp [Except.map]

theorem exists_undefined_of_seal {e : GrammarError} (h : b.seal p = .error e) :
    ∃ r, b.Reaches p (.rule r) ∧ b.definition? r = none ∧ e = .undefined r.name := by
  obtain ⟨r, hreach, hr⟩ := (walks_iff.mpr (seal_eq_error_iff.mp h)).exists_undefined
  exact ⟨r, reaches_of_pending hreach, hr⟩

/-- A parser can be sealed if and only if it is closed. -/
theorem exists_seal_iff : (∃ g, b.seal p = .ok g) ↔ b.Closed p := by
  constructor
  · rintro ⟨g, hg⟩
    exact closed_of_seal hg
  · intro closed
    cases h : b.seal p with
    | ok g => exact ⟨g, rfl⟩
    | error e =>
        obtain ⟨r, hreach, hnone, -⟩ := exists_undefined_of_seal h
        obtain ⟨d, hd⟩ := closed r hreach
        rw [hnone] at hd
        cases hd

/-- The rules of a grammar are those that are reached from its root, each once. -/
theorem rules_of_seal {g : Grammar M} (h : b.seal p = .ok g) :
    g.rules.Nodup ∧ ∀ r, r ∈ g.rules ↔ b.Reaches p (.rule r) := by
  have hwalk := (seal_eq_ok_iff.mp h).2
  have walks : b.Walks p.rules.reverse [] (.ok g.rules) := walks_iff.mpr hwalk
  refine ⟨walks.nodup List.nodup_nil, fun r => ⟨fun hr => ?_, fun hreach => ?_⟩⟩
  · exact reaches_of_pending ((walks.reaches_of_mem hr).resolve_left List.not_mem_nil)
  · obtain ⟨hp, -, hrules⟩ := walk_ok (Nat.le_of_eq (walkFuel_eq b p).symm) hwalk
    have defined : ∀ x ∈ g.rules, ∃ d, b.definition? x = some d ∧ d.rules ⊆ g.rules :=
      fun x hx => (hrules x hx).resolve_left List.not_mem_nil
    have front : p.rules ⊆ g.rules := fun x hx => hp (List.mem_reverse.mpr hx)
    exact hreach.rules_subset defined front (List.mem_singleton.mpr rfl)

end RuleBook

/-! ## Sealing in sessions -/

namespace Session

/-- Sealing logs one line, with the label of the parser and the number of rules in it. -/
theorem texts_sealAs {s : Session M} {p : Parser M} {g : Grammar M} (h : s.book.seal p = .ok g)
    {level : Log.Level} (hlevel : level ≠ .off) (target : Text) :
    (s.sealAs level p target).log.map Log.Line.text =
      ["DEBUG sealed grammar '".toList ++ p.label ++ "' with ".toList ++
        Nat.toDigits 10 g.rules.length ++ " rule(s)".toList] := by
  have hlog : (s.sealAs level p target).log = [Log.sealedLine p.label g.rules.length] := by
    unfold sealAs
    rw [h]
    cases level with
    | off => exact absurd rfl hlevel
    | debug => rfl
    | trace => rfl
  rw [hlog, List.map_singleton, Log.text_sealedLine]

theorem step_seal {s : Session M} {p : Parser M} {id : Text} (h : s.parser? id = some p)
    (level : Log.Level) (target : Text) :
    s.step level (.seal id target) = s.sealAs level p target := by
  rw [step, h]
  rfl

end Session

/-- Sealing is exact.  The walk through the rules comes to an end.  It succeeds if and only if every
rule that the parser reaches has a definition; otherwise it names a rule that is reached and has
none.  The rules it counts in the log are those that are reached, each once, and in a session that
started from nothing these are as many declarations, whatever their names.  The count stands in the
line that sealing logs, in decimal. -/
theorem seal_exact (s : Session M) (p : Parser M) :
    (∀ found, s.book.Walks p.rules.reverse [] found ↔ s.book.reachable p = found) ∧
    ((∃ g, s.book.seal p = .ok g) ↔
      ∀ r, s.book.Reaches p (.rule r) → ∃ d, s.book.definition? r = some d) ∧
    (∀ e, s.book.seal p = .error e →
      ∃ r, s.book.Reaches p (.rule r) ∧ s.book.definition? r = none ∧ e = .undefined r.name) ∧
    ∀ g, s.book.seal p = .ok g →
      g.rules.Nodup ∧ (∀ r, r ∈ g.rules ↔ s.book.Reaches p (.rule r)) ∧
      (Session.start.Leads s → (∃ recipe : Recipe M, recipe.build s.parser? = .ok p) →
        (g.rules.map Rule.id).Nodup) ∧
      ∀ level target, level ≠ .off →
        let line := "DEBUG sealed grammar '".toList ++ p.label ++ "' with ".toList ++
          Nat.toDigits 10 g.rules.length ++ " rule(s)".toList
        (s.sealAs level p target).log.map Log.Line.text = [line] ∧
          ∀ id, s.parser? id = some p →
            (s.step level (.seal id target)).log.map Log.Line.text = [line] := by
  refine ⟨fun _ => RuleBook.walks_iff, RuleBook.exists_seal_iff,
    fun _ => RuleBook.exists_undefined_of_seal, fun g hg => ?_⟩
  obtain ⟨nodup, mem⟩ := RuleBook.rules_of_seal hg
  refine ⟨nodup, mem, ?_, fun level target hlevel => ?_⟩
  · rintro started ⟨recipe, hbuild⟩
    obtain ⟨names, lists⟩ := started.exists_lists
    refine nodup.map_on fun r hr r' hr' hid => ?_
    exact lists.eq_of_id_eq (lists.built hbuild) ((mem r).mp hr) ((mem r').mp hr') hid
  · have htexts := Session.texts_sealAs hg hlevel target
    exact ⟨htexts, fun id hid => Session.step_seal hid level target ▸ htexts⟩

/-- Two rules of the same name that refer to each other, and one that has no definition yet. -/
def twoOfOneName : List (Step Unit) :=
  [.declare ['a'] ['x'], .declare ['b'] ['x'], .declare ['c'] ['y'],
    .define ['a'] (.choice (.seq (.literal ['(']) (.ref ['b'])) (.ref ['c'])),
    .define ['b'] (.seq (.ref ['a']) (.many (.ref ['b'])))]

/-- Before the third rule is defined, sealing names it.  Then there are three rules to count, though
two have the same name and each is referred to more than once. -/
theorem seal_exact_same_name :
    let s := Session.start.after .debug twoOfOneName
    let s' := s.after .debug [.define ['c'] (.literal ['!']), .build ['d'] (.many (.ref ['b']))]
    let p : Parser Unit := .many (.rule ⟨1, ['x']⟩)
    (s.book.seal p = .error (.undefined ['y']) ∧
      ∃ r, s.book.Reaches p (.rule r) ∧ s.book.definition? r = none ∧ r.name = ['y']) ∧
    ∃ g, s'.book.seal p = .ok g ∧ (g.rules.map Rule.id).Nodup ∧
      (s'.step .debug (.seal ['d'] ['g'])).log.map Log.Line.text =
        ["DEBUG sealed grammar '(x)+' with 3 rule(s)".toList] := by
  intro s s' p
  have later : Session.start.Leads s' := ((Session.Leads.refl _).after _ _).after _ _
  have fails : s.book.seal p = .error (.undefined ['y']) := rfl
  have sealed : s'.book.seal p = .ok ⟨p, [⟨2, ['y']⟩, ⟨0, ['x']⟩, ⟨1, ['x']⟩]⟩ := rfl
  refine ⟨⟨fails, ?_⟩, _, sealed, ?_⟩
  · obtain ⟨r, hr, hnone, he⟩ := (seal_exact s p).2.2.1 _ fails
    exact ⟨r, hr, hnone, (GrammarError.undefined.inj he).symm⟩
  · obtain ⟨-, -, ids, log⟩ := (seal_exact s' p).2.2.2 _ sealed
    obtain ⟨-, hstep⟩ := log .debug ['g'] nofun
    exact ⟨ids later ⟨.many (.ref ['b']), rfl⟩, (hstep ['d'] rfl).trans (by decide)⟩

end Descent
