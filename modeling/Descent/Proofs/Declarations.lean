import Descent.Proofs.Growth

/-!
# Declared rules

A rule is known by the number of its declaration; two rules may well have the same name.  For a
session that has started from nothing there is a list of the names that have been declared, and
every rule that occurs in the session has the name that stands at its number
(`Session.Leads.exists_lists`).  So in the parsers of such a session the number alone tells a rule.
-/

namespace Descent

variable {M : Type}

/-! ## Names of rules -/

namespace Parser

/-- The list has the name of every rule that the parser refers to, at the number of the rule. -/
def ListedIn (names : List Text) (p : Parser M) : Prop := ∀ r ∈ p.rules, names[r.id]? = some r.name

variable {names : List Text} {p q : Parser M}

/-- Names are only added behind the others, so the numbers of the rules stay what they are. -/
theorem ListedIn.append (h : p.ListedIn names) (more : List Text) :
    p.ListedIn (names ++ more) := by
  intro r hr
  obtain ⟨hlt, hname⟩ := List.getElem?_eq_some_iff.mp (h r hr)
  rw [List.getElem?_append_left hlt, h r hr]

/-- Rules of two listed parsers are told apart as those of one are. -/
theorem ListedIn.merge (hp : p.ListedIn names) (hq : q.ListedIn names) :
    ∀ r ∈ mergeRules p.rules q.rules, names[r.id]? = some r.name := fun r hr =>
  (mem_mergeRules.mp hr).elim (hp r) (hq r)

end Parser

namespace Recipe

variable {names : List Text} {kept : Text → Option (Parser M)}

theorem exists_of_bind_eq_ok {α β : Type} {x : Except Problem α} {f : α → Except Problem β} {c : β}
    (h : x >>= f = .ok c) : ∃ a, x = .ok a ∧ f a = .ok c := by
  cases x with
  | error e => cases h
  | ok a => exact ⟨a, rfl, h⟩

/-- Patterns refer to no rules. -/
theorem listedIn_ofPattern {source : Text} {p : Parser M} (h : Parser.ofPattern source = .ok p) :
    p.ListedIn names := by
  unfold Parser.ofPattern at h
  split at h
  · cases h
    exact nofun
  · cases h

theorem eq_ok_of_mapError {ε ε' α : Type} {x : Except ε α} {f : ε → ε'} {a : α}
    (h : x.mapError f = .ok a) : x = .ok a := by
  cases x with
  | error e => cases h
  | ok c =>
      cases h
      rfl

/-- A recipe brings no rules but those of the parsers that are kept. -/
theorem listedIn_build (hkept : ∀ id q, kept id = some q → q.ListedIn names) :
    ∀ {recipe : Recipe M} {p : Parser M}, recipe.build kept = .ok p → p.ListedIn names
  | .literal _, p, h => by cases h; exact nofun
  | .pattern _, p, h => listedIn_ofPattern (eq_ok_of_mapError h)
  | .compiled _ _, p, h => by
      rw [build] at h
      split at h
      · exact listedIn_ofPattern (eq_ok_of_mapError h)
      · cases h
  | .lexeme l, p, h => by
      have hl := eq_ok_of_mapError h
      rw [Lexeme.parser] at hl
      cases hpat : (Parser.ofPattern l.source : Except GrammarError (Parser M)) with
      | error e => rw [hpat] at hl; cases hl
      | ok q =>
          rw [hpat] at hl
          cases hl
          exact listedIn_ofPattern (p := q) hpat
  | .custom _ _, p, h => by cases h; exact nofun
  | .ref id, p, h => by
      rw [build] at h
      cases hq : kept id with
      | none => rw [hq] at h; cases h
      | some q => rw [hq] at h; cases h; exact hkept id _ hq
  | .seq _ _, p, h | .choice _ _, p, h => by
      obtain ⟨q, hq, h⟩ := exists_of_bind_eq_ok h
      obtain ⟨s, hs, h⟩ := exists_of_bind_eq_ok h
      cases h
      exact (listedIn_build hkept hq).merge (listedIn_build hkept hs)
  | .map _ _, p, h | .tryMap _ _, p, h | .optional _, p, h | .many _, p, h | .sepBy _ _, p, h
  | .named _ _, p, h => by
      obtain ⟨q, hq, h⟩ := exists_of_bind_eq_ok h
      cases h
      exact listedIn_build hkept (p := q) hq

end Recipe

/-! ## Sessions -/

namespace Session

/-- The list has the names declared in the session, and those of all rules in it. -/
structure Lists (s : Session M) (names : List Text) : Prop where
  length_eq : names.length = s.book.declared
  parsers : ∀ e ∈ s.parsers, e.2.ListedIn names
  grammars : ∀ e ∈ s.grammars, e.2.root.ListedIn names
  definitions : ∀ e ∈ s.book.definitions, e.2.ListedIn names

namespace Lists

variable {s : Session M} {names : List Text}

theorem start : (start : Session M).Lists [] where
  length_eq := rfl
  parsers := nofun
  grammars := nofun
  definitions := nofun

theorem parser? (h : s.Lists names) {id : Text} {p : Parser M} (hp : s.parser? id = some p) :
    p.ListedIn names := by
  obtain ⟨l₁, l₂, hl, -⟩ := List.lookup_eq_some_iff.mp hp
  exact h.parsers (id, p) (by rw [hl]; simp)

theorem grammar? (h : s.Lists names) {id : Text} {g : Grammar M} (hg : s.grammar? id = some g) :
    g.root.ListedIn names := by
  obtain ⟨l₁, l₂, hl, -⟩ := List.lookup_eq_some_iff.mp hg
  exact h.grammars (id, g) (by rw [hl]; simp)

theorem built (h : s.Lists names) {recipe : Recipe M} {p : Parser M}
    (hp : recipe.build s.parser? = .ok p) : p.ListedIn names :=
  Recipe.listedIn_build (fun _ _ hq => h.parser? hq) hp

theorem keep (h : s.Lists names) {p : Parser M} (hp : p.ListedIn names) (id : Text) :
    (s.keep id p).Lists names :=
  { h with parsers := List.forall_mem_cons.mpr ⟨hp, h.parsers⟩ }

/-- The rule that is declared gets the number behind all others. -/
theorem declare (h : s.Lists names) (name : Text) :
    ({ s with book := (s.book.declare name).2 } : Session M).Lists (names ++ [name]) ∧
      (Parser.rule (s.book.declare name).1 : Parser M).ListedIn (names ++ [name]) := by
  refine ⟨⟨?_, ?_, ?_, ?_⟩, fun r hr => ?_⟩
  · rw [List.length_append, h.length_eq]
    rfl
  · exact fun e he => (h.parsers e he).append _
  · exact fun e he => (h.grammars e he).append _
  · exact fun e he => (h.definitions e he).append _
  · cases List.mem_singleton.mp hr
    rw [RuleBook.declare, ← h.length_eq, List.getElem?_concat_length]

/-- A definition is listed like any other parser that is kept, since the list is that of the whole
session. -/
theorem define (h : s.Lists names) {level : Log.Level} {handle d : Parser M}
    (hd : d.ListedIn names) : (s.define level handle d).session.Lists names := by
  unfold Session.define
  split
  next => exact h
  next book hbook =>
    unfold RuleBook.define at hbook
    split at hbook
    next => cases hbook
    next =>
      split at hbook
      next => cases hbook
      next =>
        cases hbook
        exact ⟨h.length_eq, h.parsers, h.grammars, List.forall_mem_cons.mpr ⟨hd, h.definitions⟩⟩

theorem sealAs (h : s.Lists names) {level : Log.Level} {p : Parser M} (hp : p.ListedIn names)
    (target : Text) : (s.sealAs level p target).session.Lists names := by
  unfold Session.sealAs RuleBook.seal
  cases s.book.reachable p with
  | error e => exact h
  | ok rules => exact { h with grammars := List.forall_mem_cons.mpr ⟨hp, h.grammars⟩ }

/-- A step that refers to something unknown leaves the session as it is. -/
theorem withKept (h : s.Lists names) {α : Type} {id : Text} {kept : Option α} {k : α → Reply M}
    (hk : ∀ a, kept = some a → (k a).session.Lists names) :
    (s.withKept id kept k).session.Lists names := by
  unfold Session.withKept
  split
  · exact hk _ rfl
  · exact h

theorem withBuilt (h : s.Lists names) {recipe : Recipe M} {k : Parser M → Reply M}
    (hk : ∀ p, p.ListedIn names → (k p).session.Lists names) :
    (s.withBuilt recipe k).session.Lists names := by
  unfold Session.withBuilt
  split
  next p hp => exact hk p (h.built hp)
  next => exact h

theorem exists_append (h : s.Lists names) : ∃ more, s.Lists (names ++ more) :=
  ⟨[], by rwa [List.append_nil]⟩

/-- A step adds at most the name that it declares. -/
theorem step (h : s.Lists names) (level : Log.Level) :
    ∀ st : Step M, ∃ more, (s.step level st).session.Lists (names ++ more)
  | .declare id name =>
      have ⟨hs, hr⟩ := h.declare name
      ⟨[name], hs.keep hr id⟩
  | .build id _ => (h.withBuilt fun p hp => h.keep hp id).exists_append
  | .define _ _ =>
      (h.withBuilt fun d hd => h.withKept fun _ _ => h.define hd).exists_append
  | .info _ => (h.withKept fun _ _ => h).exists_append
  | .seal _ target => (h.withKept fun p hp => h.sealAs (h.parser? hp) target).exists_append
  | .unseal _ target => (h.withKept fun g hg => h.keep (h.grammar? hg) target).exists_append
  | .parse _ _ => (h.withKept fun _ _ => { h with }).exists_append
  | .parseGrammar _ _ => (h.withKept fun _ _ => { h with }).exists_append
  | .setCursor _ => exists_append { h with }
  | .next _ => by
      refine (h.withKept fun p _ => ?_).exists_append
      simp only
      split
      · exact { h with }
      · exact { h with }

end Lists

/-- A session that has come about by steps has such a list, which starts empty and grows with each
declaration. -/
theorem Leads.exists_lists {s : Session M} (h : Session.start.Leads s) :
    ∃ names, s.Lists names := by
  induction h with
  | refl => exact ⟨[], .start⟩
  | step level st _ ih =>
      obtain ⟨names, hs⟩ := ih
      obtain ⟨more, hs⟩ := hs.step level st
      exact ⟨_, hs⟩

/-- Rules that a listed parser reaches are told apart by their numbers. -/
theorem Lists.eq_of_id_eq {s : Session M} {names : List Text} (h : s.Lists names) {p : Parser M}
    (hp : p.ListedIn names) {r r' : Rule} (hr : s.book.Reaches p (.rule r))
    (hr' : s.book.Reaches p (.rule r')) (hid : r.id = r'.id) : r = r' := by
  have listed : ∀ {x : Rule}, s.book.Reaches p (.rule x) → names[x.id]? = some x.name := by
    intro x hx
    have parts : ∀ {q : Parser M}, q.ListedIn names →
        ∀ t ∈ q.parts, ∀ y, t = .rule y → names[y.id]? = some y.name := by
      rintro q hq _ ht y rfl
      exact hq y (Parser.mem_rules_iff.mpr ht)
    exact RuleBook.Reaches.of_parts (P := fun t => ∀ y, t = .rule y → names[y.id]? = some y.name)
      (parts hp) (fun e he => parts (h.definitions e he)) hx x rfl
  have hname := listed hr
  rw [hid, listed hr', Option.some.injEq] at hname
  cases r
  cases r'
  cases hid
  cases hname
  rfl

end Session

end Descent
