import Descent.Proofs.Reordering

/-!
# Rules in the order of occurrence

As parsers are put together, so are the lists of the rules in them: two lists are merged, and where
one of them is empty the other is taken as it is.  What comes of it is exact (`rules_exact`).  The
list has the rules that occur in the parser and no others, each once, in the order in which they
first occur from the left to the right, however often parts of it are shared.

`FirstOccurrences` is the invariant, and merging keeps it (`FirstOccurrences.merge`): what stands in
front occurs first where it did, and what is new behind occurs first behind all of it.  A list is
made when its parser is built.  So it does not matter which of the rules have been defined by then,
and what occurs in their definitions is not looked at.
-/

namespace Descent

variable {M : Type}

namespace Parser

/-! ## Occurrences -/

/-- The rules that occur in the parser, as often as they do, from the left to the right. -/
def occurrences (p : Parser M) : List Rule :=
  p.parts.filterMap fun
    | rule r => some r
    | _ => none

theorem mem_occurrences_iff {r : Rule} {p : Parser M} : r ∈ p.occurrences ↔ rule r ∈ p.parts := by
  rw [occurrences, List.mem_filterMap]
  constructor
  · rintro ⟨q, hq, hr⟩
    split at hr
    · cases hr
      exact hq
    · cases hr
  · exact fun h => ⟨rule r, h, rfl⟩

theorem occurrences_seq (p q : Parser M) :
    (seq p q).occurrences = p.occurrences ++ q.occurrences := List.filterMap_append

theorem occurrences_choice (p q : Parser M) :
    (choice p q).occurrences = p.occurrences ++ q.occurrences := List.filterMap_append

/-! ## First occurrences -/

/-- The second list has the rules of the first, in the order in which they first occur in it. -/
structure FirstOccurrences (occurring listed : List Rule) : Prop where
  mem_iff : ∀ r, r ∈ listed ↔ r ∈ occurring
  ordered : listed.Pairwise fun r r' => occurring.idxOf r < occurring.idxOf r'

namespace FirstOccurrences

variable {os os' rs rs' : List Rule}

theorem nodup (h : FirstOccurrences os rs) : rs.Nodup := by
  refine h.ordered.imp ?_
  rintro r _ hlt rfl
  exact Nat.lt_irrefl _ hlt

/-- The rules that occur in front are listed first, and of those that occur behind the new ones. -/
theorem merge (h : FirstOccurrences os rs) (h' : FirstOccurrences os' rs') :
    FirstOccurrences (os ++ os') (mergeRules rs rs') where
  mem_iff r := by rw [mem_mergeRules, List.mem_append, h.mem_iff, h'.mem_iff]
  ordered := by
    have front : ∀ r ∈ rs, (os ++ os').idxOf r = os.idxOf r := fun r hr =>
      List.idxOf_append_of_mem ((h.mem_iff r).mp hr)
    -- what the merge appends occurs nowhere in front
    have behind : ∀ r ∈ rs'.filter fun s => !rs.contains s,
        (os ++ os').idxOf r = os.length + os'.idxOf r := by
      intro r hr
      refine List.idxOf_append_of_notMem fun hos => ?_
      simpa [(h.mem_iff r).mpr hos] using List.of_mem_filter hr
    rw [mergeRules_eq h'.nodup, List.pairwise_append]
    refine ⟨h.ordered.imp_of_mem fun hr hr' hlt => ?_,
      (h'.ordered.filter _).imp_of_mem fun hr hr' hlt => ?_, fun r hr r' hr' => ?_⟩
    · rwa [front _ hr, front _ hr']
    · rw [behind _ hr, behind _ hr']
      exact Nat.add_lt_add_left hlt _
    · have hlt : os.idxOf r < os.length := List.idxOf_lt_length_of_mem ((h.mem_iff r).mp hr)
      rw [front r hr, behind r' hr']
      exact Nat.lt_of_lt_of_le hlt (Nat.le_add_right _ _)

end FirstOccurrences

theorem firstOccurrences_nil : FirstOccurrences [] [] := ⟨fun _ => Iff.rfl, .nil⟩

/-- Every combinator keeps the list exact. -/
theorem firstOccurrences_rules : ∀ p : Parser M, FirstOccurrences p.occurrences p.rules
  | literal _ => firstOccurrences_nil
  | pattern _ _ => firstOccurrences_nil
  | custom _ _ => firstOccurrences_nil
  | rule _ => ⟨fun _ => Iff.rfl, List.pairwise_singleton _ _⟩
  | seq p q => by
      rw [occurrences_seq, rules]
      exact p.firstOccurrences_rules.merge q.firstOccurrences_rules
  | choice p q => by
      rw [occurrences_choice, rules]
      exact p.firstOccurrences_rules.merge q.firstOccurrences_rules
  | map p _ => p.firstOccurrences_rules
  | tryMap p _ => p.firstOccurrences_rules
  | optional p => p.firstOccurrences_rules
  | many p => p.firstOccurrences_rules
  | sepBy p _ => p.firstOccurrences_rules
  | named p _ => p.firstOccurrences_rules

end Parser

/-! ## Sessions -/

namespace Session

variable {s : Session M}

/-- In a session the rules of a parser differ in their numbers, whatever their names. -/
theorem nodup_ids (started : Session.start.Leads s) {recipe : Recipe M} {p : Parser M}
    (built : recipe.build s.parser? = .ok p) : (p.rules.map Rule.id).Nodup := by
  obtain ⟨names, hs⟩ := started.exists_lists
  refine List.Nodup.map_on (fun r hr r' hr' hid => ?_) p.firstOccurrences_rules.nodup
  exact hs.eq_of_id_eq (hs.built built) (.of_mem_rules hr) (.of_mem_rules hr') hid

/-- To define rules does not change what is kept. -/
theorem parser?_after_defines (level : Log.Level) (id : Text) : ∀ {sts : List (Step M)}
    {s : Session M}, (∀ st ∈ sts, ∃ x d, st = .define x d) →
      (s.after level sts).parser? id = s.parser? id
  | [], _, _ => rfl
  | st :: sts, s, h => by
      obtain ⟨⟨x, d, hst⟩, hsts⟩ := List.forall_mem_cons.mp h
      have rest := parser?_after_defines level id hsts (s := (s.step level st).session)
      rw [hst, parser?_step_define] at rest
      rw [hst]
      exact rest

end Session

/-- The rules that a parser lists are those that occur in it, each once, in the order in which they
first occur from the left to the right.  So it is for every parser that is built in a session, from
what is kept there and whatever has been defined before.  Rules are told apart by their declarations,
not by their names, and what occurs in a definition alone does not occur in the parser.  Definitions
that are given later leave the parser as it is, and its list with it. -/
theorem rules_exact {s : Session M} (started : Session.start.Leads s) {recipe : Recipe M}
    {p : Parser M} (built : recipe.build s.parser? = .ok p) :
    (∀ r, r ∈ p.rules ↔ .rule r ∈ p.parts) ∧
    (p.rules.map Rule.id).Nodup ∧
    p.rules.Pairwise (fun r r' => p.occurrences.idxOf r < p.occurrences.idxOf r') ∧
    ∀ (level : Log.Level) (id : Text) (sts : List (Step M)),
      (∀ st ∈ sts, ∃ x d, st = .define x d) →
      ((s.step level (.build id recipe)).session.after level sts).parser? id = some p := by
  have listed := p.firstOccurrences_rules
  refine ⟨fun r => (listed.mem_iff r).trans Parser.mem_occurrences_iff,
    Session.nodup_ids started built, listed.ordered, fun level id sts h => ?_⟩
  rw [Session.parser?_after_defines level id h, Session.parser?_step_build, if_pos rfl,
    Session.keptBy, built]

/-- Three rules, two of them of the same name.  The first is defined, by way of the second. -/
def threeRules : Session Unit :=
  Session.start.after .off
    [.declare ['a'] ['r'], .declare ['b'] ['r'], .declare ['c'] ['s'],
      .define ['a'] (.seq (.literal ['x']) (.ref ['b']))]

/-- A choice of the third rule and the first is shared by both sides of a sequence, the first rule
under another name in front of one.  The third rule is listed first and the first behind it.  The
second is not listed, for it occurs in the definition of the first alone; it still is not when the
third has been defined to be the second. -/
theorem rules_exact_shared :
    let shared : Recipe Unit := .choice (.ref ['c']) (.named (.ref ['a']) ['t'])
    let recipe : Recipe Unit := .seq (.many shared) (.seq (.ref ['a']) (.optional shared))
    let p : Parser Unit := .choice (.rule ⟨2, ['s']⟩) (.named (.rule ⟨0, ['r']⟩) ['t'])
    let whole : Parser Unit := .seq (.many p) (.seq (.rule ⟨0, ['r']⟩) (.optional p))
    let s := (threeRules.step .off (.build ['w'] recipe)).session
    recipe.build threeRules.parser? = .ok whole ∧
    whole.rules = [⟨2, ['s']⟩, ⟨0, ['r']⟩] ∧
    whole.occurrences = [⟨2, ['s']⟩, ⟨0, ['r']⟩, ⟨0, ['r']⟩, ⟨2, ['s']⟩, ⟨0, ['r']⟩] ∧
    (whole.rules.map Rule.id).Nodup ∧
    Parser.rule ⟨1, ['r']⟩ ∉ whole.parts ∧
    (s.after .off [.define ['c'] (.ref ['b'])]).parser? ['w'] = some whole := by
  intro shared recipe p whole s
  have started : Session.start.Leads threeRules := (Session.Leads.refl _).after .off _
  have built : recipe.build threeRules.parser? = .ok whole := rfl
  obtain ⟨occur, once, -, later⟩ := rules_exact started built
  refine ⟨built, by decide, rfl, once, ?_, later .off ['w'] [.define ['c'] (.ref ['b'])] ?_⟩
  · rw [← occur]
    decide
  · intro st hst
    cases List.mem_singleton.mp hst
    exact ⟨_, _, rfl⟩

end Descent
