import Descent.Proofs.Definitions
import Descent.Proofs.ExactRewriting

/-!
# The order of construction

A grammar is constructed in steps that build parsers and define rules.  In what order they are taken
does not matter, as long as no step mentions a parser that it or a later step builds: the same parsers
are kept in the end, they come to the same runs, and sealing has the same result
(`construction_order`).

What is kept in the end *solves* the steps: every parser is what its recipe builds from what is kept
in the end, for what a recipe mentions is not built again behind it (`Session.solves_after`).
Solving does not depend on the order, and where the steps are in order there is one solution
(`Session.Solves.unique`).  So both orders keep the same parsers, and with these the definitions that
they offer are the same up to their order.  Each rule has one among them.  A rule book is asked for
the definition of a rule and never for its place, and the fuel of a parse depends on their number.
-/

namespace Descent

variable {M : Type}

/-! ## What steps mention -/

/-- The names of the parsers that a recipe refers to. -/
def Recipe.refs : Recipe M → List Text
  | literal _ => []
  | pattern _ => []
  | compiled _ _ => []
  | lexeme _ => []
  | custom _ _ => []
  | ref id => [id]
  | seq p q => p.refs ++ q.refs
  | choice p q => p.refs ++ q.refs
  | map p _ => p.refs
  | tryMap p _ => p.refs
  | optional p => p.refs
  | many p => p.refs
  | sepBy p _ => p.refs
  | named p _ => p.refs

/-- A recipe depends on the parsers that it refers to, and on no others. -/
theorem Recipe.build_congr {kept kept' : Text → Option (Parser M)} {recipe : Recipe M}
    (h : ∀ id ∈ recipe.refs, kept id = kept' id) : recipe.build kept = recipe.build kept' := by
  induction recipe with
  | literal _ | pattern _ | compiled _ _ | lexeme _ | custom _ _ => rfl
  | ref id => simp only [build, h id (List.mem_singleton.mpr rfl)]
  | seq p q ihp ihq | choice p q ihp ihq =>
      rw [build, build, ihp fun id hid => h id (List.mem_append_left _ hid),
        ihq fun id hid => h id (List.mem_append_right _ hid)]
  | map p f ih | tryMap p f ih | optional p ih | many p ih | sepBy p f ih | named p f ih =>
      rw [build, build, ih h]

namespace Step

/-- The step builds a parser or defines a rule. -/
inductive IsConstruction : Step M → Prop where
  | build (id recipe) : IsConstruction (.build id recipe)
  | define (id recipe) : IsConstruction (.define id recipe)

/-- The name under which a construction keeps what it builds. -/
def target? : Step M → Option Text
  | build id _ => some id
  | _ => none

/-- The names of the parsers that a construction mentions. -/
def mentions : Step M → List Text
  | build _ recipe => recipe.refs
  | define id recipe => id :: recipe.refs
  | _ => []

/-- The names of the parsers that steps build. -/
def targets (sts : List (Step M)) : List Text := sts.filterMap target?

/-- No step mentions a parser that it or a later step builds. -/
def InOrder : List (Step M) → Prop
  | [] => True
  | st :: sts => (∀ id ∈ st.mentions, id ∉ targets (st :: sts)) ∧ InOrder sts

instance decidableInOrder : (sts : List (Step M)) → Decidable (InOrder sts)
  | [] => inferInstanceAs (Decidable True)
  | st :: sts =>
    have := decidableInOrder sts
    inferInstanceAs (Decidable ((∀ id ∈ st.mentions, id ∉ targets (st :: sts)) ∧ InOrder sts))

theorem targets_cons (st : Step M) (sts : List (Step M)) :
    targets (st :: sts) = targets [st] ++ targets sts := List.filterMap_append (l := [st])

/-- The steps build parsers, each under a name of its own, and define rules.  They are in order. -/
structure Construction (sts : List (Step M)) : Prop where
  all : ∀ st ∈ sts, st.IsConstruction
  built : (targets sts).Nodup
  ordered : InOrder sts

namespace Construction

variable {st : Step M} {sts sts' : List (Step M)}

theorem of_cons (h : Construction (st :: sts)) : Construction sts where
  all := (List.forall_mem_cons.mp h.all).2
  built := h.built.sublist ((List.sublist_cons_self st sts).filterMap target?)
  ordered := h.ordered.2

theorem perm (h : Construction sts) (perm : sts'.Perm sts) (ordered : InOrder sts') :
    Construction sts' where
  all st hst := h.all st (perm.mem_iff.mp hst)
  built := (perm.filterMap target?).nodup_iff.mpr h.built
  ordered := ordered

end Construction

/-- A step offers the same definition wherever the parsers that it mentions are the same. -/
theorem offer?_congr {kept kept' : Text → Option (Parser M)} {st : Step M}
    (hst : st.IsConstruction) (h : ∀ id ∈ st.mentions, kept id = kept' id) :
    st.offer? kept = st.offer? kept' := by
  cases hst with
  | build _ _ => rfl
  | define id recipe =>
      obtain ⟨hid, hrefs⟩ := List.forall_mem_cons.mp h
      simp only [offer?, Recipe.build_congr hrefs, hid]

end Step

/-! ## Solutions -/

namespace Session

variable {s : Session M} {sts : List (Step M)}

/-- What is kept under a name when a recipe is built, or else has been kept before. -/
def keptBy (recipe : Recipe M) (kept : Text → Option (Parser M)) (before : Option (Parser M)) :
    Option (Parser M) :=
  match recipe.build kept with
  | .ok p => some p
  | .error _ => before

/-- Under the name of every parser that the steps build is what its recipe makes of what is kept, and
under the other names is what was kept in the session. -/
structure Solves (s : Session M) (sts : List (Step M)) (kept : Text → Option (Parser M)) : Prop where
  other : ∀ id, id ∉ Step.targets sts → kept id = s.parser? id
  built : ∀ id recipe, .build id recipe ∈ sts → kept id = keptBy recipe kept (s.parser? id)

theorem keptBy_congr {recipe : Recipe M} {kept kept' : Text → Option (Parser M)}
    (h : ∀ id ∈ recipe.refs, kept id = kept' id) (before : Option (Parser M)) :
    keptBy recipe kept before = keptBy recipe kept' before := by
  rw [keptBy, keptBy, Recipe.build_congr h]

/-- Steps in order have at most one solution. -/
theorem Solves.unique {kept kept' : Text → Option (Parser M)} (h : s.Solves sts kept)
    (h' : s.Solves sts kept') (construction : Step.Construction sts) (id : Text) :
    kept id = kept' id := by
  -- the solutions agree but for what the steps that are left build
  have agree : ∀ left : List (Step M), left ⊆ sts → Step.InOrder left →
      (∀ id, id ∉ Step.targets left → kept id = kept' id) → ∀ id, kept id = kept' id := by
    intro left
    induction left with
    | nil => exact fun _ _ hsame id => hsame id List.not_mem_nil
    | cons st left ih =>
        intro hsub hordered hsame
        obtain ⟨hst, hleft⟩ := List.cons_subset.mp hsub
        refine ih hleft hordered.2 fun x hx => ?_
        cases construction.all st hst with
        | build y recipe =>
            by_cases hxy : x = y
            · subst hxy
              have hrefs : ∀ id ∈ recipe.refs, kept id = kept' id := fun id hid =>
                hsame id (hordered.1 id hid)
              rw [h.built x recipe hst, h'.built x recipe hst, keptBy_congr hrefs]
            · exact hsame x fun hmem => (List.mem_cons.mp hmem).elim hxy hx
        | define y recipe => exact hsame x hx
  refine agree sts (List.Subset.refl _) construction.ordered (fun id hid => ?_) id
  rw [h.other id hid, h'.other id hid]

theorem Solves.perm {sts' : List (Step M)} {kept : Text → Option (Parser M)}
    (h : s.Solves sts kept) (perm : sts'.Perm sts) : s.Solves sts' kept where
  other id hid := h.other id fun hmem => hid ((perm.filterMap _).mem_iff.mpr hmem)
  built id recipe hmem := h.built id recipe (perm.mem_iff.mp hmem)

/-! ## Taking the steps -/

theorem parser?_step_build (s : Session M) (level : Log.Level) (x : Text) (recipe : Recipe M)
    (id : Text) : (s.step level (.build x recipe)).session.parser? id =
      if id = x then keptBy recipe s.parser? (s.parser? id) else s.parser? id := by
  simp only [step, withBuilt, keptBy]
  cases recipe.build s.parser? with
  | error e => simp [fail]
  | ok p =>
      by_cases h : id = x
      · simp [h, keep, parser?]
      · simp [h, keep, parser?, List.lookup_cons, beq_false_of_ne h]

theorem parser?_step_define (s : Session M) (level : Log.Level) (x : Text) (recipe : Recipe M)
    (id : Text) : (s.step level (.define x recipe)).session.parser? id = s.parser? id := by
  simp only [step, withBuilt]
  cases recipe.build s.parser? with
  | error e => rfl
  | ok d =>
      simp only [withKept]
      cases s.parser? x with
      | none => rfl
      | some p =>
          simp only [define]
          split
          · rfl
          · rfl

/-- A construction leaves what is kept under other names. -/
theorem parser?_step_of_not_mem {st : Step M} (hst : st.IsConstruction) (level : Log.Level)
    {id : Text} (h : id ∉ Step.targets [st]) :
    (s.step level st).session.parser? id = s.parser? id := by
  cases hst with
  | build x recipe =>
      rw [parser?_step_build, if_neg fun hx => h (List.mem_singleton.mpr hx)]
  | define x recipe => exact parser?_step_define s level x recipe id

/-- What solves the steps that are left when one is taken, solves them all. -/
theorem Solves.of_step {st : Step M} {kept : Text → Option (Parser M)} {level : Log.Level}
    (construction : Step.Construction (st :: sts))
    (h : (s.step level st).session.Solves sts kept) : s.Solves (st :: sts) kept := by
  have hst := construction.all st List.mem_cons_self
  have other : ∀ id, id ∉ Step.targets (st :: sts) → kept id = s.parser? id := by
    intro id hid
    rw [Step.targets_cons, List.mem_append, not_or] at hid
    rw [h.other id hid.2, parser?_step_of_not_mem hst level hid.1]
  refine ⟨other, fun id recipe hmem => ?_⟩
  cases hst with
  | build x recipe' =>
      obtain ⟨hx, -⟩ := List.nodup_cons.mp construction.built
      rcases List.mem_cons.mp hmem with heq | hlater
      · cases heq
        -- what the recipe refers to is found already and stays as it is
        rw [h.other id hx, parser?_step_build, if_pos rfl]
        exact keptBy_congr (fun y hy => (other y (construction.ordered.1 y hy)).symm) _
      · have hne : id ≠ x := by
          rintro rfl
          exact hx (List.mem_filterMap.mpr ⟨.build id recipe, hlater, rfl⟩)
        rw [h.built id recipe hlater, parser?_step_build, if_neg hne]
  | define x recipe' =>
      rcases List.mem_cons.mp hmem with heq | hlater
      · cases heq
      · rw [h.built id recipe hlater, parser?_step_define]

/-- What is kept in the end solves the steps. -/
theorem solves_after (level : Log.Level) (h : Step.Construction sts) :
    s.Solves sts (s.after level sts).parser? := by
  induction sts generalizing s with
  | nil => exact ⟨fun _ _ => rfl, nofun⟩
  | cons st sts ih => exact .of_step h (ih h.of_cons)

/-- What is offered in a construction is what the steps offer in the end. -/
theorem offers_eq_filterMap (level : Log.Level) (h : Step.Construction sts) :
    s.offers level sts = sts.filterMap (Step.offer? (s.after level sts).parser?) := by
  induction sts generalizing s with
  | nil => rfl
  | cons st sts ih =>
      have solves : s.Solves (st :: sts) (s.after level (st :: sts)).parser? := solves_after level h
      have hoffer : st.offer? s.parser? = st.offer? (s.after level (st :: sts)).parser? :=
        Step.offer?_congr (h.all st List.mem_cons_self) fun id hid =>
          (solves.other id (h.ordered.1 id hid)).symm
      rw [offers, ih h.of_cons, hoffer]
      cases hd : st.offer? (s.after level (st :: sts)).parser? with
      | none => exact (List.filterMap_cons_none hd).symm
      | some e => exact (List.filterMap_cons_some hd).symm

end Session

/-! ## Definitions in another order -/

section Offers

variable {es es' : List (Rule × Parser M)}

theorem lookup_eq_of_perm (perm : es'.Perm es) (once : (es.map Prod.fst).Nodup) (r : Rule) :
    es'.lookup r = es.lookup r := by
  induction perm with
  | nil => rfl
  | cons e _ ih => rw [List.lookup_cons, List.lookup_cons, ih (List.nodup_cons.mp once).2]
  | swap e e' es =>
      obtain ⟨x, d⟩ := e
      obtain ⟨x', d'⟩ := e'
      have hne : x ≠ x' := fun h => (List.nodup_cons.mp once).1 (h ▸ List.mem_cons_self)
      by_cases h : r = x
      · simp [List.lookup_cons, h, beq_false_of_ne hne]
      · simp [List.lookup_cons, beq_false_of_ne h]
  | trans _ perm ih ih' =>
      exact (ih ((perm.map Prod.fst).nodup_iff.mpr once)).trans (ih' once)

/-- The definitions that are offered for rules without one are added, if no two are for one rule. -/
theorem length_foldl_offer (once : (es.map Prod.fst).Nodup) (ds : List (Rule × Parser M)) :
    (es.foldl offer ds).length =
      es.countP (fun e => (ds.lookup e.1).isNone) + ds.length := by
  induction es generalizing ds with
  | nil => simp
  | cons e es ih =>
      obtain ⟨he, hes⟩ := List.nodup_cons.mp once
      rw [List.foldl_cons, ih hes, offer]
      cases hd : ds.lookup e.1 with
      | some d => simp [hd]
      | none =>
          have same : es.countP (fun x => ((e :: ds).lookup x.1).isNone) =
              es.countP fun x => (ds.lookup x.1).isNone := by
            refine List.countP_congr fun x hx => ?_
            have hne : x.1 ≠ e.1 := fun h => he (h ▸ List.mem_map_of_mem hx)
            rw [List.lookup_cons, beq_false_of_ne hne]
          simp [hd, same]
          omega

end Offers

namespace RuleBook

/-- The rules have the same definitions, and there are as many. -/
structure SameDefinitions (b b' : RuleBook M) : Prop where
  definition?_eq : ∀ r, b'.definition? r = b.definition? r
  length_eq : b'.definitions.length = b.definitions.length

namespace SameDefinitions

variable {b b' : RuleBook M} (h : b.SameDefinitions b')

include h

theorem resolve_eq (fuel : Nat) : b'.resolve fuel = b.resolve fuel := by
  induction fuel with
  | zero => rfl
  | succ fuel ih =>
      funext r t
      simp only [resolve, h.definition?_eq, ih]

theorem run_eq (p : Parser M) (t : Text) : b'.run p t = b.run p t := by
  rw [run, run, parseFuel, parseFuel, h.length_eq, h.resolve_eq]

theorem info_eq (p : Parser M) : b'.info p = b.info p := by
  simp only [info, isDefined, h.definition?_eq]

theorem seal_eq (p : Parser M) : b'.seal p = b.seal p := by
  have walks : b'.Walks p.rules.reverse [] (b.reachable p) :=
    (walks_reachable b p).of_rules_eq fun r => congrArg _ (h.definition?_eq r)
  rw [RuleBook.seal, RuleBook.seal, walks_iff.mp walks]

end SameDefinitions

end RuleBook

/-! ## Constructions -/

namespace Session

/-- The steps are a construction in which every rule is defined once. -/
structure Constructs (s : Session M) (level : Log.Level) (sts : List (Step M)) : Prop
    extends Step.Construction sts where
  once : ((s.offers level sts).map Prod.fst).Nodup

namespace Constructs

variable {s : Session M} {level : Log.Level} {sts sts' : List (Step M)}
  (h : s.Constructs level sts) (perm : sts'.Perm sts) (ordered : Step.InOrder sts')

include h perm ordered

/-- The same parsers are kept in the end. -/
theorem parser?_eq_of_perm (level' : Log.Level) (id : Text) :
    (s.after level' sts').parser? id = (s.after level sts).parser? id := by
  have construction' : Step.Construction sts' := h.toConstruction.perm perm ordered
  have solves : s.Solves sts (s.after level sts).parser? := solves_after level h.toConstruction
  have solves' : s.Solves sts' (s.after level' sts').parser? := solves_after level' construction'
  exact solves'.unique (solves.perm perm) construction' id

theorem offers_perm (level' : Log.Level) :
    (s.offers level' sts').Perm (s.offers level sts) := by
  have same : (s.after level' sts').parser? = (s.after level sts).parser? :=
    funext (h.parser?_eq_of_perm perm ordered level')
  rw [offers_eq_filterMap level' (h.toConstruction.perm perm ordered),
    offers_eq_filterMap level h.toConstruction, same]
  exact perm.filterMap _

theorem sameDefinitions (level' : Log.Level) :
    (s.after level sts).book.SameDefinitions (s.after level' sts').book := by
  have offers := h.offers_perm perm ordered level'
  constructor
  · intro r
    rw [definition?_after, definition?_after, lookup_eq_of_perm offers h.once]
  · have once : ((s.offers level' sts').map Prod.fst).Nodup :=
      (offers.map Prod.fst).nodup_iff.mpr h.once
    rw [definitions_after, definitions_after, length_foldl_offer once, length_foldl_offer h.once,
      offers.countP_eq]

end Constructs

end Session

/-- The order in which parsers are built and rules are defined does not matter.  The same steps in
another order, in which none mentions a parser that it or a later step builds either, keep the same
parsers.  Every parser, whether it was built before the rules in it were defined or after, comes to
the same runs at all texts and with any fuel, the same is known of it, and sealing it has the same
result, down to the name of the rule that has no definition. -/
theorem construction_order {s : Session M} {level : Log.Level} {sts sts' : List (Step M)}
    (h : s.Constructs level sts) (level' : Log.Level) (perm : sts'.Perm sts)
    (ordered : Step.InOrder sts') :
    let e := s.after level sts
    let e' := s.after level' sts'
    (∀ id, e'.parser? id = e.parser? id) ∧
    ∀ p : Parser M,
      (∀ fuel t, p.call (e'.book.resolve fuel) t = p.call (e.book.resolve fuel) t) ∧
      (∀ t, e'.book.run p t = e.book.run p t) ∧
      e'.book.info p = e.book.info p ∧
      e'.book.seal p = e.book.seal p := by
  intro e e'
  have same := h.sameDefinitions perm ordered level'
  refine ⟨h.parser?_eq_of_perm perm ordered level', fun p => ⟨fun fuel t => ?_, same.run_eq p,
    same.info_eq p, same.seal_eq p⟩⟩
  rw [same.resolve_eq]

/-- Two rules. -/
def twoRules : Session Unit := Session.start.after .off [.declare ['a'] ['r'], .declare ['b'] ['s']]

/-- The first rule is defined when one parser that refers to it has been built. -/
def definedEarly : List (Step Unit) :=
  [.build ['w'] (.seq (.literal ['x']) (.ref ['a'])),
    .define ['a'] (.choice (.literal ['y']) (.ref ['w'])),
    .build ['v'] (.seq (.ref ['w']) (.ref ['b']))]

/-- The first rule is defined when both have been built. -/
def definedLate : List (Step Unit) :=
  [.build ['w'] (.seq (.literal ['x']) (.ref ['a'])),
    .build ['v'] (.seq (.ref ['w']) (.ref ['b'])),
    .define ['a'] (.choice (.literal ['y']) (.ref ['w']))]

/-- The first rule and a parser refer to each other.  Behind them the second rule is missing, and
sealing names it, whether the other parser was built before the definition of the first or after. -/
theorem construction_order_late :
    let b := (twoRules.after .debug definedLate).book
    let w : Parser Unit := .seq (.literal ['x']) (.rule ⟨0, ['r']⟩)
    let v : Parser Unit := .seq w (.rule ⟨1, ['s']⟩)
    (twoRules.after .debug definedLate).parser? ['v'] = some v ∧
    b.parse w ['x', 'x', 'y'] = .matched ⟨.sequence [], []⟩ ∧
    b.parse v ['x', 'x', 'y'] = .failed (.unbound ['s']) ∧
    b.seal v = .error (.undefined ['s']) := by
  intro b w v
  have early : twoRules.Constructs .off definedEarly := by
    refine ⟨⟨?_, by decide, by decide⟩, by decide⟩
    intro st hst
    simp only [definedEarly, List.mem_cons, List.not_mem_nil, or_false] at hst
    rcases hst with rfl | rfl | rfl
    · exact .build _ _
    · exact .define _ _
    · exact .build _ _
  have swapped : definedLate.Perm definedEarly := .cons _ (.swap _ _ _)
  obtain ⟨kept, same⟩ := construction_order early .debug swapped (by decide)
  obtain ⟨-, runs, -, -⟩ := same w
  obtain ⟨-, runs', -, seals⟩ := same v
  exact ⟨(kept ['v']).trans rfl, congrArg Run.outcome (runs _), congrArg Run.outcome (runs' _),
    seals.trans rfl⟩

end Descent
