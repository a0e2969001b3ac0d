import Descent.Proofs.Faults
import Descent.Proofs.Growth

/-!
# Sealed parsers

Sealing walks through the rules that a parser refers to and on through their definitions.  The rules
that the walk has met are seen and are not walked through again, so it comes to an end on rules that
refer to each other.  `unseen` counts the rules in the definitions that are still to be met; it
falls by what a definition adds to the pending rules, so the fuel is enough (`walkFuel_eq`).

When the walk succeeds, every rule that it has met has a definition whose rules it has met too
(`walk_ok`).  So a sealed parser is closed (`closed_of_seal`), it stays closed in every later
session, and no call of it comes to a rule without a definition (`sealed_never_unbound`).
-/

namespace Descent

variable {M : Type}

namespace RuleBook

/-! ## The walk -/

/-- The number of rules in those definitions of a list whose own rules have not been seen. -/
def unseenIn (seen : List Rule) : List (Rule × Parser M) → Nat
  | [] => 0
  | (r, d) :: ds => (if r ∈ seen then 0 else d.rules.length) + unseenIn seen ds

theorem unseenIn_nil_eq (ds : List (Rule × Parser M)) :
    unseenIn [] ds = (ds.flatMap fun d => d.2.rules).length := by
  induction ds with
  | nil => rfl
  | cons e ds ih =>
      rw [unseenIn, if_neg List.not_mem_nil, ih, List.flatMap_cons, List.length_append]

theorem unseenIn_cons_le (r : Rule) (seen : List Rule) (ds : List (Rule × Parser M)) :
    unseenIn (r :: seen) ds ≤ unseenIn seen ds := by
  induction ds with
  | nil => exact Nat.le_refl _
  | cons e ds ih =>
      refine Nat.add_le_add ?_ ih
      by_cases h : e.1 ∈ seen
      · simp [h]
      · simp only [h, if_false]
        split
        · exact Nat.zero_le _
        · exact Nat.le_refl _

/-- A rule that is seen for the first time takes the rules of its definition away. -/
theorem unseenIn_cons_add_le {r : Rule} {d : Parser M} {seen : List Rule} (hr : r ∉ seen) :
    ∀ {ds : List (Rule × Parser M)}, (r, d) ∈ ds →
      unseenIn (r :: seen) ds + d.rules.length ≤ unseenIn seen ds
  | e :: ds, h => by
      have hle := unseenIn_cons_le r seen ds
      rcases List.mem_cons.mp h with rfl | h
      · simp only [unseenIn, List.mem_cons_self, if_true, hr, if_false]
        omega
      · have ih := unseenIn_cons_add_le hr h
        simp only [unseenIn, List.mem_cons]
        by_cases he : e.1 ∈ seen
        · simp only [he, or_true, if_true]
          omega
        · simp only [he, or_false, if_false]
          split
          · omega
          · omega

def unseen (b : RuleBook M) (seen : List Rule) : Nat := unseenIn seen b.definitions

theorem walkFuel_eq (b : RuleBook M) (p : Parser M) :
    b.walkFuel p = p.rules.reverse.length + b.unseen [] := by
  rw [walkFuel, unseen, unseenIn_nil_eq, List.length_reverse]

variable {b : RuleBook M}

theorem mem_definitions {r : Rule} {d : Parser M} (h : b.definition? r = some d) :
    (r, d) ∈ b.definitions := by
  obtain ⟨e, he, rfl⟩ := Option.map_eq_some_iff.mp h
  have hr : e.1 = r := by simpa using List.find?_some he
  exact hr ▸ List.mem_of_find?_eq_some he

/-- A walk that succeeds with enough fuel has met what was pending and what was seen, and whatever
it has met for the first time has a definition whose rules it has met. -/
theorem walk_ok : ∀ {fuel : Nat} {pending seen rules : List Rule},
    pending.length + b.unseen seen ≤ fuel → b.walk fuel pending seen = .ok rules →
      pending ⊆ rules ∧ seen ⊆ rules ∧
        ∀ r ∈ rules, r ∈ seen ∨ ∃ d, b.definition? r = some d ∧ d.rules ⊆ rules
  | fuel, [], seen, rules, _, h => by
      have hrules : seen = rules := by cases fuel <;> simpa [walk] using h
      subst hrules
      exact ⟨List.nil_subset _, List.Subset.refl _, fun r hr => Or.inl hr⟩
  | 0, r :: pending, seen, rules, hfuel, _ => by
      rw [List.length_cons] at hfuel
      omega
  | fuel + 1, r :: pending, seen, rules, hfuel, h => by
      rw [List.length_cons] at hfuel
      rw [walk] at h
      by_cases hseen : r ∈ seen
      · rw [if_pos (List.contains_iff_mem.mpr hseen)] at h
        obtain ⟨hp, hs, hr⟩ := walk_ok (by omega) h
        exact ⟨List.cons_subset.mpr ⟨hs hseen, hp⟩, hs, hr⟩
      · rw [if_neg (fun hc => hseen (List.contains_iff_mem.mp hc))] at h
        cases hd : b.definition? r with
        | none => rw [hd] at h; cases h
        | some d =>
            rw [hd] at h
            -- what the definition adds to the pending rules is no longer unseen
            have hless := unseenIn_cons_add_le hseen (mem_definitions hd)
            have hfuel' : (d.rules.reverse ++ pending).length + b.unseen (r :: seen) ≤ fuel := by
              rw [List.length_append, List.length_reverse, unseen]
              rw [unseen] at hfuel
              omega
            obtain ⟨hp, hs, hr⟩ := walk_ok hfuel' h
            obtain ⟨hrr, hs⟩ := List.cons_subset.mp hs
            have hp' : pending ⊆ rules := fun x hx => hp (List.mem_append_right _ hx)
            refine ⟨List.cons_subset.mpr ⟨hrr, hp'⟩, hs, fun x hx => ?_⟩
            rcases hr x hx with hx | hx
            · rcases List.mem_cons.mp hx with rfl | hx
              · refine Or.inr ⟨d, hd, fun y hy => hp ?_⟩
                exact List.mem_append_left _ (List.mem_reverse.mpr hy)
              · exact Or.inl hx
            · exact Or.inr hx

/-! ## Sealed parsers are closed -/

/-- A list of rules that has those of a parser, and with each rule those of its definition, has all
rules that the parser reaches. -/
theorem Reaches.rules_subset {rules : List Rule}
    (hrules : ∀ r ∈ rules, ∃ d, b.definition? r = some d ∧ d.rules ⊆ rules) {p q : Parser M}
    (hp : p.rules ⊆ rules) (h : b.Reaches p q) : q.rules ⊆ rules := by
  induction h with
  | refl => exact hp
  | tail _ huse ih =>
      cases huse with
      | part hpart => exact fun r hr => ih (Parser.rules_subset_of_part hpart hr)
      | definition hd =>
          obtain ⟨d, hd', hsub⟩ := hrules _ (ih (List.mem_singleton.mpr rfl))
          cases hd.symm.trans hd'
          exact hsub

theorem root_of_seal {p : Parser M} {g : Grammar M} (h : b.seal p = .ok g) : g.root = p := by
  rw [RuleBook.seal] at h
  cases hr : b.reachable p with
  | error e => rw [hr] at h; cases h
  | ok rules => rw [hr] at h; cases h; rfl

/-- No rule without a definition is reached from a parser that has been sealed. -/
theorem closed_of_seal {p : Parser M} {g : Grammar M} (h : b.seal p = .ok g) : b.Closed p := by
  rw [RuleBook.seal] at h
  cases hwalk : b.reachable p with
  | error e => rw [hwalk] at h; cases h
  | ok rules =>
      obtain ⟨hp, -, hr⟩ := walk_ok (Nat.le_of_eq (walkFuel_eq b p).symm) hwalk
      have hrules : ∀ r ∈ rules, ∃ d, b.definition? r = some d ∧ d.rules ⊆ rules := fun r h =>
        (hr r h).resolve_left List.not_mem_nil
      have hp' : p.rules ⊆ rules := fun r h => hp (List.mem_reverse.mpr h)
      intro r hreach
      obtain ⟨d, hd, -⟩ :=
        hrules r (hreach.rules_subset hrules hp' (List.mem_singleton.mpr rfl))
      exact ⟨d, hd⟩

/-! ## Calls of closed parsers -/

theorem Closed.defined_of_mem_started {p : Parser M} (closed : b.Closed p) {fuel : Nat} {t : Text}
    {c : Call M} (hc : c ∈ (p.call (b.resolve fuel) t).started) {r : Rule}
    (hr : c.parser.asRule? = some r) : ∃ d, b.definition? r = some d := by
  obtain ⟨n, -, q, u, hq, rfl⟩ := mem_started_call hc
  exact closed r (hq.trans (.asRule? hr))

end RuleBook

/-- Whatever happens after a parser has been sealed, no call of it comes to a rule without a
definition, and it never fails for that reason unless a custom leaf of it says so. -/
theorem sealed_never_unbound {s s' : Session M} {p : Parser M} {g : Grammar M}
    (sealed : s.book.seal p = .ok g) (later : s.Leads s') (fuel : Nat) (t : Text) :
    g.root = p ∧
    (∀ c ∈ (g.root.call (s'.book.resolve fuel) t).started, ∀ r, c.parser.asRule? = some r →
      ∃ d, s'.book.definition? r = some d) ∧
    ((∀ x f, s.book.Reaches p (.custom x f) → ∀ u name, f u ≠ .error (.unbound name)) →
      ∀ name, (g.root.call (s'.book.resolve fuel) t).outcome ≠ .failed (.unbound name)) := by
  rw [RuleBook.root_of_seal sealed]
  have closed := RuleBook.closed_of_seal sealed
  have closed' := later.growsTo.closed closed
  refine ⟨rfl, fun c hc r hr => closed'.defined_of_mem_started hc hr, fun leaves name h => ?_⟩
  obtain ⟨d, hd, -, hraises⟩ := (RuleBook.Below.self s'.book fuel p t).exists_raises h rfl
  rw [← Parser.started_call] at hd
  cases hraises with
  | undefined hr hnone =>
      obtain ⟨e, he⟩ := closed'.defined_of_mem_started hd hr
      rw [hnone] at he
      cases he
  | custom hx hf =>
      obtain ⟨n, -, q, u, hq, rfl⟩ := RuleBook.mem_started_call hd
      have hreach := hq.trans (.unnamed q)
      rw [Parser.parser_toCall] at hx
      rw [hx, later.growsTo.reaches_iff closed] at hreach
      exact leaves _ _ hreach u name hf

/-- Rules that refer to each other: `a` is `b` in parentheses, and `b` is `a` or a character. -/
def parenthesized : List (Step Unit) :=
  [.declare ['a'] ['a'], .declare ['b'] ['b'],
    .define ['a'] (.seq (.literal ['(']) (.seq (.ref ['b']) (.literal [')']))),
    .define ['b'] (.choice (.ref ['a']) (.custom ['.'] (Leaf.take ['.'] 1 .token)))]

/-- The rule `a` is sealed.  A second attempt to define it fails, and another rule is declared that
has no definition; `a` never fails for want of one. -/
theorem sealed_never_unbound_parenthesized :
    let s := Session.start.after .off parenthesized
    let s' := s.after .off [.define ['a'] (.ref ['b']), .declare ['c'] ['c']]
    let p : Parser Unit := .rule ⟨0, ['a']⟩
    s.book.seal p = .ok ⟨p, [⟨1, ['b']⟩, ⟨0, ['a']⟩]⟩ ∧
      ∀ t name, s'.book.parse p t ≠ .failed (.unbound name) := by
  intro s s' p
  have sealed : s.book.seal p = .ok ⟨p, [⟨1, ['b']⟩, ⟨0, ['a']⟩]⟩ := rfl
  have later : s.Leads s' := (Session.Leads.refl s).after _ _
  refine ⟨sealed, fun t => (sealed_never_unbound sealed later _ t).2.2 ?_⟩
  intro x f hf u name
  have book : s.book.definitions =
      [(⟨1, ['b']⟩, .choice p (.custom ['.'] (Leaf.take ['.'] 1 .token))),
        (⟨0, ['a']⟩, .seq (.literal ['(']) (.seq (.rule ⟨1, ['b']⟩) (.literal [')'])))] := rfl
  have leaf : f = Leaf.take ['.'] 1 .token :=
    RuleBook.Reaches.of_parts (P := fun q => ∀ x f, q = .custom x f → f = Leaf.take ['.'] 1 .token)
      (by simp [p, Parser.parts]) (by simp [p, book, Parser.parts]) hf x f rfl
  rw [leaf, Leaf.take]
  split
  · intro h
    cases h
  · intro h
    cases h

end Descent
