import Descent.Proofs.Sealing

/-!
# Stability

What a parser makes of a text depends on the rules that its calls come to and on nothing else in the
book.  A call is *settled* between two books when the fuel suffices for it and, where its parser is
a rule, both books say the same of that rule.  If all calls that start in a run are settled, the run
is the same in the other book with as much fuel or more (`call_eq_of_settled`).

`Finishes` speaks of the run that a parser comes to when it is given fuel enough.  Definitions stay,
so a run that finishes without coming to a rule that has none is the only run there is in every
later session, and a sealed parser has the same runs in all of them (`run_stable`).
-/

namespace Descent

variable {M : Type}

/-! ## Runs that follow each other -/

namespace Run

/-- The second run is the first, provided that all calls of the first are of a kind `C`. -/
def Follows (C : Call M → Prop) (r r' : Run M) : Prop := (∀ c ∈ r.calls, C c) → r' = r

namespace Follows

variable {C : Call M → Prop}

theorem refl (r : Run M) : Follows C r r := fun _ => rfl

theorem asCall {p : Parser M} {t : Text} {r r' : Run M}
    (h : C (.mk p t r.calls r.outcome) → r' = r) : Follows C (r.asCall p t) (r'.asCall p t) := by
  intro hc
  rw [h (hc _ (List.mem_singleton.mpr rfl))]

theorem onMatch {r r' : Run M} {k k' : Match M → Run M} (hr : Follows C r r')
    (hk : ∀ m, Follows C (k m) (k' m)) : Follows C (r.onMatch k) (r'.onMatch k') := by
  intro h
  obtain rfl : r' = r := hr fun c hc => h c (mem_calls_onMatch hc)
  unfold Run.onMatch at h ⊢
  split at h
  next m hm => rw [hk m fun c hc => h c (List.mem_append_right _ hc)]
  next => rfl

theorem onMismatch {r r' : Run M} {k k' : ParseError → Run M} (hr : Follows C r r')
    (hk : ∀ e, Follows C (k e) (k' e)) : Follows C (r.onMismatch k) (r'.onMismatch k') := by
  intro h
  obtain rfl : r' = r := hr fun c hc => h c (mem_calls_onMismatch hc)
  unfold Run.onMismatch at h ⊢
  split at h
  next e he =>
    by_cases hrec : e.isRecoverable = true
    · rw [if_pos hrec] at h
      rw [hk e fun c hc => h c (List.mem_append_right _ hc)]
    · simp only [if_neg hrec]
  next => rfl

theorem further {element element' : Text → Run M} {next : Text → Option Text}
    (he : ∀ u, Follows C (element u) (element' u)) (fuel : Nat) :
    ∀ (items : List (Value M)) (before rest : Text),
      Follows C (Run.further element next fuel items before rest)
        (Run.further element' next fuel items before rest) := by
  induction fuel with
  | zero => intro items before rest; exact refl _
  | succ fuel ih =>
      intro items before rest h
      by_cases hgo : Text.size rest < Text.size before ∧ rest ≠ []
      · cases hu : next rest with
        | none => simp only [Run.further, hgo, hu]
        | some u =>
            simp only [Run.further, if_pos hgo, hu] at h ⊢
            have same : element' u = element u := by
              refine he u fun c hc => h c ?_
              split
              next => exact List.mem_append_left _ hc
              next => split <;> exact hc
              next => exact hc
            rw [same]
            cases ho : (element u).outcome with
            | matched m =>
                simp only [ho] at h ⊢
                rw [ih _ _ _ fun c hc => h c (List.mem_append_right _ hc)]
            | failed e => rfl
            | aborted a => rfl
            | unfinished => rfl
      · simp only [Run.further, if_neg hgo]

theorem repeatFrom {element element' : Text → Run M} {next : Text → Option Text}
    (he : ∀ u, Follows C (element u) (element' u)) (t : Text) (m : Match M) :
    Follows C (Run.repeatFrom element next t m) (Run.repeatFrom element' next t m) :=
  further he _ _ _ _

end Follows

end Run

namespace RuleBook

variable {b b' : RuleBook M}

/-! ## Settled calls -/

/-- The fuel suffices for the call, and if its parser is a rule, both books say the same of it. -/
def Settled (b b' : RuleBook M) (c : Call M) : Prop :=
  c.outcome ≠ .unfinished ∧ ∀ r, c.parser.asRule? = some r → b'.definition? r = b.definition? r

/-- All that starts in the call is settled. -/
def AllSettled (b b' : RuleBook M) (c : Call M) : Prop := ∀ d ∈ c.started, b.Settled b' d

namespace AllSettled

theorem self {c : Call M} (h : b.AllSettled b' c) : b.Settled b' c := h c c.self_mem_started

theorem calls {c : Call M} (h : b.AllSettled b' c) : ∀ d ∈ c.calls, b.AllSettled b' d :=
  fun _ hd x hx => h x (Call.mem_started_of_mem_calls hd hx)

theorem unname {resolve : Rule → Text → Run M} {p : Parser M} {name t : Text}
    (h : b.AllSettled b' ((Parser.named p name).toCall resolve t)) :
    b.AllSettled b' (p.toCall resolve t) := by
  intro d hd
  rw [Call.started_eq] at hd
  rcases List.mem_cons.mp hd with rfl | hd
  · exact h.self
  · obtain ⟨c, hc, hd⟩ := List.mem_flatMap.mp hd
    exact h.calls c hc d hd

/-- Bodies are the same if rules are, as far as calls come to them. -/
theorem body_eq {resolve resolve' : Rule → Text → Run M}
    (rules : ∀ r t, b.AllSettled b' ((Parser.rule r).toCall resolve t) →
      resolve' r t = resolve r t) :
    ∀ (p : Parser M) (t : Text), b.AllSettled b' (p.toCall resolve t) →
      p.body resolve' t = p.body resolve t
  | .literal _, _, _ => rfl
  | .pattern _ _, _, _ => rfl
  | .custom _ _, _, _ => rfl
  | .rule r, t, h => rules r t h
  | .seq p q, t, h => by
      refine Run.Follows.onMatch (.asCall (body_eq rules p t)) (fun m => ?_) h.calls
      refine Run.Follows.onMatch (.asCall (body_eq rules q m.rest)) fun n => ?_
      exact .refl _
  | .choice p q, t, h => by
      refine Run.Follows.onMismatch (.asCall (body_eq rules p t)) (fun _ => ?_) h.calls
      refine Run.Follows.onMismatch (.asCall (body_eq rules q t)) fun _ => ?_
      exact .refl _
  | .map p _, t, h => by
      refine Run.Follows.onMatch (.asCall (body_eq rules p t)) (fun m => ?_) h.calls
      exact .refl _
  | .tryMap p _, t, h => by
      refine Run.Follows.onMatch (.asCall (body_eq rules p t)) (fun m => ?_) h.calls
      exact .refl _
  | .optional p, t, h => by
      refine Run.Follows.onMismatch (.asCall (body_eq rules p t)) (fun _ => ?_) h.calls
      exact .refl _
  | .many p, t, h => by
      refine Run.Follows.onMatch (.asCall (body_eq rules p t)) (fun m => ?_) h.calls
      exact .repeatFrom (fun u => .asCall (body_eq rules p u)) t m
  | .sepBy p sep, t, h => by
      refine Run.Follows.onMismatch ?_ (fun _ => .refl _) h.calls
      refine Run.Follows.onMatch (.asCall (body_eq rules p t)) fun m => ?_
      exact .repeatFrom (fun u => .asCall (body_eq rules p u)) t m
  | .named p _, t, h => body_eq rules p t h.unname

/-- A rule whose calls are all settled runs the same in both books. -/
theorem resolve_eq : ∀ {n n' : Nat}, n ≤ n' → ∀ (r : Rule) (t : Text),
    b.AllSettled b' ((Parser.rule r).toCall (b.resolve n) t) →
      b'.resolve n' r t = b.resolve n r t
  | 0, _, _, _, _, h => absurd rfl h.self.1
  | n + 1, n' + 1, hn, r, t, h => by
      have hdef := h.self.2 r rfl
      have hcalls := h.calls
      rw [Parser.calls_toCall, Parser.body] at hcalls
      rw [resolve, hdef]
      rw [resolve] at hcalls ⊢
      cases hd : b.definition? r with
      | none => rfl
      | some d =>
          rw [hd] at hcalls
          have hbody := body_eq (resolve_eq (Nat.le_of_succ_le_succ hn)) d t
            (hcalls _ (List.mem_singleton.mpr rfl))
          simp only [Parser.call, hbody]

end AllSettled

/-- All that starts in a run that finishes is settled, if both books say the same of the rules that
its calls come to. -/
theorem AllSettled.of_finished {n : Nat} {p : Parser M} {t : Text}
    (finished : (p.call (b.resolve n) t).outcome ≠ .unfinished)
    (rules : ∀ c ∈ (p.call (b.resolve n) t).started, ∀ r, c.parser.asRule? = some r →
      b'.definition? r = b.definition? r) :
    b.AllSettled b' (p.toCall (b.resolve n) t) := by
  intro c hc
  refine ⟨fun hunfinished => finished ?_, rules c (Parser.started_call ▸ hc)⟩
  -- running out of fuel is fatal, so it would be the end of the run too
  obtain ⟨before, after, hsplit⟩ := List.append_of_mem hc
  have hfatal : c.outcome.isFatal = true := by rw [hunfinished]; rfl
  exact ((Below.self b n p t).ends_at_fatal hsplit hfatal).1.trans hunfinished

/-- A run that finishes is the same in another book, with as much fuel or more, if both books say
the same of the rules that its calls come to. -/
theorem call_eq_of_settled {n n' : Nat} (hn : n ≤ n') {p : Parser M} {t : Text}
    (finished : (p.call (b.resolve n) t).outcome ≠ .unfinished)
    (rules : ∀ c ∈ (p.call (b.resolve n) t).started, ∀ r, c.parser.asRule? = some r →
      b'.definition? r = b.definition? r) :
    p.call (b'.resolve n') t = p.call (b.resolve n) t := by
  have settled := AllSettled.of_finished finished rules
  have hbody := AllSettled.body_eq (AllSettled.resolve_eq hn) p t settled
  rw [Parser.call, hbody, Parser.call]

/-- A run that finishes is the same with more fuel. -/
theorem call_eq_of_le {n n' : Nat} (hn : n ≤ n') {p : Parser M} {t : Text}
    (finished : (p.call (b.resolve n) t).outcome ≠ .unfinished) :
    p.call (b.resolve n') t = p.call (b.resolve n) t :=
  call_eq_of_settled hn finished fun _ _ _ _ => rfl

/-! ## Runs that finish -/

/-- The run that a parser comes to at a text when it is given fuel enough. -/
def Finishes (b : RuleBook M) (p : Parser M) (t : Text) (r : Run M) : Prop :=
  r.outcome ≠ .unfinished ∧ ∃ fuel, p.call (b.resolve fuel) t = r

/-- No call of the run comes to a rule without a definition. -/
def Defines (b : RuleBook M) (r : Run M) : Prop :=
  ∀ c ∈ r.started, ∀ x, c.parser.asRule? = some x → ∃ d, b.definition? x = some d

namespace Finishes

variable {p : Parser M} {t : Text} {r r' : Run M}

theorem unique (h : b.Finishes p t r) (h' : b.Finishes p t r') : r = r' := by
  obtain ⟨hr, n, rfl⟩ := h
  obtain ⟨hr', n', rfl⟩ := h'
  rcases Nat.le_total n n' with hn | hn
  · exact (call_eq_of_settled hn hr fun _ _ _ _ => rfl).symm
  · exact call_eq_of_settled hn hr' fun _ _ _ _ => rfl

/-- A run that finishes and comes to no rule without a definition is that of every later book. -/
theorem of_growsTo (h : b.Finishes p t r) (hdef : b.Defines r) (grows : b.GrowsTo b') :
    b'.Finishes p t r := by
  obtain ⟨hr, n, rfl⟩ := h
  refine ⟨hr, n, call_eq_of_settled (Nat.le_refl n) hr fun c hc x hx => ?_⟩
  obtain ⟨d, hd⟩ := hdef c hc x hx
  rw [hd, grows.keeps hd]

end Finishes

theorem Closed.defines {p : Parser M} (closed : b.Closed p) {t : Text} {r : Run M}
    (h : b.Finishes p t r) : b.Defines r := by
  obtain ⟨-, n, rfl⟩ := h
  exact fun c hc x hx => closed.defined_of_mem_started hc hx

/-- A closed parser has the same runs in every later book. -/
theorem Closed.finishes_iff {p : Parser M} (closed : b.Closed p) (grows : b.GrowsTo b') {t : Text}
    {r : Run M} : b'.Finishes p t r ↔ b.Finishes p t r := by
  constructor
  · rintro ⟨hr, n, rfl⟩
    refine ⟨hr, n, call_eq_of_settled (Nat.le_refl n) hr fun c hc x hx => ?_⟩
    -- the rule is reached in the later book, so in this one, and keeps its definition
    obtain ⟨_, -, q, _, hq, rfl⟩ := mem_started_call hc
    obtain ⟨d, hd⟩ := closed x ((grows.reaches_iff closed).mp (hq.trans (.asRule? hx)))
    rw [hd, grows.keeps hd]
  · exact fun h => h.of_growsTo (closed.defines h) grows

end RuleBook

/-- Whatever happens after a parser has finished at a text without coming to a rule that has no
definition, it comes to the same run there; and once a parser is sealed, its runs are the same at
all texts, whatever happens. -/
theorem run_stable {s s' : Session M} (later : s.Leads s') (p : Parser M) :
    (∀ t r, s.book.Finishes p t r → s.book.Defines r → ∀ r', s'.book.Finishes p t r' ↔ r' = r) ∧
    (∀ t, s.book.parse p t ≠ .unfinished → s.book.Defines (s.book.run p t) →
      s'.book.run p t = s.book.run p t) ∧
    (∀ g, s.book.seal p = .ok g → ∀ t,
      (∀ r, s'.book.Finishes g.root t r ↔ s.book.Finishes g.root t r) ∧
      (s.book.parse g.root t ≠ .unfinished → s'.book.run g.root t = s.book.run g.root t)) := by
  have grows := later.growsTo
  have runs : ∀ t, s.book.parse p t ≠ .unfinished → s.book.Defines (s.book.run p t) →
      s'.book.run p t = s.book.run p t := by
    intro t hp hdef
    refine RuleBook.call_eq_of_settled (grows.parseFuel_le t) hp fun c hc x hx => ?_
    obtain ⟨d, hd⟩ := hdef c hc x hx
    rw [hd, grows.keeps hd]
  refine ⟨fun t r h hdef r' => ?_, runs, fun g hg t => ?_⟩
  · have h' := h.of_growsTo hdef grows
    constructor
    · exact fun hr' => hr'.unique h'
    · rintro rfl
      exact h'
  · have closed := RuleBook.closed_of_seal hg
    rw [RuleBook.root_of_seal hg]
    refine ⟨fun r => closed.finishes_iff grows, fun hp => runs t hp ?_⟩
    exact closed.defines ⟨hp, _, rfl⟩

/-- An `x` or else a rule that is defined after the first parse: the parse of `x` does not come to
the rule, so it stays as it was.  When the rule is defined and the parser sealed, the parse of `y`
stays too, and another definition of the rule is refused. -/
theorem run_stable_choice :
    let s : Session Unit := Session.start.after .off [.declare ['r'] ['r']]
    let p : Parser Unit := .choice (.literal ['x']) (.rule ⟨0, ['r']⟩)
    let s' := s.after .off [.define ['r'] (.literal ['y'])]
    let s'' := s'.after .off [.define ['r'] (.literal ['z']), .parse ['r'] ['z']]
    (s.book.parse p ['x'] = .matched ⟨.unit, []⟩ ∧ s''.book.run p ['x'] = s.book.run p ['x']) ∧
      s'.book.seal p = .ok ⟨p, [⟨0, ['r']⟩]⟩ ∧
        s'.book.parse p ['y'] = .matched ⟨.unit, []⟩ ∧
          s''.book.run p ['y'] = s'.book.run p ['y'] := by
  intro s p s' s''
  have first : s.Leads s'' := ((Session.Leads.refl s).after _ _).after _ _
  have second : s'.Leads s'' := (Session.Leads.refl s').after _ _
  have atX : s.book.parse p ['x'] = .matched ⟨.unit, []⟩ := rfl
  have atY : s'.book.parse p ['y'] = .matched ⟨.unit, []⟩ := rfl
  have sealed : s'.book.seal p = .ok ⟨p, [⟨0, ['r']⟩]⟩ := rfl
  have starts : (s.book.run p ['x']).started =
      [p.toCall (s.book.resolve (s.book.parseFuel ['x'])) ['x'],
        .mk (.literal ['x']) ['x'] [] (.matched ⟨.unit, []⟩)] := rfl
  have defines : s.book.Defines (s.book.run p ['x']) := by
    intro c hc r hr
    rw [starts, List.mem_cons, List.mem_singleton] at hc
    rcases hc with rfl | rfl
    · cases hr
    · cases hr
  refine ⟨⟨atX, ?_⟩, sealed, atY, ?_⟩
  · exact (run_stable first p).2.1 _ (by rw [atX]; exact nofun) defines
  · exact ((run_stable second p).2.2 _ sealed _).2 (by rw [atY]; exact nofun)

end Descent
