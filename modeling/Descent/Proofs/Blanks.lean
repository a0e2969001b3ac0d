import Descent.Proofs.Anchored
import Descent.Proofs.Rests
import Descent.Proofs.Stability

/-!
# Blanks in front

A parser is *solid* when its leaves never match the empty text.  What a solid parser makes of a text
does not depend on the blanks in front of it (`blanks_in_front`): at two texts that differ only in
these it puts out the same and leaves the same, or reads nothing of either, or it fails with errors
that differ only in the blanks in front of what was found.

The relation that the two runs keep says more of what is left in the first case: it is smaller than
the text behind the blanks.  So a repetition, which compares what is left with the text that it has
started at, sees progress in both runs or in neither.
-/

namespace Descent

variable {M : Type}

/-! ## Errors and outcomes -/

namespace ParseError

/-- The error with what was found changed by a function. -/
def mapActual (f : Text → Text) : ParseError → ParseError
  | literal e a => literal e (f a)
  | pattern e a => pattern e (f a)
  | choice e a => choice e (f a)
  | repetition e a => repetition e (f a)
  | unbound name => unbound name
  | mapping e a reason => mapping e (f a) reason

@[simp] theorem isRecoverable_mapActual (f : Text → Text) (e : ParseError) :
    (e.mapActual f).isRecoverable = e.isRecoverable := by
  cases e <;> rfl

theorem isRecoverable_eq_of_mapActual_eq {f : Text → Text} {e e' : ParseError}
    (h : e.mapActual f = e'.mapActual f) : e.isRecoverable = e'.isRecoverable := by
  rw [← isRecoverable_mapActual f e, h, isRecoverable_mapActual]

end ParseError

/-- Outcomes at two texts that are the same but for the blanks in front. -/
inductive Outcome.Alike (x y : Text) : Outcome M → Outcome M → Prop where
  /-- Something behind the blanks has been read. -/
  | read {v u} : Text.size u < Text.size (Text.trimStart x) →
      Alike x y (.matched ⟨v, u⟩) (.matched ⟨v, u⟩)
  /-- Nothing has been read. -/
  | unread {v} : Alike x y (.matched ⟨v, x⟩) (.matched ⟨v, y⟩)
  | failed {e e'} : e.mapActual Text.trimStart = e'.mapActual Text.trimStart →
      Alike x y (.failed e) (.failed e')
  | aborted {a} : Alike x y (.aborted a) (.aborted a)
  | unfinished : Alike x y .unfinished .unfinished

namespace Outcome.Alike

variable {x y : Text}

/-- An outcome is like itself if it leaves less than the text behind the blanks. -/
theorem self {o : Outcome M}
    (h : ∀ m, o = .matched m → Text.size m.rest < Text.size (Text.trimStart x)) : Alike x y o o := by
  cases o with
  | matched m => exact .read (h m rfl)
  | failed e => exact .failed rfl
  | aborted a => exact .aborted
  | unfinished => exact .unfinished

theorem onMatch {r r' : Run M} {k k' : Match M → Run M} (h : Alike x y r.outcome r'.outcome)
    (read : ∀ m, Text.size m.rest < Text.size (Text.trimStart x) →
      Alike x y (k m).outcome (k' m).outcome)
    (unread : ∀ v, Alike x y (k ⟨v, x⟩).outcome (k' ⟨v, y⟩).outcome) :
    Alike x y (r.onMatch k).outcome (r'.onMatch k').outcome := by
  unfold Run.onMatch
  generalize ho : r.outcome = o at h
  generalize ho' : r'.outcome = o' at h
  cases h with
  | read hu => exact read _ hu
  | unread => exact unread _
  | failed he =>
      simp only [ho, ho']
      exact .failed he
  | aborted =>
      simp only [ho, ho']
      exact .aborted
  | unfinished =>
      simp only [ho, ho']
      exact .unfinished

theorem onMismatch {r r' : Run M} {k k' : ParseError → Run M} (h : Alike x y r.outcome r'.outcome)
    (hk : ∀ e e', Alike x y (k e).outcome (k' e').outcome) :
    Alike x y (r.onMismatch k).outcome (r'.onMismatch k').outcome := by
  unfold Run.onMismatch
  generalize ho : r.outcome = o at h
  generalize ho' : r'.outcome = o' at h
  cases h with
  | failed he =>
      simp only [ParseError.isRecoverable_eq_of_mapActual_eq he]
      split
      · exact hk _ _
      · rw [ho, ho']
        exact .failed he
  | read hu =>
      simp only [ho, ho']
      exact .read hu
  | unread =>
      simp only [ho, ho']
      exact .unread
  | aborted =>
      simp only [ho, ho']
      exact .aborted
  | unfinished =>
      simp only [ho, ho']
      exact .unfinished

/-- Behind a first element that has been read in both runs, or in neither, the repetition goes on
alike. -/
theorem repeatFrom {element : Text → Run M} {next : Text → Option Text}
    (hxy : Text.trimStart x = Text.trimStart y)
    (element_le : ∀ u, (element u).Leaves (fun v t => Text.size v ≤ Text.size t) u)
    (next_le : ∀ rest u, next rest = some u → Text.size u ≤ Text.size rest) {r r' : Run M}
    (h : Alike x y r.outcome r'.outcome) :
    Alike x y (r.onMatch fun m => .repeatFrom element next x m).outcome
      (r'.onMatch fun m => .repeatFrom element next y m).outcome := by
  have shorter : ∀ t, Text.size (Text.trimStart t) ≤ Text.size t := fun t =>
    Text.size_le_of_suffix (Text.trimStart_suffix t)
  refine h.onMatch (fun m hm => ?_) fun v => ?_
  · have hx : Text.size m.rest < Text.size x := Nat.lt_of_lt_of_le hm (shorter x)
    have hy : Text.size m.rest < Text.size y := Nat.lt_of_lt_of_le (hxy ▸ hm) (shorter y)
    have same : Run.repeatFrom element next x m = Run.repeatFrom element next y m :=
      Run.further_eq (iff_of_true hx hy) (Nat.le_refl _) (Nat.le_refl _)
    rw [← same]
    refine self fun n hn => Nat.lt_of_le_of_lt ?_ hm
    exact Run.Leaves.repeatFrom (t := x) Trailing.size_le element_le next_le m n hn
  · have stop : ∀ t : Text, Run.repeatFrom element next t ⟨v, t⟩ =
        .pure (.matched ⟨.sequence v.solidItems, t⟩) := fun t =>
      Run.further_of_not_go fun hgo => Nat.lt_irrefl _ hgo.1
    rw [stop, stop]
    exact .unread

end Outcome.Alike

/-! ## Solid parsers -/

namespace Parser

/-- The parser itself never matches the empty text if it is a leaf, and it is none that is left to a
function. -/
def IsSolid : Parser M → Prop
  | literal word => word ≠ []
  | pattern _ regex => ∀ t token rest,
      regex.find? (Text.trimStart t) = some (token, rest) → token ≠ []
  | custom _ _ => False
  | _ => True

end Parser

/-- The parser of every lexeme is built, and its pattern never matches the empty text. -/
theorem Lexeme.isSolid (l : Lexeme) :
    ∃ p : Parser M, l.parser = .ok p ∧ ∀ q ∈ p.parts, q.IsSolid := by
  obtain ⟨regex, hc, hanchored, hsolid⟩ := l.exists_solid
  refine ⟨.named (.pattern l.source regex) l.name, ?_, ?_⟩
  · rw [Lexeme.parser, Parser.ofPattern, hc]
    rfl
  · intro q hq
    rcases List.mem_cons.mp hq with rfl | hq
    · trivial
    · cases List.mem_singleton.mp hq
      exact fun _ _ _ hfind => hsolid.token_ne_nil hanchored hfind

namespace RuleBook

variable {b : RuleBook M} {p : Parser M} {x y : Text}

theorem alike_literal {word : Text} (hword : word ≠ []) (hxy : Text.trimStart x = Text.trimStart y) :
    Outcome.Alike x y (.ofExcept (Leaf.literal word x) : Outcome M)
      (.ofExcept (Leaf.literal word y)) := by
  have same : (Leaf.literal word y : Except ParseError (Match M)) = Leaf.literal word x := by
    rw [Leaf.literal, Leaf.literal, hxy]
  rw [same]
  exact .self fun m hm =>
    Leaf.size_lt_of_literal hword (Outcome.ofExcept_eq_matched_iff.mp hm)

theorem alike_pattern {source : Text} {regex : Regex}
    (solid : ∀ t token rest, regex.find? (Text.trimStart t) = some (token, rest) → token ≠ [])
    (hxy : Text.trimStart x = Text.trimStart y) :
    Outcome.Alike x y (.ofExcept (Leaf.pattern source regex x) : Outcome M)
      (.ofExcept (Leaf.pattern source regex y)) := by
  have same :
      (Leaf.pattern source regex y : Except ParseError (Match M)) = Leaf.pattern source regex x := by
    rw [Leaf.pattern, Leaf.pattern, hxy]
  rw [same]
  exact .self fun m hm =>
    Leaf.size_lt_of_pattern (solid x) (Outcome.ofExcept_eq_matched_iff.mp hm)

/-- The bodies of solid parsers run alike if rules do. -/
theorem body_alike (solid : ∀ q, b.Reaches p q → q.IsSolid)
    (hxy : Text.trimStart x = Text.trimStart y) {fuel : Nat}
    (rules : ∀ r, b.Reaches p (.rule r) →
      Outcome.Alike x y (b.resolve fuel r x).outcome (b.resolve fuel r y).outcome) :
    ∀ q : Parser M, b.Reaches p q →
      Outcome.Alike x y (q.body (b.resolve fuel) x).outcome (q.body (b.resolve fuel) y).outcome := by
  have leaves : ∀ {q}, b.Reaches p q → ∀ t,
      (q.call (b.resolve fuel) t).Leaves (fun v u => Text.size v ≤ Text.size u) t := fun hq =>
    call_leaves Trailing.size_le (fun _ _ hf => (solid _ hf).elim) hq fuel
  intro q
  induction q with
  | literal word => exact fun h => alike_literal (solid _ h) hxy
  | pattern source regex => exact fun h => alike_pattern (solid _ h) hxy
  | custom _ _ => exact fun h => (solid _ h).elim
  | rule r => exact rules r
  | seq q s ihq ihs =>
      intro h
      have hs : b.Reaches p s := h.trans (.of_part .seqRight)
      refine Outcome.Alike.onMatch (ihq (h.trans (.of_part .seqLeft))) (fun m hm => ?_) fun v => ?_
      · -- the second part runs at the same text
        refine .self fun n hn => ?_
        obtain ⟨n', hn', hn⟩ := Run.onMatch_eq_matched_iff.mp hn
        cases hn
        exact Nat.lt_of_le_of_lt (leaves hs m.rest n' hn') hm
      · exact Outcome.Alike.onMatch (ihs hs) (fun n hn => .read hn) fun w => .unread
  | choice q s ihq ihs =>
      intro h
      refine Outcome.Alike.onMismatch (ihq (h.trans (.of_part .choiceLeft))) fun _ _ => ?_
      refine Outcome.Alike.onMismatch (ihs (h.trans (.of_part .choiceRight))) fun _ _ => ?_
      exact .failed (congrArg (ParseError.choice _) hxy)
  | map q f ih =>
      intro h
      refine Outcome.Alike.onMatch (ih (h.trans (.of_part .map))) (fun m hm => ?_) fun v => ?_
      · split
        · exact .read hm
        · exact .aborted
      · simp only
        split
        · exact .unread
        · exact .aborted
  | tryMap q f ih =>
      intro h
      refine Outcome.Alike.onMatch (ih (h.trans (.of_part .tryMap))) (fun m hm => ?_) fun v => ?_
      · split
        · exact .read hm
        · exact .failed (congrArg (ParseError.mapping _ · _) hxy)
        · exact .aborted
      · simp only
        split
        · exact .unread
        · exact .failed (congrArg (ParseError.mapping _ · _) hxy)
        · exact .aborted
  | optional q ih =>
      intro h
      exact Outcome.Alike.onMismatch (ih (h.trans (.of_part .optional))) fun _ _ => .unread
  | many q ih =>
      intro h
      have hq : b.Reaches p q := h.trans (.of_part .many)
      refine Outcome.Alike.repeatFrom hxy (leaves hq) ?_ (ih hq)
      intro rest u hu
      cases hu
      exact Nat.le_refl _
  | sepBy q sep ih =>
      intro h
      have hq : b.Reaches p q := h.trans (.of_part .sepBy)
      refine Outcome.Alike.onMismatch (Outcome.Alike.repeatFrom hxy (leaves hq) ?_ (ih hq)) ?_
      · exact fun _ _ hu => Text.size_le_of_suffix (Parser.suffix_of_elementAfter? hu)
      · exact fun _ _ => .failed (congrArg (ParseError.repetition _) hxy)
  | named q _ ih => exact fun h => ih (h.trans (.of_part .named))

theorem resolve_alike (solid : ∀ q, b.Reaches p q → q.IsSolid)
    (hxy : Text.trimStart x = Text.trimStart y) :
    ∀ (fuel : Nat) (r : Rule), b.Reaches p (.rule r) →
      Outcome.Alike x y (b.resolve fuel r x).outcome (b.resolve fuel r y).outcome
  | 0, _, _ => .unfinished
  | fuel + 1, r, h => by
      rw [resolve, resolve]
      cases hd : b.definition? r with
      | none => exact .failed rfl
      | some d =>
          exact body_alike solid hxy (resolve_alike solid hxy fuel) d (h.trans (.of_definition hd))

end RuleBook

/-- At two texts that are the same but for the blanks in front, a solid parser matches with the same
output and leaves the same, or all of each text; or it fails with errors that are the same but for
the blanks in front of what was found; or a conversion gives up in the same way. -/
theorem blanks_in_front {b : RuleBook M} {p : Parser M} (solid : ∀ q, b.Reaches p q → q.IsSolid)
    {x y : Text} (hxy : Text.trimStart x = Text.trimStart y) {n n' : Nat} {o o' : Outcome M}
    (hx : (p.call (b.resolve n) x).outcome = o) (hy : (p.call (b.resolve n') y).outcome = o')
    (finished : o ≠ .unfinished) (finished' : o' ≠ .unfinished) :
    (∃ v u u', o = .matched ⟨v, u⟩ ∧ o' = .matched ⟨v, u'⟩ ∧ (u = u' ∨ u = x ∧ u' = y)) ∨
    (∃ e e', o = .failed e ∧ o' = .failed e' ∧
      e.mapActual Text.trimStart = e'.mapActual Text.trimStart) ∨
    ∃ a, o = .aborted a ∧ o' = .aborted a := by
  subst hx
  subst hy
  -- with the larger of the two fuels both runs are what they are
  have same : p.call (b.resolve (max n n')) x = p.call (b.resolve n) x :=
    RuleBook.call_eq_of_le (Nat.le_max_left n n') finished
  have same' : p.call (b.resolve (max n n')) y = p.call (b.resolve n') y :=
    RuleBook.call_eq_of_le (Nat.le_max_right n n') finished'
  have alike : Outcome.Alike x y (p.call (b.resolve n) x).outcome
      (p.call (b.resolve n') y).outcome := by
    rw [← same, ← same']
    exact RuleBook.body_alike solid hxy (RuleBook.resolve_alike solid hxy _) p (.refl p)
  generalize (p.call (b.resolve n) x).outcome = o at alike finished
  generalize (p.call (b.resolve n') y).outcome = o' at alike finished'
  cases alike with
  | @read v u _ => exact Or.inl ⟨v, u, u, rfl, rfl, Or.inl rfl⟩
  | @unread v => exact Or.inl ⟨v, x, y, rfl, rfl, Or.inr ⟨rfl, rfl⟩⟩
  | @failed e e' he => exact Or.inr (Or.inl ⟨e, e', rfl, rfl, he⟩)
  | @aborted a => exact Or.inr (Or.inr ⟨a, rfl, rfl⟩)
  | unfinished => exact absurd rfl finished

/-- Digits at the start of the text. -/
def digits : Regex :=
  ⟨Regex.anchored "[0-9]+".toList,
    (Regex.Expr.seq (.look .textStart) (.times true 1 none (.set true (.range '0' '9')))).program⟩

/-- A list has numbers and lists in brackets, with commas between; it may be empty. -/
def numbersBook : RuleBook Unit :=
  ⟨1, [(⟨0, ['l']⟩, .seq (.literal ['['])
    (.seq (.optional (.sepBy (.choice (.pattern "[0-9]+".toList digits) (.rule ⟨0, ['l']⟩)) [',']))
      (.literal [']'])))]⟩

/-- The list is read behind two blanks as it is behind none.  Where neither a list nor a dash is, the
errors cite the text with its blanks. -/
theorem blanks_in_front_list :
    let p : Parser Unit := .choice (.rule ⟨0, ['l']⟩) (.literal ['-'])
    let list := "[1, [2 ,3],[ ]] 4".toList
    let other := "(1)".toList
    (∃ m, numbersBook.parse p list = .matched m ∧ m.rest = [' ', '4'] ∧
      numbersBook.parse p (' ' :: ' ' :: list) = .matched m) ∧
    ∃ e e', numbersBook.parse p other = .failed e ∧
      numbersBook.parse p (' ' :: ' ' :: other) = .failed e' ∧ e ≠ e' ∧
        e.mapActual Text.trimStart = e'.mapActual Text.trimStart := by
  intro p list other
  have anchored : digits.program.Anchored := rfl
  have noEmpty : digits.program.Solid :=
    Regex.Program.solid_of_looksAhead (by decide +kernel) (by decide +kernel)
  have number : (Parser.pattern "[0-9]+".toList digits : Parser Unit).IsSolid :=
    fun _ _ _ hfind => noEmpty.token_ne_nil anchored hfind
  have solid : ∀ q, numbersBook.Reaches p q → q.IsSolid := by
    intro q hq
    refine hq.of_parts ?_ ?_
    · simp [p, Parser.parts, Parser.IsSolid]
    · rw [numbersBook]
      simpa [Parser.parts, or_imp, forall_and, Parser.IsSolid] using number
  constructor
  · have read : (numbersBook.parse p list).match?.map Match.rest = some [' ', '4'] := by
      decide +kernel
    have finished : (numbersBook.parse p (' ' :: ' ' :: list)).match?.isSome := by decide +kernel
    obtain ⟨m, hm, hrest⟩ := Option.map_eq_some_iff.mp read
    obtain ⟨m', hm'⟩ := Option.isSome_iff_exists.mp finished
    rw [Outcome.match?_eq_some_iff] at hm hm'
    refine ⟨m, hm, hrest, ?_⟩
    rcases blanks_in_front solid (x := list) (y := ' ' :: ' ' :: list) rfl hm hm' (by simp) (by simp) with
      ⟨v, u, u', ho, ho', hu⟩ | ⟨e, -, he, -⟩ | ⟨a, ha, -⟩
    · cases ho
      cases ho'
      rcases hu with rfl | ⟨hx, -⟩
      · exact hm'
      · exact absurd (hx.symm.trans hrest) (by decide +kernel)
    · cases he
    · cases ha
  · have found : numbersBook.parse p other = .failed (.choice "l|-".toList other) := rfl
    have found' : numbersBook.parse p (' ' :: ' ' :: other) =
        .failed (.choice "l|-".toList (' ' :: ' ' :: other)) := rfl
    refine ⟨_, _, found, found', by decide +kernel, ?_⟩
    rcases blanks_in_front solid (x := other) (y := ' ' :: ' ' :: other) rfl found found'
        (by simp) (by simp) with ⟨v, u, u', ho, -, -⟩ | ⟨e, e', he, he', same⟩ | ⟨a, ha, -⟩
    · cases ho
    · cases he
      cases he'
      exact same
    · cases ha

end Descent
