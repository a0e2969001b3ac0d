import Descent.Proofs.Readings

/-!
# Repetition

A repetition runs its element at a text, and again behind what has been read.  It *goes on* behind
an element only if that element has made the rest smaller, something is left, and another element
may start.  `ComesTo` lists what a repetition has read when it comes to its next element.  From
there three things can happen: the element is read and the repetition stops behind it, the very
first element is rejected, or the element ends in a way after which nothing else is tried.  `Repeats`
says so, and it says it of all repetitions (`repeats_iff`): the bound on the rounds has no part in it.
How rules of the grammar are run is left open.

With separators an element starts behind a separator and may not start at the end of the text, but
what counts as progress is measured in front of the separator (`separated_exact`).  Without them an
element starts where the one before has stopped; what is put out is then what a sequence of as many
elements puts out, and there are no more elements than characters (`repeated_exact`).
-/

namespace Descent

variable {M : Type}

namespace Text

theorem eq_of_suffix_of_size_le {u t : Text} (h : u <:+ t) (hle : size t ≤ size u) : u = t := by
  obtain ⟨w, rfl⟩ := h
  rw [size_append] at hle
  have hw : size w = 0 := by omega
  rw [size_eq_zero_iff.mp hw, List.nil_append]

theorem length_lt_of_suffix {u t : Text} (h : u <:+ t) (hlt : size u < size t) :
    u.length < t.length := by
  refine Nat.lt_of_le_of_ne h.length_le fun heq => ?_
  rw [h.eq_of_length heq] at hlt
  exact Nat.lt_irrefl _ hlt

end Text

namespace Outcome

variable {o o' : Outcome M} {e e' : ParseError}

theorem orElse_failed_eq_matched_iff {m : Match M} :
    o.orElse (failed e) = matched m ↔ o = matched m := by
  cases o with
  | matched m' => exact Iff.rfl
  | failed e' =>
      rw [orElse_failed]
      split <;> exact ⟨nofun, nofun⟩
  | aborted a => exact Iff.rfl
  | unfinished => exact Iff.rfl

/-- A mismatch in place of another does not change how else something ends. -/
theorem orElse_failed_eq_fatal_iff (he : e.isRecoverable = true) (ho' : o'.isFatal = true) :
    o.orElse (failed e) = o' ↔ o = o' := by
  by_cases hmis : o.IsMismatch
  · rw [hmis.orElse_eq]
    obtain ⟨e', rfl, he'⟩ := hmis
    constructor
    · rintro rfl
      rw [isFatal_failed, he] at ho'
      cases ho'
    · rintro rfl
      rw [isFatal_failed, he'] at ho'
      cases ho'
  · rw [orElse_eq_of_not_isMismatch hmis]

theorem orElse_failed_eq_failed_iff (he' : e'.isRecoverable = true) :
    o.orElse (failed e) = failed e' ↔ o.IsMismatch ∧ e' = e := by
  by_cases hmis : o.IsMismatch
  · rw [hmis.orElse_eq, failed.injEq]
    exact ⟨fun h => ⟨hmis, h.symm⟩, fun h => h.2.symm⟩
  · rw [orElse_eq_of_not_isMismatch hmis]
    exact ⟨fun h => absurd ⟨e', h, he'⟩ hmis, fun h => absurd h.1 hmis⟩

end Outcome

namespace Parser

variable {run : Rule → Text → Run M} {p : Parser M} {next : Text → Option Text} {t : Text}

/-! ## The elements that a repetition comes to -/

/-- A repetition goes on behind an element that was reached with `before` left and has left `rest`:
the next element starts at `start`. -/
structure GoesOn (next : Text → Option Text) (before rest start : Text) : Prop where
  smaller : Text.size rest < Text.size before
  nonempty : rest ≠ []
  next_eq : next rest = some start

/-- A repetition at a text has read some values when `rest` is left, and comes to an element that
starts at `start`. -/
inductive ComesTo (run : Rule → Text → Run M) (p : Parser M) (next : Text → Option Text)
    (t : Text) : List (Value M) → (rest start : Text) → Prop where
  /-- The first element starts at the text. -/
  | first : ComesTo run p next t [] t t
  /-- The element is read, and the repetition goes on. -/
  | later {vs rest start v rest' start'} : ComesTo run p next t vs rest start →
      p.Reads run start v rest' → GoesOn next rest rest' start' →
      ComesTo run p next t (vs ++ [v]) rest' start'

/-- How a repetition at a text ends. -/
inductive Repeats (run : Rule → Text → Run M) (p : Parser M) (next : Text → Option Text)
    (t : Text) : Outcome M → Prop where
  /-- The last element is read.  It has not made the rest smaller, or the repetition halts there. -/
  | stops {vs rest start v rest'} : ComesTo run p next t vs rest start →
      p.Reads run start v rest' → ¬Text.size rest' < Text.size rest ∨ Halts run p next rest' →
      Repeats run p next t (.matched ⟨.sequence ((vs ++ [v]).flatMap Value.solidItems), rest'⟩)
  /-- There is no first element. -/
  | rejects {e} : p.Fails run t e → e.isRecoverable = true → Repeats run p next t (.failed e)
  /-- Nothing else is tried after an element. -/
  | fatal {vs rest start o} : ComesTo run p next t vs rest start → (p.body run start).outcome = o →
      o.isFatal = true → Repeats run p next t o

/-- The outcome of a repetition at a text. -/
def repeated (run : Rule → Text → Run M) (p : Parser M) (next : Text → Option Text) (t : Text) :
    Outcome M :=
  (p.body run t).outcome.andThen fun m =>
    (Run.repeatFrom (fun u => (p.body run u).asCall p u) next t m).outcome

/-! ## Elements and rounds -/

namespace ComesTo

variable {vs : List (Value M)} {rest start rest' : Text} {v : Value M}

/-- Behind the elements that have been read stands a round of the repetition, whose bound is large
enough. -/
theorem repeated_eq (h : ComesTo run p next t vs rest start) :
    ∀ {v rest'}, p.Reads run start v rest' → ∃ n, Text.size rest ≤ n ∧
      repeated run p next t = (Run.further (fun u => (p.body run u).asCall p u) next n
        ((vs ++ [v]).flatMap Value.solidItems) rest rest').outcome := by
  induction h with
  | first =>
      intro v rest' hread
      refine ⟨Text.size t, Nat.le_refl _, ?_⟩
      have hread : (p.body run t).outcome = .matched ⟨v, rest'⟩ := hread
      simp [repeated, hread, Outcome.andThen, Run.repeatFrom]
  | @later vs rest start v rest' start' _ hread hgo ih =>
      intro w rest'' hread'
      obtain ⟨n, hn, heq⟩ := ih hread
      have hsmaller := hgo.smaller
      obtain ⟨n, rfl⟩ : ∃ k, n = k + 1 := ⟨n - 1, by omega⟩
      have hread' : (p.body run start').outcome = .matched ⟨w, rest''⟩ := hread'
      refine ⟨n, by omega, heq.trans ?_⟩
      rw [Run.further, if_pos ⟨hsmaller, hgo.nonempty⟩]
      simp [hgo.next_eq, hread']

theorem repeated_eq_of_fatal (h : ComesTo run p next t vs rest start)
    (hfatal : (p.body run start).outcome.isFatal = true) :
    repeated run p next t = (p.body run start).outcome := by
  cases h with
  | first =>
      rw [repeated]
      cases ho : (p.body run t).outcome with
      | matched m => rw [ho] at hfatal; cases hfatal
      | failed e | aborted a | unfinished => rfl
  | later h hread hgo =>
      obtain ⟨n, hn, heq⟩ := h.repeated_eq hread
      have hsmaller := hgo.smaller
      obtain ⟨n, rfl⟩ : ∃ k, n = k + 1 := ⟨n - 1, by omega⟩
      rw [heq, Run.further, if_pos ⟨hsmaller, hgo.nonempty⟩]
      cases ho : (p.body run start).outcome with
      | matched m => rw [ho] at hfatal; cases hfatal
      | failed e =>
          rw [ho, Outcome.isFatal_failed, Bool.not_eq_true'] at hfatal
          simp [hgo.next_eq, ho, hfatal]
      | aborted a | unfinished => simp [hgo.next_eq, ho]

end ComesTo

/-! ## How a repetition ends -/

theorem Repeats.repeated_eq {o : Outcome M} (h : Repeats run p next t o) :
    repeated run p next t = o := by
  cases h with
  | stops hcomes hread hstop =>
      obtain ⟨n, -, heq⟩ := hcomes.repeated_eq hread
      rw [heq]
      rcases hstop with hsame | hhalts
      · rw [Run.further_of_not_go fun hgo => hsame hgo.1]
        rfl
      · exact hhalts.further_eq n _ _
  | rejects hfail he =>
      have hfail : (p.body run t).outcome = .failed _ := hfail
      rw [repeated, hfail, Outcome.andThen_failed]
  | fatal hcomes ho hfatal =>
      rw [hcomes.repeated_eq_of_fatal (ho ▸ hfatal), ho]

/-- The rounds behind an element that has been read end the repetition in one of its ways. -/
theorem repeats_of_further {n : Nat} : ∀ {vs : List (Value M)} {rest start rest' : Text}
    {v : Value M}, ComesTo run p next t vs rest start → p.Reads run start v rest' →
      Text.size rest ≤ n → Repeats run p next t
        (Run.further (fun u => (p.body run u).asCall p u) next n
          ((vs ++ [v]).flatMap Value.solidItems) rest rest').outcome := by
  induction n with
  | zero =>
      intro vs rest start rest' v hcomes hread hn
      exact .stops hcomes hread (Or.inl (by omega))
  | succ n ih =>
      intro vs rest start rest' v hcomes hread hn
      by_cases hgo : Text.size rest' < Text.size rest ∧ rest' ≠ []
      · rw [Run.further, if_pos hgo]
        cases hnext : next rest' with
        | none => exact .stops hcomes hread (Or.inr (.noStart hnext))
        | some u =>
            have later := hcomes.later hread ⟨hgo.1, hgo.2, hnext⟩
            cases ho : (p.body run u).outcome with
            | matched m =>
                have goes := ih later ho (by omega)
                rw [List.flatMap_append, List.flatMap_singleton] at goes
                simpa only [Run.outcome_asCall, ho, Run.outcome_after] using goes
            | failed e =>
                cases he : e.isRecoverable with
                | true =>
                    simp only [Run.outcome_asCall, ho, he, if_true]
                    exact .stops hcomes hread (Or.inr (.rejects hnext ⟨e, ho, he⟩))
                | false =>
                    simp only [Run.outcome_asCall, ho, he, Bool.false_eq_true, if_false]
                    exact .fatal later ho (by rw [Outcome.isFatal_failed, he]; rfl)
            | aborted a =>
                simp only [Run.outcome_asCall, ho]
                exact .fatal later ho rfl
            | unfinished =>
                simp only [Run.outcome_asCall, ho]
                exact .fatal later ho rfl
      · rw [Run.further_of_not_go hgo]
        refine .stops hcomes hread ?_
        by_cases hlt : Text.size rest' < Text.size rest
        · have hnil : rest' = [] := not_not.mp fun hne => hgo ⟨hlt, hne⟩
          exact Or.inr (hnil ▸ .nothing)
        · exact Or.inl hlt

/-- A repetition ends in one of its ways. -/
theorem repeats_repeated : Repeats run p next t (repeated run p next t) := by
  rw [repeated]
  cases ho : (p.body run t).outcome with
  | matched m =>
      have ends := repeats_of_further (.first : ComesTo run p next t [] t t) ho (Nat.le_refl _)
      rw [List.nil_append, List.flatMap_singleton] at ends
      exact ends
  | failed e =>
      rw [Outcome.andThen_failed]
      cases he : e.isRecoverable with
      | true => exact .rejects ho he
      | false => exact .fatal .first ho (by rw [Outcome.isFatal_failed, he]; rfl)
  | aborted a => exact .fatal .first ho rfl
  | unfinished => exact .fatal .first ho rfl

theorem repeats_iff {o : Outcome M} : Repeats run p next t o ↔ repeated run p next t = o :=
  ⟨Repeats.repeated_eq, fun h => h ▸ repeats_repeated⟩

/-! ## What a repetition reads -/

theorem repeated_eq_matched_iff {w : Value M} {rest' : Text} :
    repeated run p next t = .matched ⟨w, rest'⟩ ↔
      ∃ vs rest start v, ComesTo run p next t vs rest start ∧ p.Reads run start v rest' ∧
        (¬Text.size rest' < Text.size rest ∨ Halts run p next rest') ∧
          w = .sequence ((vs ++ [v]).flatMap Value.solidItems) := by
  rw [← repeats_iff]
  constructor
  · intro h
    cases h with
    | stops hcomes hread hstop => exact ⟨_, _, _, _, hcomes, hread, hstop, rfl⟩
    | fatal _ _ hfatal => cases hfatal
  · rintro ⟨vs, rest, start, v, hcomes, hread, hstop, rfl⟩
    exact .stops hcomes hread hstop

theorem repeated_eq_failed_iff {e : ParseError} (he : e.isRecoverable = true) :
    repeated run p next t = .failed e ↔ p.Fails run t e := by
  rw [← repeats_iff]
  constructor
  · intro h
    cases h with
    | rejects hfail _ => exact hfail
    | fatal _ _ hfatal =>
        rw [Outcome.isFatal_failed, he] at hfatal
        cases hfatal
  · exact fun hfail => .rejects hfail he

theorem repeated_isMismatch_iff : (repeated run p next t).IsMismatch ↔ p.Rejects run t := by
  constructor
  · rintro ⟨e, hfail, he⟩
    exact ⟨e, (repeated_eq_failed_iff he).mp hfail, he⟩
  · rintro ⟨e, hfail, he⟩
    exact ⟨e, (repeated_eq_failed_iff he).mpr hfail, he⟩

theorem repeated_eq_fatal_iff {o : Outcome M} (hfatal : o.isFatal = true) :
    repeated run p next t = o ↔
      ∃ vs rest start, ComesTo run p next t vs rest start ∧ (p.body run start).outcome = o := by
  rw [← repeats_iff]
  constructor
  · intro h
    cases h with
    | stops => cases hfatal
    | rejects _ he =>
        rw [Outcome.isFatal_failed, he] at hfatal
        cases hfatal
    | fatal hcomes ho _ => exact ⟨_, _, _, hcomes, ho⟩
  · rintro ⟨vs, rest, start, hcomes, ho⟩
    exact .fatal hcomes ho hfatal

/-! ## Elements behind separators -/

section Separated

variable {sep : Text}

theorem elementAfter?_eq_some_iff {u : Text} :
    elementAfter? sep t = some u ↔ Text.afterSeparator? sep t = some u ∧ u ≠ [] := by
  unfold elementAfter?
  split
  next c v hsep => simp only [hsep, Option.some.injEq]; grind
  next hno =>
    refine ⟨nofun, fun ⟨hsep, hne⟩ => ?_⟩
    obtain ⟨c, v, rfl⟩ := List.exists_cons_of_ne_nil hne
    exact absurd hsep (hno c v)

/-- A repetition with separators halts where nothing is left, and where behind a separator there is
nothing or no element. -/
theorem halts_elementAfter?_iff : Halts run p (elementAfter? sep) t ↔
    t = [] ∨ ∀ u, Text.afterSeparator? sep t = some u → u = [] ∨ p.Rejects run u := by
  constructor
  · intro h
    cases h with
    | nothing => exact Or.inl rfl
    | noStart hnone =>
        refine Or.inr fun u hu => Or.inl (not_not.mp fun hne => ?_)
        rw [elementAfter?_eq_some_iff.mpr ⟨hu, hne⟩] at hnone
        cases hnone
    | rejects hnext hrej =>
        refine Or.inr fun u hu => Or.inr ?_
        have hsame := (elementAfter?_eq_some_iff.mp hnext).1
        rw [hu, Option.some.injEq] at hsame
        exact hsame ▸ hrej
  · rintro (rfl | h)
    · exact .nothing
    · cases hnext : elementAfter? sep t with
      | none => exact .noStart hnext
      | some u =>
          obtain ⟨hu, hne⟩ := elementAfter?_eq_some_iff.mp hnext
          exact .rejects hnext ((h u hu).resolve_left hne)

end Separated

/-! ## Elements without separators -/

section Unseparated

variable {vs : List (Value M)} {rest start rest' : Text} {v : Value M}

theorem ComesTo.start_eq (h : ComesTo run p some t vs rest start) : start = rest := by
  cases h with
  | first => rfl
  | later _ _ hgo => exact (Option.some.inj hgo.next_eq).symm

theorem halts_some_iff : Halts run p some t ↔ t = [] ∨ p.Rejects run t := by
  constructor
  · intro h
    cases h with
    | nothing => exact Or.inl rfl
    | noStart hnone => cases hnone
    | rejects hnext hrej =>
        cases hnext
        exact Or.inr hrej
  · rintro (rfl | h)
    · exact .nothing
    · exact .rejects rfl h

/-- Behind an element that leaves an end of its text, a repetition stops where nothing is left, where
the same text is left, and where what is left is rejected. -/
theorem stops_iff (suffix : rest' <:+ rest) :
    ¬Text.size rest' < Text.size rest ∨ Halts run p some rest' ↔
      rest' = [] ∨ rest' = rest ∨ p.Rejects run rest' := by
  have same : ¬Text.size rest' < Text.size rest ↔ rest' = rest := by
    constructor
    · exact fun h => Text.eq_of_suffix_of_size_le suffix (Nat.le_of_not_lt h)
    · rintro rfl
      exact Nat.lt_irrefl _
  rw [same, halts_some_iff, or_left_comm]

/-- What a repetition reads is read by a sequence of as many elements, with the same items. -/
theorem ComesTo.reads_seqs (h : ComesTo run p some t vs rest start) :
    ∀ {v rest'}, p.Reads run start v rest' →
      ∃ w, ((List.replicate vs.length p).foldl seq p).Reads run t w rest' ∧
        w.solidItems = (vs ++ [v]).flatMap Value.solidItems ∧
          (vs ≠ [] → w = .sequence ((vs ++ [v]).flatMap Value.solidItems)) := by
  induction h with
  | first => exact fun hread => ⟨_, hread, by simp, fun hne => absurd rfl hne⟩
  | @later vs rest start v rest' start' _ hread hgo ih =>
      intro w rest'' hread'
      cases hgo.next_eq
      obtain ⟨x, hx, hitems, -⟩ := ih hread
      have hall : x.solidItems ++ w.solidItems =
          (vs ++ [v] ++ [w]).flatMap Value.solidItems := by simp [hitems]
      refine ⟨x.join w, ?_, ?_, fun _ => ?_⟩
      · rw [List.length_append, List.length_singleton, List.replicate_succ', List.foldl_append]
        exact hx.seq hread'
      · rw [Value.solidItems_join, hall]
      · rw [Value.join_eq, hall]

/-- Each round calls the element once, and the element leaves fewer characters unless it is the
last. -/
theorem length_calls_further (suffix : ∀ u v s, p.Reads run u v s → s <:+ u) (n : Nat) :
    ∀ (items : List (Value M)) (before rest : Text),
      (Run.further (fun u => (p.body run u).asCall p u) some n items before rest).calls.length ≤
        rest.length := by
  induction n with
  | zero => exact fun _ _ _ => Nat.zero_le _
  | succ n ih =>
      intro items before rest
      by_cases hgo : Text.size rest < Text.size before ∧ rest ≠ []
      · have hpos : 0 < rest.length := List.length_pos_of_ne_nil hgo.2
        rw [Run.further, if_pos hgo]
        cases ho : (p.body run rest).outcome with
        | matched m =>
            have hsuffix := suffix rest m.output m.rest ho
            simp only [Run.outcome_asCall, ho, Run.calls_after, Run.calls_asCall,
              List.length_append, List.length_singleton]
            by_cases hlt : Text.size m.rest < Text.size rest
            · have hless := Text.length_lt_of_suffix hsuffix hlt
              have hcalls := ih (items ++ m.output.solidItems) rest m.rest
              omega
            · rw [Run.further_of_not_go fun hgo' => hlt hgo'.1]
              exact hpos
        | failed e =>
            simp only [Run.outcome_asCall, ho]
            split
            · exact hpos
            · exact hpos
        | aborted a | unfinished =>
            simp only [Run.outcome_asCall, ho]
            exact hpos
      · rw [Run.further_of_not_go hgo]
        exact Nat.zero_le _

theorem length_calls_many (suffix : ∀ u v s, p.Reads run u v s → s <:+ u) (t : Text) :
    ((many p).body run t).calls.length ≤ max 1 t.length := by
  rw [body, Run.onMatch]
  cases ho : (p.body run t).outcome with
  | matched m =>
      simp only [Run.outcome_asCall, ho, Run.calls_after, Run.calls_asCall, List.length_append,
        List.length_singleton, Run.repeatFrom]
      by_cases hlt : Text.size m.rest < Text.size t
      · have hless := Text.length_lt_of_suffix (suffix t m.output m.rest ho) hlt
        have hcalls := length_calls_further suffix (Text.size t) m.output.solidItems t m.rest
        omega
      · rw [Run.further_of_not_go fun hgo => hlt hgo.1]
        exact Nat.le_max_left _ _
  | failed e | aborted a | unfinished =>
      simp only [Run.outcome_asCall, ho]
      exact Nat.le_max_left _ _

/-- A repetition calls nothing but its element. -/
theorem parser_of_mem_calls_many {c : Call M} (h : c ∈ ((many p).body run t).calls) :
    c.parser = p := by
  have element : ∀ u, ((p.body run u).asCall p u).Orderly (fun c => c.parser = p) fun _ => True :=
    fun _ => asCall_orderly rfl
  have orderly : ((many p).body run t).Orderly (fun c => c.parser = p) fun _ => True :=
    (element t).onMatch fun m _ => .repeatFrom element t m
  exact orderly.kind c h

end Unseparated

/-! ## Repetitions in full -/

/-- A repetition with separators is determined by the elements that it comes to.  It matches if and
only if it has read an element behind which it stops: nothing is left, or the element has not made
the rest smaller, or behind a separator there is nothing or no element.  It then leaves the rest as
it is in front of that separator, and puts out the items of all elements in order.  It fails with a
mismatch if and only if the first element does, and says that there is no repetition at the text.
It ends in any other way if and only if an element that it comes to does. -/
theorem separated_exact (run : Rule → Text → Run M) (p : Parser M) (sep t : Text) :
    (∀ w rest', (sepBy p sep).Reads run t w rest' ↔
      ∃ vs rest start v, ComesTo run p (elementAfter? sep) t vs rest start ∧
        p.Reads run start v rest' ∧
        (rest' = [] ∨ ¬Text.size rest' < Text.size rest ∨
          ∀ u, Text.afterSeparator? sep rest' = some u → u = [] ∨ p.Rejects run u) ∧
        w = .sequence ((vs ++ [v]).flatMap Value.solidItems)) ∧
    (∀ e, e.isRecoverable = true → ((sepBy p sep).Fails run t e ↔
      p.Rejects run t ∧ e = .repetition p.expected t)) ∧
    ∀ o, o.isFatal = true → (((sepBy p sep).body run t).outcome = o ↔
      ∃ vs rest start, ComesTo run p (elementAfter? sep) t vs rest start ∧
        (p.body run start).outcome = o) := by
  have houtcome : ((sepBy p sep).body run t).outcome =
      (repeated run p (elementAfter? sep) t).orElse (.failed (.repetition p.expected t)) :=
    outcome_sepBy
  refine ⟨fun w rest' => ?_, fun e he => ?_, fun o ho => ?_⟩
  · rw [Reads, houtcome, Outcome.orElse_failed_eq_matched_iff, repeated_eq_matched_iff]
    simp only [halts_elementAfter?_iff, or_left_comm]
  · rw [Fails, houtcome, Outcome.orElse_failed_eq_failed_iff he, repeated_isMismatch_iff]
  · rw [houtcome, Outcome.orElse_failed_eq_fatal_iff rfl ho, repeated_eq_fatal_iff ho]

/-- A letter in parentheses, or a rule behind a dollar sign. -/
def entry : Parser Unit :=
  .choice (.seq (.literal ['(']) (.seq (.custom [] (Leaf.take [] 1 .token)) (.literal [')'])))
    (.seq (.literal ['$']) (.rule ⟨0, ['r']⟩))

/-- A comma that no entry follows is left, no entry at all is a mismatch of the repetition, and an
entry that ends in a fault behind a comma ends the repetition. -/
theorem separated_exact_dangling :
    let run := RuleBook.empty.resolve 1
    (sepBy entry [',']).Reads run "(a) ,(b),!".toList (.sequence [.token ['a'], .token ['b']])
        [',', '!'] ∧
      (sepBy entry [',']).Fails run ['!'] (.repetition entry.expected ['!']) ∧
      (sepBy entry [',']).Fails run "(a),$".toList (.unbound ['r']) := by
  intro run
  have rejects : entry.Rejects run ['!'] := ⟨_, rfl, rfl⟩
  have first : ∀ u, entry.Reads run (['(', 'a', ')'] ++ u) (.sequence [.token ['a']]) u :=
    fun u => rfl
  refine ⟨((separated_exact run entry [','] _).1 _ _).mpr ?_,
    ((separated_exact run entry [','] _).2.1 _ rfl).mpr ⟨rejects, rfl⟩,
    ((separated_exact run entry [','] _).2.2 _ rfl).mpr ?_⟩
  · refine ⟨[.sequence [.token ['a']]], " ,(b),!".toList, "(b),!".toList, .sequence [.token ['b']],
      .later .first (first _) ⟨by decide, List.cons_ne_nil _ _, rfl⟩, rfl, Or.inr (Or.inr ?_), rfl⟩
    rintro u hu
    cases (show some ['!'] = some u from hu)
    exact Or.inr rejects
  · exact ⟨_, _, ['$'], .later .first (first _) ⟨by decide, List.cons_ne_nil _ _, rfl⟩, rfl⟩

/-- A repetition without separators is determined by the elements that it comes to, which start
where the ones before have stopped; an element leaves an end of its text.  The repetition matches if
and only if it has read an element that has left nothing, or the same rest, or a rest that is
rejected.  It puts out the items of all elements in order, and two elements or more put out what
a sequence of as many puts out.  It fails as the first element does, or with the fault of a later
one.  It calls nothing but the element, and that once for each character at most, or once. -/
theorem repeated_exact {run : Rule → Text → Run M} {p : Parser M}
    (suffix : ∀ u v s, p.Reads run u v s → s <:+ u) (t : Text) :
    (∀ w rest', (many p).Reads run t w rest' ↔
      ∃ vs rest v, ComesTo run p some t vs rest rest ∧ p.Reads run rest v rest' ∧
        (rest' = [] ∨ rest' = rest ∨ p.Rejects run rest') ∧
        w = .sequence ((vs ++ [v]).flatMap Value.solidItems)) ∧
    (∀ vs rest v rest', ComesTo run p some t vs rest rest → p.Reads run rest v rest' → vs ≠ [] →
      ((List.replicate vs.length p).foldl seq p).Reads run t
        (.sequence ((vs ++ [v]).flatMap Value.solidItems)) rest') ∧
    (∀ e, (many p).Fails run t e ↔ p.Fails run t e ∨
      e.isRecoverable = false ∧ ∃ vs rest, ComesTo run p some t vs rest rest ∧
        p.Fails run rest e) ∧
    (∀ c ∈ ((many p).body run t).calls, c.parser = p) ∧
    ((many p).body run t).calls.length ≤ max 1 t.length := by
  have houtcome : ((many p).body run t).outcome = repeated run p some t := outcome_many
  refine ⟨fun w rest' => ?_, fun vs rest v rest' hcomes hread hne => ?_, fun e => ?_,
    fun c => parser_of_mem_calls_many, length_calls_many suffix t⟩
  · rw [Reads, houtcome, repeated_eq_matched_iff]
    constructor
    · rintro ⟨vs, rest, start, v, hcomes, hread, hstop, hw⟩
      cases hcomes.start_eq
      exact ⟨vs, _, v, hcomes, hread, (stops_iff (suffix _ _ _ hread)).mp hstop, hw⟩
    · rintro ⟨vs, rest, v, hcomes, hread, hstop, hw⟩
      exact ⟨vs, rest, rest, v, hcomes, hread, (stops_iff (suffix _ _ _ hread)).mpr hstop, hw⟩
  · obtain ⟨w, hw, -, heq⟩ := hcomes.reads_seqs hread
    exact heq hne ▸ hw
  · rw [Fails, houtcome]
    cases he : e.isRecoverable with
    | true =>
        rw [repeated_eq_failed_iff he]
        constructor
        · exact Or.inl
        · rintro (hfail | ⟨hfault, -⟩)
          · exact hfail
          · cases hfault
    | false =>
        rw [repeated_eq_fatal_iff (by rw [Outcome.isFatal_failed, he]; rfl)]
        constructor
        · rintro ⟨vs, rest, start, hcomes, hfail⟩
          cases hcomes.start_eq
          exact Or.inr ⟨rfl, vs, _, hcomes, hfail⟩
        · rintro (hfail | ⟨-, vs, rest, hcomes, hfail⟩)
          · exact ⟨[], t, t, .first, hfail⟩
          · exact ⟨vs, rest, rest, hcomes, hfail⟩

/-- An `a` with the character behind it, or nothing. -/
def pairOrNothing : Parser Unit :=
  .choice (.seq (.literal ['a']) (.custom [] (Leaf.take [] 1 .token)))
    (.custom [] (Leaf.take [] 0 .token))

/-- The element that reads nothing is the last, and what it puts out is among the items: the
sequence of three puts out the same. -/
theorem repeated_exact_empty_match :
    let run := RuleBook.empty.resolve 1
    let w : Value Unit := .sequence [.token ['x'], .token ['y'], .token []]
    (∀ u v s, pairOrNothing.Reads run u v s → s <:+ u) ∧
      (many pairOrNothing).Reads run "axay!".toList w ['!'] ∧
      (seq (seq pairOrNothing pairOrNothing) pairOrNothing).Reads run "axay!".toList w ['!'] ∧
      ((many pairOrNothing).body run "axay!".toList).calls.length ≤ 5 := by
  intro run w
  have leaves : ∀ x f, RuleBook.empty.Reaches pairOrNothing (.custom x f) →
      ∃ n, f = Leaf.take [] n .token := by
    intro x f hf
    exact hf.of_parts (P := fun q => ∀ x f, q = .custom x f → ∃ n, f = Leaf.take [] n .token)
      (by simpa [pairOrNothing, Parser.parts] using ⟨⟨1, rfl⟩, ⟨0, rfl⟩⟩) (List.forall_mem_nil _)
      x f rfl
  have suffix : ∀ u v s, pairOrNothing.Reads run u v s → s <:+ u := by
    refine fun u v s hread => RuleBook.call_leaves Trailing.suffix ?_ (.refl _) 1 u ⟨v, s⟩ hread
    intro x f hf t m hm
    obtain ⟨n, rfl⟩ := leaves x f hf
    rw [Leaf.take] at hm
    split at hm
    · cases hm
      exact List.drop_suffix n t
    · cases hm
  have hpair : ∀ c u, pairOrNothing.Reads run (['a', c] ++ u) (.sequence [.token [c]]) u :=
    fun c u => rfl
  have hcomes : ComesTo run pairOrNothing some "axay!".toList
      [.sequence [.token ['x']], .sequence [.token ['y']]] ['!'] ['!'] :=
    .later (.later .first (hpair 'x' "ay!".toList) ⟨by decide, List.cons_ne_nil _ _, rfl⟩)
      (hpair 'y' ['!']) ⟨by decide, List.cons_ne_nil _ _, rfl⟩
  have hread : pairOrNothing.Reads run ['!'] (.token []) ['!'] := rfl
  obtain ⟨reads, joined, -, -, calls⟩ := repeated_exact suffix "axay!".toList
  exact ⟨suffix, (reads _ _).mpr ⟨_, _, _, hcomes, hread, Or.inr (Or.inl rfl), rfl⟩,
    joined _ _ _ _ hcomes hread (List.cons_ne_nil _ _), calls⟩

end Parser

end Descent
