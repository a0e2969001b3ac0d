import Descent.Proofs.Calls

/-!
# Faults

A fault is an error that is no mismatch: a rule without a definition has been called, or a
conversion has rejected its value.  `fault_ends_run` says that a fault of any call, at any depth, is
the fault of the whole run, that nothing starts any more once the call has ended, and that every
fault of a run comes from a call with a reason of its own.

Both halves are inductions on the tree of calls.  What one call contributes is that its body is
orderly (`RuleBook.body_orderly`).
-/

namespace Descent

variable {M : Type}

namespace Call

/-- Where a call starts among calls, it starts in one of them, and what starts behind it starts in
that one or in a later one. -/
theorem exists_of_started_eq {c : Call M} {after : List (Call M)} :
    ∀ {cs before : List (Call M)}, cs.flatMap started = before ++ c :: after →
      ∃ cs₁ d cs₂ before' after', cs = cs₁ ++ d :: cs₂ ∧ d.started = before' ++ c :: after' ∧
        after = after' ++ cs₂.flatMap started
  | [], before, h => by simp at h
  | d :: cs, before, h => by
      rw [List.flatMap_cons, List.append_eq_append_iff] at h
      rcases h with ⟨rest, -, hrest⟩ | ⟨rest, hd, hrest⟩
      · obtain ⟨cs₁, d', cs₂, before', after', rfl, hd', ha⟩ := exists_of_started_eq hrest
        exact ⟨d :: cs₁, d', cs₂, before', after', rfl, hd', ha⟩
      · cases rest with
        | nil =>
            have hrest : cs.flatMap started = [] ++ c :: after := hrest.symm
            obtain ⟨cs₁, d', cs₂, before', after', rfl, hd', ha⟩ := exists_of_started_eq hrest
            exact ⟨d :: cs₁, d', cs₂, before', after', rfl, hd', ha⟩
        | cons e rest =>
            obtain ⟨rfl, ha⟩ := List.cons.inj hrest
            exact ⟨[], d, cs, before, rest, rfl, hd, ha⟩

end Call

namespace RuleBook

variable {b : RuleBook M} {fuel : Nat} {p : Parser M}

/-- A fatal call ends every call that it starts in, and nothing starts in that call behind it but
what it starts itself. -/
theorem Below.ends_at_fatal : ∀ {c : Call M}, b.Below fuel p c → ∀ {before d after},
    c.started = before ++ d :: after → d.outcome.isFatal = true →
      c.outcome = d.outcome ∧ after = d.calls.flatMap Call.started := by
  intro c
  induction c using Call.induction with
  | step c ih =>
      intro hc before d after hsplit hd
      rw [Call.started_eq] at hsplit
      cases before with
      | nil =>
          obtain ⟨rfl, rfl⟩ := List.cons.inj hsplit
          exact ⟨rfl, rfl⟩
      | cons _ before =>
          obtain ⟨cs₁, c', cs₂, before', after', hcs, hstarted, rfl⟩ :=
            Call.exists_of_started_eq (List.cons.inj hsplit).2
          have hmem : c' ∈ c.calls := by
            rw [hcs]
            exact List.mem_append_right _ (List.mem_cons_self ..)
          obtain ⟨houtcome, rfl⟩ := ih c' hmem (hc.orderly.kind c' hmem) hstarted hd
          -- the fatal end of `c'` is that of the call around it, in which nothing follows
          obtain ⟨rfl, hend⟩ := hc.orderly.last cs₁ c' cs₂ hcs (houtcome ▸ hd)
          exact ⟨hend.trans houtcome, List.append_nil _⟩

/-- A call that fails with a fault starts a call with a reason of its own for that fault. -/
theorem Below.exists_raises : ∀ {c : Call M}, b.Below fuel p c → ∀ {e : ParseError},
    c.outcome = .failed e → e.isRecoverable = false →
      ∃ d ∈ c.started, d.outcome = .failed e ∧ b.Raises d e := by
  intro c
  induction c using Call.induction with
  | step c ih =>
      intro hc e he hfault
      have hfatal : c.outcome.isFatal = true := by
        rw [he, Outcome.isFatal_failed, hfault]
        rfl
      rcases hc.orderly.origin hfatal with ⟨c', hc', hend⟩ | hown
      · obtain ⟨d, hd, hraise⟩ := ih c' hc' (hc.orderly.kind c' hc') (hend.trans he) hfault
        exact ⟨d, Call.mem_started_of_mem_calls hc' hd, hraise⟩
      · rw [he] at hown
        cases hown with
        | failed hraise => exact ⟨c, c.self_mem_started, he, hraise⟩

end RuleBook

/-- A fault of any call is the fault of the run, and nothing starts behind that call but what it
starts itself; a fault of the run is that of a call with a reason of its own. -/
theorem fault_ends_run (b : RuleBook M) (fuel : Nat) (p : Parser M) (t : Text) :
    (∀ before c after e, (p.call (b.resolve fuel) t).started = before ++ c :: after →
      c.outcome = .failed e → e.isRecoverable = false →
        (p.call (b.resolve fuel) t).outcome = .failed e ∧
          after = c.calls.flatMap Call.started) ∧
    ∀ e, (p.call (b.resolve fuel) t).outcome = .failed e → e.isRecoverable = false →
      ∃ c ∈ (p.call (b.resolve fuel) t).started, c.outcome = .failed e ∧ b.Raises c e := by
  have below := RuleBook.Below.self b fuel p t
  rw [Parser.started_call]
  constructor
  · intro before c after e hsplit hc hfault
    have hfatal : c.outcome.isFatal = true := by
      rw [hc, Outcome.isFatal_failed, hfault]
      rfl
    obtain ⟨hend, hafter⟩ := below.ends_at_fatal hsplit hfatal
    exact ⟨hend.trans hc, hafter⟩
  · intro e he hfault
    exact below.exists_raises he hfault

/-- An `a` followed by a `b` or by a rule `r`, once or more or not at all. -/
def pairsOrNothing : Parser Unit :=
  .optional (.many (.seq (.literal ['a']) (.choice (.literal ['b']) (.rule ⟨0, ['r']⟩))))

/-- Without a definition of `r`, the second pair of `abac` is a fault: the choice, the repetition
and the option around it give it on, and the call of `r` is the last that starts. -/
theorem fault_ends_run_undefined_rule :
    let run := pairsOrNothing.call (RuleBook.empty.resolve 1) ['a', 'b', 'a', 'c']
    run.outcome = .failed (.unbound ['r']) ∧
      (∃ before c, run.started = before ++ [c] ∧ c.outcome = .failed (.unbound ['r'])) ∧
      ∃ c ∈ run.started, c.outcome = .failed (.unbound ['r']) ∧
        RuleBook.empty.Raises c (.unbound ['r']) := by
  intro run
  have hsplit : run.started = run.started.take 10 ++
      [Parser.toCall (RuleBook.empty.resolve 1) (.rule ⟨0, ['r']⟩) ['c']] := rfl
  have hends := fault_ends_run RuleBook.empty 1 pairsOrNothing ['a', 'b', 'a', 'c']
  obtain ⟨houtcome, -⟩ := hends.1 _ _ [] _ hsplit rfl rfl
  exact ⟨houtcome, ⟨_, _, hsplit, rfl⟩, hends.2 _ houtcome rfl⟩

end Descent
