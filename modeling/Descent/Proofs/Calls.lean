import Descent.Parse
import Descent.Proofs.Reach

/-!
# The calls of a run

A run records its calls as a tree.  `Call.started` lists the calls of a tree in the order in which
they start, a call before those that it makes.

An outcome is *fatal* when nothing else is tried after it: a fault, a conversion that gives up, or
fuel that runs out.  A run is `Orderly` when only its last call can be fatal, the run then ends as
that call does, and a run that ends otherwise in a fatal way has a reason of its own.  The
combinators of runs keep runs orderly, so the body of every parser is orderly
(`RuleBook.body_orderly`), and that is all that later modules ask of bodies when they speak of
faults.

Whatever starts in a call of a parser is again a call of a parser, one that is reached from the
first (`RuleBook.mem_started_call`).
-/

namespace Descent

variable {M : Type}

/-! ## Calls in the order in which they start -/

namespace Call

def parser : Call M → Parser M
  | .mk p _ _ _ => p

def input : Call M → Text
  | .mk _ t _ _ => t

def calls : Call M → List (Call M)
  | .mk _ _ cs _ => cs

def outcome : Call M → Outcome M
  | .mk _ _ _ o => o

@[simp] theorem parser_mk (p : Parser M) (t : Text) (cs : List (Call M)) (o : Outcome M) :
    (mk p t cs o).parser = p := rfl

@[simp] theorem input_mk (p : Parser M) (t : Text) (cs : List (Call M)) (o : Outcome M) :
    (mk p t cs o).input = t := rfl

@[simp] theorem calls_mk (p : Parser M) (t : Text) (cs : List (Call M)) (o : Outcome M) :
    (mk p t cs o).calls = cs := rfl

@[simp] theorem outcome_mk (p : Parser M) (t : Text) (cs : List (Call M)) (o : Outcome M) :
    (mk p t cs o).outcome = o := rfl

mutual

/-- The calls that start in a call, itself first, in the order in which they start. -/
def started : Call M → List (Call M)
  | mk p t cs o => mk p t cs o :: startedOfList cs

/-- The calls that start in calls, one call after the other. -/
def startedOfList : List (Call M) → List (Call M)
  | [] => []
  | c :: cs => started c ++ startedOfList cs

end

theorem startedOfList_eq (cs : List (Call M)) : startedOfList cs = cs.flatMap started := by
  induction cs with
  | nil => rfl
  | cons c cs ih => rw [startedOfList, ih, List.flatMap_cons]

theorem started_eq (c : Call M) : c.started = c :: c.calls.flatMap started := by
  cases c with
  | mk p t cs o => rw [started, startedOfList_eq, calls_mk]

theorem self_mem_started (c : Call M) : c ∈ c.started := by
  rw [started_eq]
  exact List.mem_cons_self ..

/-- What starts in a call that a call makes, starts in that call. -/
theorem mem_started_of_mem_calls {c d x : Call M} (hd : d ∈ c.calls) (hx : x ∈ d.started) :
    x ∈ c.started := by
  rw [started_eq]
  exact List.mem_cons_of_mem _ (List.mem_flatMap.mpr ⟨d, hd, hx⟩)

/-- Induction on calls: what holds of a call when it holds of those that it makes, holds of all. -/
theorem induction {P : Call M → Prop} (step : ∀ c : Call M, (∀ d ∈ c.calls, P d) → P c) :
    ∀ c, P c
  | mk p t cs o => step (mk p t cs o) fun d hd => by
      have : sizeOf d < sizeOf cs := List.sizeOf_lt_of_mem hd
      exact induction step d
termination_by c => sizeOf c
decreasing_by simp only [mk.sizeOf_spec]; omega

/-- The conversion of the call gives up on what a call of its parser has matched. -/
inductive GivesUp (c : Call M) (a : Abort) : Prop where
  | map {p f d m} : c.parser.unnamed = .map p f → d ∈ c.calls → d.parser = p →
      d.input = c.input → d.outcome = .matched m → f m.output = .error a → GivesUp c a
  | tryMap {p f d m} : c.parser.unnamed = .tryMap p f → d ∈ c.calls → d.parser = p →
      d.input = c.input → d.outcome = .matched m → f m.output = .error (.abort a) → GivesUp c a

end Call

namespace Run

def started (r : Run M) : List (Call M) := r.calls.flatMap Call.started

/-- Going on behind a match takes back none of the calls that led to it. -/
theorem mem_calls_onMatch {r : Run M} {k : Match M → Run M} {c : Call M} (h : c ∈ r.calls) :
    c ∈ (r.onMatch k).calls := by
  unfold onMatch
  split
  · exact List.mem_append_left _ h
  · exact h

theorem mem_calls_onMismatch {r : Run M} {k : ParseError → Run M} {c : Call M} (h : c ∈ r.calls) :
    c ∈ (r.onMismatch k).calls := by
  unfold onMismatch
  split
  · split
    · exact List.mem_append_left _ h
    · exact h
  · exact h

end Run

/-! ## Fatal outcomes -/

namespace Outcome

/-- Whether nothing else is tried after the outcome. -/
def isFatal : Outcome M → Bool
  | matched _ => false
  | failed e => !e.isRecoverable
  | aborted _ => true
  | unfinished => true

@[simp] theorem isFatal_matched (m : Match M) : (matched m).isFatal = false := rfl

@[simp] theorem isFatal_failed (e : ParseError) :
    (failed e : Outcome M).isFatal = !e.isRecoverable := rfl

@[simp] theorem isFatal_aborted (a : Abort) : (aborted a : Outcome M).isFatal = true := rfl

@[simp] theorem isFatal_unfinished : (unfinished : Outcome M).isFatal = true := rfl

end Outcome

/-! ## Orderly runs -/

namespace Run

/-- The calls of the run are of a kind `C`, only the last of them can be fatal, and then the run
ends as that call does.  A fatal end that no call has is one of `O`. -/
structure Orderly (C : Call M → Prop) (O : Outcome M → Prop) (r : Run M) : Prop where
  kind : ∀ c ∈ r.calls, C c
  last : ∀ before c after, r.calls = before ++ c :: after → c.outcome.isFatal = true →
    after = [] ∧ r.outcome = c.outcome
  origin : r.outcome.isFatal = true → (∃ c ∈ r.calls, c.outcome = r.outcome) ∨ O r.outcome

variable {C : Call M → Prop} {O : Outcome M → Prop}

/-- A run that ends at once has no calls to blame for a fatal end. -/
theorem orderly_pure {o : Outcome M} (h : o.isFatal = true → O o) : (pure o).Orderly C O where
  kind _ hc := nomatch hc
  last _ _ _ hs := by cases List.append_eq_nil_iff.mp hs.symm |>.2
  origin ho := Or.inr (h ho)

/-- A single call, which the run ends with, is orderly whatever happens inside. -/
theorem orderly_asCall {p : Parser M} {t : Text} {r : Run M}
    (h : C (.mk p t r.calls r.outcome)) : (r.asCall p t).Orderly C O where
  kind c hc := by
    rw [calls_asCall, List.mem_singleton] at hc
    exact hc ▸ h
  last before c after hs _ := by
    rw [calls_asCall, List.singleton_eq_append_iff] at hs
    rcases hs with ⟨-, hs⟩ | ⟨-, hs⟩
    · cases hs
      exact ⟨rfl, rfl⟩
    · cases hs
  origin _ := Or.inl ⟨_, List.mem_singleton.mpr rfl, rfl⟩

namespace Orderly

theorem mono {r : Run M} {C' : Call M → Prop} {O' : Outcome M → Prop} (h : r.Orderly C O)
    (hC : ∀ c, C c → C' c) (hO : ∀ o, O o → O' o) : r.Orderly C' O' where
  kind c hc := hC c (h.kind c hc)
  last := h.last
  origin ho := (h.origin ho).imp id (hO _)

/-- A call with others behind it is not fatal. -/
theorem calm_of_mem_before {r : Run M} (h : r.Orderly C O) {before after : List (Call M)}
    {c d : Call M} (hsplit : r.calls = before ++ d :: after) (hc : c ∈ before) :
    c.outcome.isFatal = false := by
  cases hfatal : c.outcome.isFatal with
  | false => rfl
  | true =>
      obtain ⟨before, behind, rfl⟩ := List.append_of_mem hc
      have hlast := (h.last before c (behind ++ d :: after) (by simp [hsplit]) hfatal).1
      exact absurd hlast (List.append_ne_nil_of_right_ne_nil _ (List.cons_ne_nil _ _))

/-- An orderly run may go on behind one whose end is not fatal. -/
theorem after {r s : Run M} (hr : r.Orderly C O) (calm : r.outcome.isFatal = false)
    (hs : s.Orderly C O) : (s.after r.calls).Orderly C O where
  kind c hc := by
    rw [calls_after, List.mem_append] at hc
    exact hc.elim (hr.kind c) (hs.kind c)
  last before c after hsplit hc := by
    rw [calls_after, List.append_eq_append_iff] at hsplit
    rcases hsplit with ⟨cs, -, hcs⟩ | ⟨cs, hcalls, hcs⟩
    · exact hs.last cs c after hcs hc
    · cases cs with
      | nil => exact hs.last [] c after hcs.symm hc
      | cons d cs =>
          -- the fatal call would be one of the run in front, which then ends as it does
          obtain ⟨rfl, -⟩ := List.cons.inj hcs
          have hend := (hr.last before c cs hcalls hc).2
          rw [hend, hc] at calm
          cases calm
  origin ho := by
    refine (hs.origin ho).imp ?_ id
    rintro ⟨c, hc, he⟩
    exact ⟨c, List.mem_append_right _ hc, he⟩

/-- A match is not fatal, so a run may go on behind it, and any other end is that of the last call.
-/
theorem onMatch {r : Run M} {k : Match M → Run M} (hr : r.Orderly C O)
    (hk : ∀ m, r.outcome = .matched m → (k m).Orderly C O) : (r.onMatch k).Orderly C O := by
  unfold Run.onMatch
  split
  next m hm => exact hr.after (by rw [hm]; rfl) (hk m hm)
  next => exact hr

/-- A mismatch is not fatal either, so a second run may be tried behind it. -/
theorem onMismatch {r : Run M} {k : ParseError → Run M} (hr : r.Orderly C O)
    (hk : ∀ e, (k e).Orderly C O) : (r.onMismatch k).Orderly C O := by
  unfold Run.onMismatch
  split
  next e he =>
    split
    next hrec => exact hr.after (by rw [he, Outcome.isFatal_failed, hrec]; rfl) (hk e)
    next => exact hr
  next => exact hr

/-- A repetition goes on behind matches and stops at a mismatch, so only its last round can end in a
fatal way. -/
theorem further {element : Text → Run M} {next : Text → Option Text}
    (h : ∀ u, (element u).Orderly C O) (fuel : Nat) :
    ∀ (items : List (Value M)) (before rest : Text),
      (Run.further element next fuel items before rest).Orderly C O := by
  have calm : ∀ m : Match M, (pure (.matched m)).Orderly C O := fun m =>
    orderly_pure fun hm => nomatch hm
  induction fuel with
  | zero => intro items before rest; exact calm _
  | succ fuel ih =>
      intro items before rest
      rw [Run.further]
      split
      next =>
        split
        next => exact calm _
        next u _ =>
          simp only
          split
          next m hm => exact (h u).after (by rw [hm]; rfl) (ih _ _ _)
          next e he =>
            split
            next hrec =>
              simpa [Run.after] using
                (h u).after (by rw [he, Outcome.isFatal_failed, hrec]; rfl)
                  (calm ⟨.sequence items, rest⟩)
            next => exact h u
          next => exact h u
      next => exact calm _

theorem repeatFrom {element : Text → Run M} {next : Text → Option Text}
    (h : ∀ u, (element u).Orderly C O) (t : Text) (m : Match M) :
    (Run.repeatFrom element next t m).Orderly C O := further h _ _ _ _

end Orderly

end Run

/-! ## Calls of parsers -/

namespace Parser

/-- The call of a parser at a text, where `resolve` says how rules are run. -/
def toCall (resolve : Rule → Text → Run M) (p : Parser M) (t : Text) : Call M :=
  .mk p t (p.body resolve t).calls (p.body resolve t).outcome

variable {resolve : Rule → Text → Run M} {p : Parser M} {t : Text}

@[simp] theorem parser_toCall : (p.toCall resolve t).parser = p := rfl

@[simp] theorem input_toCall : (p.toCall resolve t).input = t := rfl

@[simp] theorem calls_toCall : (p.toCall resolve t).calls = (p.body resolve t).calls := rfl

@[simp] theorem outcome_toCall : (p.toCall resolve t).outcome = (p.body resolve t).outcome := rfl

@[simp] theorem outcome_call : (p.call resolve t).outcome = (p.body resolve t).outcome := rfl

theorem started_call : (p.call resolve t).started = (p.toCall resolve t).started := by
  simp [call, Run.started, toCall]

theorem asCall_orderly {C : Call M → Prop} {O : Outcome M → Prop} {q : Parser M} {u : Text}
    (h : C (q.toCall resolve u)) : ((q.body resolve u).asCall q u).Orderly C O :=
  Run.orderly_asCall h

end Parser

namespace RuleBook

variable {b : RuleBook M}

/-- The call fails with an error for a reason of its own: its parser is a rule without a definition,
a custom leaf that says so, or a conversion that rejects what a call of its parser has matched. -/
inductive Raises (b : RuleBook M) (c : Call M) : ParseError → Prop where
  | undefined {r} : c.parser.asRule? = some r → b.definition? r = none →
      Raises b c (.unbound r.name)
  | custom {x f e} : c.parser.unnamed = .custom x f → f c.input = .error e → Raises b c e
  | rejected {p f d m reason} : c.parser.unnamed = .tryMap p f → d ∈ c.calls → d.parser = p →
      d.input = c.input → d.outcome = .matched m → f m.output = .error (.reject reason) →
      Raises b c (.mapping p.expected c.input reason)

/-- The call ends in a fatal way for a reason of its own.  Fuel that has run out is reason enough. -/
inductive Originates (b : RuleBook M) (c : Call M) : Outcome M → Prop where
  | failed {e} : b.Raises c e → Originates b c (.failed e)
  | aborted {a} : c.GivesUp a → Originates b c (.aborted a)
  | unfinished : Originates b c .unfinished

/-- The call is one of a parser that is reached from `p`, with rules no deeper than the fuel. -/
def Below (b : RuleBook M) (fuel : Nat) (p : Parser M) (c : Call M) : Prop :=
  ∃ n ≤ fuel, ∃ q u, b.Reaches p q ∧ c = q.toCall (b.resolve n) u

theorem Below.self (b : RuleBook M) (fuel : Nat) (p : Parser M) (t : Text) :
    b.Below fuel p (p.toCall (b.resolve fuel) t) := ⟨fuel, Nat.le_refl _, p, t, .refl p, rfl⟩

theorem Below.of_part {fuel : Nat} {p q : Parser M} (h : p.Part q) (u : Text) :
    b.Below fuel p (q.toCall (b.resolve fuel) u) :=
  ⟨fuel, Nat.le_refl _, q, u, .of_part h, rfl⟩

theorem Below.trans {m n : Nat} {p q : Parser M} {c : Call M} (hmn : m ≤ n)
    (hq : b.Reaches p q) (h : b.Below m q c) : b.Below n p c := by
  obtain ⟨k, hk, s, u, hs, rfl⟩ := h
  exact ⟨k, Nat.le_trans hk hmn, s, u, hq.trans hs, rfl⟩

end RuleBook

/-! ## Bodies are orderly -/

namespace Leaf

/-- A literal that does not match is a mismatch. -/
theorem isFatal_literal (word t : Text) :
    (Outcome.ofExcept (literal word t) : Outcome M).isFatal = false := by
  unfold literal
  split
  · rfl
  · rfl

/-- So is a pattern. -/
theorem isFatal_pattern (source : Text) (regex : Regex) (t : Text) :
    (Outcome.ofExcept (pattern source regex t) : Outcome M).isFatal = false := by
  unfold pattern
  split
  · rfl
  · rfl

end Leaf

namespace RuleBook

/-- The body of every parser is orderly: its calls are below the parser, the first fatal one ends
it, and where no call is fatal the parser has a reason of its own to end so. -/
theorem body_orderly (b : RuleBook M) (fuel : Nat) (t : Text) : ∀ p : Parser M,
    (p.body (b.resolve fuel) t).Orderly (b.Below fuel p)
      (b.Originates (p.toCall (b.resolve fuel) t))
  | .literal word => by
      refine Run.orderly_pure fun h => ?_
      rw [Leaf.isFatal_literal] at h
      cases h
  | .pattern source regex => by
      refine Run.orderly_pure fun h => ?_
      rw [Leaf.isFatal_pattern] at h
      cases h
  | .custom x f => by
      refine Run.orderly_pure fun h => ?_
      cases hf : f t with
      | ok m => rw [hf] at h; cases h
      | error e => exact .failed (.custom rfl hf)
  | .rule r => by
      cases fuel with
      | zero => exact Run.orderly_pure fun _ => .unfinished
      | succ fuel =>
          rw [Parser.body, resolve]
          cases hd : b.definition? r with
          | none => exact Run.orderly_pure fun _ => .failed (.undefined rfl hd)
          | some d =>
              exact Parser.asCall_orderly
                ⟨fuel, Nat.le_succ fuel, d, t, .of_definition hd, rfl⟩
  | .seq p q => by
      refine (Parser.asCall_orderly (.of_part .seqLeft t)).onMatch fun m _ => ?_
      refine (Parser.asCall_orderly (.of_part .seqRight m.rest)).onMatch fun n _ => ?_
      exact Run.orderly_pure fun h => nomatch h
  | .choice p q => by
      refine (Parser.asCall_orderly (.of_part .choiceLeft t)).onMismatch fun _ => ?_
      refine (Parser.asCall_orderly (.of_part .choiceRight t)).onMismatch fun _ => ?_
      exact Run.orderly_pure fun h => nomatch h
  | .map p f => by
      have hcall : p.toCall (b.resolve fuel) t ∈ ((Parser.map p f).body (b.resolve fuel) t).calls :=
        Run.mem_calls_onMatch (List.mem_singleton.mpr rfl)
      refine (Parser.asCall_orderly (.of_part .map t)).onMatch fun m hm => ?_
      split
      · exact Run.orderly_pure fun h => nomatch h
      next a hf => exact Run.orderly_pure fun _ => .aborted (.map rfl hcall rfl rfl hm hf)
  | .tryMap p f => by
      have hcall : p.toCall (b.resolve fuel) t ∈
          ((Parser.tryMap p f).body (b.resolve fuel) t).calls :=
        Run.mem_calls_onMatch (List.mem_singleton.mpr rfl)
      refine (Parser.asCall_orderly (.of_part .tryMap t)).onMatch fun m hm => ?_
      split
      · exact Run.orderly_pure fun h => nomatch h
      next reason hf =>
        exact Run.orderly_pure fun _ => .failed (.rejected rfl hcall rfl rfl hm hf)
      next a hf => exact Run.orderly_pure fun _ => .aborted (.tryMap rfl hcall rfl rfl hm hf)
  | .optional p => by
      refine (Parser.asCall_orderly (.of_part .optional t)).onMismatch fun _ => ?_
      exact Run.orderly_pure fun h => nomatch h
  | .many p => by
      refine (Parser.asCall_orderly (.of_part .many t)).onMatch fun m _ => ?_
      exact .repeatFrom (fun u => Parser.asCall_orderly (.of_part .many u)) t m
  | .sepBy p sep => by
      refine Run.Orderly.onMismatch ?_ fun _ => Run.orderly_pure fun h => nomatch h
      refine (Parser.asCall_orderly (.of_part .sepBy t)).onMatch fun m _ => ?_
      exact .repeatFrom (fun u => Parser.asCall_orderly (.of_part .sepBy u)) t m
  | .named p name => by
      refine (body_orderly b fuel t p).mono ?_ ?_
      · exact fun c hc => hc.trans (Nat.le_refl _) (.of_part .named)
      · intro o ho
        cases ho with
        | failed h =>
            refine .failed ?_
            cases h with
            | undefined hp hd => exact .undefined hp hd
            | custom hp hf => exact .custom hp hf
            | rejected hp hd hq hi hm hf => exact .rejected hp hd hq hi hm hf
        | aborted h =>
            refine .aborted ?_
            cases h with
            | map hp hd hq hi hm hf => exact .map hp hd hq hi hm hf
            | tryMap hp hd hq hi hm hf => exact .tryMap hp hd hq hi hm hf
        | unfinished => exact .unfinished

/-! ## Everything that starts -/

variable {b : RuleBook M} {fuel : Nat} {p : Parser M}

/-- What a call of a parser makes of its text is an orderly run. -/
theorem Below.orderly {c : Call M} (h : b.Below fuel p c) :
    (⟨c.calls, c.outcome⟩ : Run M).Orderly (b.Below fuel p) (b.Originates c) := by
  obtain ⟨n, hn, q, u, hq, rfl⟩ := h
  exact (body_orderly b n u q).mono (fun _ hc => hc.trans hn hq) fun _ => id

/-- Calls start calls of parsers that are reached, and those are reached from the parser in front
too. -/
theorem Below.of_mem_started :
    ∀ {c : Call M}, b.Below fuel p c → ∀ d ∈ c.started, b.Below fuel p d := by
  intro c
  induction c using Call.induction with
  | step c ih =>
      intro hc d hd
      rw [Call.started_eq, List.mem_cons, List.mem_flatMap] at hd
      rcases hd with rfl | ⟨c', hc', hd⟩
      · exact hc
      · exact ih c' hc' (hc.orderly.kind c' hc') d hd

/-- Whatever starts when a parser is run is a call of a parser that is reached from it. -/
theorem mem_started_call {t : Text} {c : Call M}
    (h : c ∈ (p.call (b.resolve fuel) t).started) : b.Below fuel p c := by
  rw [Parser.started_call] at h
  exact Below.of_mem_started (.self b fuel p t) c h

end RuleBook

end Descent
