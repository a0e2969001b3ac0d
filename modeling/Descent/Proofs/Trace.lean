import Descent.Proofs.Faults
import Descent.Proofs.Growth

/-!
# The log of calls

A call with a result is logged as a *block*: a line as it starts, the blocks of the calls that it
makes one step to the right, and a line as it ends (`Log.Block`).  A call that a conversion cuts
short has no line at its end, and neither have the calls around it up to the first (`Log.Cut`).
These are the calls that are unwound.  Blocks are made of the texts of the lines, as they are
written out in `Log.callText`.

The lines are written with a counter for the depth.  The counter comes back to where it was whatever
happens in the call (`Log.depth_writeCall`), so lines that are written with it are lines at the depth
of the call (`Log.lines_writeCall`).  That a call with a result has none inside that is cut short is
left to the order of calls (`RuleBook.Below.ends_at_fatal`).

Sessions start at depth zero and stay there, so what a step logs of a run is at depth zero
(`Session.Runs.log_step`).  What a step answers and where it leads does not depend on the level of
the log, and less is logged at a lower level by leaving lines out (`Leveled.step`).
-/

namespace Descent

variable {M : Type}

/-! ## Blocks of lines -/

/-- Whether a run ends with a match or an error. -/
def Outcome.isResult : Outcome M → Bool
  | matched _ => true
  | failed _ => true
  | aborted _ => false
  | unfinished => false

theorem Outcome.isResult_of_not_isFatal {o : Outcome M} (h : o.isFatal = false) :
    o.isResult = true := by
  cases o with
  | matched m => rfl
  | failed e => rfl
  | aborted a => cases h
  | unfinished => cases h

namespace Log

/-- The text of a line of a call: the level, the text that the parser is run at in a field of its
own, two spaces for each step of the depth, the label filled up to twenty-five characters, and what
happens. -/
def callText (depth : Nat) (t label what : Text) : Text :=
  "TRACE ".toList ++ t.clipped ++ [' '] ++ List.replicate (2 * depth) ' ' ++ label ++
    List.replicate (25 - label.length) ' ' ++ [' '] ++ what

/-- The text of the line that a call starts. -/
def startText (depth : Nat) (c : Call M) : Text := callText depth c.input c.parser.label ['?']

mutual

/-- The lines of a call with a result: it starts, the calls that it makes are logged one step
deeper, and it ends. -/
inductive Block : (depth : Nat) → Call M → List Text → Prop where
  | matched {depth c m inner} : c.outcome = .matched m → Blocks (depth + 1) c.calls inner →
      Block depth c (startText depth c :: (inner ++ [callText depth m.rest c.parser.label
        ("-> ".toList ++ bracketed (m.output.tokens.map Text.quoted))]))
  | failed {depth c e inner} : c.outcome = .failed e → Blocks (depth + 1) c.calls inner →
      Block depth c (startText depth c :: (inner ++ [callText depth c.input c.parser.label
        ("!! ".toList ++ e.debugText)]))

/-- The lines of calls in order, each a block of its own. -/
inductive Blocks : (depth : Nat) → List (Call M) → List Text → Prop where
  | nil {depth} : Blocks depth [] []
  | cons {depth c cs lines others} : Block depth c lines → Blocks depth cs others →
      Blocks depth (c :: cs) (lines ++ others)

end

/-- The lines of a call that a conversion cuts short, and the path of calls that are unwound, the
outermost first: the conversion is that of the call itself, or of the last call that it makes. -/
inductive Cut (a : Abort) : (depth : Nat) → Call M → List Text → (path : List (Call M)) → Prop where
  | here {depth c inner} : c.outcome = .aborted a → c.GivesUp a →
      Blocks (depth + 1) c.calls inner → Cut a depth c (startText depth c :: inner) [c]
  | inside {depth c before d inner lines path} : c.outcome = .aborted a →
      c.calls = before ++ [d] → Blocks (depth + 1) before inner →
      Cut a (depth + 1) d lines path →
      Cut a depth c (startText depth c :: (inner ++ lines)) (c :: path)

/-! ## The depth -/

mutual

/-- The depth behind a call is that in front. -/
theorem depth_writeCall (depth : Nat) : ∀ c : Call M, (writeCall depth c).2 = depth
  | .mk p t calls outcome => by
      simp only [writeCall, depth_writeCalls (depth + 1) calls, Nat.add_sub_cancel]

theorem depth_writeCalls (depth : Nat) : ∀ cs : List (Call M), (writeCalls depth cs).2 = depth
  | [] => rfl
  | c :: cs => by
      simp only [writeCalls, depth_writeCall depth c, depth_writeCalls depth cs]

end

theorem lines_writeCalls (depth : Nat) (cs : List (Call M)) :
    (writeCalls depth cs).1 = cs.flatMap fun c => (writeCall depth c).1 := by
  induction cs with
  | nil => rfl
  | cons c cs ih => simp [writeCalls, depth_writeCall, ih]

theorem lines_writeCall (depth : Nat) (c : Call M) :
    (writeCall depth c).1 = callLine depth c.input c.parser.label ['?'] ::
      ((c.calls.flatMap fun d => (writeCall (depth + 1) d).1) ++
        endLine depth c.parser c.input c.outcome) := by
  cases c with
  | mk p t calls outcome => simp [writeCall, depth_writeCalls, lines_writeCalls]

/-- The texts of the lines of a call at its depth. -/
def texts (depth : Nat) (c : Call M) : List Text := (writeCall depth c).1.map Line.text

theorem texts_eq (depth : Nat) (c : Call M) :
    texts depth c = startText depth c :: ((c.calls.flatMap (texts (depth + 1))) ++
      (endLine depth c.parser c.input c.outcome).map Line.text) := by
  rw [texts, lines_writeCall, List.map_cons, List.map_append, List.map_flatMap, text_callLine]
  rfl

theorem depth_ofRun (level : Level) (depth : Nat) (r : Run M) :
    (ofRun level depth r).2 = depth := by
  cases level with
  | off => rfl
  | debug => rfl
  | trace => exact depth_writeCalls depth r.calls

theorem isTrace_of_mem_endLine {depth : Nat} {p : Parser M} {t : Text} {o : Outcome M} {l : Line}
    (h : l ∈ endLine depth p t o) : l.isTrace = true := by
  cases o with
  | matched m => exact List.mem_singleton.mp h ▸ rfl
  | failed e => exact List.mem_singleton.mp h ▸ rfl
  | aborted a => cases h
  | unfinished => cases h

/-- All lines of a call tell of calls. -/
theorem isTrace_of_mem_writeCall : ∀ {c : Call M} {depth : Nat},
    ∀ l ∈ (writeCall depth c).1, l.isTrace = true := by
  intro c
  induction c using Call.induction with
  | step c ih =>
      intro depth l hl
      rw [lines_writeCall, List.mem_cons, List.mem_append, List.mem_flatMap] at hl
      rcases hl with rfl | ⟨d, hd, hl⟩ | hl
      · rfl
      · exact ih d hd l hl
      · exact isTrace_of_mem_endLine hl

/-! ## Calls with a result -/

theorem blocks_of_forall {depth : Nat} {cs : List (Call M)}
    (h : ∀ c ∈ cs, Block depth c (texts depth c)) :
    Blocks depth cs (cs.flatMap (texts depth)) := by
  induction cs with
  | nil => exact .nil
  | cons c cs ih =>
      exact .cons (h c (List.mem_cons_self ..)) (ih fun d hd => h d (List.mem_cons_of_mem _ hd))

/-- A call is logged in a block if all that starts in it has a result. -/
theorem block_of_started : ∀ {c : Call M} {depth : Nat},
    (∀ d ∈ c.started, d.outcome.isResult = true) → Block depth c (texts depth c) := by
  intro c
  induction c using Call.induction with
  | step c ih =>
      intro depth h
      have inner : Blocks (depth + 1) c.calls _ := blocks_of_forall fun d hd =>
        ih d hd fun x hx => h x (Call.mem_started_of_mem_calls hd hx)
      have hc := h c c.self_mem_started
      rw [texts_eq]
      cases ho : c.outcome with
      | matched m =>
          rw [endLine, List.map_singleton, text_callLine]
          exact .matched ho inner
      | failed e =>
          rw [endLine, List.map_singleton, text_callLine]
          exact .failed ho inner
      | aborted a | unfinished =>
          rw [ho] at hc
          cases hc

end Log

namespace RuleBook

variable {b : RuleBook M} {fuel : Nat} {p : Parser M}

/-- All that starts in a call with a result has a result. -/
theorem Below.isResult_of_mem_started {c d : Call M} (hc : b.Below fuel p c)
    (h : c.outcome.isResult = true) (hd : d ∈ c.started) : d.outcome.isResult = true := by
  cases hfatal : d.outcome.isFatal with
  | true =>
      obtain ⟨before, after, hsplit⟩ := List.append_of_mem hd
      exact (hc.ends_at_fatal hsplit hfatal).1 ▸ h
  | false => exact Outcome.isResult_of_not_isFatal hfatal

theorem Below.block {c : Call M} (hc : b.Below fuel p c) (h : c.outcome.isResult = true)
    (depth : Nat) : Log.Block depth c (Log.texts depth c) :=
  Log.block_of_started fun _ hd => hc.isResult_of_mem_started h hd

theorem Below.blocks {cs : List (Call M)} (hcs : ∀ c ∈ cs, b.Below fuel p c)
    (h : ∀ c ∈ cs, c.outcome.isResult = true) (depth : Nat) :
    Log.Blocks depth cs (cs.flatMap (Log.texts depth)) :=
  Log.blocks_of_forall fun c hc => (hcs c hc).block (h c hc) depth

/-- Of the calls that start in calls with a result, all have one. -/
theorem Below.filter_started {cs : List (Call M)} (hcs : ∀ c ∈ cs, b.Below fuel p c)
    (h : ∀ c ∈ cs, c.outcome.isResult = true) :
    (cs.flatMap Call.started).filter (fun d => !d.outcome.isResult) = [] := by
  rw [List.filter_eq_nil_iff]
  intro d hd
  obtain ⟨c, hc, hd⟩ := List.mem_flatMap.mp hd
  rw [(hcs c hc).isResult_of_mem_started (h c hc) hd]
  exact nofun

/-- The calls without a result that start in a call that a conversion cuts short are those on the
path to that conversion. -/
theorem Below.cut : ∀ {c : Call M}, b.Below fuel p c → ∀ {a : Abort} (depth : Nat),
    c.outcome = .aborted a → Log.Cut a depth c (Log.texts depth c)
      (c.started.filter fun d => !d.outcome.isResult) := by
  intro c
  induction c using Call.induction with
  | step c ih =>
      intro hc a depth hout
      have hend : Log.endLine depth c.parser c.input c.outcome = [] := by rw [hout]; rfl
      rw [Log.texts_eq, hend, List.map_nil, List.append_nil, Call.started_eq,
        List.filter_cons_of_pos (by rw [hout]; rfl)]
      by_cases hfatal : ∃ d ∈ c.calls, d.outcome.isFatal = true
      · -- the fatal call is the last, and the conversion is at the end of the path from there
        obtain ⟨d, hd, hdfatal⟩ := hfatal
        obtain ⟨before, after, hsplit⟩ := List.append_of_mem hd
        obtain ⟨rfl, hsame⟩ := hc.orderly.last before d after hsplit hdfatal
        have below : ∀ x ∈ before, b.Below fuel p x := fun x hx =>
          hc.orderly.kind x (by rw [hsplit]; exact List.mem_append_left _ hx)
        have results : ∀ x ∈ before, x.outcome.isResult = true := fun x hx =>
          Outcome.isResult_of_not_isFatal (hc.orderly.calm_of_mem_before hsplit hx)
        have inside := ih d hd (hc.orderly.kind d hd) (depth + 1) (hsame.symm.trans hout)
        rw [hsplit, List.flatMap_append, List.flatMap_append, List.filter_append,
          Below.filter_started below results, List.flatMap_singleton, List.flatMap_singleton]
        exact .inside hout hsplit (Below.blocks below results (depth + 1)) inside
      · have results : ∀ d ∈ c.calls, d.outcome.isResult = true := fun d hd =>
          Outcome.isResult_of_not_isFatal (Bool.eq_false_iff.mpr fun h => hfatal ⟨d, hd, h⟩)
        rw [Below.filter_started hc.orderly.kind results]
        refine .here hout ?_ (Below.blocks hc.orderly.kind results (depth + 1))
        rcases hc.orderly.origin (by rw [hout]; rfl) with ⟨d, hd, hsame⟩ | hown
        · have hd' : d.outcome = .aborted a := hsame.trans hout
          exact absurd ⟨d, hd, by rw [hd']; rfl⟩ hfatal
        · rw [hout] at hown
          cases hown with
          | aborted h => exact h

end RuleBook

/-! ## Levels -/

/-- Of the lines of a run a level keeps those that it writes. -/
theorem Log.keep_ofRun (level : Level) (depth : Nat) (r : Run M) :
    level.keep (ofRun .trace depth r).1 = (ofRun level depth r).1 := by
  cases level with
  | off => rfl
  | debug =>
      refine List.filter_eq_nil_iff.mpr fun l hl => ?_
      rw [ofRun, lines_writeCalls] at hl
      obtain ⟨c, -, hl⟩ := List.mem_flatMap.mp hl
      rw [isTrace_of_mem_writeCall l hl]
      exact nofun
  | trace => rfl

/-- The reply with as much of its log as a level keeps. -/
def Reply.atLevel (r : Reply M) (level : Log.Level) : Reply M := { r with log := level.keep r.log }

/-- A reply to a session at a level is the full reply with the part of the log that the level keeps,
and leads to the depth of the session. -/
structure Leveled (s : Session M) (level : Log.Level) (r full : Reply M) : Prop where
  eq : r = full.atLevel level
  depth : full.session.depth = s.depth

namespace Leveled

variable {s : Session M} {level : Log.Level}

theorem of_log {answer : Answer M} {lines : List Log.Line} {s' : Session M}
    (h : s'.depth = s.depth) :
    Leveled s level ⟨answer, level.keep lines, s'⟩ ⟨answer, lines, s'⟩ := ⟨rfl, h⟩

theorem silent {answer : Answer M} {s' : Session M} (h : s'.depth = s.depth) :
    Leveled s level ⟨answer, [], s'⟩ ⟨answer, [], s'⟩ where
  eq := by cases level <;> rfl
  depth := h

theorem withKept {α : Type} {id : Text} {kept : Option α} {k full : α → Reply M}
    (h : ∀ a, Leveled s level (k a) (full a)) :
    Leveled s level (s.withKept id kept k) (s.withKept id kept full) := by
  unfold Session.withKept
  split
  · exact h _
  · exact silent rfl

theorem withBuilt {recipe : Recipe M} {k full : Parser M → Reply M}
    (h : ∀ p, Leveled s level (k p) (full p)) :
    Leveled s level (s.withBuilt recipe k) (s.withBuilt recipe full) := by
  unfold Session.withBuilt
  split
  · exact h _
  · exact silent rfl

theorem define (handle d : Parser M) :
    Leveled s level (s.define level handle d) (s.define .trace handle d) := by
  unfold Session.define
  split
  · exact silent rfl
  · exact of_log rfl

theorem sealAs (p : Parser M) (target : Text) :
    Leveled s level (s.sealAs level p target) (s.sealAs .trace p target) := by
  unfold Session.sealAs
  split
  · exact silent rfl
  · exact of_log rfl

theorem reply {s' : Session M} (h : s'.depth = s.depth) (r : Run M) :
    Leveled s level (s'.reply level r) (s'.reply .trace r) where
  eq := by
    simp only [Session.reply, Reply.atLevel, Log.depth_ofRun, Log.keep_ofRun]
  depth := (Log.depth_ofRun .trace s'.depth r).trans h

theorem step (s : Session M) (level : Log.Level) :
    ∀ st : Step M, Leveled s level (s.step level st) (s.step .trace st)
  | .build _ _ => withBuilt fun _ => silent rfl
  | .declare _ _ => silent rfl
  | .define _ _ => withBuilt fun d => withKept fun p => define p d
  | .info _ => withKept fun _ => silent rfl
  | .seal _ target => withKept fun p => sealAs p target
  | .unseal _ _ => withKept fun _ => silent rfl
  | .parse _ _ => withKept fun _ => reply rfl _
  | .parseGrammar _ _ => withKept fun _ => reply rfl _
  | .setCursor _ => silent rfl
  | .next _ => by
      refine withKept fun p => ?_
      simp only
      split
      · exact reply (by rfl) _
      · exact reply rfl _

end Leveled

namespace Session

/-- What steps answer and where they lead is the same at all levels, and of the log a level keeps
its part. -/
theorem steps_eq_atLevel {level : Log.Level} (sts : List (Step M)) : ∀ s : Session M,
    s.steps level sts = (s.steps .trace sts).map fun r => r.atLevel level := by
  induction sts with
  | nil => exact fun _ => rfl
  | cons st sts ih =>
      intro s
      rw [steps, steps, (Leveled.step s level st).eq, List.map_cons]
      exact congrArg _ (ih _)

theorem Leads.depth_eq {s s' : Session M} (h : s.Leads s') : s'.depth = s.depth := by
  induction h with
  | refl => rfl
  | @step s' level st _ ih =>
      have leveled := Leveled.step s' level st
      rw [leveled.eq]
      exact leveled.depth.trans ih

/-! ## Steps that run a parser -/

/-- The step runs the parser at the text. -/
inductive Runs (s : Session M) : Step M → Parser M → Text → Prop where
  | parse {id p t} : s.parser? id = some p → Runs s (.parse id t) p t
  | parseGrammar {id g t} : s.grammar? id = some g → Runs s (.parseGrammar id t) g.root t
  | next {id p} : s.parser? id = some p → Runs s (.next id) p s.cursor

variable {s : Session M} {st : Step M} {p : Parser M} {t : Text}

/-- Whatever runs a parser logs the run from the depth of the session on, and answers its
outcome. -/
theorem Runs.log_step (h : s.Runs st p t) (level : Log.Level) :
    (s.step level st).log = (Log.ofRun level s.depth (s.book.run p t)).1 ∧
      (s.step level st).answer = .outcome (s.book.parse p t) := by
  cases h with
  | parse hp =>
      rw [step, hp]
      exact ⟨rfl, rfl⟩
  | parseGrammar hg =>
      rw [step, hg]
      exact ⟨rfl, rfl⟩
  | next hp =>
      -- A match moves the cursor on, which the log does not depend on.
      rw [step, hp]
      simp only [withKept]
      split
      · exact ⟨rfl, rfl⟩
      · exact ⟨rfl, rfl⟩

end Session

/-- The calls of a run are logged as they are nested.  The depth comes back to where it was.  A run
with a match or an error is a block of lines.  In a run that a conversion cuts short, the calls
without a line at their end are those on the path to the conversion.  Every session stays at depth
zero, and each step of it that runs a parser logs the run at that depth and answers its outcome.
What steps answer and where they lead does not depend on the level of the log: `off` has no lines,
and `debug` those of the trace that do not tell of calls. -/
theorem trace_nested (b : RuleBook M) (fuel : Nat) (p : Parser M) (t : Text) (depth : Nat) :
    let c := p.toCall (b.resolve fuel) t
    let log := Log.ofRun .trace depth (p.call (b.resolve fuel) t)
    log.2 = depth ∧
    ((∃ m, c.outcome = .matched m) ∨ (∃ e, c.outcome = .failed e) →
      Log.Block depth c (log.1.map Log.Line.text)) ∧
    (∀ a, c.outcome = .aborted a → Log.Cut a depth c (log.1.map Log.Line.text)
      (c.started.filter fun d => (Log.endLine depth d.parser d.input d.outcome).isEmpty)) ∧
    (∀ s : Session M, Session.start.Leads s → s.depth = 0 ∧
      ∀ (st : Step M) (q : Parser M) (u : Text), s.Runs st q u → ∀ level,
        (s.step level st).log = (Log.ofRun level 0 (s.book.run q u)).1 ∧
          (s.step level st).answer = .outcome (s.book.parse q u)) ∧
    ∀ (s : Session M) (sts : List (Step M)),
      s.steps .off sts = (s.steps .trace sts).map (fun r => ⟨r.answer, [], r.session⟩) ∧
      s.steps .debug sts = (s.steps .trace sts).map fun r =>
        ⟨r.answer, r.log.filter fun l => !"TRACE ".toList.isPrefixOf l.text, r.session⟩ := by
  intro c log
  have below := RuleBook.Below.self b fuel p t
  have hlines : log.1.map Log.Line.text = Log.texts depth c := by
    simp [log, Log.texts, Log.ofRun, Log.lines_writeCalls, Parser.call, c, Parser.toCall]
  have hends : ∀ d : Call M,
      (Log.endLine depth d.parser d.input d.outcome).isEmpty = !d.outcome.isResult := by
    intro d
    cases ho : d.outcome <;> rfl
  refine ⟨Log.depth_ofRun .trace depth _, fun h => ?_, fun a ha => ?_,
    fun s hs => ⟨hs.depth_eq, fun st q u hruns level => ?_⟩,
    fun s sts => ⟨Session.steps_eq_atLevel sts s, ?_⟩⟩
  · have hresult : c.outcome.isResult = true := by
      rcases h with ⟨m, hm⟩ | ⟨e, he⟩
      · rw [hm, Outcome.isResult]
      · rw [he, Outcome.isResult]
    exact hlines ▸ below.block hresult depth
  · simp only [hends]
    exact hlines ▸ below.cut depth ha
  · have hdepth : s.depth = 0 := hs.depth_eq
    exact hdepth ▸ hruns.log_step level
  · simp only [← Log.Line.isTrace_eq]
    exact Session.steps_eq_atLevel sts s

/-- An `a` and a `b`, where the `b` is never converted. -/
def unconverted : Parser Unit :=
  .seq (.literal ['a']) (.map (.literal ['b']) fun _ => .error ⟨"no".toList⟩)

/-- At `ab` the sequence and the conversion have no line at their end, while the words in front of
and inside the conversion have one.  At `ax` the conversion is not reached, and all calls end.  In a
session that keeps the parser, the first line of a step that runs it is not indented. -/
theorem trace_nested_unconverted :
    let call := fun t => unconverted.toCall (RuleBook.empty.resolve 1) t
    let log := fun t =>
      Log.ofRun .trace 2 (unconverted.call (RuleBook.empty.resolve 1) t)
    let kept := (Session.start.step .off (.build ['p']
      (.seq (.literal ['a']) (.map (.literal ['b']) fun _ => .error ⟨"no".toList⟩)))).session
    let reply := kept.step .trace (.parse ['p'] ['a', 'b'])
    (∃ d, Log.Cut ⟨"no".toList⟩ 2 (call ['a', 'b']) ((log ['a', 'b']).1.map Log.Line.text)
        [call ['a', 'b'], d] ∧ d.input = ['b']) ∧
      (log ['a', 'b']).1.length = 6 ∧ (log ['a', 'b']).2 = 2 ∧
      Log.Block 2 (call ['a', 'x']) ((log ['a', 'x']).1.map Log.Line.text) ∧
      reply.log = (Log.ofRun .trace 0 (kept.book.run unconverted ['a', 'b'])).1 ∧
      (reply.log.map Log.Line.text).head? =
        some "TRACE |ab|                                a + b                     ?".toList := by
  intro call log kept reply
  obtain ⟨hdepth, -, hcut, steps, -⟩ := trace_nested RuleBook.empty 1 unconverted ['a', 'b'] 2
  obtain ⟨-, hblock, -⟩ := trace_nested RuleBook.empty 1 unconverted ['a', 'x'] 2
  obtain ⟨-, hlog⟩ := steps kept (.step .off _ (.refl _))
  exact ⟨⟨_, hcut _ rfl, rfl⟩, rfl, hdepth, hblock (Or.inr ⟨_, rfl⟩),
    (hlog _ unconverted ['a', 'b'] (.parse rfl) .trace).1, rfl⟩

end Descent
