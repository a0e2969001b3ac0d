import Descent.Proofs.Enclosed
import Descent.Proofs.Readings

/-!
# Where patterns match

A pattern is anchored by text put around it.  What it reads is a piece of the text behind the
blanks, but whether the piece is at the front depends on how the whole is read
(`Parser.pattern_at_front`).  Where the text of the pattern is an expression by itself, the anchor
stands in front of all of it and nothing is skipped.  Where the text closes the group around it and
opens another one, the anchor may stand in front of one alternative only (`Parser.pattern_skips`).

The pattern of a compiled expression is made from the text of the expression.  It reads just what
the text alone, compiled without options, finds at the front (`Parser.ofRegex_at_front`).  So what
an option adds is lost.  There is such a pattern wherever the text leaves room for the group around
it (`Regex.Enclosable`), but a text that ends in a comment has none, since the comment takes the
parenthesis that should close the group (`Parser.ofRegex_not_written`).
-/

namespace Descent

/-- What is found with the start of the text in front of a program is what the program finds there
without skipping anything. -/
theorem Regex.Program.find?_fromStart_eq_some_iff {p : Program} {t token rest : Text} :
    p.fromStart.find? t = some (token, rest) ↔ p.find? t = some (token, rest) ∧
      t = token ++ rest := by
  constructor
  · intro h
    refine ⟨?_, p.anchored_fromStart.front h⟩
    rw [find?_fromStart] at h
    obtain ⟨n, hn, hcut⟩ := Option.map_eq_some_iff.mp h
    rw [find?, findFrom?.eq_def, hn]
    exact congrArg some hcut
  · rintro ⟨h, ht⟩
    rw [find?_fromStart]
    rw [find?, findFrom?.eq_def] at h
    cases hn : p.matchLength? none t with
    | some n => rwa [hn] at h
    | none =>
        rw [hn] at h
        cases t with
        | nil => cases h
        | cons c t =>
            -- A match further on leaves out the first character.
            have hlength := (suffix_of_findFrom? h).length_le
            rw [← ht, List.length_cons] at hlength
            exact absurd hlength (Nat.not_succ_le_self _)

namespace Parser

variable {M : Type} {run : Rule → Text → Run M}

theorem ofPattern_eq_ok_iff {source : Text} {p : Parser M} :
    ofPattern source = .ok p ↔
      ∃ regex, Regex.compile (Regex.anchored source) = .ok regex ∧ p = .pattern source regex := by
  rw [ofPattern]
  cases Regex.compile (Regex.anchored source) with
  | error fault => simp
  | ok regex => simp [eq_comm]

theorem reads_pattern_iff {source t rest : Text} {regex : Regex} {v : Value M} :
    (pattern source regex : Parser M).Reads run t v rest ↔
      ∃ token, v = .token token ∧ regex.find? (Text.trimStart t) = some (token, rest) := by
  rw [Reads, body]
  exact Outcome.ofExcept_eq_matched_iff.trans Leaf.pattern_eq_ok_iff

theorem fails_pattern_iff {source t : Text} {regex : Regex} {e : ParseError} :
    (pattern source regex : Parser M).Fails run t e ↔
      e = .pattern source (Text.trimStart t) ∧ regex.find? (Text.trimStart t) = none := by
  rw [Fails, body, Run.outcome_pure, Leaf.pattern]
  cases hfind : regex.find? (Text.trimStart t) with
  | some found => simp [Outcome.ofExcept]
  | none => simp [Outcome.ofExcept, eq_comm]

/-- A pattern that finds something at a text can be written and reads it. -/
theorem exists_reads_of_find? {source t token rest : Text}
    (h : (Regex.compile (Regex.anchored source)).toOption.bind
      (fun regex => regex.find? (Text.trimStart t)) = some (token, rest)) :
    ∃ p : Parser M, ofPattern source = .ok p ∧ ∀ run, p.Reads run t (.token token) rest := by
  cases hc : Regex.compile (Regex.anchored source) with
  | error fault => rw [hc] at h; cases h
  | ok regex =>
      rw [hc] at h
      exact ⟨.pattern source regex, ofPattern_eq_ok_iff.mpr ⟨regex, hc, rfl⟩,
        fun run => reads_pattern_iff.mpr ⟨token, rfl, h⟩⟩

/-- What a pattern reads is a piece of the text behind the blanks, and it is at the front where the
text of the pattern is an expression by itself. -/
theorem pattern_at_front {source : Text} {p : Parser M} (hp : ofPattern source = .ok p)
    {t rest : Text} {v : Value M} (h : p.Reads run t v rest) :
    ∃ skipped token, v = .token token ∧ Text.trimStart t = skipped ++ (token ++ rest) ∧
      ((∃ e, Regex.Expr.read {} source = .ok e) → skipped = []) := by
  obtain ⟨regex, hc, rfl⟩ := ofPattern_eq_ok_iff.mp hp
  obtain ⟨token, rfl, hfind⟩ := reads_pattern_iff.mp h
  obtain ⟨skipped, hskipped⟩ := Regex.Program.suffix_of_findFrom? hfind
  refine ⟨skipped, token, rfl, hskipped.symm, ?_⟩
  rintro ⟨e, he⟩
  have hfront := (Regex.anchored_of_compile he hc).front hfind
  rw [hfront] at hskipped
  exact List.append_left_eq_self.mp hskipped

theorem pattern_at_front_alternatives :
    ∃ p : Parser Unit, ofPattern "a|b".toList = .ok p ∧
      p.Reads (RuleBook.empty.resolve 1) " bc".toList (.token ['b']) ['c'] ∧
      ∃ skipped token, (.token ['b'] : Value Unit) = .token token ∧
        Text.trimStart " bc".toList = skipped ++ (token ++ ['c']) ∧ skipped = [] := by
  obtain ⟨p, hp, hreads⟩ : ∃ p : Parser Unit, ofPattern "a|b".toList = .ok p ∧
      ∀ run, p.Reads run " bc".toList (.token ['b']) ['c'] :=
    exists_reads_of_find? (by decide +kernel)
  have hsome : (Regex.Expr.read {} "a|b".toList).toOption.isSome = true := by decide +kernel
  have hexpr : ∃ e, Regex.Expr.read {} "a|b".toList = .ok e := by
    cases he : Regex.Expr.read {} "a|b".toList with
    | error fault => rw [he] at hsome; cases hsome
    | ok e => exact ⟨e, rfl⟩
  have hread := hreads (RuleBook.empty.resolve 1)
  obtain ⟨skipped, token, htoken, htrim, hfront⟩ := pattern_at_front hp hread
  exact ⟨p, hp, hread, skipped, token, htoken, htrim, hfront hexpr⟩

/-- The text of this pattern closes the group that is put around it and opens another, so that its
second alternative is not anchored.  It reads a `b` and drops what stands in front. -/
theorem pattern_skips :
    ∃ p : Parser Unit, ofPattern "a)|(?:b".toList = .ok p ∧
      ∀ run, p.Reads run "xb".toList (.token ['b']) [] ∧
        Text.trimStart "xb".toList ≠ ['b'] ++ [] := by
  obtain ⟨p, hp, hreads⟩ : ∃ p : Parser Unit, ofPattern "a)|(?:b".toList = .ok p ∧
      ∀ run, p.Reads run "xb".toList (.token ['b']) [] :=
    exists_reads_of_find? (by decide +kernel)
  exact ⟨p, hp, fun run => ⟨hreads run, by decide⟩⟩

/-! ## Patterns of compiled expressions -/

/-- The pattern that an expression by itself writes requires the start of the text in front of the
program of the expression.  Where the text leaves room for the group around it, there is one. -/
theorem ofPattern_of_read {source : Text} {e : Regex.Expr} (h : Regex.Expr.read {} source = .ok e) :
    (¬Regex.Enclosable source ∧ ∃ f ∈ [Regex.Fault.groupUnclosed, .tooDeep, .tooLarge],
      (ofPattern source : Except GrammarError (Parser M)) = .error (.invalidPattern f)) ∨
    (ofPattern source : Except GrammarError (Parser M)) =
      .ok (.pattern source ⟨Regex.anchored source, e.program.fromStart⟩) := by
  rw [ofPattern]
  rcases Regex.compile_anchored h with ⟨hroom, f, hf, hfault⟩ | hok
  · exact Or.inl ⟨hroom, f, hf, by rw [hfault]⟩
  · rw [hok]
    exact Or.inr rfl

/-- The pattern of a compiled expression reads what the text of the expression, compiled without
options, finds at the front of the text behind the blanks, and fails where it finds nothing there.
It can be written where the text leaves room for the group around it, and where it cannot, that
group is not closed, too deep or too large. -/
theorem ofRegex_at_front {source : Text} {caseless : Bool} {r plain : Regex}
    (hr : Regex.compile source caseless = .ok r) (hplain : Regex.compile source = .ok plain) :
    (Regex.Enclosable source → ∃ p : Parser M, ofRegex r = .ok p) ∧
    (∀ fault, (ofRegex r : Except GrammarError (Parser M)) = .error fault →
      ∃ f ∈ [Regex.Fault.groupUnclosed, .tooDeep, .tooLarge], fault = .invalidPattern f) ∧
    ∀ p : Parser M, ofRegex r = .ok p → ∀ (run : Rule → Text → Run M) (t : Text),
      (∀ v rest, p.Reads run t v rest ↔ ∃ token, v = .token token ∧
        plain.find? (Text.trimStart t) = some (token, rest) ∧ Text.trimStart t = token ++ rest) ∧
      ∀ e, p.Fails run t e ↔ e = .pattern source (Text.trimStart t) ∧
        ¬∃ token rest, plain.find? (Text.trimStart t) = some (token, rest) ∧
          Text.trimStart t = token ++ rest := by
  -- The options of the compiled expression end here: only its text goes on.
  obtain ⟨-, -, -, rfl⟩ := Regex.compile_eq_ok_iff.mp hr
  obtain ⟨a, hread, -, rfl⟩ := Regex.compile_eq_ok_iff.mp hplain
  rw [ofRegex]
  rcases ofPattern_of_read (M := M) hread with ⟨hroom, f, hf, hfault⟩ | hok
  · rw [hfault]
    refine ⟨fun enclosable => absurd enclosable hroom, fun fault h => ⟨f, hf, ?_⟩, nofun⟩
    cases h
    rfl
  · rw [hok]
    refine ⟨fun _ => ⟨_, rfl⟩, nofun, fun p hp run t => ?_⟩
    cases hp
    have found (u token rest : Text) :
        (⟨Regex.anchored source, a.program.fromStart⟩ : Regex).find? u = some (token, rest) ↔
          a.program.find? u = some (token, rest) ∧ u = token ++ rest :=
      Regex.Program.find?_fromStart_eq_some_iff
    refine ⟨fun v rest => ?_, fun e => ?_⟩
    · simp only [reads_pattern_iff, found]
      rfl
    · rw [fails_pattern_iff, Option.eq_none_iff_forall_ne_some]
      simp only [Prod.forall, ne_eq, found, not_exists]
      rfl

theorem ofRegex_at_front_preferred :
    let source : Text := "(?-i:a|ab)".toList
    ∃ (r plain : Regex) (p : Parser Unit), Regex.compile source true = .ok r ∧
      Regex.compile source = .ok plain ∧ Regex.Enclosable source ∧ ofRegex r = .ok p ∧
      ∀ run, p.Reads run " abc".toList (.token ['a']) "bc".toList ∧
        p.Fails run "xa".toList (.pattern source "xa".toList) := by
  intro source
  have hsome : (Regex.compile source true).toOption.any (fun _ => true) = true := by
    decide +kernel
  obtain ⟨r, hr, -⟩ := Regex.exists_ok hsome
  have hfound : (Regex.compile source).toOption.any (fun plain =>
      plain.find? "abc".toList = some (['a'], "bc".toList) ∧
        plain.find? "xa".toList = some (['a'], [])) = true := by
    decide +kernel
  obtain ⟨plain, hplain, hfind⟩ := Regex.exists_ok hfound
  obtain ⟨hfront, hlater⟩ := of_decide_eq_true hfind
  have hweight : (Regex.Expr.read {} source).toOption.any
      (fun e => e.weight + 336 ≤ Regex.Footprint.budget) = true := by
    decide +kernel
  have enclosable : Regex.Enclosable source := by
    refine ⟨fun h => absurd h.1 (by decide), by decide +kernel, fun e he => ?_⟩
    rw [he] at hweight
    exact of_decide_eq_true hweight
  obtain ⟨hwritten, -, hreads⟩ := ofRegex_at_front (M := Unit) hr hplain
  obtain ⟨p, hp⟩ := hwritten enclosable
  refine ⟨r, plain, p, hr, hplain, enclosable, hp, fun run => ⟨?_, ?_⟩⟩
  · obtain ⟨reads, -⟩ := hreads p hp run " abc".toList
    exact (reads _ _).mpr ⟨['a'], rfl, hfront, rfl⟩
  · obtain ⟨-, fails⟩ := hreads p hp run "xa".toList
    refine (fails _).mpr ⟨rfl, ?_⟩
    rintro ⟨token, rest, hfind, htext⟩
    cases hlater.symm.trans hfind
    cases htext

/-- An expression that ends in a comment has no pattern: the comment takes the parenthesis that is
put behind the text. -/
theorem ofRegex_not_written : ∃ r : Regex, Regex.compile "(?x)a # c".toList = .ok r ∧
    r.find? ['a'] = some (['a'], []) ∧ ∀ p : Parser Unit, ofRegex r ≠ .ok p := by
  have hsome : (Regex.compile "(?x)a # c".toList).toOption.any (fun r =>
      r.find? ['a'] = some (['a'], []) ∧
        (ofRegex r : Except GrammarError (Parser Unit)).toOption.isNone) = true := by
    decide +kernel
  obtain ⟨r, hr, hfind⟩ := Regex.exists_ok hsome
  obtain ⟨hfind, hnone⟩ := of_decide_eq_true hfind
  refine ⟨r, hr, hfind, fun p hp => ?_⟩
  rw [hp] at hnone
  cases hnone

end Parser

end Descent
