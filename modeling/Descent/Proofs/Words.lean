import Descent.Proofs.Consumption
import Descent.Proofs.Listing

/-!
# Words behind blanks

Literals and separators are words that may have blanks in front.  The two skip blanks differently.

A literal skips all the blanks that the text starts with and then asks for its word
(`Parser.literal_exact`).  So it never sees a blank in front of it: a word that starts with one is
found nowhere (`Parser.literal_fails_of_blank`), and where the word is empty the blanks that follow
are gone (`Parser.literal_not_verbatim`).

A separator may itself start with a blank, so only other characters are skipped in front of it.  It
is found just where the shortest blanks that lead to it do not have the character that it starts
with (`Text.separator_behind_blanks`).  That is no restriction for a separator that starts with no
blank, nor for one that is a single character.  Of any other, one more of its first blank in front
hides it (`Parser.separator_missed`).
-/

namespace Descent

namespace Text

variable {sep t w u : Text}

/-- A word stands in a text behind blanks, and nowhere behind fewer blanks. -/
structure Leads (word t w u : Text) : Prop where
  /-- Only blanks stand in front of the word. -/
  blank : ∀ c ∈ w, isBlank c = true
  /-- The word stands behind them. -/
  eq_append : t = w ++ (word ++ u)
  /-- There are no fewer blanks that the word stands behind. -/
  shortest : ∀ w' u', (∀ c ∈ w', isBlank c = true) → t = w' ++ (word ++ u') → w.length ≤ w'.length

/-- Where a word stands behind some blanks, it stands behind shortest ones. -/
theorem exists_leads (hw : ∀ c ∈ w, isBlank c = true) (ht : t = w ++ (sep ++ u)) :
    ∃ w' u', Leads sep t w' u' := by
  classical
  have found : ∃ n, ∃ w' u' : Text, w'.length = n ∧ (∀ c ∈ w', isBlank c = true) ∧
      t = w' ++ (sep ++ u') := ⟨w.length, w, u, rfl, hw, ht⟩
  obtain ⟨w', u', hlength, hblank, heq⟩ := Nat.find_spec found
  refine ⟨w', u', hblank, heq, fun v x hv hx => ?_⟩
  rw [hlength]
  exact Nat.find_min' found ⟨v, x, rfl, hv, hx⟩

/-- Blanks in front are skipped up to a character that is none. -/
theorem trimStart_append (hw : ∀ c ∈ w, isBlank c = true)
    (ht : ∀ c ∈ t.head?, isBlank c = false) : trimStart (w ++ t) = t := by
  rw [trimStart, List.dropWhile_append_of_pos hw]
  exact trimStart_eq_self ht

theorem isBlank_head_trimStart (t : Text) : ∀ c ∈ (trimStart t).head?, isBlank c = false := by
  intro c hc
  have hnot := List.head?_dropWhile_not isBlank t
  rw [← trimStart, Option.mem_def.mp hc] at hnot
  exact hnot

/-- A separator is found behind blanks among which there is not its first character. -/
theorem afterSeparator?_eq_some_iff_skipped (hsep : sep ≠ []) :
    afterSeparator? sep t = some u ↔
      ∃ w : Text, (∀ c ∈ w, isBlank c = true ∧ sep.head? ≠ some c) ∧ t = w ++ (sep ++ u) := by
  constructor
  · intro h
    refine ⟨t.takeWhile fun c => isBlank c && sep.head? != some c, fun c hc => ?_, ?_⟩
    · simpa using List.mem_takeWhile_imp hc
    · rw [← after?_eq_some_iff.mp h]
      exact List.takeWhile_append_dropWhile.symm
  · rintro ⟨w, hw, rfl⟩
    exact afterSeparator?_append hsep hw u

/-- Blanks without the first character of the separator are shortest: behind fewer of them the
separator would start with one of the others. -/
theorem Leads.of_head (hsep : sep ≠ []) (hw : ∀ c ∈ w, isBlank c = true ∧ sep.head? ≠ some c)
    (ht : t = w ++ (sep ++ u)) : Leads sep t w u := by
  refine ⟨fun c hc => (hw c hc).1, ht, fun w' u' _ ht' => ?_⟩
  rcases List.append_eq_append_iff.mp (ht.symm.trans ht') with ⟨v, rfl, -⟩ | ⟨v, rfl, hv⟩
  · simp
  · cases v with
    | nil => simp
    | cons c v =>
        obtain ⟨d, s, rfl⟩ := List.exists_cons_of_ne_nil hsep
        obtain ⟨rfl, -⟩ := List.cons.inj hv
        exact absurd rfl (hw d (by simp)).2

/-- The first character of a separator that starts with no other blank is not among the shortest
blanks in front of it. -/
theorem Leads.head_ne (h : Leads sep t w u)
    (single : ∀ c ∈ sep.head?, isBlank c = true → sep = [c]) : ∀ c ∈ w, sep.head? ≠ some c := by
  intro c hc hhead
  obtain rfl := single c hhead (h.blank c hc)
  obtain ⟨v, x, rfl⟩ := List.append_of_mem hc
  have hle := h.shortest v (x ++ ([c] ++ u)) (fun d hd => h.blank d (by simp [hd]))
    (by rw [h.eq_append]; simp)
  simp only [List.length_append, List.length_cons] at hle
  omega

/-- A separator is found behind the shortest blanks that lead to it, if its first character is not
among them.  It never is where the separator starts with no blank or is one character, and then a
list does not end at a separator with a text behind, whatever blanks there are in front. -/
theorem separator_behind_blanks {sep : Text} (hsep : sep ≠ []) (t : Text) :
    (∀ u, afterSeparator? sep t = some u ↔
      ∃ w, Leads sep t w u ∧ ∀ c ∈ w, sep.head? ≠ some c) ∧
    ((∀ c ∈ sep.head?, isBlank c = true → sep = [c]) →
      (∀ u, afterSeparator? sep t = some u ↔ ∃ w, Leads sep t w u) ∧
      ∀ w u, (∀ c ∈ w, isBlank c = true) → t = w ++ (sep ++ u) → u ≠ [] →
        ∃ u', Parser.elementAfter? sep t = some u') := by
  have found (u : Text) : afterSeparator? sep t = some u ↔
      ∃ w, Leads sep t w u ∧ ∀ c ∈ w, sep.head? ≠ some c := by
    rw [afterSeparator?_eq_some_iff_skipped hsep]
    constructor
    · rintro ⟨w, hw, ht⟩
      exact ⟨w, .of_head hsep hw ht, fun c hc => (hw c hc).2⟩
    · rintro ⟨w, hleads, hhead⟩
      exact ⟨w, fun c hc => ⟨hleads.blank c hc, hhead c hc⟩, hleads.eq_append⟩
  refine ⟨found, fun single => ?_⟩
  have always (u : Text) : afterSeparator? sep t = some u ↔ ∃ w, Leads sep t w u :=
    (found u).trans ⟨fun ⟨w, h, _⟩ => ⟨w, h⟩, fun ⟨w, h⟩ => ⟨w, h, h.head_ne single⟩⟩
  refine ⟨always, fun w u hw ht hu => ?_⟩
  obtain ⟨w', u', hleads⟩ := exists_leads hw ht
  refine ⟨u', Parser.elementAfter?_eq_some_iff.mpr ⟨(always u').mpr ⟨w', hleads⟩, ?_⟩⟩
  -- The blanks are no more than those given, so what follows is no less.
  rintro rfl
  have hle := hleads.shortest w u hw ht
  have hlength := congrArg List.length (hleads.eq_append.symm.trans ht)
  simp only [List.length_append, List.length_nil] at hlength
  have hpos := List.length_pos_iff.mpr hu
  omega

theorem separator_behind_blanks_line :
    let sep : Text := ['\n']
    let t : Text := " \t\n\nb".toList
    (∀ c ∈ sep.head?, isBlank c = true → sep = [c]) ∧ Leads sep t [' ', '\t'] "\nb".toList ∧
      afterSeparator? sep t = some "\nb".toList ∧ ∃ u, Parser.elementAfter? sep t = some u := by
  intro sep t
  have single : ∀ c ∈ sep.head?, isBlank c = true → sep = [c] := by
    rintro c hc -
    cases hc
    rfl
  have hsep : sep ≠ [] := List.cons_ne_nil _ _
  have hleads : Leads sep t [' ', '\t'] "\nb".toList :=
    .of_head hsep (by simp [isBlank, sep]) rfl
  obtain ⟨-, hsingle⟩ := separator_behind_blanks hsep t
  obtain ⟨found, goesOn⟩ := hsingle single
  exact ⟨single, hleads, (found _).mpr ⟨_, hleads⟩,
    goesOn [' ', '\t'] "\nb".toList hleads.blank rfl (by decide)⟩

end Text

namespace Parser

variable {M : Type} {run : Rule → Text → Run M} {word t rest : Text}

/-- The blank that a separator starts with hides it behind one more of the same, and the list ends
there. -/
theorem separator_missed :
    let sep : Text := " - ".toList
    (∀ c ∈ [' '], Text.isBlank c = true) ∧ "  - a".toList = [' '] ++ (sep ++ ['a']) ∧
      Text.afterSeparator? sep "  - a".toList = none ∧
      ∀ run : Rule → Text → Run Unit, (sepBy (literal ['a']) sep).Reads run "a  - a".toList
        (.sequence []) "  - a".toList :=
  ⟨by simp [Text.isBlank], rfl, by decide, fun _ => rfl⟩

/-! ## Literals -/

theorem reads_literal_iff {v : Value M} :
    (literal word : Parser M).Reads run t v rest ↔ v = .unit ∧ Text.trimStart t = word ++ rest := by
  rw [Reads, body]
  exact Outcome.ofExcept_eq_matched_iff.trans Leaf.literal_eq_ok_iff

theorem fails_literal_iff {e : ParseError} :
    (literal word : Parser M).Fails run t e ↔
      ¬word <+: Text.trimStart t ∧ e = .literal word (Text.trimStart t) := by
  rw [Fails, body, Run.outcome_pure, Leaf.literal]
  cases h : Text.after? word (Text.trimStart t) with
  | some u =>
      have hprefix : word <+: Text.trimStart t := ⟨u, (Text.after?_eq_some_iff.mp h).symm⟩
      simp [Outcome.ofExcept, hprefix]
  | none =>
      have hprefix : ¬word <+: Text.trimStart t := by
        rintro ⟨u, hu⟩
        rw [Text.after?_eq_some_iff.mpr hu.symm] at h
        cases h
      simp [Outcome.ofExcept, hprefix, eq_comm]

/-- A literal reads its word behind blanks, and leaves what follows it, where no blank stands in
front once the blanks are skipped.  On every other text it fails, with the word and the text behind
the blanks. -/
theorem literal_exact (run : Rule → Text → Run M) (word t : Text) :
    (∀ w rest, (∀ c ∈ w, Text.isBlank c = true) →
      (∀ c ∈ (word ++ rest).head?, Text.isBlank c = false) → t = w ++ (word ++ rest) →
        (literal word).Reads run t .unit rest) ∧
    ((¬∃ w rest, (∀ c ∈ w, Text.isBlank c = true) ∧
      (∀ c ∈ (word ++ rest).head?, Text.isBlank c = false) ∧ t = w ++ (word ++ rest)) →
        (literal word).Fails run t (.literal word (Text.trimStart t))) := by
  constructor
  · rintro w rest hw hhead rfl
    exact Reads.literal (Text.trimStart_append hw hhead)
  · intro hno
    refine fails_literal_iff.mpr ⟨fun ⟨rest, hrest⟩ => hno ?_, rfl⟩
    obtain ⟨w, hw, ht⟩ := Text.exists_blanks_append_trimStart t
    refine ⟨w, rest, hw, ?_, hrest ▸ ht⟩
    rw [hrest]
    exact Text.isBlank_head_trimStart t

theorem literal_exact_keyword :
    let run := RuleBook.empty.resolve 1
    let word : Text := ['i', 'f']
    (∀ c ∈ [' ', '\t'], Text.isBlank c = true) ∧
      (∀ c ∈ (word ++ " (x)".toList).head?, Text.isBlank c = false) ∧
      (literal word : Parser Unit).Reads run " \tif (x)".toList .unit " (x)".toList ∧
      (¬∃ w rest, (∀ c ∈ w, Text.isBlank c = true) ∧
        (∀ c ∈ (word ++ rest).head?, Text.isBlank c = false) ∧
        "  fi".toList = w ++ (word ++ rest)) ∧
      (literal word : Parser Unit).Fails run "  fi".toList (.literal word ['f', 'i']) := by
  intro run word
  have hno : ¬∃ w rest, (∀ c ∈ w, Text.isBlank c = true) ∧
      (∀ c ∈ (word ++ rest).head?, Text.isBlank c = false) ∧
      "  fi".toList = w ++ (word ++ rest) := by
    rintro ⟨w, rest, hw, hhead, ht⟩
    have htrim := Text.trimStart_append hw hhead
    rw [← ht] at htrim
    exact absurd (List.cons.inj htrim).1 (by decide)
  have hblank : ∀ c ∈ [' ', '\t'], Text.isBlank c = true := by simp [Text.isBlank]
  have hhead : ∀ c ∈ (word ++ " (x)".toList).head?, Text.isBlank c = false := by
    rintro c hc
    cases hc
    rfl
  exact ⟨hblank, hhead,
    (literal_exact run word " \tif (x)".toList).1 [' ', '\t'] " (x)".toList hblank hhead rfl,
    hno, (literal_exact run word "  fi".toList).2 hno⟩

/-- A literal that starts with a blank is found nowhere. -/
theorem literal_fails_of_blank {c : Char} (hc : Text.isBlank c = true) (word t : Text) :
    (literal (c :: word) : Parser M).Fails run t (.literal (c :: word) (Text.trimStart t)) := by
  refine fails_literal_iff.mpr ⟨fun ⟨rest, hrest⟩ => ?_, rfl⟩
  have hhead := Text.isBlank_head_trimStart t c (by rw [← hrest]; rfl)
  rw [hc] at hhead
  cases hhead

/-- A literal that starts with a blank is not found at its own text, and the empty literal does not
leave the blank that follows it. -/
theorem literal_not_verbatim :
    (∀ run : Rule → Text → Run Unit,
      ¬(literal [' ', 'a']).Reads run ([] ++ ([' ', 'a'] ++ [])) .unit [] ∧
        (literal [' ', 'a']).Fails run [' ', 'a'] (.literal [' ', 'a'] ['a'])) ∧
    ∀ run : Rule → Text → Run Unit,
      ¬(literal []).Reads run ([] ++ ([] ++ [' ', 'x'])) .unit [' ', 'x'] := by
  refine ⟨fun run => ⟨fun h => ?_, ?_⟩, fun run h => ?_⟩
  · exact absurd (reads_literal_iff.mp h).2 (by decide)
  · exact literal_fails_of_blank (by decide) ['a'] [' ', 'a']
  · exact absurd (reads_literal_iff.mp h).2 (by decide)

end Parser

end Descent
