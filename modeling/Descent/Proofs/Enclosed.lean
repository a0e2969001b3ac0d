import Descent.Proofs.Classes
import Descent.Proofs.Relocation

/-!
# Enclosed expressions

A pattern is compiled as `^(?:…)`, with its own text in the group.  If that text is an expression by
itself, then inside of the group each part of it is read as it is read alone (`readPart_alike`),
with the group that stands around it one more at the bottom of the stack.  So the reading comes to
the end of the text with the same group open as alone, and the parenthesis behind closes the group
that was put around it (`readParts_enclosed`).  The whole is then the start of the text and, behind
it, one part (`Expr.read_anchored`), and its program is that of the part with the start of the text
in front (`compile_anchored`).

Two things keep this from being an equivalence.  The whole may fail where the text by itself does
not: a comment may take the parenthesis, and the group makes the expression deeper and larger.  A
text that leaves room for the group is `Enclosable`, and for it this does not happen.  And the whole
may be read where the text by itself may not, if the text closes the group before its end.  Alone it
has no group to close, so nothing is said of it here.
-/

namespace Descent.Regex

variable {whole t t' u v : Text}

namespace Reader

variable (f : Flags)

/-! ## Repetitions -/

theorem takeLazy_closed (h : Closed whole t t') :
    (takeLazy t').1 = (takeLazy t).1 ∧ Closed whole (takeLazy t).2 (takeLazy t').2 := by
  cases t with
  | nil =>
      rcases h.eq_append with rfl | ⟨-, -, rfl⟩
      · exact ⟨rfl, h⟩
      · exact ⟨rfl, h⟩
  | cons c u =>
      obtain rfl := h.eq_cons
      rw [takeLazy.eq_def, takeLazy.eq_def]
      split
      next heq =>
        cases heq
        exact ⟨rfl, h.tail⟩
      next hmark =>
        split
        next heq => cases heq; exact absurd rfl (hmark _)
        next => exact ⟨rfl, h⟩

theorem readDigits_eq_readRun : ∀ (k : Nat) (digits t : Text),
    readDigits f digits k t = readRun f Char.isDigit digits k t
  | 0, _, _ => rfl
  | _ + 1, _, [] => rfl
  | k + 1, digits, c :: t => by
      rw [readDigits, readRun, readDigits_eq_readRun k]

theorem skipBlanks_closed : ∀ {k k' : Nat} {t t' : Text}, t.length ≤ k → t'.length ≤ k' →
    Closed whole t t' → Closed whole (readCount.skipBlanks f k t) (readCount.skipBlanks f k' t')
  | k, k', [], t', _, _, h => by
      have hk : readCount.skipBlanks f k [] = [] := by cases k <;> rfl
      have hk' : readCount.skipBlanks f k' t' = t' := by
        rcases h.eq_append with rfl | ⟨-, -, rfl⟩
        · cases k' <;> rfl
        · cases k' <;> rfl
      rw [hk, hk']
      exact h
  | 0, k', c :: t, t', hk, _, _ => absurd hk (Nat.not_succ_le_zero _)
  | k + 1, 0, c :: t, t', _, hk', h =>
      absurd (Nat.le_trans h.length_le_length hk') (Nat.not_succ_le_zero _)
  | k + 1, k' + 1, c :: t, t', hk, hk', h => by
      obtain rfl := h.eq_cons
      rw [readCount.skipBlanks, readCount.skipBlanks]
      split
      · refine skipBlanks_closed ?_ ?_ (h.tail.skip f)
        · exact Nat.le_trans (f.length_skip_le t) (Nat.le_of_succ_le_succ hk)
        · exact Nat.le_trans (f.length_skip_le _) (Nat.le_of_succ_le_succ hk')
      · exact h

theorem readCount_alike (h : Closed whole t t') : Alike whole (readCount f t) (readCount f t') := by
  have fits (s : Text) : (s.dropWhile Text.isBlank).length ≤ s.length + 1 :=
    Nat.le_succ_of_le (s.dropWhile_sublist Text.isBlank).length_le
  obtain ⟨digits, u, u', hu, hu', hclosed⟩ :=
    readRun_closed f Char.isDigit rfl [] (fits t) (fits t') (h.dropWhile (by decide))
  rw [readCount, readCount, readDigits_eq_readRun, readDigits_eq_readRun, hu, hu']
  cases digits with
  | nil => exact .error _ _
  | cons d digits =>
      simp only
      split
      · exact .ok _ (skipBlanks_closed f (Nat.le_succ _) (Nat.le_succ _) hclosed)
      · exact .error _ _

/-- Reads what is behind the least count: a comma, and a greatest count if there is one. -/
def readMost (least : Nat) (t : Text) : Except Fault (Option Nat × Text) :=
  match t with
  | ',' :: u =>
    match f.skip u with
    | '}' :: v => .ok (none, '}' :: v)
    | v => do
      let (most, w) ← readCount f v
      .ok (some most, w)
  | u => .ok (some least, u)

/-- Reads the closing brace of a repetition, and what makes it lazy. -/
def closeCounts (least : Nat) (most : Option Nat) (t : Text) :
    Except Fault (Nat × Option Nat × Bool × Text) :=
  match t with
  | '}' :: u =>
    let (isLazy, u) := takeLazy (f.skip u)
    if most.any (· < least) then .error .countReversed else .ok (least, most, isLazy, u)
  | _ => .error .countUnclosed

theorem readMost_of_comma {least : Nat} (h : f.skip u = '}' :: v) :
    readMost f least (',' :: u) = .ok (none, '}' :: v) := by
  simp only [readMost, h]

theorem readMost_of_count {least : Nat} (h : ∀ v, f.skip u ≠ '}' :: v) :
    readMost f least (',' :: u) =
      (do
        let (most, w) ← readCount f (f.skip u)
        .ok (some most, w)) := by
  rw [readMost]
  split
  next v hv => exact absurd hv (h v)
  next => rfl

theorem readMost_of_no_comma {least : Nat} (h : ∀ u, t ≠ ',' :: u) :
    readMost f least t = .ok (some least, t) := by
  rw [readMost.eq_def]
  split
  next u => exact absurd rfl (h u)
  next => rfl

theorem readCounts_eq (t : Text) :
    readCounts f t = (do
      let (least, t) ← readCount f (f.skip t)
      let (most, t) ← readMost f least t
      closeCounts f least most t) := by
  rw [readCounts]
  refine bind_congr fun y => ?_
  obtain ⟨least, t⟩ := y
  dsimp only
  split
  next u =>
    split
    next v hv => rw [readMost_of_comma f hv]; rfl
    next hbrace =>
      rw [readMost_of_count f hbrace]
      cases readCount f (f.skip u) <;> rfl
  next hcomma => rw [readMost_of_no_comma f hcomma]; rfl

theorem readMost_alike (least : Nat) (h : Closed whole t t') :
    Alike whole (readMost f least t) (readMost f least t') := by
  rw [readMost.eq_def, readMost.eq_def]
  split
  next u =>
    obtain rfl := h.eq_cons
    have hskip := h.tail.skip f
    simp only
    generalize f.skip u = s at hskip
    generalize f.skip (u ++ [')']) = s' at hskip
    split
    · obtain rfl := hskip.eq_cons
      exact .ok _ hskip
    next hbrace =>
      split
      next =>
        exact ((hskip.starts ['}'] (by decide)).elim hbrace).elim
      next => exact (readCount_alike f hskip).bind fun most w w' hw => .ok _ hw
  next hcomma =>
    split
    next =>
      exact ((h.starts [','] (by decide)).elim hcomma).elim
    next => exact .ok _ h

theorem closeCounts_alike (least : Nat) (most : Option Nat) (h : Closed whole t t') :
    Follows (fun (l, m, z, u) (l', m', z', u') => (l', m', z') = (l, m, z) ∧ Closed whole u u')
      (closeCounts f least most t) (closeCounts f least most t') := by
  rw [closeCounts.eq_def, closeCounts.eq_def]
  split
  next u =>
    obtain rfl := h.eq_cons
    obtain ⟨hlazy, hclosed⟩ := takeLazy_closed (h.tail.skip f)
    simp only [hlazy]
    split
    · exact .error _ _
    · exact .ok ⟨rfl, hclosed⟩
  · exact .error _ _

theorem readCounts_alike (h : Closed whole t t') :
    Follows (fun (l, m, z, u) (l', m', z', u') => (l', m', z') = (l, m, z) ∧ Closed whole u u')
      (readCounts f t) (readCounts f t') := by
  rw [readCounts_eq, readCounts_eq]
  exact (readCount_alike f (h.skip f)).follows_bind fun least u u' hu =>
    (readMost_alike f least hu).follows_bind fun most v v' hv => closeCounts_alike f least most hv

/-! ## Groups -/

theorem readName_alike (taken : List Text) (h : Closed whole t t') :
    Alike whole (readName taken t) (readName taken t') := by
  have htake := h.takeWhile_eq (p := (· != '>'))
  rw [readName, readName, drop_length_takeWhile, drop_length_takeWhile]
  cases hdrop : t.dropWhile (· != '>') with
  | nil =>
      split
      next heq => cases heq
      next heq => cases heq
      next => exact .error _ _
  | cons c s =>
      have hclosed := h.dropWhile_cons hdrop
      rw [htake (hdrop ▸ List.cons_ne_nil _ _), hclosed.eq_cons]
      generalize t.takeWhile (· != '>') = name
      split
      next heq =>
        cases heq
        simp only
        split
        · split
          · exact .error _ _
          · exact .ok _ hclosed.tail
        · exact .error _ _
      · exact .error _ _
      · exact .error _ _

theorem readFlags_alike : ∀ (f : Flags) (letters : List Char) {t t' : Text}, Closed whole t t' →
    Follows (fun (g, b, u) (g', b', u') => (g', b') = (g, b) ∧ Closed whole u u')
      (f.read letters t) (f.read letters t')
  | _, _, [], _, _ => .error _ _
  | f, letters, c :: t, t', h => by
      obtain rfl := h.eq_cons
      rw [Flags.read, Flags.read]
      split
      · split
        · exact .error _ _
        · split
          · exact .error _ _
          · exact .ok ⟨rfl, h.tail⟩
      · split
        · exact .error _ _
        · split
          · exact readFlags_alike f _ h.tail
          · split
            · exact .error _ _
            · exact readFlags_alike _ _ h.tail

/-- The reader with more groups around it. -/
def under (r : Reader) (gs : List OpenGroup) : Reader := { r with outer := r.outer ++ gs }

variable {r : Reader} (gs : List OpenGroup)

/-- What is read with more groups around it is read alike. -/
def AlikeUnder (gs : List OpenGroup) (whole : Text) (x x' : Except Fault (Reader × Text)) : Prop :=
  Follows (fun y y' => y'.1 = y.1.under gs ∧ Closed whole y.2 y'.2) x x'

theorem AlikeUnder.error (e : Fault) (x' : Except Fault (Reader × Text)) :
    AlikeUnder gs whole (.error e) x' :=
  Follows.error e x'

theorem AlikeUnder.ok {u u' : Text} (r : Reader) (h : Closed whole u u') :
    AlikeUnder gs whole (.ok (r, u)) (.ok (r.under gs, u')) :=
  Follows.ok ⟨rfl, h⟩

theorem openNamed_alike (h : Closed whole t t') :
    AlikeUnder gs whole (r.openNamed t) ((r.under gs).openNamed t') := by
  rw [openNamed, openNamed]
  exact (readName_alike r.names h).follows_bind fun name u u' hu => AlikeUnder.ok gs _ hu

/-- What an opening parenthesis is followed by tells what it opens.  None of the texts that are
looked for there has a closing parenthesis in it, so the enclosed text starts with one of them just
where the text itself does. -/
theorem openGroup_alike (h : Closed whole t t') :
    AlikeUnder gs whole (r.openGroup t) ((r.under gs).openGroup t') := by
  have hskip := h.skip r.group.flags
  rw [openGroup, openGroup]
  simp only [under]
  generalize r.group.flags.skip t = s at hskip
  generalize r.group.flags.skip t' = s' at hskip
  split
  · exact AlikeUnder.error gs _ _
  · exact AlikeUnder.error gs _ _
  · exact AlikeUnder.error gs _ _
  · exact AlikeUnder.error gs _ _
  next u =>
    obtain rfl := hskip.eq_cons
    exact openNamed_alike gs hskip.tail.tail.tail
  next u hequal hbang =>
    split
    next => exact absurd (List.cons.inj hskip.tails.eq_cons).1 (by decide)
    next => exact absurd (List.cons.inj hskip.tails.eq_cons).1 (by decide)
    next => exact ((hskip.tails.tails.starts ['='] (by decide)).elim hequal).elim
    next => exact ((hskip.tails.tails.starts ['!'] (by decide)).elim hbang).elim
    next => exact absurd (List.cons.inj hskip.tails.eq_cons).1 (by decide)
    next => exact openNamed_alike gs hskip.tails.tails
    next hangle => exact (hangle _ (List.cons.inj hskip.eq_cons).2).elim
    next hmark => exact (hmark _ hskip.eq_cons).elim
  next u hequal hbang hbehind hnotBehind hnamed hangle =>
    split
    next => exact ((hskip.tails.starts ['='] (by decide)).elim hequal).elim
    next => exact ((hskip.tails.starts ['!'] (by decide)).elim hbang).elim
    next => exact ((hskip.tails.starts ['<', '='] (by decide)).elim hbehind).elim
    next => exact ((hskip.tails.starts ['<', '!'] (by decide)).elim hnotBehind).elim
    next => exact ((hskip.tails.starts ['P', '<'] (by decide)).elim hnamed).elim
    next => exact ((hskip.tails.starts ['<'] (by decide)).elim hangle).elim
    next =>
      refine (readFlags_alike _ _ hskip.tails).bind fun (g, isGroup, v) (g', isGroup', v') hv => ?_
      cases hv.1
      dsimp only
      split
      · exact AlikeUnder.ok gs _ hv.2
      · exact AlikeUnder.ok gs _ hv.2
    next hmark => exact (hmark _ hskip.eq_cons).elim
  next hmark =>
    split
    next => exact ((hskip.starts ['?'] (by decide)).elim hmark).elim
    next => exact ((hskip.starts ['?'] (by decide)).elim hmark).elim
    next => exact ((hskip.starts ['?'] (by decide)).elim hmark).elim
    next => exact ((hskip.starts ['?'] (by decide)).elim hmark).elim
    next => exact ((hskip.starts ['?'] (by decide)).elim hmark).elim
    next => exact ((hskip.starts ['?'] (by decide)).elim hmark).elim
    next => exact ((hskip.starts ['?'] (by decide)).elim hmark).elim
    next => exact AlikeUnder.ok gs _ hskip

/-- A group that is closed was opened inside of the groups around. -/
theorem closeGroup_alike (h : Closed whole t t') :
    AlikeUnder gs whole (r.closeGroup >>= fun r => .ok (r, t))
      ((r.under gs).closeGroup >>= fun r => .ok (r, t')) := by
  rw [closeGroup, closeGroup]
  simp only [under]
  cases r.outer with
  | nil => exact AlikeUnder.error gs _ _
  | cons g outer => exact AlikeUnder.ok gs _ h

theorem readPart_alike (c : Char) (h : Closed whole t t') :
    AlikeUnder gs whole (r.readPart c t) ((r.under gs).readPart c t') := by
  obtain ⟨hlazy, hclosed⟩ := takeLazy_closed h
  rw [readPart.eq_def, readPart.eq_def]
  dsimp only
  split
  · exact openGroup_alike gs h
  · exact closeGroup_alike gs h
  · exact AlikeUnder.ok gs _ h
  · refine (readBrackets_alike _ h).follows_bind fun s u u' hu => ?_
    exact AlikeUnder.ok gs _ hu
  · rw [hlazy]
    exact Follows.bind_same _ fun g => AlikeUnder.ok gs _ hclosed
  · rw [hlazy]
    exact Follows.bind_same _ fun g => AlikeUnder.ok gs _ hclosed
  · rw [hlazy]
    exact Follows.bind_same _ fun g => AlikeUnder.ok gs _ hclosed
  · refine (readCounts_alike _ h).bind fun (least, most, isLazy, u) (_, _, _, u') hu => ?_
    cases hu.1
    exact Follows.bind_same _ fun g => AlikeUnder.ok gs _ hu.2
  · refine (readEscape_alike _ h).follows_bind fun a u u' hu => ?_
    exact Follows.bind_same _ fun g => AlikeUnder.ok gs _ hu
  · exact Follows.bind_same _ fun g => AlikeUnder.ok gs _ h
  · exact AlikeUnder.ok gs _ h
  · exact AlikeUnder.ok gs _ h
  · exact Follows.bind_same _ fun g => AlikeUnder.ok gs _ h

/-! ## Expressions in a group -/

theorem finish_eq_ok_iff {e : Expr} : r.finish = .ok e ↔
    r.outer = [] ∧ r.group.body.depth ≤ depthLimit ∧ r.group.body.expr.getD .empty = e := by
  rw [finish.eq_def]
  split
  next houter =>
    dsimp only
    split
    next hdeep => simp [Nat.not_le.mpr hdeep]
    next hflat => simp [houter, Nat.not_lt.mp hflat]
  next houter => exact ⟨nofun, fun h => (houter h.1).elim⟩

theorem finish_under (r : Reader) (g : OpenGroup) :
    (r.under [g]).finish = .error .groupUnclosed := by
  cases houter : r.outer with
  | nil => simp [finish, under, houter]
  | cons h outer => simp [finish, under, houter]

theorem readParts_nil (k : Nat) (r : Reader) : readParts k r [] = r.finish := by
  cases k with
  | zero => rfl
  | succ k => rw [readParts, Flags.skip_nil]

/-- Reads the parts of a text and gives the reader behind the last. -/
def readAll : (fuel : Nat) → Reader → Text → Except Fault Reader
  | 0, r, _ => .ok r
  | fuel + 1, r, t =>
    match r.group.flags.skip t with
    | [] => .ok r
    | c :: u => do
      let (r, v) ← r.readPart c u
      readAll fuel r v

theorem readParts_eq : ∀ (k : Nat) (r : Reader) (t : Text),
    readParts k r t = readAll k r t >>= finish
  | 0, _, _ => rfl
  | k + 1, r, t => by
      rw [readParts, readAll]
      cases r.group.flags.skip t with
      | nil => rfl
      | cons c u =>
          cases hpart : r.readPart c u with
          | error fault => simp only [hpart]; rfl
          | ok y => simp only [hpart]; exact readParts_eq k y.1 y.2

/-- The reading ends with the group `g` around what `r` has read, or with no parenthesis left to
close that group, since a comment has taken it. -/
def Encloses (whole : Text) (g : OpenGroup) (r : Reader) (result : Except Fault Expr) : Prop :=
  MayEndInComment whole ∧ result = .error .groupUnclosed ∨
    ∃ s : Reader, s.group = g.add r.group.value ∧ s.outer = [] ∧ result = s.finish

/-- Where a whole expression has been read, the parenthesis behind it closes the group around
it. -/
theorem finish_enclosed {g : OpenGroup} {k : Nat} (houter : r.outer = []) (hk : t.length ≤ k)
    (h : Closed whole [] (r.group.flags.skip t)) :
    Encloses whole g r (readParts k (r.under [g]) t) := by
  have hflags : (r.under [g]).group.flags = r.group.flags := rfl
  rcases h.eq_append with hclose | ⟨hlost, -, hnil⟩
  · cases k with
    | zero =>
        rw [List.length_eq_zero_iff.mp (Nat.le_zero.mp hk), Flags.skip_nil] at hclose
        cases hclose
    | succ k =>
        have hpart : (r.under [g]).readPart ')' [] =
            .ok ({ r with group := g.add r.group.value, outer := [] }, []) := by
          rw [readPart.eq_def]
          simp only [closeGroup, under, houter]
          rfl
        rw [readParts, hflags, hclose]
        simp only [List.nil_append]
        rw [hpart]
        exact Or.inr ⟨_, rfl, rfl, readParts_nil _ _⟩
  · refine Or.inl ⟨hlost, ?_⟩
    cases k with
    | zero => exact finish_under r g
    | succ k =>
        rw [readParts, hflags, hnil]
        exact finish_under r g

/-- A part is read alike inside of the group, and the parts that are left are fewer. -/
theorem readParts_enclosed {g : OpenGroup} {last : Reader} (houter : last.outer = []) :
    ∀ {k k' : Nat} {r : Reader} {t t' : Text}, t.length ≤ k → t'.length ≤ k' →
      Closed whole t t' → readAll k r t = .ok last →
      Encloses whole g last (readParts k' (r.under [g]) t') := by
  intro k
  induction k with
  | zero =>
      intro k' r t t' hk hk' h hread
      cases List.length_eq_zero_iff.mp (Nat.le_zero.mp hk)
      have hskip := h.skip r.group.flags
      rw [Flags.skip_nil] at hskip
      cases hread
      exact finish_enclosed houter hk' hskip
  | succ k ih =>
      intro k' r t t' hk hk' h hread
      have hskip := h.skip r.group.flags
      rw [readAll] at hread
      split at hread
      next hnil =>
        rw [hnil] at hskip
        cases hread
        exact finish_enclosed houter hk' hskip
      next c u hcons =>
        rw [hcons] at hskip
        have hu : u.length ≤ k := by
          have := r.group.flags.length_skip_le t
          rw [hcons, List.length_cons] at this
          exact Nat.le_of_succ_le_succ (Nat.le_trans this hk)
        have hu' : u.length + 2 ≤ k' := by
          have := r.group.flags.length_skip_le t'
          rw [hskip.eq_cons, List.length_cons, List.length_append, List.length_singleton] at this
          exact Nat.le_trans this hk'
        obtain ⟨k', rfl⟩ : ∃ n, k' = n + 1 := ⟨k' - 1, by omega⟩
        have hflags : (r.under [g]).group.flags = r.group.flags := rfl
        rw [readParts, hflags, hskip.eq_cons]
        cases hpart : r.readPart c u with
        | error fault =>
            rw [hpart] at hread
            cases hread
        | ok y =>
            obtain ⟨⟨s, v'⟩, hpart', rfl, hv⟩ :=
              readPart_alike [g] c (Closed.self (List.suffix_refl u)) y hpart
            rw [hpart] at hread
            simp only [hpart']
            have hle := hv.length_le
            have hle' := hv.length_le_succ
            exact ih (by omega) (by omega)
              (hv.mono ((List.suffix_cons c u).trans hskip.suffix)) hread

end Reader

/-- How deep the text of an expression is nested. -/
def Expr.nesting (source : Text) : Nat :=
  match Reader.readAll (source.length + 1) { group := { flags := {} } } source with
  | .ok r => r.group.body.depth
  | .error _ => 0

/-- A group always holds an expression. -/
theorem OpenGroup.exists_expr (g : OpenGroup) : ∃ a, g.body.expr = some a := by
  rw [body]
  cases g.branches with
  | nil => exact ⟨_, rfl⟩
  | cons b bs =>
      rw [Part.alts.eq_def]
      split
      next part h =>
        have hlength := congrArg List.length h
        simp at hlength
      next => exact ⟨_, rfl⟩

/-- The group that is put around an expression and the sequence with the start of the text in front
make it deeper by one each. -/
theorem OpenGroup.depth_body_add_value (g : OpenGroup) :
    (add { flags := {}, parts := [⟨some (.look .textStart), 0⟩] } g.value).body.depth =
      g.body.depth + 2 := by
  rfl

/-- A group as a part is what it holds, remembered by a number or not. -/
theorem OpenGroup.exists_value_expr (g : OpenGroup) :
    ∃ a, (a = g.body.expr.getD .empty ∨ ∃ n, a = .group n (g.body.expr.getD .empty)) ∧
      g.value.expr = some a := by
  obtain ⟨a, ha⟩ := g.exists_expr
  rw [value, ha]
  cases g.number with
  | none => exact ⟨a, Or.inl rfl, rfl⟩
  | some n => exact ⟨.group n a, Or.inr ⟨n, rfl⟩, rfl⟩

/-- The text of an anchored expression is read in a group that stands behind the start of the
text. -/
theorem Expr.read_anchored_eq (source : Text) :
    Expr.read {} (anchored source) =
      Reader.readParts (source.length + 4) ((⟨{ flags := {} }, [], [], 0⟩ : Reader).under
        [{ flags := {}, parts := [⟨some (.look .textStart), 0⟩] }]) (source ++ [')']) := by
  have hlength : (anchored source).length + 1 = source.length + 4 + 2 := by
    simp [anchored]
  rw [Expr.read, hlength]
  rfl

/-- A text that is an expression by itself is one part of its anchored form, behind the start of
the text, unless a comment takes the parenthesis of the group around it or the group makes it too
deep. -/
theorem Expr.read_anchored {source : Text} {e : Expr} (h : Expr.read {} source = .ok e) :
    (MayEndInComment source ∧ Expr.read {} (anchored source) = .error .groupUnclosed) ∨
    (depthLimit < Expr.nesting source + 2 ∧
      Expr.read {} (anchored source) = .error .tooDeep) ∨
    ∃ a, (a = e ∨ ∃ n, a = .group n e) ∧
      Expr.read {} (anchored source) = .ok (.seqs [.look .textStart, a]) := by
  rw [Expr.read, Reader.readParts_eq] at h
  cases hread : Reader.readAll (source.length + 1) { group := { flags := {} } } source with
  | error fault =>
      rw [hread] at h
      cases h
  | ok last =>
      rw [hread] at h
      obtain ⟨houter, -, rfl⟩ := Reader.finish_eq_ok_iff.mp h
      have hlength : (source ++ [')']).length ≤ source.length + 4 := by simp
      rw [Expr.read_anchored_eq, Expr.nesting, hread]
      rcases Reader.readParts_enclosed houter (Nat.le_succ _) hlength
        (.self (List.suffix_refl source)) hread with ⟨hlost, hopen⟩ | ⟨s, hgroup, hs, hfinish⟩
      · exact Or.inl ⟨hlost, hopen⟩
      · rw [hfinish, Reader.finish, hs, hgroup]
        dsimp only
        split
        next hdeep =>
          rw [OpenGroup.depth_body_add_value] at hdeep
          exact Or.inr (Or.inl ⟨hdeep, rfl⟩)
        · obtain ⟨a, ha, hvalue⟩ := last.group.exists_value_expr
          refine Or.inr (Or.inr ⟨a, ha, ?_⟩)
          generalize last.group.value = part at hvalue
          obtain ⟨expr, depth⟩ := part
          cases hvalue
          rfl

/-! ## Room for the group -/

namespace Expr

/-- The weight of expressions, each by itself. -/
def weights : List Expr → Nat
  | [] => 0
  | a :: as => a.weight + weights as

theorem weights_append (as bs : List Expr) : weights (as ++ bs) = weights as + weights bs := by
  induction as with
  | nil => exact (Nat.zero_add _).symm
  | cons a as ih => rw [List.cons_append, weights, weights, ih, Nat.add_assoc]

theorem weights_parts_le : ∀ a : Expr, weights a.parts ≤ a.weight
  | empty => Nat.zero_le _
  | seq a b => by
      rw [parts, weights, weight]
      exact Nat.add_le_add_left (weights_parts_le b) _
  | set _ _ | word _ | look _ | group _ _ | alt _ _ | times _ _ _ _ => by simp [parts, weights]

/-- Words that stand side by side weigh as much as one word. -/
theorem weights_consPart (a : Expr) (as : List Expr) :
    weights (consPart a as) = a.weight + weights as := by
  rw [consPart.eq_def]
  split
  next t u as =>
    simp only [weights, weight, Text.size_append]
    omega
  next => rfl

theorem weights_foldr_consPart (as : List Expr) :
    weights (as.foldr consPart []) = weights as := by
  induction as with
  | nil => rfl
  | cons a as ih => rw [List.foldr_cons, weights_consPart, ih, weights]

theorem weight_ofParts_le : ∀ as : List Expr, (ofParts as).weight ≤ weights as + 32
  | [] => Nat.le_refl _
  | [a] => Nat.le_add_right _ _
  | a :: b :: as => by
      rw [ofParts, weight, weights, Nat.add_assoc]
      exact Nat.add_le_add_left (weight_ofParts_le (b :: as)) _

/-- A sequence weighs little more than what it is made of. -/
theorem weight_seqs_le (as : List Expr) : (seqs as).weight ≤ weights as + 32 := by
  have hparts : weights (as.flatMap parts) ≤ weights as := by
    induction as with
    | nil => exact Nat.le_refl _
    | cons a as ih =>
        rw [List.flatMap_cons, weights_append, weights]
        exact Nat.add_le_add (weights_parts_le a) ih
  have hle := weight_ofParts_le ((as.flatMap parts).foldr consPart [])
  rw [weights_foldr_consPart] at hle
  exact Nat.le_trans hle (Nat.add_le_add_right hparts 32)

end Expr

/-- The program of an expression in the group that is put around it is that of the expression. -/
theorem Expr.program_enclosed {a e : Expr} (h : a = e ∨ ∃ n, a = .group n e) :
    (seqs [.look .textStart, a]).program = e.program.fromStart := by
  rw [program_seqs]
  rcases h with rfl | ⟨n, rfl⟩
  · rfl
  · rfl

/-- The group and the start of the text in front of it take a fixed number of bytes at most. -/
theorem Expr.weight_enclosed_le {a e : Expr} (h : a = e ∨ ∃ n, a = .group n e) :
    (seqs [.look .textStart, a]).weight ≤ e.weight + 128 := by
  have hle : a.weight ≤ e.weight + 64 := by
    rcases h with rfl | ⟨n, rfl⟩
    · exact Nat.le_add_right _ _
    · exact Nat.le_refl _
  have hseqs := weight_seqs_le [.look .textStart, a]
  simp only [weights, weight] at hseqs
  omega

/-- A text that is an expression by itself is one in a group behind the start of the text too: no
comment can take the parenthesis of the group, and there is room for the group and the start. -/
structure Enclosable (source : Text) : Prop where
  closes : ¬MayEndInComment source
  nesting_le : Expr.nesting source + 2 ≤ depthLimit
  weight_le : ∀ e, Expr.read {} source = .ok e → e.weight + 336 ≤ Footprint.budget

/-- The program of a text that is an expression by itself, anchored, is that of the expression with
the start of the text required in front.  Compiling it can fail only for the group that is put
around it, and it does not fail where the text leaves room for the group. -/
theorem compile_anchored {source : Text} {e : Expr} (h : Expr.read {} source = .ok e) :
    (¬Enclosable source ∧ ∃ fault ∈ [Fault.groupUnclosed, .tooDeep, .tooLarge],
      compile (anchored source) = .error fault) ∨
    compile (anchored source) = .ok ⟨anchored source, e.program.fromStart⟩ := by
  rcases Expr.read_anchored h with ⟨hlost, hread⟩ | ⟨hdeep, hread⟩ | ⟨a, ha, hread⟩
  · refine Or.inl ⟨fun enclosable => enclosable.closes hlost, .groupUnclosed, by simp, ?_⟩
    exact compile_of_read_error hread
  · refine Or.inl ⟨fun enclosable => Nat.not_lt.mpr enclosable.nesting_le hdeep, .tooDeep,
      by simp, ?_⟩
    exact compile_of_read_error hread
  · rw [compile_of_read hread, Expr.program_enclosed ha]
    split
    next => exact Or.inr rfl
    next hlarge =>
      refine Or.inl ⟨fun enclosable => hlarge ?_, .tooLarge, by simp, rfl⟩
      have hweight := enclosable.weight_le e h
      have hle := Expr.weight_enclosed_le ha
      rw [Expr.fits, Bool.or_eq_true, decide_eq_true_eq]
      exact Or.inl (by omega)

/-- A text that is an expression by itself is looked for at the start only. -/
theorem anchored_of_compile {source : Text} {e : Expr} {regex : Regex}
    (h : Expr.read {} source = .ok e) (hc : compile (anchored source) = .ok regex) :
    regex.program.Anchored := by
  rcases compile_anchored h with ⟨-, fault, -, hfault⟩ | hprogram
  · rw [hfault] at hc
    cases hc
  · rw [hprogram] at hc
    cases hc
    exact Program.anchored_fromStart _

end Descent.Regex
