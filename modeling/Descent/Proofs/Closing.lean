import Descent.Proofs.Anchored

/-!
# A closing parenthesis behind

What a reader makes of a text, and where it stops, does not depend on a closing parenthesis that is
put behind the text.  Two texts are `Closed` when the second is the first with the parenthesis
behind it, and two readers are `Alike` when they make the same of such texts and leave such texts
again.  This holds of the readers of escapes.

It is said of the texts that a reader makes something of, and of those only.  A reader that comes to
the end of its text too early finds the parenthesis there, and may then do something else than fail:
`[` is no expression, and behind it the parenthesis is a character of the class.

The parenthesis can get lost.  Where comments are skipped, one that goes on to the end of the text
takes the parenthesis with it, and then nothing is left of either text.  So `Closed` allows for
that, but only if a comment may go on to the end of the whole text of which these are the ends
(`MayEndInComment`).
-/

namespace Descent.Regex

/-! ## A closing parenthesis behind -/

/-- The end of the text may be in a comment: there is a number sign, and the text does not end with
a line. -/
def MayEndInComment (t : Text) : Prop := '#' ∈ t ∧ t.getLast? ≠ some '\n'

/-- The second text is the first with a closing parenthesis behind it, unless nothing is left of
either because of a comment.  The first is an end of the whole text. -/
structure Closed (whole t t' : Text) : Prop where
  suffix : t <:+ whole
  eq_append : t' = t ++ [')'] ∨ MayEndInComment whole ∧ t = [] ∧ t' = []

/-- If the first reader makes something then so does the second, and the two are related. -/
def Follows {α β : Type} (R : α → β → Prop) (x : Except Fault α) (x' : Except Fault β) : Prop :=
  ∀ a, x = .ok a → ∃ a', x' = .ok a' ∧ R a a'

/-- If a reader makes something of an end of the whole text, it makes the same of it with a closing
parenthesis behind, and leaves the same with a closing parenthesis behind. -/
def Alike {α : Type} (whole : Text) (x x' : Except Fault (α × Text)) : Prop :=
  Follows (fun y y' => y'.1 = y.1 ∧ Closed whole y.2 y'.2) x x'

variable {α β : Type} {whole whole' t t' u u' : Text} {c : Char}

theorem getLast?_cons_ne (ht : t.getLast? ≠ some '\n') (hc : c ≠ '\n' ∨ t ≠ []) :
    (c :: t).getLast? ≠ some '\n' := by
  cases t with
  | nil => simpa using hc
  | cons d t => rwa [List.getLast?_cons_cons]

/-- How a text ends is decided by its end, so a comment that may be open at the end of a suffix may
be open at the end of the whole. -/
theorem MayEndInComment.of_suffix (h : t <:+ whole) (ht : MayEndInComment t) :
    MayEndInComment whole := by
  obtain ⟨v, rfl⟩ := h
  refine ⟨List.mem_append_right v ht.1, ?_⟩
  cases hlast : t.getLast? with
  | none => exact absurd (List.getLast?_eq_none_iff.mp hlast) (List.ne_nil_of_mem ht.1)
  | some c =>
      rw [List.getLast?_append, hlast, Option.some_or, ← hlast]
      exact ht.2

namespace Closed

theorem self (h : t <:+ whole) : Closed whole t (t ++ [')']) := ⟨h, Or.inl rfl⟩

/-- What a reader has left is an end of what it was given, so the whole text may be taken larger at
any time. -/
theorem mono (h : Closed whole t t') (hw : whole <:+ whole') : Closed whole' t t' :=
  ⟨h.suffix.trans hw, h.eq_append.imp_right fun ⟨hlost, hnil⟩ => ⟨hlost.of_suffix hw, hnil⟩⟩

theorem length_le (h : Closed whole t t') : t.length ≤ whole.length := h.suffix.length_le

/-- A text that is not used up still has the parenthesis at its end, since a comment takes it only
where it takes everything. -/
theorem eq_cons (h : Closed whole (c :: t) t') : t' = c :: (t ++ [')']) :=
  h.eq_append.resolve_right fun hnil => nomatch hnil.2.1

theorem tail (h : Closed whole (c :: t) t') : Closed whole t (t ++ [')']) :=
  self ((List.suffix_cons c t).trans h.suffix)

theorem tails {d : Char} (h : Closed whole (c :: t) (d :: u)) : Closed whole t u :=
  (List.cons.inj h.eq_cons).2 ▸ h.tail

theorem eq_nil (h : Closed whole t []) : t = [] := by
  rcases h.eq_append with happend | ⟨-, hnil, -⟩
  · cases t <;> cases happend
  · exact hnil

/-- Only a closing parenthesis may be new at the front. -/
theorem starts : ∀ {t : Text} (s : Text), Closed whole t (s ++ u) → ')' ∉ s → ∃ v, t = s ++ v
  | t, [], _, _ => ⟨t, rfl⟩
  | [], c :: s, h, hs => by
      rcases h.eq_append with heq | ⟨-, -, heq⟩
      · obtain ⟨rfl, -⟩ := List.cons.inj heq
        exact absurd List.mem_cons_self hs
      · cases heq
  | d :: t, c :: s, h, hs => by
      have htails : Closed whole t (s ++ u) := h.tails
      obtain ⟨rfl, -⟩ := List.cons.inj h.eq_cons
      obtain ⟨v, rfl⟩ := htails.starts s fun hmem => hs (List.mem_cons_of_mem _ hmem)
      exact ⟨v, rfl⟩

/-- Fuel that is enough for the longer text is enough for the shorter. -/
theorem length_le_length (h : Closed whole t t') : t.length ≤ t'.length := by
  rcases h.eq_append with rfl | ⟨-, rfl, rfl⟩
  · simp
  · exact Nat.le_refl _

/-- Fuel for the longer text need be more by one only. -/
theorem length_le_succ (h : Closed whole t t') : t'.length ≤ t.length + 1 := by
  rcases h.eq_append with rfl | ⟨-, rfl, rfl⟩
  · simp
  · exact Nat.zero_le _

theorem head?_eq_some_iff (h : Closed whole t t') (hc : c ≠ ')') :
    t.head? = some c ↔ t'.head? = some c := by
  cases t with
  | nil => rcases h.eq_append with rfl | ⟨-, -, rfl⟩ <;> simp [Ne.symm hc]
  | cons d t => rw [h.eq_cons]; rfl

/-- What is dropped ends before the parenthesis, if that is not dropped itself. -/
theorem dropWhile {p : Char → Bool} (hp : p ')' = false) (h : Closed whole t t') :
    Closed whole (t.dropWhile p) (t'.dropWhile p) := by
  refine ⟨(t.dropWhile_suffix p).trans h.suffix, ?_⟩
  rcases h.eq_append with rfl | ⟨hlost, rfl, rfl⟩
  · rw [List.dropWhile_append]
    split
    next hempty =>
      rw [List.isEmpty_iff.mp hempty]
      exact Or.inl (by simp [hp])
    · exact Or.inl rfl
  · exact Or.inr ⟨hlost, rfl, rfl⟩

/-- What is found is found before the parenthesis. -/
theorem dropWhile_cons {p : Char → Bool} (h : Closed whole t t') (hdrop : t.dropWhile p = c :: u) :
    Closed whole (c :: u) (t'.dropWhile p) := by
  have suffix := (t.dropWhile_suffix p).trans h.suffix
  rcases h.eq_append with rfl | ⟨-, rfl, rfl⟩
  · rw [List.dropWhile_append, hdrop, if_neg (by simp)]
    exact self (hdrop ▸ suffix)
  · cases hdrop

/-- If the parenthesis is dropped as well, a search to the end of the shorter text goes on to the
end of the longer. -/
theorem dropWhile_nil {p : Char → Bool} (hp : p ')' = true) (h : Closed whole t t')
    (hdrop : t.dropWhile p = []) : t'.dropWhile p = [] := by
  rcases h.eq_append with rfl | ⟨-, rfl, rfl⟩
  · simp [List.dropWhile_append, hdrop, hp]
  · rfl

/-- What is searched for before the end is found in the same place. -/
theorem takeWhile_eq {p : Char → Bool} (h : Closed whole t t') (hne : t.dropWhile p ≠ []) :
    t'.takeWhile p = t.takeWhile p := by
  rcases h.eq_append with rfl | ⟨-, rfl, rfl⟩
  · rw [List.takeWhile_append, if_neg]
    intro hlength
    have hsplit := congrArg List.length (List.takeWhile_append_dropWhile (p := p) (l := t))
    rw [List.length_append, hlength] at hsplit
    exact hne (List.length_eq_zero_iff.mp (by omega))
  · rfl

end Closed

/-- The readers cut a text by the length of what they have read, while the lemmas here speak of what
is dropped. -/
theorem drop_length_takeWhile (p : Char → Bool) (t : Text) :
    t.drop (t.takeWhile p).length = t.dropWhile p := by
  have hsplit := congrArg (List.drop (t.takeWhile p).length)
    (List.takeWhile_append_dropWhile (p := p) (l := t))
  rw [List.drop_left] at hsplit
  exact hsplit.symm

/-- Skipping stops at the same place before the parenthesis, unless a comment goes on to the end of
the text. -/
theorem Flags.skipComments_closed : ∀ (inComment : Bool) (t : Text),
    skipComments inComment t <:+ t ∧
      (skipComments inComment (t ++ [')']) = skipComments inComment t ++ [')'] ∨
        (inComment = true ∨ '#' ∈ t) ∧ t.getLast? ≠ some '\n' ∧ skipComments inComment t = [] ∧
          skipComments inComment (t ++ [')']) = [])
  | true, [] => ⟨List.suffix_refl _, Or.inr ⟨Or.inl rfl, nofun, rfl, rfl⟩⟩
  | false, [] => ⟨List.suffix_refl _, Or.inl rfl⟩
  | inComment, c :: t => by
      rw [List.cons_append, skipComments, skipComments]
      split
      next hin =>
        obtain ⟨suffix, hclosed⟩ := skipComments_closed (c != '\n') t
        refine ⟨suffix.trans (List.suffix_cons c t), hclosed.imp_right fun ⟨hopen, hlast, hnil⟩ =>
          ⟨Or.inl hin, getLast?_cons_ne hlast ?_, hnil⟩⟩
        exact hopen.imp (fun hc => by simpa using hc) List.ne_nil_of_mem
      · split
        · obtain ⟨suffix, hclosed⟩ := skipComments_closed false t
          refine ⟨suffix.trans (List.suffix_cons c t), hclosed.imp_right fun ⟨hopen, hlast, hnil⟩ =>
            ?_⟩
          have hmem : '#' ∈ t := hopen.resolve_left nofun
          exact ⟨Or.inr (List.mem_cons_of_mem c hmem),
            getLast?_cons_ne hlast (Or.inr (List.ne_nil_of_mem hmem)), hnil⟩
        · split
          next hmark =>
            subst hmark
            obtain ⟨suffix, hclosed⟩ := skipComments_closed true t
            exact ⟨suffix.trans (List.suffix_cons _ t), hclosed.imp_right fun ⟨_, hlast, hnil⟩ =>
              ⟨Or.inr List.mem_cons_self, getLast?_cons_ne hlast (Or.inl (by decide)), hnil⟩⟩
          · exact ⟨List.suffix_refl _, Or.inl rfl⟩

/-- A comment may go on to the closing parenthesis, and then nothing is left. -/
theorem Closed.skip (f : Flags) (h : Closed whole t t') : Closed whole (f.skip t) (f.skip t') := by
  rw [Flags.skip, Flags.skip]
  split
  · obtain ⟨suffix, hclosed⟩ := Flags.skipComments_closed false t
    refine ⟨suffix.trans h.suffix, ?_⟩
    rcases h.eq_append with rfl | ⟨hlost, rfl, rfl⟩
    · refine hclosed.imp_right fun ⟨hopen, hlast, hnil⟩ => ⟨?_, hnil⟩
      exact .of_suffix h.suffix ⟨hopen.resolve_left nofun, hlast⟩
    · exact Or.inr ⟨hlost, rfl, rfl⟩
  · exact h

theorem Flags.skip_nil (f : Flags) : f.skip [] = [] := by
  rw [skip]
  split
  · rfl
  · rfl

/-- Fuel for a text is enough for what is left of it behind blanks and comments. -/
theorem Flags.length_skip_le (f : Flags) (t : Text) : (f.skip t).length ≤ t.length :=
  ((Closed.self (List.suffix_refl t)).skip f).length_le

/-! ## Readers that are alike -/

/-- Nothing is asked of the second reader where the first fails, since it may read the parenthesis
then. -/
theorem Follows.error {R : α → β → Prop} (e : Fault) (x' : Except Fault β) :
    Follows R (.error e) x' := nofun

theorem Follows.ok {R : α → β → Prop} {a : α} {b : β} (h : R a b) :
    Follows R (.ok a) (.ok b) := by
  intro a' ha'
  cases ha'
  exact ⟨b, rfl, h⟩

theorem Follows.bind {γ δ : Type} {R : α → β → Prop} {S : γ → δ → Prop} {x : Except Fault α}
    {x' : Except Fault β} (h : Follows R x x') {k : α → Except Fault γ} {k' : β → Except Fault δ}
    (hk : ∀ a b, R a b → Follows S (k a) (k' b)) : Follows S (x >>= k) (x' >>= k') := by
  cases x with
  | error e => exact error e _
  | ok a =>
      obtain ⟨b, rfl, hab⟩ := h a rfl
      exact hk a b hab

/-- What is made without the text is the same. -/
theorem Follows.bind_same {γ δ : Type} {S : γ → δ → Prop} (y : Except Fault α)
    {k : α → Except Fault γ} {k' : α → Except Fault δ} (hk : ∀ a, Follows S (k a) (k' a)) :
    Follows S (y >>= k) (y >>= k') := by
  cases y with
  | error e => exact error e _
  | ok a => exact hk a

namespace Alike

variable {x x' : Except Fault (α × Text)}

theorem error (e : Fault) (x' : Except Fault (α × Text)) : Alike whole (.error e) x' :=
  Follows.error e x'

theorem ok (a : α) (h : Closed whole u u') : Alike whole (.ok (a, u)) (.ok (a, u')) :=
  Follows.ok ⟨rfl, h⟩

/-- What stands behind a reader may give something else than a value and a text. -/
theorem follows_bind {γ δ : Type} {S : γ → δ → Prop} (h : Alike whole x x')
    {k : α × Text → Except Fault γ} {k' : α × Text → Except Fault δ}
    (hk : ∀ a u u', Closed whole u u' → Follows S (k (a, u)) (k' (a, u'))) :
    Follows S (x >>= k) (x' >>= k') := by
  refine Follows.bind h fun y y' hy => ?_
  obtain ⟨a, u⟩ := y
  obtain ⟨a', u'⟩ := y'
  obtain ⟨rfl, hclosed⟩ := hy
  exact hk a' u u' hclosed

theorem bind (h : Alike whole x x') {k k' : α × Text → Except Fault (β × Text)}
    (hk : ∀ a u u', Closed whole u u' → Alike whole' (k (a, u)) (k' (a, u'))) :
    Alike whole' (x >>= k) (x' >>= k') :=
  h.follows_bind hk

theorem bind_same (y : Except Fault β) {k k' : β → Except Fault (α × Text)}
    (hk : ∀ b, Alike whole (k b) (k' b)) : Alike whole (y >>= k) (y >>= k') :=
  Follows.bind_same y hk

/-- Some escapes look up a set of characters, which may fail, and leave the text as it is. -/
theorem map_same (y : Except Fault α) (h : Closed whole u u') :
    Alike whole (y.map fun a => (a, u)) (y.map fun a => (a, u')) := by
  cases y with
  | error e => exact error e _
  | ok a => exact ok a h

end Alike

/-! ## Escapes -/

variable (f : Flags)

/-- A fixed number of digits is read, so that the reader fails where the text ends too early. -/
theorem readHexDigits_alike : ∀ (k : Nat) (digits : Text) {t t' : Text}, Closed whole t t' →
    Alike whole (readHexDigits f digits k t) (readHexDigits f digits k t')
  | 0, digits, t, t', h => .ok _ h
  | k + 1, digits, [], t', h => .error _ _
  | k + 1, digits, c :: t, t', h => by
      rw [h.eq_cons, readHexDigits, readHexDigits]
      split
      · exact readHexDigits_alike k _ (h.tail.skip f)
      · exact .error _ _

/-- The brace closes the number, and the parenthesis is no hexadecimal digit.  The fuel is the
length of the text, so it is larger where the parenthesis stands. -/
theorem readHexBraced_alike : ∀ {k k' : Nat} (digits : Text) {t t' : Text}, k ≤ k' →
    Closed whole t t' → Alike whole (readHexBraced f digits k t) (readHexBraced f digits k' t')
  | 0, _, digits, t, t', _, _ => .error _ _
  | k + 1, 0, digits, t, t', hk, _ => absurd hk (Nat.not_succ_le_zero k)
  | k + 1, k' + 1, digits, [], t', _, _ => .error _ _
  | k + 1, k' + 1, digits, c :: t, t', hk, h => by
      rw [h.eq_cons, readHexBraced, readHexBraced]
      split
      · split
        · exact .error _ _
        · exact .ok _ (h.tail.skip f)
      · split
        · exact readHexBraced_alike _ (Nat.le_of_succ_le_succ hk) (h.tail.skip f)
        · exact .error _ _

/-- A name in braces may have a parenthesis in it, but the reader stops at the brace, and without
one it fails on the shorter text. -/
theorem readBraced_alike : ∀ {k k' : Nat} (name : Text) {t t' : Text}, k ≤ k' →
    Closed whole t t' → Alike whole (readBraced f name k t) (readBraced f name k' t')
  | 0, _, name, t, t', _, _ => .error _ _
  | k + 1, 0, name, t, t', hk, _ => absurd hk (Nat.not_succ_le_zero k)
  | k + 1, k' + 1, name, [], t', _, _ => .error _ _
  | k + 1, k' + 1, name, c :: t, t', hk, h => by
      rw [h.eq_cons, readBraced, readBraced]
      split
      · exact .ok _ h.tail
      · exact readBraced_alike _ (Nat.le_of_succ_le_succ hk) (h.tail.skip f)

/-- Whether there is a brace is seen at the front, where the parenthesis is new only if nothing else
is left. -/
theorem readHex_alike (width : Nat) (h : Closed whole t t') :
    Alike whole (readHex f width t) (readHex f width t') := by
  have hskip := h.skip f
  rw [readHex, readHex]
  generalize f.skip t = s at hskip
  generalize f.skip t' = s' at hskip
  split
  · exact .error _ _
  · rw [hskip.eq_cons]
    refine (readHexBraced_alike f [] ?_ (hskip.tail.skip f)).bind fun digits u u' hu =>
      .bind_same _ fun c => .ok _ hu
    simp
  next hnil hbrace =>
    split
    next => exact absurd hskip.eq_nil hnil
    next =>
      exact ((hskip.starts ['{'] (by decide)).elim hbrace).elim
    next =>
      exact (readHexDigits_alike f width [] hskip).bind fun digits u u' hu =>
        .bind_same _ fun c => .ok _ hu

/-- The name of a property is one letter or stands in braces.  In either case some of the text has
to be there. -/
theorem readProperty_alike (negated : Bool) (h : Closed whole t t') :
    Alike whole (readProperty f negated t) (readProperty f negated t') := by
  have hskip := h.skip f
  rw [readProperty, readProperty]
  generalize f.skip t = s at hskip
  generalize f.skip t' = s' at hskip
  split
  · exact .error _ _
  · rw [hskip.eq_cons]
    refine (readBraced_alike f [] ?_ (hskip.tail.skip f)).bind fun name u u' hu =>
      .bind_same _ fun s => .ok _ hu
    simp
  · exact .error _ _
  next c s hbrace hslash =>
    have heq := hskip.eq_cons
    split
    next => cases heq
    next => cases heq; exact absurd rfl hbrace
    next => cases heq; exact absurd rfl hslash
    next => cases heq; exact .bind_same _ fun s => .ok _ (hskip.tail.skip f)

/-- Reads characters of a kind, given those read so far, last first, and skips the blanks and
comments behind each. -/
def readRun (kind : Char → Bool) (done : Text) : (fuel : Nat) → Text → Text × Text
  | 0, t => (done.reverse, t)
  | fuel + 1, t =>
    match t with
    | c :: u => if kind c then readRun kind (c :: done) fuel (f.skip u) else (done.reverse, t)
    | [] => (done.reverse, [])

/-- A run ends before the closing parenthesis, if that is not of the kind. -/
theorem readRun_closed (kind : Char → Bool) (hkind : kind ')' = false) :
    ∀ {k k' : Nat} (done : Text) {t t' : Text}, t.length ≤ k → t'.length ≤ k' → Closed whole t t' →
      ∃ w u u', readRun f kind done k t = (w, u) ∧ readRun f kind done k' t' = (w, u') ∧
        Closed whole u u'
  | k, k', done, [], t', _, _, h => by
      refine ⟨done.reverse, [], t', ?_, ?_, h⟩
      · cases k <;> rfl
      · rcases h.eq_append with rfl | ⟨-, -, rfl⟩
        · cases k' with
          | zero => rfl
          | succ k' => rw [List.nil_append, readRun, hkind]; rfl
        · cases k' <;> rfl
  | 0, k', done, c :: t, t', hk, _, _ => absurd hk (Nat.not_succ_le_zero _)
  | k + 1, 0, done, c :: t, t', _, hk', h =>
      absurd (Nat.le_trans h.length_le_length hk') (Nat.not_succ_le_zero _)
  | k + 1, k' + 1, done, c :: t, t', hk, hk', h => by
      obtain rfl := h.eq_cons
      rw [readRun, readRun]
      split
      · refine readRun_closed kind hkind _ ?_ ?_ (h.tail.skip f)
        · exact Nat.le_trans (f.length_skip_le t) (Nat.le_of_succ_le_succ hk)
        · exact Nat.le_trans (f.length_skip_le _) (Nat.le_of_succ_le_succ hk')
      · exact ⟨_, _, _, rfl, rfl, h⟩

/-- The kind of a word boundary is a run of letters and hyphens. -/
theorem readKind_eq_readRun : ∀ (k : Nat) (kind t : Text),
    readKind f kind k t = readRun f (fun c => c.isAlpha || c == '-') kind k t
  | 0, _, _ => rfl
  | _ + 1, _, [] => rfl
  | k + 1, kind, c :: t => by
      rw [readKind, readRun, readKind_eq_readRun k]

/-- A brace behind the letter may open a repetition instead of a kind of boundary.  The reader looks
at the letters of the kind to tell, and leaves the text alone if there are none. -/
theorem readBoundary_alike (h : Closed whole t t') :
    Alike whole (readBoundary f t) (readBoundary f t') := by
  rw [readBoundary.eq_def, readBoundary.eq_def]
  split
  next u =>
    obtain rfl := h.eq_cons
    have hskip := h.tail.skip f
    simp only
    generalize f.skip u = s at hskip
    generalize f.skip (u ++ [')']) = s' at hskip
    cases s with
    | nil => exact .error _ _
    | cons c v =>
        obtain rfl := hskip.eq_cons
        simp only
        split
        · obtain ⟨kind, w, w', hw, hw', hclosed⟩ :=
            readRun_closed f (fun c => c.isAlpha || c == '-') rfl [] (Nat.le_refl _)
              (Nat.le_refl _) hskip
          simp only [List.length_cons] at hw hw'
          rw [readKind_eq_readRun, readKind_eq_readRun, hw, hw']
          split
          next v hpair =>
            cases hpair
            obtain rfl := hclosed.eq_cons
            simp only
            split
            · exact .ok _ hclosed.tail
            · exact .ok _ hclosed.tail
            · exact .ok _ hclosed.tail
            · exact .ok _ hclosed.tail
            · exact .error _ _
          · exact .error _ _
        · exact .ok _ h
  next hbrace =>
    split
    next u =>
      exact ((h.starts ['{'] (by decide)).elim hbrace).elim
    next => exact .ok _ h

/-- The character behind the backslash decides, and it has been read before the parenthesis comes
into play. -/
theorem readEscape_alike (h : Closed whole t t') :
    Alike whole (readEscape f t) (readEscape f t') := by
  cases t with
  | nil => exact .error _ _
  | cons c t =>
      rw [h.eq_cons]
      have htail := h.tail
      simp only [readEscape]
      split
      · exact .ok _ htail
      · split
        · exact .error _ _
        · split
          · exact readHex_alike f 2 htail
          · exact readHex_alike f 4 htail
          · exact readHex_alike f 8 htail
          · exact readProperty_alike f false htail
          · exact readProperty_alike f true htail
          · exact .map_same _ htail
          · exact .map_same _ htail
          · exact .map_same _ htail
          · exact .map_same _ htail
          · exact .map_same _ htail
          · exact .map_same _ htail
          · exact .ok _ htail
          · exact .ok _ htail
          · exact .ok _ htail
          · exact .ok _ htail
          · exact .ok _ htail
          · exact .ok _ htail
          · exact .ok _ htail
          · exact .ok _ htail
          · exact readBoundary_alike f htail
          · exact .ok _ htail
          · exact .ok _ htail
          · exact .ok _ htail
          · exact .error _ _

end Descent.Regex
