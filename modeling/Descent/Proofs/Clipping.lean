import Descent.Proofs.Escapes

/-!
# Clipped texts, character by character

The text of a field is made in four steps: it is cut, what is left is escaped, the escapes of quotes
are undone in all of it, and it is cut again.  What comes of them is what the text is written as
character by character, cut once (`clip_eq`).  For no character is written as nothing, so what the
first cut takes away the second would have.  And an escape is undone where it has been put on and
nowhere else (`unescape_flatMap`): a backslash that stands for itself is written twice, and behind
the second a quote still has its own.

Quotes standing for themselves, a text can be read back from what it is written as.  So only texts
that do not fit are shown alike (`clipped_exact`).
-/

namespace Descent.Text

/-! ## How characters are written -/

/-- What a character is written as in plain ASCII where those in `bare` stand for themselves. -/
def asciiForm (bare : List Char) (c : Char) : Text := if c ∈ bare then [c] else asciiEscaped c

/-- What a text is written as in a field, in full. -/
def fieldText (t : Text) : Text := t.flatMap (asciiForm ['\'', '"'])

theorem asciiForm_nil : asciiForm [] = asciiEscaped := by
  funext c
  exact if_neg List.not_mem_nil

theorem writtenAs_asciiForm {bare : List Char} (h : '\\' ∉ bare) (c : Char) :
    WrittenAs c (asciiForm bare c) := by
  unfold asciiForm
  split
  next hmem => exact .self fun hc => h (hc ▸ hmem)
  next => exact writtenAs_asciiEscaped c

theorem legible_asciiForm {bare : List Char} (h : '\\' ∉ bare) : Legible (asciiForm bare) :=
  legible_of_writtenAs (writtenAs_asciiForm h)

theorem asciiForm_cons_of_ne {q c : Char} (h : c ≠ q) (bare : List Char) :
    asciiForm (q :: bare) c = asciiForm bare c := by
  simp only [asciiForm, List.mem_cons, h, false_or]

theorem all_isPlainAscii_asciiEscaped (c : Char) :
    (asciiEscaped c).all isPlainAscii = true := by
  unfold asciiEscaped
  split
  · rfl
  · rfl
  · rfl
  · rfl
  · rfl
  · rfl
  · split
    next hplain => rw [List.all_cons, hplain, List.all_nil, Bool.and_self]
    next =>
      have digits : (Nat.toDigits 16 c.toNat).all isPlainAscii = true :=
        List.all_eq_true.mpr (Hex.forall_mem_toDigits (by decide) _)
      rw [codeEscape, List.all_append, List.all_append, digits]
      rfl

theorem isPlainAscii_of_mem_fieldText {t : Text} {d : Char} (h : d ∈ fieldText t) :
    isPlainAscii d = true := by
  obtain ⟨c, -, hd⟩ := List.mem_flatMap.mp h
  unfold asciiForm at hd
  split at hd
  next hquote =>
    cases List.mem_singleton.mp hd
    have quotes : ['\'', '"'].all isPlainAscii = true := rfl
    exact List.all_eq_true.mp quotes d hquote
  next => exact List.all_eq_true.mp (all_isPlainAscii_asciiEscaped c) d hd

/-! ## Undoing escapes -/

section Unescape

variable {q : Char}

theorem unescape_pair (q : Char) (t : Text) : unescape q ('\\' :: q :: t) = q :: unescape q t :=
  if_pos ⟨rfl, rfl⟩

theorem unescape_cons_of_ne {c : Char} (h : c ≠ '\\') (t : Text) :
    unescape q (c :: t) = c :: unescape q t := by
  cases t with
  | nil => rfl
  | cons d t => exact if_neg fun hand => h hand.1

theorem unescape_backslash {t : Text} (h : ∀ u, q :: u ≠ t) :
    unescape q ('\\' :: t) = '\\' :: unescape q t := by
  cases t with
  | nil => rfl
  | cons d t => exact if_neg fun hand => h t (by rw [hand.2])

theorem unescape_append_of_notMem {w : Text} (h : '\\' ∉ w) (t : Text) :
    unescape q (w ++ t) = w ++ unescape q t := by
  induction w with
  | nil => rfl
  | cons c w ih =>
      obtain ⟨hc, hw⟩ := not_or.mp (List.mem_cons.not.mp h)
      rw [List.cons_append, unescape_cons_of_ne (Ne.symm hc), ih hw, List.cons_append]

/-- What another character is written as is left as it is, for no `q` comes behind. -/
theorem WrittenAs.unescape_append {c : Char} {w t : Text} (h : WrittenAs c w)
    (hq : unabbreviated q = q) (hu : q ≠ 'u') (hc : c ≠ q) (ht : ∀ u, q :: u ≠ t) :
    unescape q (w ++ t) = w ++ unescape q t := by
  cases h with
  | self hne => exact unescape_cons_of_ne hne t
  | @letter k _ hk =>
      have hkq : k ≠ q := by
        rintro rfl
        exact hc (hk.symm.trans hq)
      have first : unescape q ('\\' :: k :: t) = '\\' :: unescape q (k :: t) :=
        unescape_backslash fun u heq => hkq (List.cons.inj heq).1.symm
      by_cases hback : k = '\\'
      · -- a backslash that stands for itself: its second half may stand in front of a text only
        -- because that text does not begin with the quote
        subst hback
        exact first.trans (congrArg _ (unescape_backslash ht))
      · exact first.trans (congrArg _ (unescape_cons_of_ne hback t))
  | code =>
      have digits : ∀ d ∈ Nat.toDigits 16 c.toNat, d ≠ '\\' :=
        Hex.forall_mem_toDigits (by decide) _
      have behind : '\\' ∉ ['u', '{'] ++ Nat.toDigits 16 c.toNat ++ ['}'] := by
        simpa using fun hmem => digits _ hmem rfl
      have first : unescape q (codeEscape c ++ t) =
          '\\' :: unescape q (['u', '{'] ++ Nat.toDigits 16 c.toNat ++ ['}'] ++ t) :=
        unescape_backslash fun u heq => hu (List.cons.inj heq).1
      rw [first, unescape_append_of_notMem behind]
      rfl

/-- One pass undoes the escapes of one kind of quotes. -/
theorem unescape_flatMap {bare : List Char} (hq : q = '"' ∨ q = '\'') (hnew : q ∉ bare)
    (hbare : '\\' ∉ bare) (t : Text) :
    unescape q (t.flatMap (asciiForm bare)) = t.flatMap (asciiForm (q :: bare)) := by
  obtain ⟨hform, hback, hself, hu⟩ : asciiEscaped q = ['\\', q] ∧ q ≠ '\\' ∧
      unabbreviated q = q ∧ q ≠ 'u' := by
    rcases hq with rfl | rfl
    · decide
    · decide
  have legible := legible_asciiForm hbare
  have escapes : asciiForm bare q = ['\\', q] := (if_neg hnew).trans hform
  induction t with
  | nil => rfl
  | cons c t ih =>
      have hrest : ∀ u, q :: u ≠ t.flatMap (asciiForm bare) := by
        intro u
        cases t with
        | nil => exact nofun
        | cons d t => exact legible.cons_ne escapes hback u d _
      rw [List.flatMap_cons, List.flatMap_cons]
      by_cases hc : c = q
      · have stays : asciiForm (q :: bare) q = [q] := if_pos List.mem_cons_self
        rw [hc, escapes, stays, ← ih]
        exact unescape_pair q _
      · rw [asciiForm_cons_of_ne hc, ← ih]
        exact (writtenAs_asciiForm hbare c).unescape_append hself hu hc hrest

end Unescape

/-! ## Cutting -/

theorem length_le_length_flatMap {f : Char → Text} (h : ∀ c, f c ≠ []) (t : Text) :
    t.length ≤ (t.flatMap f).length := by
  induction t with
  | nil => exact Nat.le_refl _
  | cons c t ih =>
      have hpos : 0 < (f c).length := List.length_pos_iff.mpr (h c)
      rw [List.flatMap_cons, List.length_append, List.length_cons]
      omega

/-- A cut in front changes nothing that the cut behind leaves. -/
theorem take_flatMap_take {f : Char → Text} (h : ∀ c, f c ≠ []) (n : Nat) (t : Text) :
    ((t.take n).flatMap f).take n = (t.flatMap f).take n := by
  by_cases hn : t.length ≤ n
  · rw [List.take_of_length_le hn]
  · have hle : n ≤ ((t.take n).flatMap f).length := by
      have hlen := length_le_length_flatMap h (t.take n)
      rwa [List.length_take, Nat.min_eq_left (Nat.le_of_not_le hn)] at hlen
    calc
      ((t.take n).flatMap f).take n
        = ((t.take n).flatMap f ++ (t.drop n).flatMap f).take n :=
          (List.take_append_of_le_length hle).symm
      _ = (t.flatMap f).take n := by rw [← List.flatMap_append, List.take_append_drop]

theorem legible_fieldText : Legible (asciiForm ['\'', '"']) := legible_asciiForm (by decide)

/-- The characters between the bars are the first of those that the text is written as. -/
theorem clip_eq (t : Text) : clip t = (fieldText t).take clipWidth := by
  rw [clip, ← asciiForm_nil, unescape_flatMap (Or.inl rfl) (by decide) (by decide),
    unescape_flatMap (Or.inr rfl) (by decide) (by decide)]
  exact take_flatMap_take legible_fieldText.ne_nil _ _

/-- A backslash in front of a quote is written twice and the quote once. -/
example : clip ['\\', '"', '\''] = ['\\', '\\', '"', '\''] := by decide

/-! ## Fields -/

theorem clipped_eq (t : Text) :
    t.clipped = '|' :: (clip t ++ '|' :: List.replicate (clipWidth - (clip t).length) ' ') := by
  simp [clipped, padEnd]

theorem length_clipped (t : Text) : t.clipped.length = clipWidth + 2 := by
  have hle : (clip t).length ≤ clipWidth := List.length_take_le _ _
  rw [clipped_eq, List.length_cons, List.length_append, List.length_cons, List.length_replicate]
  omega

theorem isPlainAscii_of_mem_clipped {t : Text} {c : Char} (h : c ∈ t.clipped) :
    isPlainAscii c = true := by
  rw [clipped_eq, clip_eq, List.mem_cons, List.mem_append, List.mem_cons] at h
  rcases h with rfl | h | rfl | h
  · rfl
  · exact isPlainAscii_of_mem_fieldText (List.mem_of_mem_take h)
  · rfl
  · rw [List.eq_of_mem_replicate h]
    rfl

/-- What is left of a field without the spaces at its end says what stands between the bars. -/
theorem trimEnd_clipped (t : Text) : trimEnd t.clipped = '|' :: (clip t ++ ['|']) := by
  have bar : isBlank '|' = false := by decide
  have space : isBlank ' ' = true := by decide
  simp [clipped_eq, trimEnd, bar, space]

theorem clip_eq_of_clipped_eq {t u : Text} (h : t.clipped = u.clipped) : clip t = clip u := by
  have htrim := congrArg trimEnd h
  rw [trimEnd_clipped, trimEnd_clipped] at htrim
  exact List.append_cancel_right (List.cons.inj htrim).2

/-- A field is thirty-five characters of printable ASCII: a bar, the first thirty-three characters of
what the text is written as character by character, quotes standing for themselves, another bar, and
spaces.  It does not matter that the text is cut before it is escaped and that the escapes of quotes
are undone in all of it.  Different texts are written differently in full, so two of them have the
same field only if what one of them is written as is too long for it. -/
theorem clipped_exact (t : Text) :
    t.clipped.length = 35 ∧
    (∀ c ∈ t.clipped, isPlainAscii c = true) ∧
    (∃ n, t.clipped = '|' :: ((fieldText t).take 33 ++ '|' :: List.replicate n ' ')) ∧
    Function.Injective fieldText ∧
    ∀ u, t ≠ u → t.clipped = u.clipped →
      33 < (fieldText t).length ∨ 33 < (fieldText u).length := by
  have cut : ∀ v, clip v = (fieldText v).take 33 := clip_eq
  have injective : Function.Injective fieldText := legible_fieldText.flatMap_injective
  refine ⟨length_clipped t, fun _ => isPlainAscii_of_mem_clipped,
    ⟨clipWidth - (clip t).length, ?_⟩, injective, fun u hne heq => ?_⟩
  · rw [← cut]
    exact clipped_eq t
  · have hclip : clip t = clip u := clip_eq_of_clipped_eq heq
    rw [cut, cut] at hclip
    refine Classical.byContradiction fun hshort => ?_
    obtain ⟨ht, hu⟩ := not_or.mp hshort
    rw [List.take_of_length_le (Nat.not_lt.mp ht), List.take_of_length_le (Nat.not_lt.mp hu)]
      at hclip
    exact hne (injective hclip)

/-- Where an escape is cut behind its backslash, a letter that is written by its code and the end of
a line look alike. -/
theorem clipped_exact_cut :
    let t : Text := List.replicate 32 'a' ++ ['é']
    let u : Text := List.replicate 32 'a' ++ ['\n']
    t ≠ u ∧ t.clipped = u.clipped ∧ (33 < (fieldText t).length ∨ 33 < (fieldText u).length) := by
  intro t u
  have hne : t ≠ u := by decide
  have heq : t.clipped = u.clipped := by decide
  obtain ⟨-, -, -, -, long⟩ := clipped_exact t
  exact ⟨hne, heq, long u hne heq⟩

end Descent.Text
