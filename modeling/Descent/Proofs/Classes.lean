import Descent.Proofs.Closing

/-!
# Classes with a closing parenthesis behind

The readers of classes in brackets are alike too, with a closing parenthesis behind the text
(`readBrackets_alike`).  Three of them look further than they read, and for each of them there is a
reason why it does not see the parenthesis.

* `openClass` tells from the lengths of two texts whether hyphens stood before a closing bracket,
  and both texts have become longer by one.
* `asciiClass?` looks for a colon and a closing bracket, and leaves the text alone if it does not
  find them.
* `Flags.peek?` looks past blanks and a number sign for what follows a hyphen, and only a closing
  bracket and another hyphen count.
-/

namespace Descent.Regex

variable {whole t t' u : Text} {c : Char} (f : Flags)

/-! ## Opening a class -/

/-- Hyphens at the front of a class are characters of it, and a run of them ends before the
parenthesis. -/
theorem readHyphens_alike : ∀ {k k' : Nat} (o : OpenClass) {t t' : Text}, k ≤ k' →
    Closed whole t t' → Alike whole (readHyphens f o k t) (readHyphens f o k' t')
  | 0, _, _, _, _, _, _ => .error _ _
  | k + 1, 0, _, _, _, hk, _ => absurd hk (Nat.not_succ_le_zero k)
  | k + 1, k' + 1, o, t, t', hk, h => by
      rw [readHyphens.eq_def, readHyphens.eq_def]
      simp only
      split
      · exact .error _ _
      · obtain rfl := h.eq_cons
        exact readHyphens_alike _ (Nat.le_of_succ_le_succ hk) (h.tail.skip f)
      next hnil hhyphen =>
        split
        next => exact absurd h.eq_nil hnil
        next =>
          exact ((h.starts ['-'] (by decide)).elim hhyphen).elim
        next => exact .ok _ h

/-- Opens a class, from behind the circumflex that negates it. -/
def openBehind (negated : Bool) (t : Text) : Except Fault (OpenClass × Text) := do
  let (k, u) ← readHyphens f { negated } (t.length + 1) t
  match u with
  | ']' :: v =>
    if u.length = t.length then
      match f.skip v with
      | [] => .error .classUnclosed
      | v => .ok (k.add (.single ']'), v)
    else .ok (k, u)
  | _ => .ok (k, u)

/-- A circumflex at the front negates the class, and what follows is read from behind it. -/
theorem openClass_of_caret (h : f.skip t = '^' :: u) :
    openClass f t = openBehind f true (f.skip u) := by
  rw [openClass, h]
  rfl

theorem openClass_of_no_caret (h : ∀ u, f.skip t ≠ '^' :: u) :
    openClass f t = openBehind f false (f.skip t) := by
  rw [openClass]
  split
  next heq =>
    split at heq
    next u hcaret => exact absurd hcaret (h u)
    next => cases heq; rfl

/-- Whether hyphens stood before a closing bracket shows in the lengths of the texts, and both
texts have become longer by one. -/
theorem openBehind_alike (negated : Bool) (h : Closed whole t t') :
    Alike whole (openBehind f negated t) (openBehind f negated t') := by
  cases t with
  | nil => exact .error _ _
  | cons c t =>
      obtain rfl := h.eq_cons
      refine (readHyphens_alike f _ (by simp) h).bind fun o v v' hv => ?_
      simp only
      split
      next w =>
        obtain rfl := hv.eq_cons
        simp only [List.length_cons, List.length_append, Nat.add_right_cancel_iff]
        split
        · have hskip := hv.tail.skip f
          generalize f.skip w = s at hskip
          generalize f.skip (w ++ [')']) = s' at hskip
          cases s with
          | nil => exact .error _ _
          | cons d s =>
              obtain rfl := hskip.eq_cons
              exact .ok _ hskip
        · exact .ok _ hv
      next hbracket =>
        split
        next =>
          exact ((hv.starts [']'] (by decide)).elim hbracket).elim
        next => exact .ok _ hv

/-- The longer text has a circumflex at the front just where the shorter has. -/
theorem openClass_alike (h : Closed whole t t') : Alike whole (openClass f t) (openClass f t') := by
  have hskip := h.skip f
  by_cases hcaret : ∃ u, f.skip t = '^' :: u
  · obtain ⟨u, hu⟩ := hcaret
    rw [hu] at hskip
    rw [openClass_of_caret f hu, openClass_of_caret f hskip.eq_cons]
    exact openBehind_alike f true (hskip.tail.skip f)
  · rw [openClass_of_no_caret f fun u hu => hcaret ⟨u, hu⟩, openClass_of_no_caret f fun u hu => ?_]
    · exact openBehind_alike f false hskip
    · rw [hu] at hskip
      exact hcaret (hskip.starts ['^'] (by decide))

/-! ## Items -/

/-- Reads the name of an ASCII class, from behind the circumflex that negates it. -/
def asciiBehind? (negated : Bool) (t : Text) : Option (Except Fault CharSet × Text) :=
  match t.dropWhile (· != ':') with
  | ':' :: ']' :: u =>
    (CharSet.asciiNamed? (t.takeWhile (· != ':'))).map fun s => (closedSet f negated s, u)
  | _ => none

theorem asciiClass?_eq (t : Text) :
    asciiClass? f t = match t with
      | ':' :: '^' :: u => asciiBehind? f true u
      | ':' :: u => asciiBehind? f false u
      | _ => none := by
  rw [asciiClass?.eq_def]
  split
  next u =>
    split
    next negated v heq =>
      split at heq
      · cases heq
        rfl
      next hcaret =>
        cases heq
        symm
        split
        next heq => cases heq; exact absurd rfl (hcaret _)
        next heq => cases heq; rfl
        next heq => exact absurd rfl (heq _)
  next hcolon =>
    split
    next => exact absurd rfl (hcolon _)
    next => exact absurd rfl (hcolon _)
    next => rfl

/-- The search for a colon ends at the same one in both texts.  Where the shorter has none, no name
is read from either. -/
theorem asciiBehind?_closed (negated : Bool) (h : Closed whole t t') :
    asciiBehind? f negated t = none ∧ asciiBehind? f negated t' = none ∨
      ∃ s u u', asciiBehind? f negated t = some (s, u) ∧
        asciiBehind? f negated t' = some (s, u') ∧ Closed whole u u' := by
  have htake := h.takeWhile_eq (p := (· != ':'))
  rw [asciiBehind?, asciiBehind?]
  cases hdrop : t.dropWhile (· != ':') with
  | nil => rw [h.dropWhile_nil (by decide) hdrop]; exact Or.inl ⟨rfl, rfl⟩
  | cons c v =>
      have hclosed := h.dropWhile_cons hdrop
      rw [htake (hdrop ▸ List.cons_ne_nil _ _)]
      generalize t'.dropWhile (· != ':') = v' at hclosed
      split
      next u heq =>
        cases heq
        obtain rfl := hclosed.eq_cons
        cases CharSet.asciiNamed? (t.takeWhile (· != ':')) with
        | none => exact Or.inl ⟨rfl, rfl⟩
        | some s => exact Or.inr ⟨_, _, _, rfl, rfl, hclosed.tail.tail⟩
      next hcolon =>
        split
        next => exact ((hclosed.starts [':', ']'] (by decide)).elim hcolon).elim
        next => exact Or.inl ⟨rfl, rfl⟩

/-- A bracket and a colon may be no name of a class after all.  Then both texts are read again as
what may stand in a class. -/
theorem asciiClass?_closed (h : Closed whole t t') :
    asciiClass? f t = none ∧ asciiClass? f t' = none ∨
      ∃ s u u', asciiClass? f t = some (s, u) ∧ asciiClass? f t' = some (s, u') ∧
        Closed whole u u' := by
  rw [asciiClass?_eq, asciiClass?_eq]
  split
  · obtain rfl := h.eq_cons
    exact asciiBehind?_closed f true h.tail.tail
  next hcaret =>
    split
    next => exact ((h.tails.starts ['^'] (by decide)).elim hcaret).elim
    next => exact asciiBehind?_closed f false h.tails
    next hcolon => exact (hcolon _ h.eq_cons).elim
  next hcolon =>
    split
    next => exact ((h.starts [':'] (by decide)).elim hcolon).elim
    next => exact ((h.starts [':'] (by decide)).elim hcolon).elim
    next => exact Or.inl ⟨rfl, rfl⟩

theorem readAtom_alike (h : Closed whole t t') : Alike whole (readAtom f t) (readAtom f t') := by
  rw [readAtom.eq_def, readAtom.eq_def]
  split
  · exact .error _ _
  · obtain rfl := h.eq_cons
    exact readEscape_alike f h.tail
  next hslash =>
    obtain rfl := h.eq_cons
    split
    next heq => cases heq
    next heq => cases heq; exact absurd rfl hslash
    next heq => cases heq; exact .ok _ h.tail

/-- The text from the character on that counts behind a hyphen, or from where the text ends. -/
def peeked (t : Text) : Text :=
  if f.verbose then
    match t.dropWhile Text.isBlank with
    | '#' :: u => u.dropWhile Text.isBlank
    | u => u
  else t

/-- A look ahead passes blanks and a number sign, but not the parenthesis. -/
theorem Closed.peeked (h : Closed whole t t') : Closed whole (peeked f t) (peeked f t') := by
  rw [Regex.peeked, Regex.peeked]
  split
  · have hdrop := h.dropWhile (p := Text.isBlank) (by decide)
    generalize t.dropWhile Text.isBlank = s at hdrop
    generalize t'.dropWhile Text.isBlank = s' at hdrop
    split
    · obtain rfl := hdrop.eq_cons
      exact hdrop.tail.dropWhile (by decide)
    next hmark =>
      split
      next =>
        exact ((hdrop.starts ['#'] (by decide)).elim hmark).elim
      next => exact hdrop
  · exact h

/-- Where only blanks or a number sign are left, what counts is one of them. -/
theorem peek?_eq_some_iff (hblank : Text.isBlank c = false) (hmark : c ≠ '#') :
    f.peek? t = some c ↔ (peeked f t).head? = some c := by
  have front (hhead : t.head? = some c) : ∃ u, t.dropWhile Text.isBlank = c :: u := by
    cases t with
    | nil => cases hhead
    | cons d u => cases hhead; exact ⟨u, List.dropWhile_cons_of_neg (by simp [hblank])⟩
  rw [Flags.peek?, peeked]
  split
  · generalize t.dropWhile Text.isBlank = s at front
    split
    next u =>
      simp only
      cases u.dropWhile Text.isBlank with
      | nil =>
          refine ⟨fun hhead => ?_, nofun⟩
          obtain ⟨v, hv⟩ := front hhead
          cases hv
          exact absurd rfl hmark
      | cons d v => rfl
    next =>
      refine ⟨fun hhead => ?_, nofun⟩
      obtain ⟨v, hv⟩ := front hhead
      cases hv
    next d u hd =>
      split
      next heq => cases heq; exact absurd rfl hd
      next => rfl
  · rfl

/-- A hyphen makes a range unless a closing bracket or another hyphen follows.  The parenthesis is
neither of them, so the look ahead tells the same of both texts. -/
theorem readItem_alike (h : Closed whole t t') : Alike whole (readItem f t) (readItem f t') := by
  rw [readItem, readItem]
  refine (readAtom_alike f h).bind fun a u u' hu => ?_
  have hskip := hu.skip f
  simp only
  generalize f.skip u = s at hskip
  generalize f.skip u' = s' at hskip
  split
  · exact .error _ _
  next s =>
    obtain rfl := hskip.eq_cons
    have hpeeked := hskip.tail.peeked f
    simp only [peek?_eq_some_iff f (c := ']') (by decide) (by decide),
      peek?_eq_some_iff f (c := '-') (by decide) (by decide),
      hpeeked.head?_eq_some_iff (c := ']') (by decide),
      hpeeked.head?_eq_some_iff (c := '-') (by decide)]
    split
    · exact .bind_same _ fun s => .ok _ hskip
    · refine (readAtom_alike f (hskip.tail.skip f)).bind fun b v v' hv => ?_
      simp only
      split
      · split
        · exact .bind_same _ fun _ => .bind_same _ fun _ => .ok _ hv
        · exact .error _ _
      · exact .error _ _
  next hnil hhyphen =>
    split
    next => exact absurd hskip.eq_nil hnil
    next =>
      exact ((hskip.starts ['-'] (by decide)).elim hhyphen).elim
    next => exact .bind_same _ fun s => .ok _ hskip

/-! ## Whole classes -/

/-- The classes around the one that is read are kept on a stack, so the recursion is on the fuel
alone. -/
theorem readClass_alike : ∀ {k k' : Nat} (outer : List OpenClass) (o : OpenClass) {t t' : Text},
    k ≤ k' → Closed whole t t' → Alike whole (readClass f k outer o t) (readClass f k' outer o t')
  | 0, _, _, _, _, _, _, _ => .error _ _
  | k + 1, 0, _, _, _, _, hk, _ => absurd hk (Nat.not_succ_le_zero k)
  | k + 1, k' + 1, outer, o, t, t', hk, h => by
      have hk := Nat.le_of_succ_le_succ hk
      have hskip := h.skip f
      rw [readClass, readClass]
      generalize f.skip t = s at hskip
      generalize f.skip t' = s' at hskip
      split
      · exact .error _ _
      next u =>
        obtain rfl := hskip.eq_cons
        simp only
        rcases asciiClass?_closed f hskip.tail with ⟨hnone, hnone'⟩ | ⟨s, v, v', hs, hs', hv⟩
        · rw [hnone, hnone']
          exact (openClass_alike f hskip.tail).bind fun inner v v' hv =>
            readClass_alike _ _ hk hv
        · rw [hs, hs']
          exact .bind_same _ fun s => readClass_alike _ _ hk hv
      next u =>
        obtain rfl := hskip.eq_cons
        simp only
        refine .bind_same _ fun s => ?_
        cases outer with
        | nil => exact .ok _ hskip.tail
        | cons l outer => exact readClass_alike _ _ hk hskip.tail
      · obtain rfl := hskip.eq_cons
        exact readClass_alike _ _ hk hskip.tail.tail
      · obtain rfl := hskip.eq_cons
        exact readClass_alike _ _ hk hskip.tail.tail
      · obtain rfl := hskip.eq_cons
        exact readClass_alike _ _ hk hskip.tail.tail
      next hnil hopen hclose hand hminus htilde =>
        split
        next => exact absurd hskip.eq_nil hnil
        next =>
          exact ((hskip.starts ['['] (by decide)).elim hopen).elim
        next =>
          exact ((hskip.starts [']'] (by decide)).elim hclose).elim
        next =>
          exact ((hskip.starts ['&', '&'] (by decide)).elim hand).elim
        next =>
          exact ((hskip.starts ['-', '-'] (by decide)).elim hminus).elim
        next =>
          exact ((hskip.starts ['~', '~'] (by decide)).elim htilde).elim
        next =>
          exact (readItem_alike f hskip).bind fun s v v' hv => readClass_alike _ _ hk hv

theorem readBrackets_alike (h : Closed whole t t') :
    Alike whole (readBrackets f t) (readBrackets f t') := by
  rw [readBrackets, readBrackets]
  refine (openClass_alike f h).bind fun o u u' hu => readClass_alike f _ _ ?_ hu
  exact Nat.succ_le_succ hu.length_le_length

end Descent.Regex
