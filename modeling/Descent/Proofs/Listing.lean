import Descent.Proofs.Repetition

/-!
# Written lists

A list is written as its items with a separator between them, and blanks in front of a separator if
one likes.  If each item is read where it stands, up to its end, then a repetition with that
separator reads the list (`list_read_back`).  It does not matter what the items start with, nor
whether the separator is itself a blank: the blanks that are skipped are those in front of the
separator, for none of them is the character that the separator starts with, and they end there.

The repetition must also stop behind the last item.  What stands there may well look like another
item, as long as there is no separator in front.
-/

namespace Descent

variable {M : Type}

theorem Text.afterSeparator?_append {sep w : Text} (hsep : sep ≠ [])
    (hw : ∀ c ∈ w, isBlank c = true ∧ sep.head? ≠ some c) (u : Text) :
    afterSeparator? sep (w ++ (sep ++ u)) = some u := by
  obtain ⟨c, s, rfl⟩ := List.exists_cons_of_ne_nil hsep
  rw [afterSeparator?, after?_eq_some_iff, List.dropWhile_append_of_pos, List.cons_append,
    List.dropWhile_cons_of_neg]
  · simp
  · intro d hd
    simpa using hw d hd

/-- An item of a written list. -/
structure ListItem (M : Type) where
  /-- The blanks in front of the separator that leads to the item, if there is one. -/
  blanks : Text
  /-- The item. -/
  text : Text
  /-- What is put out for it. -/
  output : Value M

/-- How items are written behind the first, with a text behind the last. -/
def writtenItems (sep tail : Text) : List (ListItem M) → Text
  | [] => tail
  | x :: xs => x.blanks ++ (sep ++ (x.text ++ writtenItems sep tail xs))

namespace Parser

variable {run : Rule → Text → Run M} {p : Parser M} {sep tail : Text}

/-- Written items are a chain, each behind a separator. -/
theorem chain_writtenItems (hsep : sep ≠ []) : ∀ {xs : List (ListItem M)},
    (∀ x ∈ xs, x.text ≠ []) →
    (∀ x ∈ xs, ∀ c ∈ x.blanks, Text.isBlank c = true ∧ sep.head? ≠ some c) →
    (∀ before x after, xs = before ++ x :: after →
      p.Reads run (x.text ++ writtenItems sep tail after) x.output (writtenItems sep tail after)) →
    Chain run p (elementAfter? sep) (writtenItems sep tail xs) (xs.map ListItem.output) tail
  | [], _, _, _ => .nil tail
  | x :: xs, solid, blanks, reads => by
      have hnext : elementAfter? sep (writtenItems sep tail (x :: xs)) =
          some (x.text ++ writtenItems sep tail xs) := by
        refine elementAfter?_eq_some_iff.mpr ⟨?_, ?_⟩
        · exact Text.afterSeparator?_append hsep (blanks x (List.mem_cons_self ..)) _
        · exact List.append_ne_nil_of_left_ne_nil (solid x (List.mem_cons_self ..)) _
      have hlt : Text.size (writtenItems sep tail xs) <
          Text.size (writtenItems sep tail (x :: xs)) := by
        have hpos : Text.size x.text ≠ 0 :=
          mt Text.size_eq_zero_iff.mp (solid x (List.mem_cons_self ..))
        simp only [writtenItems, Text.size_append]
        omega
      refine .cons hnext (reads [] x xs rfl) hlt (chain_writtenItems hsep ?_ ?_ ?_)
      · exact fun y hy => solid y (List.mem_cons_of_mem _ hy)
      · exact fun y hy => blanks y (List.mem_cons_of_mem _ hy)
      · exact fun before y after h => reads (x :: before) y after (congrArg (x :: ·) h)

/-- A list that has been written is read back.  Every item is read where it stands, up to its end;
the blanks in front of a separator do not start the separator; and behind the last item nothing is
left, or there is no separator with a text behind it, or what stands behind it is rejected.  The
repetition puts out the items of all outputs in order and leaves just what was written behind. -/
theorem list_read_back {run : Rule → Text → Run M} {p : Parser M} {sep tail : Text}
    {x : ListItem M} {xs : List (ListItem M)} (hsep : sep ≠ [])
    (solid : ∀ y ∈ x :: xs, y.text ≠ [])
    (blanks : ∀ y ∈ xs, ∀ c ∈ y.blanks, Text.isBlank c = true ∧ sep.head? ≠ some c)
    (reads : ∀ before y after, x :: xs = before ++ y :: after →
      p.Reads run (y.text ++ writtenItems sep tail after) y.output (writtenItems sep tail after))
    (stops : tail = [] ∨ ∀ u, Text.afterSeparator? sep tail = some u → u = [] ∨ p.Rejects run u) :
    (sepBy p sep).Reads run (x.text ++ writtenItems sep tail xs)
      (.sequence (((x :: xs).map ListItem.output).flatMap Value.solidItems)) tail := by
  have chain : Chain run p (elementAfter? sep) (writtenItems sep tail xs)
      (xs.map ListItem.output) tail := by
    refine chain_writtenItems hsep (fun y hy => solid y (List.mem_cons_of_mem _ hy)) blanks ?_
    exact fun before y after h => reads (x :: before) y after (congrArg (x :: ·) h)
  have hlt : Text.size (writtenItems sep tail xs) <
      Text.size (x.text ++ writtenItems sep tail xs) := by
    have hpos : Text.size x.text ≠ 0 :=
      mt Text.size_eq_zero_iff.mp (solid x (List.mem_cons_self ..))
    rw [Text.size_append]
    omega
  exact (reads [] x xs rfl).sepBy hlt chain (halts_elementAfter?_iff.mpr stops)

/-- The line breaks between the items are found behind blanks, the second item starts with a blank
itself, and the last line break is left, since no entry follows it. -/
theorem list_read_back_lines :
    let run := RuleBook.empty.resolve 1
    let sep : Text := ['\r', '\n']
    let x : ListItem Unit := ⟨[], "(a)".toList, .sequence [.token ['a']]⟩
    let y : ListItem Unit := ⟨[' ', '\t'], " (b)".toList, .sequence [.token ['b']]⟩
    x.text ++ writtenItems sep " \r\n!(c)".toList [y] = "(a) \t\r\n (b) \r\n!(c)".toList ∧
      (sepBy entry sep).Reads run "(a) \t\r\n (b) \r\n!(c)".toList
        (.sequence [.token ['a'], .token ['b']]) " \r\n!(c)".toList := by
  intro run sep x y
  refine ⟨rfl, @list_read_back _ _ _ _ _ x [y] (List.cons_ne_nil _ _) ?_ ?_ ?_ ?_⟩
  · simp [x, y]
  · simp [y, sep, Text.isBlank]
  · rintro (_ | ⟨z, _ | ⟨z', before⟩⟩) w after h
    · cases h
      rfl
    · cases h
      rfl
    · simp at h
  · refine Or.inr fun u hu => ?_
    cases (show some "!(c)".toList = some u from hu)
    exact Or.inr ⟨_, rfl, rfl⟩

end Parser

end Descent
