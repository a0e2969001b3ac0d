import Descent.Proofs.Markup

/-!
# Tags

What the grammar of documents makes of tags: a tag that is there is read whatever follows, and a tag
that is cut off before its end is rejected.

Where a tag is cut inside a name, the beginning of the name is read as a name, and where it is cut
inside a value, so is the beginning of the value; then nothing is left, and the sign that has to
follow is missing.  Where it is cut inside an attribute, the attributes in front of that one are
read, and no tag ends there (`attrs_cut`).
-/

namespace Descent

/-! ## Texts cut off -/

namespace Text

/-- The first text is the second one cut off before its end. -/
def IsCut (u t : Text) : Prop := u <+: t ∧ u ≠ t

namespace IsCut

variable {u t w : Text} {c : Char}

/-- A text in two parts is cut off in the first, or else in the second. -/
theorem append (h : IsCut u (t ++ w)) : IsCut u t ∨ ∃ v, u = t ++ v ∧ IsCut v w := by
  rcases List.prefix_or_prefix_of_prefix h.1 (List.prefix_append t w) with hut | ⟨v, rfl⟩
  · by_cases heq : u = t
    · refine Or.inr ⟨[], by rw [heq, List.append_nil], List.nil_prefix, ?_⟩
      rintro rfl
      exact h.2 (by rw [heq, List.append_nil])
    · exact Or.inl ⟨hut, heq⟩
  · exact Or.inr ⟨v, rfl, (List.prefix_append_right_inj t).mp h.1, fun hv => h.2 (by rw [hv])⟩

theorem cons (h : IsCut u (c :: t)) : u = [] ∨ ∃ v, u = c :: v ∧ IsCut v t := by
  rcases append (t := [c]) h with ⟨hpre, hne⟩ | hrest
  · rcases List.prefix_cons_iff.mp hpre with rfl | ⟨v, rfl, hv⟩
    · exact Or.inl rfl
    · exact absurd (by rw [List.prefix_nil.mp hv]) hne
  · exact Or.inr hrest

theorem concat (h : IsCut u (t ++ [c])) : u <+: t :=
  (List.prefix_concat_iff.mp h.1).resolve_left h.2

theorem length_lt (h : IsCut u t) : u.length < t.length :=
  Nat.lt_of_le_of_ne h.1.length_le fun heq => h.2 (h.1.eq_of_length heq)

end IsCut

theorem exists_of_prefix_append {u t w : Text} (h : u <+: t ++ w) (hcut : ¬IsCut u t) :
    ∃ v, u = t ++ v ∧ v <+: w := by
  by_cases hne : u = t ++ w
  · exact ⟨w, hne, List.prefix_refl w⟩
  · obtain ⟨v, hv, hw⟩ := (IsCut.append ⟨h, hne⟩).resolve_left hcut
    exact ⟨v, hv, hw.1⟩

theorem head?_of_isPrefix {u t : Text} (h : u <+: t) : ∀ c ∈ u.head?, c ∈ t.head? := by
  intro c hc
  obtain ⟨w, rfl⟩ := h
  cases u with
  | nil => cases hc
  | cons d u => exact hc

end Text

/-- A word that is cut off is rejected. -/
theorem Parser.Rejects.literal_of_isCut {M : Type} {run : Rule → Text → Run M} {word t : Text}
    (h : Text.IsCut t word) : (Parser.literal word : Parser M).Rejects run t := by
  refine .literal fun hpre => ?_
  have hle := hpre.length_le.trans (Text.trimStart_suffix t).length_le
  exact absurd h.length_lt (Nat.not_lt.mpr hle)

theorem Parser.Rejects.literal_nil {M : Type} {run : Rule → Text → Run M} {word : Text}
    (h : word ≠ []) : (Parser.literal word : Parser M).Rejects run [] :=
  .literal_of_isCut ⟨List.nil_prefix, h.symm⟩

/-- There are no blanks in front of a text that starts with a name, or with a part of one. -/
theorem Markup.Name.trimStart_eq (n : Name) {u w : Text} (h : w <+: n.text ++ u) :
    Text.trimStart w = w := by
  refine Text.trimStart_eq_self fun c hc => ?_
  cases Text.head?_of_isPrefix h c hc
  exact Text.isBlank_of_isAlpha n.isAlpha

namespace Document

open Markup Text Descent.Parser

variable {run : Rule → Text → Run Datum} {t u : Text}

/-! ## Names -/

/-- What is left of a name that is cut off is a name, if it is anything. -/
theorem name_cut {n : Name} (h : IsCut (trimStart t) n.text) :
    patterns.name.Rejects run t ∨ ∃ v, patterns.name.Reads run t v [] := by
  rcases h.cons with hnil | ⟨w, hw, hcut⟩
  · refine Or.inl (name_rejects ?_)
    rw [hnil]
    exact nofun
  · let m : Name := ⟨n.head, w, n.isAlpha, fun c hc => n.isAlphanum c (hcut.1.subset hc)⟩
    refine Or.inr ⟨_, name_reads m (u := []) ?_ nofun⟩
    rw [hw, List.append_nil]
    rfl

/-! ## Attributes -/

theorem attr_reads (a : Attr) (ht : trimStart t = a.text ++ u) :
    patterns.attr.Reads run t (.mapped (.attr a.name.text a.value)) u := by
  have hvalue : trimStart (a.value ++ '"' :: u) = a.value ++ '"' :: u := by
    refine trimStart_eq_self fun c hc => ?_
    cases ha : a.value with
    | nil =>
        rw [ha] at hc
        cases hc
        rfl
    | cons d v =>
        rw [ha] at hc
        exact a.front c (ha ▸ hc)
  have name : patterns.name.Reads run t (.token a.name.text)
      ("=\"".toList ++ (a.value ++ '"' :: u)) :=
    name_reads a.name (by simpa [Attr.text] using ht) (by simp)
  have value : patterns.value.Reads run (a.value ++ '"' :: u) (.token a.value) ('"' :: u) :=
    value_reads hvalue a.unquoted (by simp)
  exact Reads.map (Reads.named (Reads.seq (Reads.seq (Reads.seq name (.literal rfl)) value)
    (.literal rfl))) rfl

theorem attr_rejects_of_isCut {a : Attr} (h : IsCut (trimStart t) a.text) :
    patterns.attr.Rejects run t := by
  refine Rejects.map (Rejects.named ?_)
  rcases h.append with hname | ⟨w, hw, hcut⟩
  · rcases name_cut hname with hrej | ⟨v, hread⟩
    · exact hrej.seqLeft.seqLeft.seqLeft
    · exact (Rejects.seqRight hread (.literal_nil (by decide))).seqLeft.seqLeft
  · rcases hcut.append with hsign | ⟨x, rfl, hvalue⟩
    · have name : patterns.name.Reads run t (.token a.name.text) w := by
        refine name_reads a.name hw fun c hc => ?_
        cases head?_of_isPrefix hsign.1 c hc
        rfl
      exact (Rejects.seqRight name (.literal_of_isCut hsign)).seqLeft.seqLeft
    · have name : patterns.name.Reads run t (.token a.name.text) ("=\"".toList ++ x) :=
        name_reads a.name hw (by simp)
      have hx : x <+: a.value := hvalue.concat
      have value : patterns.value.Reads run x (.token x) [] := by
        refine value_reads ?_ (fun hq => a.unquoted (hx.subset hq)) nofun
        rw [List.append_nil]
        exact trimStart_eq_self fun c hc => a.front c (head?_of_isPrefix hx c hc)
      exact Rejects.seqRight (Reads.seq (Reads.seq name (.literal rfl)) value)
        (.literal_nil (by decide))

/-- Nothing but a letter starts an attribute. -/
theorem attr_rejects (h : ∀ c ∈ (trimStart t).head?, c.isAlpha = false) :
    patterns.attr.Rejects run t :=
  Rejects.map (Rejects.named (name_rejects h).seqLeft.seqLeft.seqLeft)

/-! ## Attributes one after the other -/

/-- What attributes put out. -/
def attrValues (as : List Attr) : List (Value Datum) :=
  as.map fun a => .mapped (.attr a.name.text a.value)

theorem size_lt_of_written (a : Attr) (u : Text) : size u < size (a.written ++ u) := by
  rw [Attr.written, List.cons_append, size_cons, size_append]
  have := Char.utf8Size_pos ' '
  omega

theorem elementAfter?_written (a : Attr) (u : Text) :
    Parser.elementAfter? " ".toList (a.written ++ u) = some (a.text ++ u) := rfl

theorem trimStart_text (a : Attr) (u : Text) : trimStart (a.text ++ u) = a.text ++ u := by
  rw [Attr.text, List.append_assoc]
  exact a.name.trimStart_eq (List.prefix_refl _)

variable (run)

theorem chain_attrs (u : Text) : ∀ as : List Attr,
    Chain run patterns.attr (elementAfter? " ".toList) (as.flatMap Attr.written ++ '>' :: u)
      (attrValues as) ('>' :: u)
  | [] => .nil _
  | a :: as => by
      rw [List.flatMap_cons, List.append_assoc]
      exact .cons (elementAfter?_written a _) (attr_reads a (trimStart_text a _))
        (size_lt_of_written a _) (chain_attrs u as)

/-- The attributes of a tag, any number of them. -/
theorem attrs_read (as : List Attr) (u : Text) :
    ∃ v, (Parser.optional (.sepBy patterns.attr " ".toList)).Reads run
        (as.flatMap Attr.written ++ '>' :: u) v ('>' :: u) ∧ v.solidItems = attrValues as := by
  cases as with
  | nil =>
      refine ⟨.unit, Rejects.optional (Rejects.sepBy (attr_rejects fun c hc => ?_)), rfl⟩
      cases hc
      rfl
  | cons a as =>
      rw [List.flatMap_cons, List.append_assoc]
      have first : patterns.attr.Reads run (a.written ++ (as.flatMap Attr.written ++ '>' :: u))
          (.mapped (.attr a.name.text a.value)) (as.flatMap Attr.written ++ '>' :: u) :=
        attr_reads a (trimStart_text a _)
      have all := first.sepBy (size_lt_of_written a _) (chain_attrs run u as) (.noStart rfl)
      refine ⟨_, all.optional, ?_⟩
      rw [Value.solidItems_flatMap]
      exact Value.flatMap_solidItems_mapped (fun a : Attr => Datum.attr a.name.text a.value)
        (a :: as)

/-- Where an attribute is cut off, neither an attribute nor the end of a tag is read. -/
theorem rejects_of_cut_attr {a : Attr} (h : IsCut t a.written) :
    patterns.attr.Rejects run t ∧ (Parser.literal ">".toList : Parser Datum).Rejects run t ∧
      Halts run patterns.attr (elementAfter? " ".toList) t := by
  have hcut : IsCut (trimStart t) a.text := by
    rcases h.cons with rfl | ⟨w, rfl, hw⟩
    · exact ⟨List.nil_prefix, nofun⟩
    · have htrim : trimStart (' ' :: w) = w := a.name.trimStart_eq hw.1
      rwa [htrim]
  refine ⟨attr_rejects_of_isCut hcut, .literal fun hpre => ?_, ?_⟩
  · have hhead : a.name.head = '>' :=
      Option.some.inj (head?_of_isPrefix (hpre.trans hcut.1) '>' rfl)
    exact absurd (hhead ▸ a.name.isAlpha) (by decide)
  · rcases h.cons with rfl | ⟨w, rfl, -⟩
    · exact .nothing
    · cases w with
      | nil => exact .noStart rfl
      | cons c w => exact .rejects rfl (attr_rejects_of_isCut hcut)

theorem chain_attrs_cut : ∀ (as : List Attr) {t : Text}, t <+: as.flatMap Attr.written →
    ∃ vs r, Chain run patterns.attr (elementAfter? " ".toList) t vs r ∧
      Halts run patterns.attr (elementAfter? " ".toList) r ∧
      (Parser.literal ">".toList : Parser Datum).Rejects run r
  | [], t, h => by
      obtain rfl := List.prefix_nil.mp h
      exact ⟨[], [], .nil _, .nothing, .literal_nil (by decide)⟩
  | a :: as, t, h => by
      rw [List.flatMap_cons] at h
      by_cases hcut : IsCut t a.written
      · obtain ⟨-, hend, halts⟩ := rejects_of_cut_attr run hcut
        exact ⟨[], t, .nil _, halts, hend⟩
      · obtain ⟨w, rfl, hw⟩ := exists_of_prefix_append h hcut
        obtain ⟨vs, r, chain, halts, hend⟩ := chain_attrs_cut as hw
        exact ⟨_, r, .cons (elementAfter?_written a w) (attr_reads a (trimStart_text a w))
          (size_lt_of_written a w) chain, halts, hend⟩

/-- Where the attributes of a tag are cut off, those that are there are read, and the tag does not
end behind them. -/
theorem attrs_cut (as : List Attr) (h : t <+: as.flatMap Attr.written) :
    ∃ v r, (Parser.optional (.sepBy patterns.attr " ".toList)).Reads run t v r ∧
      (Parser.literal ">".toList : Parser Datum).Rejects run r := by
  cases as with
  | nil =>
      obtain rfl := List.prefix_nil.mp h
      exact ⟨.unit, [], Rejects.optional (Rejects.sepBy (attr_rejects nofun)),
        .literal_nil (by decide)⟩
  | cons a as =>
      rw [List.flatMap_cons] at h
      by_cases hcut : IsCut t a.written
      · obtain ⟨hattr, hend, -⟩ := rejects_of_cut_attr run hcut
        exact ⟨.unit, t, Rejects.optional (Rejects.sepBy hattr), hend⟩
      · obtain ⟨w, rfl, hw⟩ := exists_of_prefix_append h hcut
        obtain ⟨vs, r, chain, halts, hend⟩ := chain_attrs_cut run as hw
        have first : patterns.attr.Reads run (a.written ++ w) _ w :=
          attr_reads a (trimStart_text a w)
        exact ⟨_, r, (first.sepBy (size_lt_of_written a w) chain halts).optional, hend⟩

/-! ## Opening and closing tags -/

variable {run}

theorem tag_reads (run : Rule → Text → Run Datum) (n : Name) (as : List Attr) (u : Text) :
    ∃ v, patterns.tag.Reads run (n.opened as ++ u) v u ∧
      v.solidItems = .token n.text :: attrValues as := by
  obtain ⟨v, attrs, hv⟩ := attrs_read run as u
  have hopened : n.opened as ++ u = '<' :: (n.text ++ (as.flatMap Attr.written ++ '>' :: u)) := by
    simp [Name.opened]
  have name : patterns.name.Reads run (n.text ++ (as.flatMap Attr.written ++ '>' :: u))
      (.token n.text) (as.flatMap Attr.written ++ '>' :: u) := by
    refine name_reads n (n.trimStart_eq (List.prefix_refl _)) fun c hc => ?_
    cases as with
    | nil => cases hc; rfl
    | cons a as => cases hc; rfl
  rw [hopened]
  refine ⟨_, Reads.seq (Reads.seq (Reads.seq (.literal rfl) name) attrs) (.literal rfl), ?_⟩
  simp only [Value.solidItems_join, hv]
  rw [show (Value.unit : Value Datum).solidItems = [] from rfl, List.append_nil, List.nil_append]
  rfl

theorem tag_rejects_of_isCut {n : Name} {as : List Attr} (h : IsCut t (n.opened as)) :
    patterns.tag.Rejects run t := by
  rcases h.cons with rfl | ⟨w, rfl, hcut⟩
  · have start : (Parser.literal "<".toList : Parser Datum).Rejects run [] :=
      .literal_nil (by decide)
    exact start.seqLeft.seqLeft.seqLeft
  have start : (Parser.literal "<".toList : Parser Datum).Reads run ('<' :: w) .unit w :=
    .literal rfl
  rcases hcut.append with hname | ⟨x, rfl, hattrs⟩
  · have htrim : trimStart w = w := n.trimStart_eq (hname.1.trans (List.prefix_append _ []))
    rcases name_cut (htrim.symm ▸ hname) with hrej | ⟨v, name⟩
    · exact (Rejects.seqRight start hrej).seqLeft.seqLeft
    · obtain ⟨v, r, attrs, hend⟩ := attrs_cut run [] List.nil_prefix
      exact Rejects.seqRight (Reads.seq (Reads.seq start name) attrs) hend
  · have hx := hattrs.concat
    have name : patterns.name.Reads run (n.text ++ x) (.token n.text) x := by
      refine name_reads n (n.trimStart_eq (List.prefix_refl _)) fun c hc => ?_
      have hc := head?_of_isPrefix hx c hc
      cases as with
      | nil => cases hc
      | cons a as => cases hc; rfl
    obtain ⟨v, r, attrs, hend⟩ := attrs_cut run as hx
    exact Rejects.seqRight (Reads.seq (Reads.seq start name) attrs) hend

theorem endTag_reads (run : Rule → Text → Run Datum) (n : Name) (u : Text) :
    ∃ v, patterns.endTag.Reads run (n.closed ++ u) v u ∧ v.solidItems = [.token n.text] := by
  have hclosed : n.closed ++ u = "</".toList ++ (n.text ++ '>' :: u) := by simp [Name.closed]
  have name : patterns.name.Reads run (n.text ++ '>' :: u) (.token n.text) ('>' :: u) :=
    name_reads n (n.trimStart_eq (List.prefix_refl _)) (by simp)
  rw [hclosed]
  exact ⟨_, Reads.seq (Reads.seq (.literal rfl) name) (.literal rfl), rfl⟩

/-- Nothing but the two signs that it starts with starts a closing tag. -/
theorem endTag_rejects (h : ¬['<', '/'] <+: trimStart t) : patterns.endTag.Rejects run t :=
  (Rejects.literal h).seqLeft.seqLeft

theorem endTag_rejects_of_isCut {n : Name} (h : IsCut t n.closed) :
    patterns.endTag.Rejects run t := by
  rcases h.append with hsigns | ⟨w, rfl, hcut⟩
  · exact (Rejects.literal_of_isCut hsigns).seqLeft.seqLeft
  · have start : (Parser.literal "</".toList : Parser Datum).Reads run ("</".toList ++ w) .unit w :=
      .literal rfl
    have hw : w <+: n.text := hcut.concat
    have htrim : trimStart w = w := n.trimStart_eq (hw.trans (List.prefix_append _ []))
    by_cases hname : IsCut w n.text
    · rcases name_cut (htrim.symm ▸ hname) with hrej | ⟨v, name⟩
      · exact (Rejects.seqRight start hrej).seqLeft
      · exact Rejects.seqRight (Reads.seq start name) (.literal_nil (by decide))
    · have heq : w = n.text := by_contra fun hne => hname ⟨hw, hne⟩
      have name : patterns.name.Reads run w (.token n.text) [] :=
        name_reads n (by rw [htrim, heq, List.append_nil]) nofun
      exact Rejects.seqRight (Reads.seq start name) (.literal_nil (by decide))

end Document

end Descent
