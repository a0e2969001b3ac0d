import Descent.Proofs.Limit
import Descent.Proofs.Tags

/-!
# Documents read back

The grammar of documents reads the canonical text of a tree as that tree, and what follows is left
(`document_read_back`).  Every text that is cut off before its end is rejected.  If an element is
closed under another name, the first one in the order in which elements are closed is a fault, which
passes through choices, repetitions and options around it to the outside.

The proofs go along the tree.  At each element they need the same three facts about what stands
between its tags: that all of it is read (`chain_children`), that a part that is cut off is read up
to a place where neither more content nor the closing tag is found (`chain_children_cut`), and that
behind the elements that are closed properly the first one that is not is a fault
(`chain_children_fault`).  A text in front of a tag ends at the tag, and so no two texts may stand side
by side.
-/

namespace Descent

/-! ## The parts of an element -/

namespace Element

theorem ofItems_append (vs ws : List (Value Datum)) :
    ofItems (vs ++ ws) = ⟨(ofItems vs).names ++ (ofItems ws).names,
      (ofItems vs).attrs ++ (ofItems ws).attrs,
      (ofItems vs).children ++ (ofItems ws).children⟩ := by
  induction vs with
  | nil => rfl
  | cons v vs ih =>
      rw [List.cons_append]
      cases v with
      | unit => simp only [ofItems, ih]
      | token t => simp only [ofItems, ih, List.cons_append]
      | sequence us => simp only [ofItems, ih]
      | mapped d => cases d <;> simp only [ofItems, ih, List.cons_append]

theorem ofItems_attrValues (as : List Markup.Attr) :
    ofItems (Document.attrValues as) = ⟨[], as.map fun a => (a.name.text, a.value), []⟩ := by
  induction as with
  | nil => rfl
  | cons a as ih =>
      rw [Document.attrValues] at ih ⊢
      simp only [List.map_cons, ofItems, ih]

theorem ofItems_toDatum (ds : List Markup) :
    ofItems (ds.map fun d => .mapped d.toDatum) = ⟨[], [], Markup.toData ds⟩ := by
  induction ds with
  | nil => rfl
  | cons d ds ih =>
      cases d with
      | text t => simp only [List.map_cons, Markup.toDatum, ofItems, ih, Markup.toData]
      | element name attrs children closing =>
          simp only [List.map_cons, Markup.toDatum, ofItems, ih, Markup.toData]

theorem close_of_eq {first last : Text} {attrs : List (Text × Text)} {children : List Datum}
    (h : first = last) : close ⟨[first, last], attrs, children⟩ =
      .ok (.mapped (.node first attrs children)) := if_pos h

theorem close_of_ne {first last : Text} {attrs : List (Text × Text)} {children : List Datum}
    (h : first ≠ last) : close ⟨[first, last], attrs, children⟩ =
      .error (.reject (['<'] ++ first ++ "> closed by </".toList ++ last ++ ['>'])) := if_neg h

end Element

namespace Document

open Markup Text Descent.Parser

variable {run : Rule → Text → Run Datum} {t u after : Text} {v : Value Datum} {e : ParseError}
  {name closing : Name} {attrs : List Attr} {children : List Markup}

/-! ## What may stand in an element -/

/-- The rule for elements is run by its definition. -/
def RunsNode (run : Rule → Text → Run Datum) : Prop :=
  ∀ t, (run node t).outcome = ((patterns.element node).body run t).outcome

namespace RunsNode

variable (hrun : RunsNode run)
include hrun

theorem reads (h : (patterns.element node).Reads run t v u) : (rule node).Reads run t v u :=
  (hrun t).trans h

theorem fails (h : (patterns.element node).Fails run t e) : (rule node).Fails run t e :=
  (hrun t).trans h

theorem rejects (h : (patterns.element node).Rejects run t) : (rule node).Rejects run t := by
  obtain ⟨e, hfail, he⟩ := h.fails
  exact (hrun.fails hfail).rejects he

end RunsNode

theorem element_rejects_of_tag (h : patterns.tag.Rejects run t) :
    (patterns.element node).Rejects run t :=
  h.seqLeft.seqLeft.tryMap

theorem element_rejects (h : ∀ c ∈ (trimStart t).head?, c ≠ '<') :
    (patterns.element node).Rejects run t := by
  have start : (Parser.literal "<".toList : Parser Datum).Rejects run t :=
    .literal fun hpre => h '<' (head?_of_isPrefix hpre '<' rfl) rfl
  exact element_rejects_of_tag start.seqLeft.seqLeft.seqLeft

/-- Where no element starts, nothing else does at a tag. -/
theorem content_rejects (h : (rule node : Parser Datum).Rejects run t)
    (ht : t = [] ∨ ∃ u, t = '<' :: u ∧ ∀ c ∈ u.head?, c ≠ '!') :
    (patterns.content node).Rejects run t := by
  have htrim : trimStart t = t := by
    rcases ht with rfl | ⟨u, rfl, -⟩ <;> rfl
  refine .choice (.choice h (.map (comment_rejects ?_))) (.named (.map (text_rejects ?_)))
  · rw [htrim]
    intro hpre
    rcases ht with rfl | ⟨u, rfl, hu⟩
    · cases List.prefix_nil.mp hpre
    · have hpre : ['!'] <+: u := (List.cons_prefix_cons.mp hpre).2
      exact hu '!' (head?_of_isPrefix hpre '!' rfl) rfl
  · rw [htrim]
    rcases ht with rfl | ⟨u, rfl, -⟩
    · exact nofun
    · intro c hc
      cases hc
      rfl

/-- Nothing that may stand in an element starts at a closing tag, be it cut off. -/
theorem content_rejects_of_closed (hrun : RunsNode run) (h : t <+: closing.closed ++ after) :
    (patterns.content node).Rejects run t := by
  rcases List.prefix_cons_iff.mp h with rfl | ⟨u, rfl, hu⟩
  · exact content_rejects (hrun.rejects (element_rejects nofun)) (Or.inl rfl)
  · have hslash : ∀ c ∈ u.head?, c = '/' := by
      intro c hc
      cases head?_of_isPrefix hu c hc
      rfl
    have htrim : trimStart u = u := trimStart_eq_self fun c hc => by rw [hslash c hc]; rfl
    have start : (Parser.literal "<".toList : Parser Datum).Reads run ('<' :: u) .unit u :=
      .literal rfl
    have missing : patterns.name.Rejects run u :=
      name_rejects fun c hc => by rw [hslash c (htrim ▸ hc)]; rfl
    refine content_rejects (hrun.rejects (element_rejects_of_tag ?_)) (Or.inr ⟨u, rfl, ?_⟩)
    · exact (Rejects.seqRight start missing).seqLeft.seqLeft
    · intro c hc
      rw [hslash c hc]
      decide

/-- A text without blanks in front is read up to the tag that follows. -/
theorem content_reads_text (hrun : RunsNode run) (hne : t ≠ []) (untagged : '<' ∉ t)
    (front : ∀ c ∈ t.head?, isBlank c = false) (hu : ∀ c ∈ u.head?, c = '<') :
    (patterns.content node).Reads run (t ++ u) (.mapped (.text t.trimEnd)) u := by
  have hhead : ∀ c ∈ (t ++ u).head?, c ∈ t.head? := by
    intro c hc
    obtain ⟨d, t, rfl⟩ := List.exists_cons_of_ne_nil hne
    exact hc
  have htrim : trimStart (t ++ u) = t ++ u :=
    trimStart_eq_self fun c hc => front c (hhead c hc)
  have hsign : ∀ c ∈ (trimStart (t ++ u)).head?, c ≠ '<' := by
    rintro c hc rfl
    exact untagged (List.mem_of_mem_head? (hhead _ (htrim ▸ hc)))
  have comment : patterns.comment.Rejects run (t ++ u) :=
    comment_rejects fun hpre => hsign '<' (head?_of_isPrefix hpre '<' rfl) rfl
  have text : patterns.text.Reads run (t ++ u) (.token t) u := text_reads htrim hne untagged hu
  exact .choiceRight (.choice (hrun.rejects (element_rejects hsign)) (.map comment))
    (.named (.map text rfl))

/-! ## Elements by what stands between their tags -/

/-- The fault of an element that is closed under another name. -/
def fault (s : Site) : ParseError :=
  .mapping (patterns.element node).expected s.source s.complaint

/-- The values of the trees in an element. -/
def childValues (ds : List Markup) : List (Value Datum) := ds.map fun d => .mapped d.toDatum

/-- An element whose content is read is read as its parts, before they are checked. -/
theorem parts_read (name : Name) (attrs : List Attr) (hrun : RunsNode run)
    (content : Chain run (patterns.content node) some
      (writtenAll children ++ (closing.closed ++ after)) (childValues children)
      (closing.closed ++ after)) :
    ∃ v, (seq (seq patterns.tag (optional (many (patterns.content node)))) patterns.endTag).Reads run
        ((element name attrs children closing).written ++ after) v after ∧
      Element.ofItems v.items =
        ⟨[name.text, closing.text], attrs.map fun a => (a.name.text, a.value), toData children⟩ := by
  obtain ⟨x, tag, hx⟩ :=
    tag_reads run name attrs (writtenAll children ++ (closing.closed ++ after))
  obtain ⟨y, between, hy⟩ :=
    content.optional_many (content_rejects_of_closed hrun (List.prefix_refl _))
  obtain ⟨z, endTag, hz⟩ := endTag_reads run closing after
  refine ⟨(x.join y).join z, ?_, ?_⟩
  · rw [written, List.append_assoc, List.append_assoc]
    exact (tag.seq between).seq endTag
  · rw [Value.join_eq, Value.items_sequence, Value.solidItems_join, hx, hy, hz, childValues,
      Value.flatMap_solidItems_mapped, Element.ofItems_append, Element.ofItems_append,
      Element.ofItems_toDatum, Element.ofItems, Element.ofItems_attrValues]
    simp [Element.ofItems]

theorem element_reads (hrun : RunsNode run) (hname : name.text = closing.text)
    (content : Chain run (patterns.content node) some
      (writtenAll children ++ (closing.closed ++ after)) (childValues children)
      (closing.closed ++ after)) :
    (patterns.element node).Reads run ((element name attrs children closing).written ++ after)
      (.mapped (element name attrs children closing).toDatum) after := by
  obtain ⟨v, parts, hv⟩ := parts_read name attrs hrun content
  refine parts.tryMap ?_
  rw [Check.apply, hv, Element.close_of_eq hname]
  rfl

theorem element_fails (hrun : RunsNode run) (hname : name.text ≠ closing.text)
    (content : Chain run (patterns.content node) some
      (writtenAll children ++ (closing.closed ++ after)) (childValues children)
      (closing.closed ++ after)) :
    (patterns.element node).Fails run ((element name attrs children closing).written ++ after)
      (fault ⟨name, closing, (element name attrs children closing).written ++ after⟩) := by
  obtain ⟨v, parts, hv⟩ := parts_read name attrs hrun content
  refine Fails.of_reject parts ?_
  rw [Check.apply, hv, Element.close_of_ne hname]
  rfl

/-- A fault between the tags of an element is a fault of the element. -/
theorem element_fails_inside {vs : List (Value Datum)} {r : Text}
    (content : Chain run (patterns.content node) some
      (writtenAll children ++ (closing.closed ++ after)) vs r)
    (hr : r ≠ []) (h : (patterns.content node).Fails run r e) (he : e.isRecoverable = false) :
    (patterns.element node).Fails run
      ((element name attrs children closing).written ++ after) e := by
  obtain ⟨x, tag, -⟩ :=
    tag_reads run name attrs (writtenAll children ++ (closing.closed ++ after))
  have between := (Fails.many content hr h he).optional he
  rw [written, List.append_assoc, List.append_assoc]
  exact (Fails.seqRight tag between).seqLeft.tryMap

/-- What is read of content that is cut off, up to a place where neither more of it nor a closing
tag is found. -/
def Breaks (run : Rule → Text → Run Datum) (t : Text) : Prop :=
  ∃ vs r, Chain run (patterns.content node) some t vs r ∧ (patterns.content node).Rejects run r ∧
    patterns.endTag.Rejects run r

theorem element_rejects_of_isCut (hrun : RunsNode run)
    (content : ∀ after, (∀ c ∈ after.head?, c = '<') → Chain run (patterns.content node) some
      (writtenAll children ++ after) (childValues children) after)
    (breaks : ∀ u, IsCut u (writtenAll children) → Breaks run u)
    (h : IsCut t (element name attrs children closing).written) :
    (patterns.element node).Rejects run t := by
  rcases h.append with htag | ⟨w, rfl, hcut⟩
  · exact element_rejects_of_tag (tag_rejects_of_isCut htag)
  · obtain ⟨x, tag, -⟩ := tag_reads run name attrs w
    rcases hcut.append with hchildren | ⟨z, rfl, hclosed⟩
    · obtain ⟨vs, r, chain, hmore, hend⟩ := breaks w hchildren
      obtain ⟨y, between, -⟩ := chain.optional_many hmore
      exact (Rejects.seqRight (tag.seq between) hend).tryMap
    · have hmore : (patterns.content node).Rejects run z :=
        content_rejects_of_closed hrun (hclosed.1.trans (List.prefix_append _ []))
      have hz : ∀ c ∈ z.head?, c = '<' := by
        intro c hc
        cases head?_of_isPrefix hclosed.1 c hc
        rfl
      obtain ⟨y, between, -⟩ := (content z hz).optional_many hmore
      exact (Rejects.seqRight (tag.seq between) (endTag_rejects_of_isCut hclosed)).tryMap

/-! ## Along the tree -/

theorem separatedAll_cons {d : Markup} {ds : List Markup} : separatedAll (d :: ds) = true ↔
    d.separated = true ∧ (d.isText = true → ds.head?.any isText = false) ∧
      separatedAll ds = true := by
  cases hd : d.isText <;> simp [separatedAll, hd, and_assoc]

theorem agreesAll_cons {d : Markup} {ds : List Markup} :
    agreesAll (d :: ds) = true ↔ d.agrees = true ∧ agreesAll ds = true := by
  rw [agreesAll, Bool.and_eq_true]

/-- What does not start with a text starts with a tag. -/
theorem head?_writtenAll {ds : List Markup} (hds : ds.head?.any isText = false)
    (hafter : ∀ c ∈ after.head?, c = '<') : ∀ c ∈ (writtenAll ds ++ after).head?, c = '<' := by
  match ds, hds with
  | [], _ => exact hafter
  | .element name attrs children closing :: ds, _ =>
      intro c hc
      cases hc
      rfl

theorem size_lt_of_child (d : Markup) (u : Text) : size u < size (d.written ++ u) := by
  have hne : d.written ≠ [] := by
    cases d with
    | text t => exact t.ne_nil
    | element name attrs children closing => exact List.cons_ne_nil _ _
  have hpos : size d.written ≠ 0 := fun hzero => hne (size_eq_zero_iff.mp hzero)
  rw [size_append]
  omega

mutual

/-- A tree that may stand in an element is read where all of it agrees. -/
theorem content_reads (hrun : RunsNode run) : ∀ d : Markup, d.separated = true →
    d.agrees = true → ∀ after : Text, (d.isText = true → ∀ c ∈ after.head?, c = '<') →
      (patterns.content node).Reads run (d.written ++ after) (.mapped d.toDatum) after
  | .text t, _, _, after, hafter => by
      have words := content_reads_text hrun t.ne_nil t.untagged t.front (hafter rfl)
      rwa [trimEnd_eq_self t.back] at words
  | .element name attrs children closing, hsep, hagree, after, _ => by
      obtain ⟨hchildren, hname⟩ := (Bool.and_eq_true_iff).mp hagree
      have content := chain_children hrun children hsep hchildren (closing.closed ++ after)
        fun c hc => by cases hc; rfl
      exact .choiceLeft (.choiceLeft (hrun.reads
        (element_reads hrun (of_decide_eq_true hname) content)))

/-- All that stands in an element is read, one tree after the other. -/
theorem chain_children (hrun : RunsNode run) : ∀ ds : List Markup, separatedAll ds = true →
    agreesAll ds = true → ∀ after : Text, (∀ c ∈ after.head?, c = '<') →
      Chain run (patterns.content node) some (writtenAll ds ++ after) (childValues ds) after
  | [], _, _, after, _ => .nil after
  | d :: ds, hsep, hagree, after, hafter => by
      obtain ⟨hd, hnext, hds⟩ := separatedAll_cons.mp hsep
      obtain ⟨had, hads⟩ := agreesAll_cons.mp hagree
      rw [writtenAll, List.append_assoc]
      exact .cons rfl
        (content_reads hrun d hd had _ fun htext => head?_writtenAll (hnext htext) hafter)
        (size_lt_of_child d _) (chain_children hrun ds hds hads after hafter)

end

mutual

/-- A tree that is cut off is read up to a place where content is broken off. -/
theorem breaks_of_isCut (hrun : RunsNode run) : ∀ d : Markup, d.separated = true →
    d.agrees = true → ∀ u : Text, IsCut u d.written → Breaks run u
  | .text t, _, _, u, hcut => by
      have hnil : (patterns.content node).Rejects run [] :=
        content_rejects (hrun.rejects (element_rejects nofun)) (Or.inl rfl)
      have hend : patterns.endTag.Rejects run [] := endTag_rejects (by decide)
      by_cases hu : u = []
      · subst hu
        exact ⟨[], [], .nil _, hnil, hend⟩
      · have words := content_reads_text (u := []) hrun hu
          (fun hmem => t.untagged (hcut.1.subset hmem))
          (fun c hc => t.front c (head?_of_isPrefix hcut.1 c hc)) nofun
        rw [List.append_nil] at words
        have hpos : size u ≠ 0 := fun hzero => hu (size_eq_zero_iff.mp hzero)
        exact ⟨_, [], .cons rfl words (Nat.pos_of_ne_zero hpos) (.nil _), hnil, hend⟩
  | .element name attrs children closing, hsep, hagree, u, hcut => by
      obtain ⟨hchildren, -⟩ := (Bool.and_eq_true_iff).mp hagree
      have hrej := element_rejects_of_isCut hrun (chain_children hrun children hsep hchildren)
        (chain_children_cut hrun children hsep hchildren) hcut
      have hsigns : u = [] ∨ ∃ w, u = '<' :: w ∧ ∀ c ∈ w.head?, c.isAlpha = true := by
        rcases hcut.cons with rfl | ⟨w, rfl, hw⟩
        · exact Or.inl rfl
        · refine Or.inr ⟨w, rfl, fun c hc => ?_⟩
          cases head?_of_isPrefix hw.1 c hc
          exact name.isAlpha
      refine ⟨[], u, .nil _, content_rejects (hrun.rejects hrej) ?_, endTag_rejects ?_⟩
      · refine hsigns.imp id fun ⟨w, hw, halpha⟩ => ⟨w, hw, ?_⟩
        rintro c hc rfl
        exact absurd (halpha _ hc) (by decide)
      · rcases hsigns with rfl | ⟨w, rfl, halpha⟩
        · decide
        · intro hpre
          have hslash : ['/'] <+: w := (List.cons_prefix_cons.mp hpre).2
          exact absurd (halpha '/' (head?_of_isPrefix hslash '/' rfl)) (by decide)

/-- So is what stands in an element. -/
theorem chain_children_cut (hrun : RunsNode run) : ∀ ds : List Markup, separatedAll ds = true →
    agreesAll ds = true → ∀ u : Text, IsCut u (writtenAll ds) → Breaks run u
  | [], _, _, u, hcut => absurd (List.prefix_nil.mp hcut.1) hcut.2
  | d :: ds, hsep, hagree, u, hcut => by
      obtain ⟨hd, hnext, hds⟩ := separatedAll_cons.mp hsep
      obtain ⟨had, hads⟩ := agreesAll_cons.mp hagree
      rcases hcut.append with hfirst | ⟨w, rfl, hrest⟩
      · exact breaks_of_isCut hrun d hd had u hfirst
      · obtain ⟨vs, r, chain, hmore, hend⟩ := chain_children_cut hrun ds hds hads w hrest
        refine ⟨_, r, .cons rfl (content_reads hrun d hd had w fun htext c hc => ?_)
          (size_lt_of_child d w) chain, hmore, hend⟩
        have hnil : ∀ c ∈ ([] : Text).head?, c = '<' := nofun
        exact head?_writtenAll (hnext htext) hnil c
          (head?_of_isPrefix (hrest.1.trans (List.prefix_append _ [])) c hc)

end

/-! ## Elements that are closed under another name -/

/-- The first element that is not closed under its own name. -/
def firstFault? (ss : List Site) : Option Site := ss.find? fun s => !s.agrees

theorem firstFault?_eq_none_iff {ss : List Site} :
    firstFault? ss = none ↔ ∀ s ∈ ss, s.agrees = true := by
  simp [firstFault?]

theorem firstFault?_append (ss us : List Site) :
    firstFault? (ss ++ us) = (firstFault? ss).or (firstFault? us) := List.find?_append

/-- A fault in what stands between the tags comes before that of the element itself. -/
theorem element_fault {s : Site} (hrun : RunsNode run)
    (content : agreesAll children = true → Chain run (patterns.content node) some
      (writtenAll children ++ (closing.closed ++ after)) (childValues children)
      (closing.closed ++ after))
    (inside : ∀ s, firstFault? (sitesOfList (closing.closed ++ after) children) = some s →
      ∃ vs r, Chain run (patterns.content node) some
        (writtenAll children ++ (closing.closed ++ after)) vs r ∧ r ≠ [] ∧
          (patterns.content node).Fails run r (fault s))
    (h : firstFault? ((element name attrs children closing).sites after) = some s) :
    (patterns.element node).Fails run ((element name attrs children closing).written ++ after)
      (fault s) := by
  rw [sites, firstFault?_append] at h
  cases hinside : firstFault? (sitesOfList (closing.closed ++ after) children) with
  | some s' =>
      rw [hinside] at h
      cases h
      obtain ⟨vs, r, chain, hr, hfail⟩ := inside s hinside
      exact element_fails_inside chain hr hfail rfl
  | none =>
      rw [hinside, Option.none_or] at h
      rw [firstFault?, List.find?_singleton] at h
      split at h
      next hown =>
        cases h
        have hchildren := (agreesAll_iff children _).mpr (firstFault?_eq_none_iff.mp hinside)
        exact element_fails hrun (by simpa [Site.agrees] using hown) (content hchildren)
      next => cases h

mutual

theorem content_fault (hrun : RunsNode run) : ∀ d : Markup, d.separated = true →
    ∀ (after : Text) (s : Site), firstFault? (d.sites after) = some s →
      (patterns.content node).Fails run (d.written ++ after) (fault s)
  | .text t, _, _, _, h => nomatch h
  | .element name attrs children closing, hsep, after, s, h => by
      have hclosed : ∀ c ∈ (closing.closed ++ after).head?, c = '<' := fun c hc => by cases hc; rfl
      have hfail := element_fault hrun
        (fun hagree => chain_children hrun children hsep hagree _ hclosed)
        (chain_children_fault hrun children hsep _ hclosed) h
      exact .choiceLeft (.choiceLeft (hrun.fails hfail) rfl) rfl

/-- Behind elements that are closed properly, the first one that is not is a fault. -/
theorem chain_children_fault (hrun : RunsNode run) : ∀ ds : List Markup, separatedAll ds = true →
    ∀ after : Text, (∀ c ∈ after.head?, c = '<') → ∀ s : Site,
      firstFault? (sitesOfList after ds) = some s →
        ∃ vs r, Chain run (patterns.content node) some (writtenAll ds ++ after) vs r ∧ r ≠ [] ∧
          (patterns.content node).Fails run r (fault s)
  | [], _, _, _, _, h => nomatch h
  | d :: ds, hsep, after, hafter, s, h => by
      obtain ⟨hd, hnext, hds⟩ := separatedAll_cons.mp hsep
      rw [sitesOfList, firstFault?_append] at h
      rw [writtenAll, List.append_assoc]
      cases hfirst : firstFault? (d.sites (writtenAll ds ++ after)) with
      | some s' =>
          rw [hfirst] at h
          cases h
          refine ⟨[], _, .nil _, ?_, content_fault hrun d hd _ s hfirst⟩
          intro hnil
          exact absurd (size_lt_of_child d (writtenAll ds ++ after)) (by rw [hnil]; exact nofun)
      | none =>
          rw [hfirst, Option.none_or] at h
          have hagree := (agrees_iff d _).mpr (firstFault?_eq_none_iff.mp hfirst)
          obtain ⟨vs, r, chain, hr, hfail⟩ := chain_children_fault hrun ds hds after hafter s h
          have first := content_reads hrun d hd hagree (writtenAll ds ++ after)
            fun htext => head?_writtenAll (hnext htext) hafter
          exact ⟨_, r, .cons rfl first (size_lt_of_child d _) chain, hr, hfail⟩

end

/-! ## The grammar finishes -/

theorem leavesGiveBack {p : Parser Datum} (hp : ∀ s ∈ p.parts, ∀ x f, s ≠ .custom x f) :
    book.LeavesGiveBack p := by
  refine RuleBook.LeavesGiveBack.of_parts hp ?_
  intro d hd
  obtain rfl := List.mem_singleton.mp hd
  simp [Patterns.element, Patterns.tag, Patterns.attr, Patterns.content, Patterns.words,
    Patterns.endTag, patterns, patternOf, Parser.parts]

theorem tag_consumes : book.Consumes patterns.tag := by
  have sign : book.Consumes (.literal "<".toList) := RuleBook.consumes_literal (by decide)
  have name : book.LeavesGiveBack patterns.name :=
    leavesGiveBack (by simp [patterns, patternOf, Parser.parts])
  have attrs : book.LeavesGiveBack (.optional (.sepBy patterns.attr " ".toList)) :=
    leavesGiveBack (by simp [patterns, patternOf, Patterns.attr, Parser.parts])
  have last : book.LeavesGiveBack (.literal ">".toList) := leavesGiveBack (by simp [Parser.parts])
  exact ((sign.seq name).seq attrs).seq last

/-- An element starts with a tag, so elements inside it are at smaller texts. -/
theorem not_leftRecursive : ¬book.LeftRecursive (.rule node) := by
  refine RuleBook.not_leftRecursive_of_not_opens fun r s ⟨d, hd, hs⟩ => ?_
  obtain ⟨rfl, rfl⟩ := Prod.mk.inj (List.mem_singleton.mp (RuleBook.mem_definitions hd))
  cases hs with
  | tryMap hs =>
      cases hs with
      | seqRight _ hs => exact nomatch hs.mem_rules
      | seqLeft hs =>
          cases hs with
          | seqLeft hs => exact nomatch hs.mem_rules
          | seqRight hc _ => exact hc tag_consumes

theorem runsNode_limit : RunsNode book.limit := by
  intro t
  rw [RuleBook.limit_eq_call_of_acyclic rfl (leavesGiveBack (by simp [Parser.parts]))
    not_leftRecursive t, Parser.outcome_call]

theorem parse_eq (t : Text) :
    book.parse (.rule node) t = ((patterns.element node).body book.limit t).outcome := by
  have finished := RuleBook.resolve_parseFuel_finished (leavesGiveBack (by simp [Parser.parts]))
    not_leftRecursive (.refl _) (Nat.le_refl (Text.size t))
  rw [← runsNode_limit t]
  exact RuleBook.parse_eq_limit finished

end Document

open Document Markup in
/-- The grammar of documents can be built.  An element of a well-formed tree, with any text behind
its canonical text, is read as that tree if all of it is closed under its own name, and the text
behind it is left; its canonical text cut off before the end is rejected.  Otherwise the first
element that is closed under another name is a fault at its opening tag. -/
theorem document_read_back : ∃ b g, grammar = .ok (b, g) ∧
    ∀ (name : Name) (attrs : List Attr) (children : List Markup) (closing : Name) (tail : Text),
      let d := element name attrs children closing
      d.separated = true →
        (d.agrees = true →
          b.parse g.root (d.written ++ tail) = .matched ⟨.mapped d.toDatum, tail⟩ ∧
          ∀ u, u <+: d.written → u ≠ d.written →
            ∃ e, b.parse g.root u = .failed e ∧ e.isRecoverable = true) ∧
        (d.agrees = false →
          ∃ s, (d.sites tail).find? (fun s => !s.agrees) = some s ∧ s.source <:+ d.written ++ tail ∧
            b.parse g.root (d.written ++ tail) =
              .failed (.mapping (patterns.element node).expected s.source s.complaint)) := by
  refine ⟨book, _, grammar_eq, fun name attrs children closing tail => ?_⟩
  intro d hsep
  have hclosed : ∀ c ∈ (closing.closed ++ tail).head?, c = '<' := fun c hc => by cases hc; rfl
  simp only [parse_eq]
  refine ⟨fun hagree => ?_, fun hagree => ?_⟩
  · obtain ⟨hchildren, hname⟩ := (Bool.and_eq_true_iff).mp hagree
    have chain := chain_children runsNode_limit children hsep hchildren
    refine ⟨element_reads runsNode_limit (of_decide_eq_true hname) (chain _ hclosed), ?_⟩
    intro u hu hne
    exact element_rejects_of_isCut runsNode_limit chain
      (chain_children_cut runsNode_limit children hsep hchildren) ⟨hu, hne⟩
  · have hfault : firstFault? (d.sites tail) ≠ none := fun hnone => by
      rw [(agrees_iff d tail).mpr (firstFault?_eq_none_iff.mp hnone)] at hagree
      cases hagree
    obtain ⟨s, hs⟩ := Option.ne_none_iff_exists'.mp hfault
    refine ⟨s, hs, ?_, ?_⟩
    · exact suffix_of_mem_sites d tail s (List.mem_of_find?_eq_some hs)
    · exact element_fault runsNode_limit
        (fun hchildren => chain_children runsNode_limit children hsep hchildren _ hclosed)
        (chain_children_fault runsNode_limit children hsep _ hclosed) hs

namespace Markup

def nameA : Name := ⟨'a', [], rfl, nofun⟩

def nameB : Name := ⟨'b', ['1'], rfl, List.forall_mem_singleton.mpr rfl⟩

/-- An attribute with a blank in its value. -/
def attrA : Attr := ⟨nameA, ['v', ' '], by decide, fun c hc => by cases hc; rfl⟩

/-- A text with a blank inside. -/
def wordsXY : Words := ⟨['x', ' ', 'y'], by decide, by decide, fun c hc => by cases hc; rfl,
  fun c hc => by cases hc; rfl⟩

/-- An element with an attribute, in which there are a text and an element that is closed under a
given name. -/
def framed (closing : Name) : Markup :=
  .element nameA [attrA] [.text wordsXY, .element nameB [] [] closing] nameA

end Markup

open Document Markup in
/-- Where the inner element is closed under the name of the outer one, it is the fault, though the
outer one is closed properly. -/
theorem document_read_back_nested :
    (framed nameB).separated = true ∧ (framed nameA).separated = true ∧
      ∃ b g, grammar = .ok (b, g) ∧
        b.parse g.root "<a a=\"v \">x y<b1></b1></a> z".toList =
          .matched ⟨.mapped (framed nameB).toDatum, [' ', 'z']⟩ ∧
        (∃ e, b.parse g.root "<a a=\"v \">x ".toList = .failed e ∧ e.isRecoverable = true) ∧
        b.parse g.root "<a a=\"v \">x y<b1></a></a> z".toList =
          .failed (.mapping (patterns.element node).expected "<b1></a></a> z".toList
            "<b1> closed by </a>".toList) := by
  obtain ⟨b, g, built, back⟩ := document_read_back
  have proper := back nameA [attrA] _ nameA [' ', 'z']
    (show (framed nameB).separated = true from rfl)
  have wrong := back nameA [attrA] _ nameA [' ', 'z']
    (show (framed nameA).separated = true from rfl)
  obtain ⟨reads, rejects⟩ := proper.1 rfl
  obtain ⟨s, first, -, fails⟩ := wrong.2 rfl
  cases first
  exact ⟨rfl, rfl, b, g, built, reads, rejects _ (by decide) (by decide), fails⟩

end Descent
