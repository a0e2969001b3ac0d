import Descent.Conversion
import Descent.Proofs.Readings
import Descent.Proofs.Scanning

/-!
# Markup documents

A grammar of documents with opening and closing tags, and the documents that it is for.  An element
has a name, attributes, and a content of texts and elements; comments in it are dropped.  That the
closing tag has the name of the opening one is not in the syntax: it is checked when the element has
been read, and an element that fails the check is a fault.

A document is a tree whose elements carry the name of their closing tag beside their own, so that a
tree with a wrong closing tag can be written too.  `written` is the canonical text, without blanks
between the tags.  `sites` lists the elements in the order in which they are closed, each with the
text from its opening tag to the end of the input.

The last section says what the tokens of the grammar find in a text.
-/

namespace Descent

/-! ## The grammar -/

namespace Document

/-- The patterns of the grammar. -/
structure Patterns where
  name : Parser Datum
  value : Parser Datum
  comment : Parser Datum
  text : Parser Datum

namespace Patterns

def attr (x : Patterns) : Parser Datum :=
  .map (.named (.seq (.seq (.seq x.name (.literal "=\"".toList)) x.value) (.literal "\"".toList))
    "attribute".toList) Conversion.attr.apply

/-- An opening tag, with attributes. -/
def tag (x : Patterns) : Parser Datum :=
  .seq (.seq (.seq (.literal "<".toList) x.name) (.optional (.sepBy x.attr " ".toList)))
    (.literal ">".toList)

def endTag (x : Patterns) : Parser Datum :=
  .seq (.seq (.literal "</".toList) x.name) (.literal ">".toList)

/-- A piece of text, without the blanks at its end. -/
def words (x : Patterns) : Parser Datum :=
  .named (.map x.text Conversion.text.apply) "text".toList

/-- What may stand in an element, where `node` stands for elements. -/
def content (x : Patterns) (node : Rule) : Parser Datum :=
  .choice (.choice (.rule node) (.map x.comment Conversion.unit.apply)) x.words

def element (x : Patterns) (node : Rule) : Parser Datum :=
  .tryMap (.seq (.seq x.tag (.optional (.many (x.content node)))) x.endTag) Check.node.apply

end Patterns

/-- The rules and the grammar of documents. -/
def grammar : Except GrammarError (RuleBook Datum × Grammar Datum) := do
  let x : Patterns := {
    name := ← Parser.ofPattern "[a-zA-Z][a-zA-Z0-9]*".toList
    value := ← Parser.ofPattern "[^\"]*".toList
    comment := ← Parser.ofPattern "<!--(.|\n)*?-->".toList
    text := ← Parser.ofPattern "[^<]+".toList }
  let (node, b) := RuleBook.empty.declare "node".toList
  let b ← b.define (.rule node) (x.element node)
  let g ← b.seal (.rule node)
  .ok (b, g)

/-! ## The patterns as programs -/

/-- Letters. -/
def letters : CharSet := ⟨[(65, 90), (97, 122)]⟩

/-- Letters and digits. -/
def lettersAndDigits : CharSet := ⟨[(48, 57), (65, 90), (97, 122)]⟩

/-- All but the quotation mark. -/
def unquoted : CharSet := ⟨[(0, 33), (35, 0x10FFFF)]⟩

/-- All but the sign that opens a tag. -/
def untagged : CharSet := ⟨[(0, 59), (61, 0x10FFFF)]⟩

def nameProgram : Regex.Program :=
  ⟨#[.look .textStart, .set letters, .fork 3 5, .set lettersAndDigits, .jump 2, .done]⟩

def valueProgram : Regex.Program :=
  ⟨#[.look .textStart, .fork 2 4, .set unquoted, .jump 1, .done]⟩

def commentProgram : Regex.Program :=
  ⟨#[.look .textStart, .set (.single '<'), .set (.single '!'), .set (.single '-'),
    .set (.single '-'), .fork 11 6, .fork 7 9, .set ⟨[(0, 9), (11, 0x10FFFF)]⟩, .jump 10,
    .set (.single '\n'), .jump 5, .set (.single '-'), .set (.single '-'), .set (.single '>'),
    .done]⟩

def textProgram : Regex.Program := ⟨#[.look .textStart, .set untagged, .fork 1 3, .done]⟩

/-- A pattern by its text and its program. -/
def patternOf (source : String) (program : Regex.Program) : Parser Datum :=
  .pattern source.toList ⟨Regex.anchored source.toList, program⟩

def patterns : Patterns where
  name := patternOf "[a-zA-Z][a-zA-Z0-9]*" nameProgram
  value := patternOf "[^\"]*" valueProgram
  comment := patternOf "<!--(.|\n)*?-->" commentProgram
  text := patternOf "[^<]+" textProgram

/-- The rule for elements. -/
def node : Rule := ⟨0, "node".toList⟩

/-- The rule and its definition. -/
def book : RuleBook Datum := ⟨1, [(node, patterns.element node)]⟩

/-- The patterns compile to these programs, and the grammar can be sealed. -/
theorem grammar_eq : grammar = .ok (book, ⟨.rule node, [node]⟩) := rfl

end Document

/-! ## Documents -/

namespace Markup

/-- A name: a letter, then letters and digits. -/
structure Name where
  head : Char
  tail : Text
  isAlpha : head.isAlpha = true
  isAlphanum : ∀ c ∈ tail, c.isAlphanum = true

/-- The text of a name. -/
def Name.text (n : Name) : Text := n.head :: n.tail

/-- An attribute.  Its value has no quotation marks and no blanks in front. -/
structure Attr where
  name : Name
  value : Text
  unquoted : '"' ∉ value
  front : ∀ c ∈ value.head?, Text.isBlank c = false

/-- A piece of text between tags.  It is not empty and has no blanks on either side. -/
structure Words where
  text : Text
  ne_nil : text ≠ []
  untagged : '<' ∉ text
  front : ∀ c ∈ text.head?, Text.isBlank c = false
  back : ∀ c ∈ text.getLast?, Text.isBlank c = false

end Markup

/-- What a document is made of. -/
inductive Markup where
  /-- A piece of text. -/
  | text (t : Markup.Words)
  /-- An element under a name, with the name of its closing tag. -/
  | element (name : Markup.Name) (attrs : List Markup.Attr) (children : List Markup)
    (closing : Markup.Name)

namespace Markup

/-- The text of an attribute. -/
def Attr.text (a : Attr) : Text := a.name.text ++ ("=\"".toList ++ (a.value ++ ['"']))

/-- An attribute with the space that parts it from what stands in front. -/
def Attr.written (a : Attr) : Text := ' ' :: a.text

/-- The opening tag. -/
def Name.opened (n : Name) (attrs : List Attr) : Text :=
  '<' :: (n.text ++ (attrs.flatMap Attr.written ++ ['>']))

/-- The closing tag. -/
def Name.closed (n : Name) : Text := "</".toList ++ (n.text ++ ['>'])

mutual

/-- The canonical text. -/
def written : Markup → Text
  | text t => t.text
  | element name attrs children closing =>
    name.opened attrs ++ (writtenAll children ++ closing.closed)

/-- The canonical texts, one after the other. -/
def writtenAll : List Markup → Text
  | [] => []
  | d :: ds => d.written ++ writtenAll ds

end

mutual

/-- What the tree stands for, the closing tags left out. -/
def toDatum : Markup → Datum
  | text t => .text t.text
  | element name attrs children _ =>
    .node name.text (attrs.map fun a => (a.name.text, a.value)) (toData children)

/-- What trees stand for. -/
def toData : List Markup → List Datum
  | [] => []
  | d :: ds => d.toDatum :: toData ds

end

def isText : Markup → Bool
  | text _ => true
  | element _ _ _ _ => false

mutual

/-- Whether no two texts stand side by side. -/
def separated : Markup → Bool
  | text _ => true
  | element _ _ children _ => separatedAll children

/-- Whether no two texts stand side by side, neither among the trees nor inside. -/
def separatedAll : List Markup → Bool
  | [] => true
  | d :: ds => d.separated && !(d.isText && ds.head?.any isText) && separatedAll ds

end

mutual

/-- Whether all elements are closed under their own name. -/
def agrees : Markup → Bool
  | text _ => true
  | element name _ children closing => agreesAll children && decide (name.text = closing.text)

/-- Whether all elements of the trees are closed under their own name. -/
def agreesAll : List Markup → Bool
  | [] => true
  | d :: ds => d.agrees && agreesAll ds

end

/-- An element by its names and the text from its opening tag to the end of the input. -/
structure Site where
  name : Name
  closing : Name
  source : Text

namespace Site

/-- Whether the element is closed under its own name. -/
def agrees (s : Site) : Bool := decide (s.name.text = s.closing.text)

/-- What is said of an element that is closed under another name. -/
def complaint (s : Site) : Text :=
  ['<'] ++ s.name.text ++ "> closed by </".toList ++ s.closing.text ++ ['>']

end Site

mutual

/-- The elements in the order in which they are closed, with `after` behind the tree. -/
def sites (after : Text) : Markup → List Site
  | text _ => []
  | element name attrs children closing =>
    sitesOfList (closing.closed ++ after) children ++
      [⟨name, closing, (element name attrs children closing).written ++ after⟩]

/-- The elements of trees in the order in which they are closed, with `after` behind the last. -/
def sitesOfList (after : Text) : List Markup → List Site
  | [] => []
  | d :: ds => sites (writtenAll ds ++ after) d ++ sitesOfList after ds

end

mutual

/-- Where a tree stands in the input makes no difference to whether its tags agree. -/
theorem agrees_iff : ∀ (d : Markup) (after : Text),
    d.agrees = true ↔ ∀ s ∈ d.sites after, s.agrees = true
  | text t, after => by simp [agrees, sites]
  | element name attrs children closing, after => by
      simp only [agrees, sites, Bool.and_eq_true, List.forall_mem_append, List.forall_mem_singleton,
        agreesAll_iff children (closing.closed ++ after), Site.agrees]

theorem agreesAll_iff : ∀ (ds : List Markup) (after : Text),
    agreesAll ds = true ↔ ∀ s ∈ sitesOfList after ds, s.agrees = true
  | [], after => by simp [agreesAll, sitesOfList]
  | d :: ds, after => by
      simp only [agreesAll, sitesOfList, Bool.and_eq_true, List.forall_mem_append,
        agrees_iff d (writtenAll ds ++ after), agreesAll_iff ds after]

end

mutual

/-- The text from the opening tag of an element on is an end of the whole text. -/
theorem suffix_of_mem_sites : ∀ (d : Markup) (after : Text),
    ∀ s ∈ d.sites after, s.source <:+ d.written ++ after
  | text _, _, s, hs => nomatch hs
  | element name attrs children closing, after, s, hs => by
      rw [sites] at hs
      rcases List.mem_append.mp hs with hs | hs
      · have hin := suffix_of_mem_sitesOfList children (closing.closed ++ after) s hs
        rw [written, List.append_assoc, List.append_assoc]
        exact List.suffix_append_of_suffix hin
      · obtain rfl := List.mem_singleton.mp hs
        exact List.suffix_refl _

theorem suffix_of_mem_sitesOfList : ∀ (ds : List Markup) (after : Text),
    ∀ s ∈ sitesOfList after ds, s.source <:+ writtenAll ds ++ after
  | [], _, s, hs => nomatch hs
  | d :: ds, after, s, hs => by
      rw [sitesOfList] at hs
      rw [writtenAll, List.append_assoc]
      rcases List.mem_append.mp hs with hs | hs
      · exact suffix_of_mem_sites d (writtenAll ds ++ after) s hs
      · exact List.suffix_append_of_suffix (suffix_of_mem_sitesOfList ds after s hs)

end

end Markup

/-! ## Characters and blanks -/

/-- Names are read behind blanks and start with a letter, so no character of one is skipped. -/
theorem Text.isBlank_of_isAlpha {c : Char} (h : c.isAlpha = true) : isBlank c = false := by
  rw [isAlpha_iff] at h
  simp [isBlank]
  omega

/-- The conversion of a piece of text drops the blanks at its end, and the pieces of a document have
none there. -/
theorem Text.trimEnd_eq_self {t : Text} (h : ∀ c ∈ t.getLast?, isBlank c = false) :
    trimEnd t = t := by
  have hrev : trimStart t.reverse = t.reverse :=
    trimStart_eq_self (by rwa [List.head?_reverse])
  rw [trimEnd, ← trimStart, hrev, List.reverse_reverse]

namespace Document

/-- The set is written as the compiler builds it, by code points, and the documents speak of
letters. -/
theorem contains_letters (c : Char) : letters.contains c = c.isAlpha := by
  rw [Bool.eq_iff_iff, isAlpha_iff]
  simp [letters, CharSet.contains, CharSet.spansContain]
  omega

theorem contains_lettersAndDigits (c : Char) : lettersAndDigits.contains c = c.isAlphanum := by
  rw [Bool.eq_iff_iff, isAlphanum_iff, isAlpha_iff]
  simp [lettersAndDigits, CharSet.contains, CharSet.spansContain]
  omega

theorem contains_unquoted (c : Char) : unquoted.contains c = true ↔ c ≠ '"' :=
  CharSet.contains_iff_ne '"' c rfl

theorem contains_untagged (c : Char) : untagged.contains c = true ↔ c ≠ '<' :=
  CharSet.contains_iff_ne '<' c rfl

/-! ## What the tokens find -/

section Tokens

variable {run : Rule → Text → Run Datum} {t u v : Text}

/-- Behind the first letter the program is a loop over one set, which ends where the set does. -/
theorem nameProgram_scans : nameProgram.Scans lettersAndDigits 3 5 :=
  ⟨rfl, rfl, fun _ _ => rfl⟩

theorem valueProgram_scans : valueProgram.Scans unquoted 2 4 := ⟨rfl, rfl, fun _ _ => rfl⟩

theorem textProgram_scans : textProgram.Scans untagged 1 3 := ⟨rfl, rfl, fun _ _ => rfl⟩

/-- A name is read up to the first character that no name has. -/
theorem name_reads (n : Markup.Name) (ht : Text.trimStart t = n.text ++ u)
    (hu : ∀ c ∈ u.head?, c.isAlphanum = false) :
    patterns.name.Reads run t (.token n.text) u := by
  refine Parser.Reads.pattern ?_
  rw [ht]
  refine nameProgram_scans.find?_cons (i := 1) rfl (fun _ => rfl) (fun _ _ => rfl) ?_ ?_ ?_
  · rw [contains_letters]
    exact n.isAlpha
  · intro c hc
    rw [contains_lettersAndDigits]
    exact n.isAlphanum c hc
  · intro c hc
    rw [contains_lettersAndDigits]
    exact hu c hc

/-- Anything but a letter in front is a mismatch, which tells a closing tag from an opening one. -/
theorem name_rejects (ht : ∀ c ∈ (Text.trimStart t).head?, c.isAlpha = false) :
    patterns.name.Rejects run t := by
  refine Parser.Rejects.pattern
    (Regex.Program.Anchored.find?_eq_none (k := 1) rfl rfl (fun _ => rfl) fun c hc => ?_)
  rw [contains_letters]
  exact ht c hc

/-- A value is all that stands before the closing quotation mark, also where that is nothing. -/
theorem value_reads (ht : Text.trimStart t = v ++ u) (hv : '"' ∉ v)
    (hu : ∀ c ∈ u.head?, c = '"') : patterns.value.Reads run t (.token v) u := by
  refine Parser.Reads.pattern ?_
  rw [ht]
  refine valueProgram_scans.find?_append (fun _ => rfl) (fun c hc => ?_) fun c hc => ?_
  · rw [contains_unquoted]
    rintro rfl
    exact hv hc
  · rw [← Bool.not_eq_true, contains_unquoted, not_not]
    exact hu c hc

/-- A piece of text is all that stands before the next tag.  It is not empty, as the pattern wants
one character at least. -/
theorem text_reads (ht : Text.trimStart t = v ++ u) (hne : v ≠ []) (hv : '<' ∉ v)
    (hu : ∀ c ∈ u.head?, c = '<') : patterns.text.Reads run t (.token v) u := by
  refine Parser.Reads.pattern ?_
  rw [ht]
  obtain ⟨c, v, rfl⟩ := List.exists_cons_of_ne_nil hne
  have hset : ∀ x ∈ c :: v, untagged.contains x = true := by
    intro x hx
    rw [contains_untagged]
    rintro rfl
    exact hv hx
  refine textProgram_scans.find?_cons (i := 1) rfl (fun _ => rfl) (fun _ _ => rfl)
    (hset c (List.mem_cons_self ..)) (fun x hx => hset x (List.mem_cons_of_mem c hx)) fun x hx => ?_
  rw [← Bool.not_eq_true, contains_untagged, not_not]
  exact hu x hx

/-- In front of a tag there is no text, so the content of an element ends there. -/
theorem text_rejects (ht : ∀ c ∈ (Text.trimStart t).head?, c = '<') :
    patterns.text.Rejects run t := by
  refine Parser.Rejects.pattern
    (Regex.Program.Anchored.find?_eq_none (k := 1) rfl rfl (fun _ => rfl) fun c hc => ?_)
  rw [← Bool.not_eq_true]
  exact mt (contains_untagged c).mp (not_not.mpr (ht c hc))

/-- A comment starts with the two signs that no tag starts with. -/
theorem comment_rejects (ht : ¬['<', '!'] <+: Text.trimStart t) :
    patterns.comment.Rejects run t := by
  refine Parser.Rejects.pattern ?_
  rw [Regex.find?]
  cases hu : Text.trimStart t with
  | nil => rfl
  | cons c u =>
      by_cases hc : c = '<'
      · refine Regex.Program.Anchored.find?_eq_none_of_second (k := 1) rfl rfl (fun _ => rfl) rfl
          (fun _ _ => rfl) fun d hd => ?_
        rw [← Bool.not_eq_true, CharSet.contains_single]
        rintro rfl
        obtain ⟨u, rfl⟩ : ∃ u', u = '!' :: u' := by
          cases u with
          | nil => cases hd
          | cons x u => cases hd; exact ⟨u, rfl⟩
        exact ht (hu ▸ hc ▸ ⟨u, rfl⟩)
      · refine Regex.Program.Anchored.find?_eq_none (k := 1) rfl rfl (fun _ => rfl) fun d hd => ?_
        cases hd
        rw [← Bool.not_eq_true, CharSet.contains_single]
        exact hc

end Tokens

end Document

end Descent
