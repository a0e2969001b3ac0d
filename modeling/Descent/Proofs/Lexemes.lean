import Descent.Proofs.Determinism
import Descent.Proofs.Patterns

/-!
# The longest lexeme

How the lexemes of each kind are written is said here without expressions (`Lexeme.Writes`).  The
expression of a kind matches just its lexemes (`Lexeme.spells`), and its program is deterministic.
So the parser of the kind reads the longest lexeme at the front and fails where there is none
(`Lexeme.parser_longest`).  That an optional fraction or exponent may come to nothing half-way makes
no difference: what was found before it stays.

An expression *spells* texts of a kind if the places between which it matches are those between
which such a text stands (`Expr.Spells`).  That leaves out expressions that look around, and it is
carried from the parts of an expression to the whole by one lemma for each constructor.
-/

namespace Descent

/-- Of the texts of the kind at the front of `t`, `w` is the longest, and `u` follows it. -/
structure Text.Longest (P : Text → Prop) (t w u : Text) : Prop where
  /-- The text is of the kind. -/
  holds : P w
  /-- The text is at the front. -/
  eq_append : t = w ++ u
  /-- No longer text at the front is of the kind. -/
  le : ∀ {w' u'}, P w' → t = w' ++ u' → w'.length ≤ w.length

/-- Of two cuts of a text, the one with the longer piece in front leaves less. -/
theorem Text.length_le_iff {w u w' u' : Text} (h : w ++ u = w' ++ u') :
    w'.length ≤ w.length ↔ u.length ≤ u'.length := by
  have hlength := congrArg List.length h
  simp only [List.length_append] at hlength
  omega

/-! ## Texts that expressions spell -/

namespace Regex.Expr

/-- The expression matches just the texts of the kind, wherever they stand. -/
def Spells (a : Expr) (P : Text → Prop) : Prop :=
  ∀ x y, a.Matches x y ↔ ∃ w, P w ∧ Place.Reads w x y

variable {a b : Expr} {P Q : Text → Prop} {s : CharSet} {narrow greedy : Bool}

theorem Spells.congr (h : a.Spells P) (hPQ : ∀ w, P w ↔ Q w) : a.Spells Q := fun x y =>
  (h x y).trans (exists_congr fun w => and_congr_left fun _ => hPQ w)

theorem spells_set : (set narrow s).Spells fun w => ∃ c, s.contains c = true ∧ w = [c] := by
  intro x y
  constructor
  · rintro ⟨c, hc, hread⟩
    exact ⟨[c], ⟨c, hc, rfl⟩, hread⟩
  · rintro ⟨w, ⟨c, hc, rfl⟩, hread⟩
    exact ⟨c, hc, hread⟩

theorem spells_word (t : Text) : (word t).Spells (· = t) := fun _ _ =>
  ⟨fun hread => ⟨t, rfl, hread⟩, fun ⟨_, hw, hread⟩ => hw ▸ hread⟩

theorem Spells.group (h : a.Spells P) (n : Nat) : (group n a).Spells P := h

theorem Spells.seq (ha : a.Spells P) (hb : b.Spells Q) :
    (a.seq b).Spells fun w => ∃ u v, P u ∧ Q v ∧ w = u ++ v := by
  intro x y
  constructor
  · rintro ⟨z, hfirst, hsecond⟩
    obtain ⟨u, hu, hread⟩ := (ha x z).mp hfirst
    obtain ⟨v, hv, hread'⟩ := (hb z y).mp hsecond
    exact ⟨u ++ v, ⟨u, v, hu, hv, rfl⟩, Place.reads_append.mpr ⟨z, hread, hread'⟩⟩
  · rintro ⟨w, ⟨u, v, hu, hv, rfl⟩, hread⟩
    obtain ⟨z, hread, hread'⟩ := Place.reads_append.mp hread
    exact ⟨z, (ha x z).mpr ⟨u, hu, hread⟩, (hb z y).mpr ⟨v, hv, hread'⟩⟩

theorem Spells.alt (ha : a.Spells P) (hb : b.Spells Q) :
    (a.alt b).Spells fun w => P w ∨ Q w := by
  intro x y
  simp only [Matches, ha x y, hb x y, or_and_right, exists_or]

/-- Pieces in a row are read one after the other. -/
theorem Spells.row (h : a.Spells P) {y : Place} : ∀ {k : Nat} {x : Place},
    Row a.Matches k x y ↔
      ∃ ws : List Text, ws.length = k ∧ (∀ w ∈ ws, P w) ∧ Place.Reads ws.flatten x y := by
  intro k
  induction k with
  | zero =>
      intro x
      constructor
      · intro hrow
        exact ⟨[], rfl, nofun, hrow⟩
      · rintro ⟨ws, hlength, -, hread⟩
        rwa [List.length_eq_zero_iff.mp hlength] at hread
  | succ k ih =>
      intro x
      constructor
      · rintro ⟨z, hmatch, hrow⟩
        obtain ⟨w, hw, hread⟩ := (h x z).mp hmatch
        obtain ⟨ws, hlength, hws, hread'⟩ := ih.mp hrow
        exact ⟨w :: ws, congrArg (· + 1) hlength, List.forall_mem_cons.mpr ⟨hw, hws⟩,
          Place.reads_append.mpr ⟨z, hread, hread'⟩⟩
      · rintro ⟨ws, hlength, hws, hread⟩
        obtain ⟨w, ws, rfl⟩ := List.exists_cons_of_length_eq_add_one hlength
        obtain ⟨hw, hws⟩ := List.forall_mem_cons.mp hws
        obtain ⟨z, hread, hread'⟩ := Place.reads_append.mp hread
        exact ⟨z, (h x z).mpr ⟨w, hw, hread⟩, ih.mpr ⟨ws, Nat.succ.inj hlength, hws, hread'⟩⟩

theorem Spells.times (h : a.Spells P) (least : Nat) (most : Option Nat) :
    (times greedy least most a).Spells fun w => ∃ ws : List Text, least ≤ ws.length ∧
      (∀ m ∈ most, ws.length ≤ max least m) ∧ (∀ v ∈ ws, P v) ∧ w = ws.flatten := by
  intro x y
  constructor
  · rintro ⟨k, hleast, hmost, hrow⟩
    obtain ⟨ws, rfl, hws, hread⟩ := h.row.mp hrow
    exact ⟨ws.flatten, ⟨ws, hleast, hmost, hws, rfl⟩, hread⟩
  · rintro ⟨w, ⟨ws, hleast, hmost, hws, rfl⟩, hread⟩
    exact ⟨ws.length, hleast, hmost, h.row.mpr ⟨ws, rfl, hws, hread⟩⟩

theorem Spells.optional (h : a.Spells P) :
    (Expr.times greedy 0 (some 1) a).Spells fun w => w = [] ∨ P w := by
  refine (h.times 0 (some 1)).congr fun w => ?_
  constructor
  · rintro ⟨ws, -, hmost, hws, rfl⟩
    match ws, hmost 1 rfl with
    | [], _ => exact Or.inl rfl
    | [v], _ => exact Or.inr (by simpa using hws)
  · rintro (rfl | hw)
    · exact ⟨[], by simp⟩
    · exact ⟨[w], by simpa using hw⟩

/-- Texts of one character each are what the characters of one text make. -/
theorem exists_map_singleton {ws : List Text}
    (h : ∀ v ∈ ws, ∃ c, s.contains c = true ∧ v = [c]) :
    ∃ w : Text, (∀ c ∈ w, s.contains c = true) ∧ ws = w.map ([·]) := by
  induction ws with
  | nil => exact ⟨[], nofun, rfl⟩
  | cons v ws ih =>
      obtain ⟨⟨c, hc, rfl⟩, hws⟩ := List.forall_mem_cons.mp h
      obtain ⟨w, hw, rfl⟩ := ih hws
      exact ⟨c :: w, List.forall_mem_cons.mpr ⟨hc, hw⟩, rfl⟩

/-- A set over and over spells the texts of its characters that are long enough. -/
theorem spells_run (least : Nat) : (times greedy least none (set narrow s)).Spells fun w =>
    least ≤ w.length ∧ ∀ c ∈ w, s.contains c = true := by
  have flat (w : Text) : (w.map ([·])).flatten = w := by
    rw [← List.flatMap_def, List.flatMap_singleton']
  refine (spells_set.times least none).congr fun w => ?_
  constructor
  · rintro ⟨ws, hleast, -, hws, rfl⟩
    obtain ⟨w, hw, rfl⟩ := exists_map_singleton hws
    rw [List.length_map] at hleast
    rw [flat]
    exact ⟨hleast, hw⟩
  · rintro ⟨hleast, hw⟩
    refine ⟨w.map ([·]), by rwa [List.length_map], nofun, fun v hv => ?_, (flat w).symm⟩
    obtain ⟨c, hc, rfl⟩ := List.mem_map.mp hv
    exact ⟨c, hw c hc, rfl⟩

/-! ## What anchored expressions find -/

theorem matches_fromStart_iff {t : Text} {z : Place} :
    a.fromStart.Matches ⟨none, t⟩ z ↔ a.Matches ⟨none, t⟩ z := by
  simp [fromStart, Matches, Look.holds]

theorem Spells.find?_eq_some_iff (h : a.Spells P) (det : a.fromStart.program.Deterministic)
    {t w u : Text} : a.fromStart.program.find? t = some (w, u) ↔ Text.Longest P t w u := by
  simp only [find?_program_eq_some_iff det a.anchored_fromStart, matches_fromStart_iff]
  constructor
  · rintro ⟨ht, z, rfl, hmatch, hle⟩
    obtain ⟨w', hw', hread⟩ := (h _ z).mp hmatch
    obtain rfl : w = w' := List.append_cancel_right (ht.symm.trans hread.ahead_eq)
    refine ⟨hw', ht, fun {v u'} hv ht' => ?_⟩
    obtain ⟨z', hread', rfl⟩ := Place.exists_reads (x := ⟨none, t⟩) ht'
    exact (Text.length_le_iff (ht.symm.trans ht')).mpr (hle z' ((h _ z').mpr ⟨v, hv, hread'⟩))
  · rintro ⟨hw, ht, hle⟩
    obtain ⟨z, hread, rfl⟩ := Place.exists_reads (x := ⟨none, t⟩) ht
    refine ⟨ht, z, rfl, (h _ z).mpr ⟨w, hw, hread⟩, fun z' hmatch => ?_⟩
    obtain ⟨v, hv, hread'⟩ := (h _ z').mp hmatch
    exact (Text.length_le_iff (ht.symm.trans hread'.ahead_eq)).mp (hle hv hread'.ahead_eq)

theorem Spells.find?_eq_none_iff (h : a.Spells P) (det : a.fromStart.program.Deterministic)
    {t : Text} : a.fromStart.program.find? t = none ↔ ¬∃ w u, P w ∧ t = w ++ u := by
  simp only [find?_program_eq_none_iff det a.anchored_fromStart, matches_fromStart_iff]
  constructor
  · rintro hno ⟨w, u, hw, ht⟩
    obtain ⟨z, hread, -⟩ := Place.exists_reads (x := ⟨none, t⟩) ht
    exact hno z ((h _ z).mpr ⟨w, hw, hread⟩)
  · rintro hno z hmatch
    obtain ⟨w, hw, hread⟩ := (h _ z).mp hmatch
    exact hno ⟨w, z.ahead, hw, hread.ahead_eq⟩

end Regex.Expr

/-! ## How lexemes are written -/

namespace Lexeme

open Regex

/-- Whether a name can start with the character. -/
def startsName (c : Char) : Bool := c.isAlpha || c == '_'

/-- Whether a name can go on with the character. -/
def continuesName (c : Char) : Bool := c.isAlphanum || c == '_'

/-- Digits, one or more. -/
def IsDigits (w : Text) : Prop := 1 ≤ w.length ∧ ∀ c ∈ w, c.isDigit = true

/-- A sign, or nothing. -/
def IsSign (w : Text) : Prop := w = [] ∨ w = ['+'] ∨ w = ['-']

/-- Digits behind an optional sign. -/
def IsInteger (w : Text) : Prop := ∃ sign digits, IsSign sign ∧ IsDigits digits ∧ w = sign ++ digits

/-- A point and digits. -/
def IsFraction (w : Text) : Prop := ∃ digits, IsDigits digits ∧ w = '.' :: digits

/-- The letter e, large or small, and an integer. -/
def IsExponent (w : Text) : Prop := ∃ e n, (e = 'E' ∨ e = 'e') ∧ IsInteger n ∧ w = e :: n

/-- What can stand between double quotes.  A backslash takes the character behind it along, which
may be any but a line feed. -/
inductive IsQuotable : Text → Prop where
  | nil : IsQuotable []
  | plain {c : Char} {w : Text} : c ≠ '"' → c ≠ '\\' → IsQuotable w → IsQuotable (c :: w)
  | escaped {c : Char} {w : Text} : c ≠ '\n' → IsQuotable w → IsQuotable ('\\' :: c :: w)

/-- The text is a lexeme of the kind. -/
def Writes : Lexeme → Text → Prop
  | identifier, w => ∃ c u, startsName c = true ∧ (∀ d ∈ u, continuesName d = true) ∧ w = c :: u
  | integer, w => IsInteger w
  | decimal, w => ∃ n f e, IsInteger n ∧ (f = [] ∨ IsFraction f) ∧ (e = [] ∨ IsExponent e) ∧
      w = n ++ (f ++ e)
  | quoted, w => ∃ u, IsQuotable u ∧ w = '"' :: (u ++ ['"'])

/-! ## What the patterns are read to -/

/-- Digits, one or more. -/
def digits : Expr := .times true 1 none (.set false ⟨[(48, 57)]⟩)

/-- An optional sign. -/
def sign : Expr := .times true 0 (some 1) (.set false ⟨[(43, 43), (45, 45)]⟩)

/-- An optional point with digits. -/
def fraction : Expr := .times true 0 (some 1) (.group 1 (.seq (.word ['.']) digits))

/-- An optional exponent. -/
def exponent : Expr :=
  .times true 0 (some 1) (.group 2 (.seq (.set false ⟨[(69, 69), (101, 101)]⟩) (.seq sign digits)))

/-- A character between quotes, with the backslash in front where there is one. -/
def quotable : Expr :=
  .alt (.set false ⟨[(0, 33), (35, 91), (93, 1114111)]⟩)
    (.seq (.word ['\\']) (.set false ⟨[(0, 9), (11, 1114111)]⟩))

/-- The expression that the pattern of the kind writes. -/
def expr : Lexeme → Expr
  | identifier => .seq (.set false ⟨[(65, 90), (95, 95), (97, 122)]⟩)
      (.times true 0 none (.set false ⟨[(48, 57), (65, 90), (95, 95), (97, 122)]⟩))
  | integer => .seq sign digits
  | decimal => .seq sign (.seq digits (.seq fraction exponent))
  | quoted => .seq (.word ['"']) (.seq (.times true 0 none (.group 1 quotable)) (.word ['"']))

theorem compile_eq (l : Lexeme) : Regex.compile (Regex.anchored l.source) =
    .ok ⟨Regex.anchored l.source, l.expr.fromStart.program⟩ := by
  have read : (Expr.read {} (Regex.anchored l.source)).toOption = some l.expr.fromStart := by
    cases l <;> decide +kernel
  have fits : l.expr.fromStart.fits = true := by
    cases l <;> decide +kernel
  refine Regex.compile_eq_ok_iff.mpr ⟨l.expr.fromStart, ?_, fits, rfl⟩
  cases he : Expr.read {} (Regex.anchored l.source) with
  | error fault => rw [he] at read; cases read
  | ok e => rw [he] at read; exact congrArg _ (Option.some.inj read)

theorem deterministic_program (l : Lexeme) : l.expr.fromStart.program.Deterministic :=
  Program.deterministic_of_check (by cases l <;> decide +kernel)

/-! ## What the expressions spell -/

theorem spells_digits : digits.Spells IsDigits :=
  (Expr.spells_run 1).congr fun w => and_congr_right fun _ => forall₂_congr fun c _ => by
    rw [isDigit_iff]
    simp [CharSet.contains, CharSet.spansContain]

theorem spells_sign : sign.Spells IsSign := by
  have hcontains := @CharSet.contains_pair '+' '-' (by decide)
  refine Expr.spells_set.optional.congr fun w => or_congr_right ?_
  constructor
  · rintro ⟨c, hc, rfl⟩
    exact ((hcontains c).mp hc).imp (congrArg ([·])) (congrArg ([·]))
  · rintro (rfl | rfl)
    · exact ⟨'+', rfl, rfl⟩
    · exact ⟨'-', rfl, rfl⟩

theorem spells_integer : (Expr.seq sign digits).Spells IsInteger := spells_sign.seq spells_digits

theorem spells_fraction : fraction.Spells fun w => w = [] ∨ IsFraction w := by
  refine (((Expr.spells_word ['.']).seq spells_digits).group 1).optional.congr fun w => ?_
  simp [IsFraction]

theorem spells_exponent : exponent.Spells fun w => w = [] ∨ IsExponent w := by
  have hcontains := @CharSet.contains_pair 'E' 'e' (by decide)
  refine ((Expr.spells_set.seq spells_integer).group 2).optional.congr fun w => or_congr_right ?_
  constructor
  · rintro ⟨-, n, ⟨e, he, rfl⟩, hn, rfl⟩
    exact ⟨e, n, (hcontains e).mp he, hn, rfl⟩
  · rintro ⟨e, n, he, hn, rfl⟩
    exact ⟨[e], n, ⟨e, (hcontains e).mpr he, rfl⟩, hn, rfl⟩

/-- What can stand between quotes is a row of single characters and of those behind a backslash. -/
theorem isQuotable_iff {w : Text} : IsQuotable w ↔ ∃ ws : List Text,
    (∀ v ∈ ws, (∃ c, (c ≠ '"' ∧ c ≠ '\\') ∧ v = [c]) ∨ ∃ c, c ≠ '\n' ∧ v = ['\\', c]) ∧
      w = ws.flatten := by
  constructor
  · intro h
    induction h with
    | nil => exact ⟨[], nofun, rfl⟩
    | @plain c w hquote hback _ ih =>
        obtain ⟨ws, hws, rfl⟩ := ih
        exact ⟨[c] :: ws,
          List.forall_mem_cons.mpr ⟨Or.inl ⟨c, ⟨hquote, hback⟩, rfl⟩, hws⟩, rfl⟩
    | @escaped c w hc _ ih =>
        obtain ⟨ws, hws, rfl⟩ := ih
        exact ⟨['\\', c] :: ws, List.forall_mem_cons.mpr ⟨Or.inr ⟨c, hc, rfl⟩, hws⟩, rfl⟩
  · rintro ⟨ws, hws, rfl⟩
    induction ws with
    | nil => exact .nil
    | cons v ws ih =>
        obtain ⟨hv, htail⟩ := List.forall_mem_cons.mp hws
        rcases hv with ⟨c, ⟨hquote, hback⟩, rfl⟩ | ⟨c, hc, rfl⟩
        · exact .plain hquote hback (ih htail)
        · exact .escaped hc (ih htail)

theorem contains_plain (c : Char) :
    (CharSet.mk [(0, 33), (35, 91), (93, 1114111)]).contains c = true ↔ c ≠ '"' ∧ c ≠ '\\' := by
  have hmax := CharSet.toNat_le c
  rw [Ne, Ne, ← Char.toNat_inj, ← Char.toNat_inj]
  simp [CharSet.contains, CharSet.spansContain]
  omega

theorem spells_quotable : quotable.Spells fun w =>
    (∃ c, (c ≠ '"' ∧ c ≠ '\\') ∧ w = [c]) ∨ ∃ c, c ≠ '\n' ∧ w = ['\\', c] := by
  refine (Expr.spells_set.alt ((Expr.spells_word _).seq Expr.spells_set)).congr fun w => ?_
  simp only [contains_plain, CharSet.contains_iff_ne '\n' _ rfl]
  refine or_congr_right ⟨?_, ?_⟩
  · rintro ⟨-, -, rfl, ⟨c, hc, rfl⟩, rfl⟩
    exact ⟨c, hc, rfl⟩
  · rintro ⟨c, hc, rfl⟩
    exact ⟨_, [c], rfl, ⟨c, hc, rfl⟩, rfl⟩

theorem spells_quotables : (Expr.times true 0 none (.group 1 quotable)).Spells IsQuotable :=
  ((spells_quotable.group 1).times 0 none).congr fun w => by
    simp [isQuotable_iff]

theorem contains_startsName (c : Char) :
    (CharSet.mk [(65, 90), (95, 95), (97, 122)]).contains c = startsName c := by
  rw [Bool.eq_iff_iff, startsName, Bool.or_eq_true, isAlpha_iff, beq_iff_eq, ← Char.toNat_inj]
  simp [CharSet.contains, CharSet.spansContain]
  omega

theorem contains_continuesName (c : Char) :
    (CharSet.mk [(48, 57), (65, 90), (95, 95), (97, 122)]).contains c = continuesName c := by
  rw [Bool.eq_iff_iff, continuesName, Bool.or_eq_true, isAlphanum_iff, isAlpha_iff, beq_iff_eq,
    ← Char.toNat_inj]
  simp [CharSet.contains, CharSet.spansContain]
  omega

/-- The expression of a kind spells the lexemes of the kind. -/
theorem spells (l : Lexeme) : l.expr.Spells l.Writes := by
  cases l with
  | identifier =>
      refine (Expr.spells_set.seq (Expr.spells_run 0)).congr fun w => ?_
      simp only [contains_startsName, contains_continuesName, Nat.zero_le, true_and]
      constructor
      · rintro ⟨-, u, ⟨c, hc, rfl⟩, hu, rfl⟩
        exact ⟨c, u, hc, hu, rfl⟩
      · rintro ⟨c, u, hc, hu, rfl⟩
        exact ⟨[c], u, ⟨c, hc, rfl⟩, hu, rfl⟩
  | integer => exact spells_integer
  | decimal =>
      refine (spells_sign.seq (spells_digits.seq (spells_fraction.seq spells_exponent))).congr
        fun w => ?_
      -- The sign and the digits make an integer together.
      constructor
      · rintro ⟨u, -, hu, ⟨v, -, hv, ⟨f, e, hf, he, rfl⟩, rfl⟩, rfl⟩
        exact ⟨u ++ v, f, e, ⟨u, v, hu, hv, rfl⟩, hf, he, (List.append_assoc ..).symm⟩
      · rintro ⟨-, f, e, ⟨u, v, hu, hv, rfl⟩, hf, he, rfl⟩
        exact ⟨u, v ++ (f ++ e), hu, ⟨v, f ++ e, hv, ⟨f, e, hf, he, rfl⟩, rfl⟩,
          List.append_assoc ..⟩
  | quoted =>
      refine ((Expr.spells_word ['"']).seq (spells_quotables.seq (Expr.spells_word ['"']))).congr
        fun w => ?_
      constructor
      · rintro ⟨-, -, rfl, ⟨u, -, hu, rfl, rfl⟩, rfl⟩
        exact ⟨u, hu, rfl⟩
      · rintro ⟨u, hu, rfl⟩
        exact ⟨_, _, rfl, ⟨u, _, hu, rfl, rfl⟩, rfl⟩

/-! ## What the parsers read -/

variable {M : Type}

/-- The parser of a kind reads the longest lexeme of the kind behind blanks and leaves what follows
it.  It fails where no lexeme of the kind stands there, and only there. -/
theorem parser_longest (l : Lexeme) : ∃ p : Parser M, l.parser = .ok p ∧
    ∀ (run : Rule → Text → Run M) (t : Text),
      ((∃ v rest, p.Reads run t v rest) ↔ ∃ w u, l.Writes w ∧ Text.trimStart t = w ++ u) ∧
      (∀ v rest, p.Reads run t v rest ↔
        ∃ w, v = .token w ∧ Text.Longest l.Writes (Text.trimStart t) w rest) ∧
      ∀ e, p.Fails run t e ↔ e = .pattern l.source (Text.trimStart t) ∧
        ¬∃ w u, l.Writes w ∧ Text.trimStart t = w ++ u := by
  let regex : Regex := ⟨Regex.anchored l.source, l.expr.fromStart.program⟩
  have found (t w u : Text) : regex.find? t = some (w, u) ↔ Text.Longest l.Writes t w u :=
    l.spells.find?_eq_some_iff l.deterministic_program
  have missed (t : Text) : regex.find? t = none ↔ ¬∃ w u, l.Writes w ∧ t = w ++ u :=
    l.spells.find?_eq_none_iff l.deterministic_program
  refine ⟨.named (.pattern l.source regex) l.name, ?_, fun run t => ?_⟩
  · rw [parser, Parser.ofPattern, l.compile_eq]
    rfl
  simp only [Parser.reads_named_iff, Parser.fails_named_iff, Parser.reads_pattern_iff,
    Parser.fails_pattern_iff, found, missed, implies_true, and_true]
  constructor
  · rintro ⟨-, rest, w, -, hlongest⟩
    exact ⟨w, rest, hlongest.holds, hlongest.eq_append⟩
  · intro hlexeme
    cases hfind : regex.find? (Text.trimStart t) with
    | none => exact absurd hlexeme ((missed _).mp hfind)
    | some x => exact ⟨_, x.2, x.1, rfl, (found _ _ _).mp hfind⟩

/-- The exponent of this number comes to nothing, so the fraction ends it. -/
example : decimal.expr.fromStart.program.find? "-2.5e+x".toList =
    some ("-2.5".toList, "e+x".toList) := by
  decide +kernel

end Lexeme

end Descent
