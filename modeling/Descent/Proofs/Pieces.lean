import Descent.Regex

/-!
# The pieces that expressions match

A piece of a text lies between two *places*.  An expression relates the places between which there
is a piece that it matches (`Expr.Matches`): a sequence composes relations, an alternation joins
them, and a repetition composes a relation with itself.  Nothing is said of what is preferred.

A thread goes from instruction to instruction and from place to place until it comes to `done`
(`Program.Arrives`).  A stretch of a program *relays* threads from its first instruction to the one
behind it, between places that are related, if every thread that enters it and comes to `done`
leaves it in this way, and none is stopped (`Program.Relays`).  Relays can be chained and put in
loops.  The instructions of an expression relay threads between the places that the expression
relates (`Expr.relays`), so the threads of its program arrive just where it matches
(`Expr.arrives_program_iff`).

The steps of a thread are counted.  A loop comes back to where it started with fewer steps to go,
and that is what the induction over its rounds runs on.
-/

namespace Descent.Regex

/-! ## Places -/

/-- A place in a text. -/
structure Place where
  /-- The character in front, if there is one. -/
  before : Option Char
  /-- The text behind. -/
  ahead : Text

namespace Place

/-- The text stands between the two places. -/
def Reads : Text → Place → Place → Prop
  | [], x, y => x = y
  | c :: w, x, y => ∃ u, x.ahead = c :: u ∧ Reads w ⟨some c, u⟩ y

variable {w v u : Text} {x y : Place}

@[simp] theorem reads_nil : Reads [] x y ↔ x = y := Iff.rfl

@[simp] theorem reads_cons {c : Char} :
    Reads (c :: w) x y ↔ ∃ u, x.ahead = c :: u ∧ Reads w ⟨some c, u⟩ y := Iff.rfl

theorem reads_append : Reads (v ++ w) x y ↔ ∃ z, Reads v x z ∧ Reads w z y := by
  induction v generalizing x with
  | nil => simp
  | cons c v ih =>
      simp only [List.cons_append, reads_cons, ih]
      constructor
      · rintro ⟨u, hu, z, hv, hw⟩
        exact ⟨z, ⟨u, hu, hv⟩, hw⟩
      · rintro ⟨z, ⟨u, hu, hv⟩, hw⟩
        exact ⟨u, hu, z, hv, hw⟩

theorem Reads.ahead_eq (h : Reads w x y) : x.ahead = w ++ y.ahead := by
  induction w generalizing x with
  | nil => exact congrArg ahead h
  | cons c w ih =>
      obtain ⟨u, hu, hw⟩ := h
      rw [hu, List.cons_append, ← ih hw]

/-- Behind what a text starts with there is a place. -/
theorem exists_reads (h : x.ahead = w ++ u) : ∃ y, Reads w x y ∧ y.ahead = u := by
  induction w generalizing x with
  | nil => exact ⟨x, rfl, h⟩
  | cons c w ih =>
      obtain ⟨y, hw, hy⟩ := ih (x := ⟨some c, w ++ u⟩) rfl
      exact ⟨y, ⟨w ++ u, h, hw⟩, hy⟩

end Place

/-- So many steps of a relation. -/
def Row (R : Place → Place → Prop) : Nat → Place → Place → Prop
  | 0, x, y => x = y
  | k + 1, x, y => ∃ z, R x z ∧ Row R k z y

theorem row_add {R : Place → Place → Prop} {i j : Nat} {x y : Place} :
    Row R (i + j) x y ↔ ∃ z, Row R i x z ∧ Row R j z y := by
  induction i generalizing x with
  | zero =>
      rw [Nat.zero_add]
      exact ⟨fun h => ⟨x, rfl, h⟩, fun ⟨_, hz, h⟩ => hz ▸ h⟩
  | succ i ih =>
      rw [Nat.add_right_comm]
      simp only [Row, ih]
      constructor
      · rintro ⟨w, hR, z, hi, hj⟩
        exact ⟨z, ⟨w, hR, hi⟩, hj⟩
      · rintro ⟨z, ⟨w, hR, hi⟩, hj⟩
        exact ⟨w, hR, z, hi, hj⟩

/-- There is a piece between the two places that the expression matches.  No more than the greatest
number of pieces make a repetition, unless the least is above it. -/
def Expr.Matches : Expr → Place → Place → Prop
  | empty, x, y => x = y
  | set _ s, x, y => ∃ c, s.contains c = true ∧ Place.Reads [c] x y
  | word t, x, y => Place.Reads t x y
  | look l, x, y => l.holds x.before x.ahead.head? = true ∧ x = y
  | group _ a, x, y => a.Matches x y
  | seq a b, x, y => ∃ z, a.Matches x z ∧ b.Matches z y
  | alt a b, x, y => a.Matches x y ∨ b.Matches x y
  | times _ least most a, x, y =>
    ∃ k, least ≤ k ∧ (∀ m ∈ most, k ≤ max least m) ∧ Row a.Matches k x y

/-! ## Threads -/

namespace Program

/-- A thread comes from an instruction and a place to `done` and a place, in so many steps. -/
inductive Arrives (p : Program) : (steps n : Nat) → Place → Place → Prop where
  | done {n : Nat} {x : Place} : p.instr? n = some .done → Arrives p 0 n x x
  | set {k n : Nat} {s : CharSet} {c : Char} {b : Option Char} {t : Text} {z : Place} :
      p.instr? n = some (.set s) → s.contains c = true → Arrives p k (n + 1) ⟨some c, t⟩ z →
        Arrives p (k + 1) n ⟨b, c :: t⟩ z
  | look {k n : Nat} {l : Look} {x z : Place} :
      p.instr? n = some (.look l) → l.holds x.before x.ahead.head? = true →
        Arrives p k (n + 1) x z → Arrives p (k + 1) n x z
  | first {k n i j : Nat} {x z : Place} :
      p.instr? n = some (.fork i j) → Arrives p k i x z → Arrives p (k + 1) n x z
  | second {k n i j : Nat} {x z : Place} :
      p.instr? n = some (.fork i j) → Arrives p k j x z → Arrives p (k + 1) n x z
  | jump {k n i : Nat} {x z : Place} :
      p.instr? n = some (.jump i) → Arrives p k i x z → Arrives p (k + 1) n x z

variable {p : Program} {k n m i j : Nat} {x y z : Place} {R S : Place → Place → Prop}

theorem arrives_done_iff (h : p.instr? n = some .done) : p.Arrives k n x z ↔ k = 0 ∧ x = z := by
  constructor
  · intro harr
    cases harr with
    | done _ => exact ⟨rfl, rfl⟩
    | set hi _ _ | look hi _ _ | first hi _ | second hi _ | jump hi _ => rw [h] at hi; cases hi
  · rintro ⟨rfl, rfl⟩
    exact .done h

theorem arrives_set_iff {s : CharSet} (h : p.instr? n = some (.set s)) :
    p.Arrives k n x z ↔ ∃ k' c t, k = k' + 1 ∧ x.ahead = c :: t ∧ s.contains c = true ∧
      p.Arrives k' (n + 1) ⟨some c, t⟩ z := by
  constructor
  · intro harr
    cases harr with
    | set hi hc harr =>
        rw [h] at hi
        cases hi
        exact ⟨_, _, _, rfl, rfl, hc, harr⟩
    | done hi | look hi _ _ | first hi _ | second hi _ | jump hi _ => rw [h] at hi; cases hi
  · obtain ⟨b, t⟩ := x
    rintro ⟨k', c, t, rfl, rfl, hc, harr⟩
    exact .set h hc harr

theorem arrives_look_iff {l : Look} (h : p.instr? n = some (.look l)) :
    p.Arrives k n x z ↔ ∃ k', k = k' + 1 ∧ l.holds x.before x.ahead.head? = true ∧
      p.Arrives k' (n + 1) x z := by
  constructor
  · intro harr
    cases harr with
    | look hi hl harr =>
        rw [h] at hi
        cases hi
        exact ⟨_, rfl, hl, harr⟩
    | done hi | set hi _ _ | first hi _ | second hi _ | jump hi _ => rw [h] at hi; cases hi
  · rintro ⟨k', rfl, hl, harr⟩
    exact .look h hl harr

theorem arrives_fork_iff (h : p.instr? n = some (.fork i j)) :
    p.Arrives k n x z ↔ ∃ k', k = k' + 1 ∧ (p.Arrives k' i x z ∨ p.Arrives k' j x z) := by
  constructor
  · intro harr
    cases harr with
    | first hi harr => rw [h] at hi; cases hi; exact ⟨_, rfl, Or.inl harr⟩
    | second hi harr => rw [h] at hi; cases hi; exact ⟨_, rfl, Or.inr harr⟩
    | done hi | set hi _ _ | look hi _ _ | jump hi _ => rw [h] at hi; cases hi
  · rintro ⟨k', rfl, harr | harr⟩
    · exact .first h harr
    · exact .second h harr

theorem arrives_jump_iff (h : p.instr? n = some (.jump i)) :
    p.Arrives k n x z ↔ ∃ k', k = k' + 1 ∧ p.Arrives k' i x z := by
  constructor
  · intro harr
    cases harr with
    | jump hi harr => rw [h] at hi; cases hi; exact ⟨_, rfl, harr⟩
    | done hi | set hi _ _ | look hi _ _ | first hi _ | second hi _ => rw [h] at hi; cases hi
  · rintro ⟨k', rfl, harr⟩
    exact .jump h harr

/-- Which of its ways a loop prefers does not matter. -/
theorem arrives_loop_iff {greedy : Bool} (h : p.instr? n = some (.loop greedy i j)) :
    p.Arrives k n x z ↔ ∃ k', k = k' + 1 ∧ (p.Arrives k' i x z ∨ p.Arrives k' j x z) := by
  cases greedy with
  | true => exact arrives_fork_iff h
  | false => rw [arrives_fork_iff h]; simp only [or_comm]

/-! ## Relays -/

/-- Every thread that comes from `n` to `done` comes through `m` on its way, between places that are
related, and every thread that comes from `m` to `done` can be reached from `n` in this way. -/
structure Relays (p : Program) (n m : Nat) (R : Place → Place → Prop) : Prop where
  /-- A thread comes through, with no more steps to go than before. -/
  through : ∀ {k x z}, p.Arrives k n x z → ∃ y j, j ≤ k ∧ R x y ∧ p.Arrives j m y z
  /-- A thread that has come through can be followed back. -/
  back : ∀ {j x y z}, R x y → p.Arrives j m y z → ∃ k, p.Arrives k n x z

namespace Relays

theorem refl (p : Program) (n : Nat) : p.Relays n n Eq where
  through h := ⟨_, _, Nat.le_refl _, rfl, h⟩
  back hR h := ⟨_, hR ▸ h⟩

theorem congr (h : p.Relays n m R) (hRS : ∀ x y, R x y ↔ S x y) : p.Relays n m S where
  through harr := by
    obtain ⟨y, j, hj, hR, harr'⟩ := h.through harr
    exact ⟨y, j, hj, (hRS _ _).mp hR, harr'⟩
  back hS harr := h.back ((hRS _ _).mpr hS) harr

theorem trans {l : Nat} (h : p.Relays n m R) (h' : p.Relays m l S) :
    p.Relays n l fun x y => ∃ z, R x z ∧ S z y where
  through harr := by
    obtain ⟨y, j, hj, hR, hmid⟩ := h.through harr
    obtain ⟨y', j', hj', hS, hend⟩ := h'.through hmid
    exact ⟨y', j', Nat.le_trans hj' hj, ⟨y, hR, hS⟩, hend⟩
  back := by
    rintro j x y z ⟨w, hR, hS⟩ harr
    obtain ⟨k, hmid⟩ := h'.back hS harr
    exact h.back hR hmid

theorem of_set {s : CharSet} (h : p.instr? n = some (.set s)) :
    p.Relays n (n + 1) fun x y => ∃ c, s.contains c = true ∧ Place.Reads [c] x y where
  through harr := by
    obtain ⟨k', c, t, rfl, hahead, hc, harr'⟩ := (arrives_set_iff h).mp harr
    exact ⟨_, k', Nat.le_succ _, ⟨c, hc, t, hahead, rfl⟩, harr'⟩
  back := by
    rintro j x y z ⟨c, hc, t, hahead, rfl⟩ harr
    exact ⟨j + 1, (arrives_set_iff h).mpr ⟨j, c, t, rfl, hahead, hc, harr⟩⟩

theorem of_look {l : Look} (h : p.instr? n = some (.look l)) :
    p.Relays n (n + 1) fun x y => l.holds x.before x.ahead.head? = true ∧ x = y where
  through harr := by
    obtain ⟨k', rfl, hl, harr'⟩ := (arrives_look_iff h).mp harr
    exact ⟨_, k', Nat.le_succ _, ⟨hl, rfl⟩, harr'⟩
  back := by
    rintro j x y z ⟨hl, rfl⟩ harr
    exact ⟨j + 1, (arrives_look_iff h).mpr ⟨j, rfl, hl, harr⟩⟩

theorem of_jump (h : p.instr? n = some (.jump m)) : p.Relays n m Eq where
  through harr := by
    obtain ⟨k', rfl, harr'⟩ := (arrives_jump_iff h).mp harr
    exact ⟨_, k', Nat.le_succ _, rfl, harr'⟩
  back := by
    rintro j x y z rfl harr
    exact ⟨j + 1, .jump h harr⟩

/-- Two ways between the same ends, and a choice in front of them. -/
theorem of_loop {greedy : Bool} (h : p.instr? n = some (.loop greedy i j)) (hi : p.Relays i m R)
    (hj : p.Relays j m S) : p.Relays n m fun x y => R x y ∨ S x y where
  through harr := by
    obtain ⟨k', rfl, harr' | harr'⟩ := (arrives_loop_iff h).mp harr
    · obtain ⟨y, l, hl, hR, hend⟩ := hi.through harr'
      exact ⟨y, l, Nat.le_succ_of_le hl, Or.inl hR, hend⟩
    · obtain ⟨y, l, hl, hS, hend⟩ := hj.through harr'
      exact ⟨y, l, Nat.le_succ_of_le hl, Or.inr hS, hend⟩
  back := by
    rintro l x y z (hR | hS) harr
    · obtain ⟨k, hback⟩ := hi.back hR harr
      exact ⟨k + 1, (arrives_loop_iff h).mpr ⟨k, rfl, Or.inl hback⟩⟩
    · obtain ⟨k, hback⟩ := hj.back hS harr
      exact ⟨k + 1, (arrives_loop_iff h).mpr ⟨k, rfl, Or.inr hback⟩⟩

/-- A loop behind a stretch leads back to its start or on: the stretch is run once or more. -/
theorem plus {greedy : Bool} {e : Nat} (h : p.Relays n e R)
    (hloop : p.instr? e = some (.loop greedy n m)) :
    p.Relays n m fun x y => ∃ k, 1 ≤ k ∧ Row R k x y where
  through := by
    intro k
    induction k using Nat.strongRecOn with
    | ind k ih =>
        intro x z harr
        obtain ⟨y, j, hj, hR, hend⟩ := h.through harr
        obtain ⟨j', rfl, hagain | hexit⟩ := (arrives_loop_iff hloop).mp hend
        · obtain ⟨y', l, hl, ⟨r, -, hrow⟩, hout⟩ := ih j' (by omega) hagain
          exact ⟨y', l, by omega, ⟨r + 1, by omega, y, hR, hrow⟩, hout⟩
        · exact ⟨y, j', by omega, ⟨1, Nat.le_refl 1, y, hR, rfl⟩, hexit⟩
  back := by
    rintro j x y z ⟨k, hk, hrow⟩ harr
    obtain ⟨k, rfl⟩ : ∃ k', k = k' + 1 := ⟨k - 1, by omega⟩
    induction k generalizing x with
    | zero =>
        obtain ⟨y', hR, rfl⟩ := hrow
        exact h.back hR ((arrives_loop_iff hloop).mpr ⟨j, rfl, Or.inr harr⟩)
    | succ k ih =>
        obtain ⟨y', hR, hrow⟩ := hrow
        obtain ⟨l, hagain⟩ := ih (Nat.le_add_left 1 k) hrow
        exact h.back hR ((arrives_loop_iff hloop).mpr ⟨l, rfl, Or.inl hagain⟩)

/-- A loop in front of a stretch that comes back to it: the stretch is run any number of times. -/
theorem star {greedy : Bool} {e : Nat} (hloop : p.instr? n = some (.loop greedy i m))
    (h : p.Relays i e R) (hjump : p.instr? e = some (.jump n)) :
    p.Relays n m fun x y => ∃ k, Row R k x y where
  through := by
    intro k
    induction k using Nat.strongRecOn with
    | ind k ih =>
        intro x z harr
        obtain ⟨k', rfl, hinto | hexit⟩ := (arrives_loop_iff hloop).mp harr
        · obtain ⟨y, j, hj, hR, hend⟩ := h.through hinto
          obtain ⟨j', rfl, hagain⟩ := (arrives_jump_iff hjump).mp hend
          obtain ⟨y', l, hl, ⟨r, hrow⟩, hout⟩ := ih j' (by omega) hagain
          exact ⟨y', l, by omega, ⟨r + 1, y, hR, hrow⟩, hout⟩
        · exact ⟨x, k', Nat.le_succ _, ⟨0, rfl⟩, hexit⟩
  back := by
    rintro j x y z ⟨k, hrow⟩ harr
    induction k generalizing x with
    | zero =>
        obtain rfl := hrow
        exact ⟨j + 1, (arrives_loop_iff hloop).mpr ⟨j, rfl, Or.inr harr⟩⟩
    | succ k ih =>
        obtain ⟨y', hR, hrow⟩ := hrow
        obtain ⟨l, hagain⟩ := ih hrow
        obtain ⟨l', hinto⟩ := h.back hR (.jump hjump hagain)
        exact ⟨l' + 1, (arrives_loop_iff hloop).mpr ⟨l', rfl, Or.inl hinto⟩⟩

end Relays

/-! ## Stretches of a program -/

/-- The program has the instructions from a number on. -/
def Holds (p : Program) : Nat → List Instr → Prop
  | _, [] => True
  | n, i :: is => p.instr? n = some i ∧ Holds p (n + 1) is

theorem holds_append {is js : List Instr} :
    p.Holds n (is ++ js) ↔ p.Holds n is ∧ p.Holds (n + is.length) js := by
  induction is generalizing n with
  | nil => simp [Holds]
  | cons i is ih =>
      simp only [List.cons_append, Holds, ih, List.length_cons, and_assoc]
      rw [Nat.add_assoc, Nat.add_comm 1]

theorem holds_of_instrs_eq (is : List Instr) {js : List Instr}
    (h : p.instrs = (is ++ js).toArray) : p.Holds is.length js := by
  induction js generalizing is with
  | nil => trivial
  | cons j js ih =>
      refine ⟨?_, ?_⟩
      · simp [instr?, h]
      · have hrest := ih (is ++ [j]) (by rw [h]; simp)
        rwa [List.length_append] at hrest

end Program

/-! ## Instructions of expressions -/

namespace Expr

variable {count size : Nat} {block : Nat → List Instr}

theorem copies_zero (n : Nat) : copies 0 size block n = [] := rfl

theorem copies_succ (n : Nat) :
    copies (count + 1) size block n = block n ++ copies count size block (n + size) := by
  have hshift (i : Nat) : n + (i + 1) * size = n + size + i * size := by
    rw [Nat.add_mul, Nat.one_mul, Nat.add_comm (i * size), Nat.add_assoc]
  simp [copies, List.range_succ_eq_map, List.flatMap_map, hshift]

theorem copies_concat (n : Nat) :
    copies (count + 1) size block n = copies count size block n ++ block (n + count * size) := by
  simp [copies, List.range_succ]

theorem length_copies (hblock : ∀ m, (block m).length = size) (n : Nat) :
    (copies count size block n).length = count * size := by
  induction count generalizing n with
  | zero => rw [copies_zero, List.length_nil, Nat.zero_mul]
  | succ count ih =>
      rw [copies_succ, List.length_append, hblock, ih, Nat.add_mul, Nat.one_mul, Nat.add_comm]

/-- The size of an expression is the number of its instructions. -/
theorem length_code (a : Expr) : ∀ n, (a.code n).length = a.size := by
  induction a with
  | empty => exact fun _ => rfl
  | set narrow s => exact fun _ => rfl
  | word t => exact fun _ => List.length_map ..
  | look l => exact fun _ => rfl
  | group i a ih => exact ih
  | seq a b iha ihb =>
      intro n
      rw [code, List.length_append, iha, ihb, size]
  | alt a b iha ihb =>
      intro n
      simp only [code, List.cons_append, List.length_cons, List.length_append, iha, ihb, size]
      omega
  | times greedy least most a ih =>
      intro n
      cases most with
      | none =>
          cases least with
          | zero => simp [code, ih, size]
          | succ least => simp [code, size, length_copies ih]
      | some most =>
          have hoption (e m : Nat) : (Instr.loop greedy (m + 1) e :: a.code (m + 1)).length =
              a.size + 1 := by rw [List.length_cons, ih]
          simp [code, size, optionals, length_copies ih, length_copies (hoption _)]

end Expr

namespace Program

variable {p : Program} {n e count size : Nat} {block : Nat → List Instr}
  {R : Place → Place → Prop}

/-- Copies in a row relay so many pieces in a row. -/
theorem Relays.copies (hblock : ∀ m, (block m).length = size)
    (h : ∀ m, p.Holds m (block m) → p.Relays m (m + size) R)
    (hold : p.Holds n (Expr.copies count size block n)) :
    p.Relays n (n + count * size) (Row R count) := by
  induction count generalizing n with
  | zero =>
      rw [Nat.zero_mul, Nat.add_zero]
      exact .refl p n
  | succ count ih =>
      rw [Expr.copies_succ, holds_append, hblock] at hold
      have hend : n + (count + 1) * size = n + size + count * size := by
        rw [Nat.add_mul, Nat.one_mul, Nat.add_comm (count * size), Nat.add_assoc]
      rw [hend]
      exact (h n hold.1).trans (ih hold.2)

/-- Copies each of which may be the first that is left out relay at most so many pieces. -/
theorem Relays.optionals {greedy : Bool} (hblock : ∀ m, (block m).length = size)
    (h : ∀ m, p.Holds m (block m) → p.Relays m (m + size) R)
    (hold : p.Holds n (Expr.copies count (size + 1)
      (fun m => .loop greedy (m + 1) e :: block (m + 1)) n))
    (he : e = n + count * (size + 1)) :
    p.Relays n e fun x y => ∃ k, k ≤ count ∧ Row R k x y := by
  induction count generalizing n with
  | zero =>
      obtain rfl : e = n := by omega
      refine (Relays.refl p e).congr fun x y => ⟨fun hxy => ⟨0, Nat.le_refl 0, hxy⟩, ?_⟩
      rintro ⟨k, hk, hrow⟩
      obtain rfl := Nat.le_zero.mp hk
      exact hrow
  | succ count ih =>
      rw [Expr.copies_succ, List.cons_append, Holds, holds_append, hblock] at hold
      obtain ⟨hloop, hone, hmore⟩ := hold
      have hend : e = n + (size + 1) + count * (size + 1) := by rw [he, Nat.add_mul]; omega
      have hnext : n + 1 + size = n + (size + 1) := by omega
      have hinto := (h (n + 1) hone).trans (hnext ▸ ih (hnext ▸ hmore) hend)
      refine (Relays.of_loop hloop hinto (.refl p e)).congr fun x y => ?_
      constructor
      · rintro (⟨z, hR, k, hk, hrow⟩ | hxy)
        · exact ⟨k + 1, Nat.succ_le_succ hk, z, hR, hrow⟩
        · exact ⟨0, Nat.zero_le _, hxy⟩
      · rintro ⟨k, hk, hrow⟩
        cases k with
        | zero => exact Or.inr hrow
        | succ k =>
            obtain ⟨z, hR, hrow⟩ := hrow
            exact Or.inl ⟨z, hR, k, Nat.le_of_succ_le_succ hk, hrow⟩

end Program

namespace Expr

variable {p : Program} {n : Nat}

/-- The instructions of a word relay the word. -/
theorem relays_word : ∀ (t : Text) {n : Nat}, p.Holds n ((word t).code n) →
    p.Relays n (n + t.length) (Place.Reads t)
  | [], n, _ => .refl p n
  | c :: t, n, h => by
      rw [List.length_cons, Nat.add_comm t.length, ← Nat.add_assoc]
      refine ((Program.Relays.of_set h.1).trans (relays_word t h.2)).congr fun x y => ?_
      rw [← List.singleton_append, Place.reads_append]
      simp only [CharSet.contains_single]
      constructor
      · rintro ⟨z, ⟨d, rfl, hd⟩, ht⟩
        exact ⟨z, hd, ht⟩
      · rintro ⟨z, hc, ht⟩
        exact ⟨z, ⟨c, rfl, hc⟩, ht⟩

/-- A repetition without a greatest number relays any number of pieces from the least on. -/
theorem relays_times_none {greedy : Bool} {least : Nat} {a : Expr}
    (ih : ∀ n, p.Holds n (a.code n) → p.Relays n (n + a.size) a.Matches)
    (h : p.Holds n ((times greedy least none a).code n)) :
    p.Relays n (n + (times greedy least none a).size)
      fun x y => ∃ k, least ≤ k ∧ Row a.Matches k x y := by
  cases least with
  | zero =>
      rw [code, List.cons_append, Program.Holds, Program.holds_append, length_code] at h
      obtain ⟨hloop, hbody, hback, -⟩ := h
      have hexit : n + (times greedy 0 none a).size = n + a.size + 2 := by
        rw [size, Nat.add_assoc]
      rw [hexit]
      split at hback
      · refine (Program.Relays.star hloop (ih _ hbody) hback).congr fun x y => ?_
        simp only [Nat.zero_le, true_and]
      · refine (Program.Relays.of_loop hloop ((ih _ hbody).plus hback) (.refl p _)).congr
          fun x y => ?_
        constructor
        · rintro (⟨k, -, hrow⟩ | hxy)
          · exact ⟨k, Nat.zero_le k, hrow⟩
          · exact ⟨0, Nat.le_refl 0, hxy⟩
        · rintro ⟨k, -, hrow⟩
          cases k with
          | zero => exact Or.inr hrow
          | succ k => exact Or.inl ⟨k + 1, Nat.le_add_left 1 k, hrow⟩
  | succ least =>
      rw [code, copies_concat, List.append_assoc, Program.holds_append, Program.holds_append,
        length_copies (length_code a), length_code] at h
      obtain ⟨hfirst, hlast, hloop, -⟩ := h
      have hexit : n + (times greedy (least + 1) none a).size =
          n + (least + 1) * a.size + 1 := rfl
      rw [hexit]
      refine ((Program.Relays.copies (length_code a) ih hfirst).trans
        ((ih _ hlast).plus hloop)).congr fun x y => ?_
      constructor
      · rintro ⟨z, hrow, k, hk, hmore⟩
        exact ⟨least + k, by omega, row_add.mpr ⟨z, hrow, hmore⟩⟩
      · rintro ⟨k, hk, hrow⟩
        obtain ⟨k, rfl⟩ : ∃ j, k = least + j := ⟨k - least, by omega⟩
        obtain ⟨z, hfirst, hmore⟩ := row_add.mp hrow
        exact ⟨z, hfirst, k, by omega, hmore⟩

/-- The instructions of an expression relay threads between the places that it relates. -/
theorem relays (a : Expr) : ∀ n, p.Holds n (a.code n) → p.Relays n (n + a.size) a.Matches := by
  induction a with
  | empty => exact fun n _ => .refl p n
  | set narrow s => exact fun n h => .of_set h.1
  | word t => exact fun n h => relays_word t h
  | look l => exact fun n h => .of_look h.1
  | group i a ih => exact ih
  | seq a b iha ihb =>
      intro n h
      rw [code, Program.holds_append, length_code] at h
      rw [size, ← Nat.add_assoc]
      exact (iha n h.1).trans (ihb _ h.2)
  | alt a b iha ihb =>
      intro n h
      rw [code, List.cons_append, Program.Holds, Program.holds_append, length_code] at h
      obtain ⟨hfork, ha, hjump, hb⟩ := h
      have hloop : p.instr? n = some (.loop true (n + 1) (n + a.size + 2)) := hfork
      have hnext : n + 1 + a.size + 1 = n + a.size + 2 := by omega
      have hend : n + a.size + 2 + b.size = n + (a.size + b.size + 2) := by omega
      have hexit : n + a.size + b.size + 2 = n + (a.size + b.size + 2) := by omega
      rw [hexit] at hjump
      rw [hnext] at hb
      have hleft := (iha _ ha).trans (Program.Relays.of_jump hjump)
      refine (Program.Relays.of_loop hloop hleft (hend ▸ ihb _ hb)).congr fun x y => ?_
      simp only [exists_eq_right, Matches]
  | times greedy least most a ih =>
      intro n h
      cases most with
      | none => exact (relays_times_none ih h).congr fun x y => by simp [Matches]
      | some most =>
          rw [code, Program.holds_append, length_copies (length_code a)] at h
          have hend : n + (times greedy least (some most) a).size =
              n + least * a.size + (most - least) * (a.size + 1) := by
            rw [size, Nat.add_assoc]
          rw [hend]
          refine ((Program.Relays.copies (length_code a) ih h.1).trans
            (Program.Relays.optionals (length_code a) ih h.2 rfl)).congr fun x y => ?_
          simp only [Matches, Option.mem_def, Option.some.injEq, forall_eq']
          constructor
          · rintro ⟨z, hrow, k, hk, hmore⟩
            exact ⟨least + k, by omega, by omega, row_add.mpr ⟨z, hrow, hmore⟩⟩
          · rintro ⟨k, hleast, hmost, hrow⟩
            obtain ⟨k, rfl⟩ : ∃ j, k = least + j := ⟨k - least, by omega⟩
            obtain ⟨z, hfirst, hmore⟩ := row_add.mp hrow
            exact ⟨z, hfirst, k, by omega, hmore⟩

/-- The threads of the program of an expression arrive just where the expression matches. -/
theorem arrives_program_iff {a : Expr} {x z : Place} :
    (∃ k, a.program.Arrives k 0 x z) ↔ a.Matches x z := by
  have hold : a.program.Holds 0 (a.code 0 ++ [Instr.done]) :=
    Program.holds_of_instrs_eq [] rfl
  rw [Program.holds_append, length_code, Nat.zero_add] at hold
  have hrelays := a.relays 0 hold.1
  rw [Nat.zero_add] at hrelays
  constructor
  · rintro ⟨k, harr⟩
    obtain ⟨y, j, -, hmatch, hend⟩ := hrelays.through harr
    obtain ⟨-, rfl⟩ := (Program.arrives_done_iff hold.2.1).mp hend
    exact hmatch
  · intro hmatch
    exact hrelays.back hmatch (.done hold.2.1)

end Expr

end Descent.Regex
