import Descent.Proofs.Pieces
import Mathlib.Logic.Relation

/-!
# Where threads wait

Between two characters a thread *slips* from instruction to instruction until it waits to read a
character or has found a match.  `settle` runs threads up to there and looks at each instruction
once.  Whatever the instruction, a round drops it or puts those that it slips to in front of the
others (`settle_of_seen`, `settle_of_unseen`), and the rest of this module reasons by these rounds
alone.

The number of rounds is bounded by the number of pending threads and twice the number of
instructions that have not been seen, so fuel beyond that changes nothing (`settle_eq_of_fuel`).
The threads that are found are just those that the pending ones slip to (`mem_waiting_iff`).  A
thread that comes to `done` therefore waits first, and then reads a character or has arrived
(`exists_arrives_iff`).
-/

namespace Descent.Regex.Program

variable {p : Program} {before after : Option Char} {n m : Nat} {pending found threads : List Nat}
  {seen : Array Bool}

/-! ## Rounds -/

/-- The instructions that a thread goes on to without reading, best first. -/
def slips (p : Program) (before after : Option Char) (n : Nat) : List Nat :=
  match p.instr? n with
  | some (.look l) => if l.holds before after then [n + 1] else []
  | some (.fork i j) => [i, j]
  | some (.jump i) => [i]
  | _ => []

/-- Whether a thread reads or is done where it stands. -/
def waits (p : Program) (n : Nat) : Bool :=
  match p.instr? n with
  | some (.set _) | some .done => true
  | _ => false

theorem settle_nil (fuel : Nat) : p.settle before after fuel [] seen found = found.reverse := by
  cases fuel <;> rfl

theorem settle_of_seen {fuel : Nat} (h : seen.getD n true = true) :
    p.settle before after (fuel + 1) (n :: pending) seen found =
      p.settle before after fuel pending seen found := by
  rw [settle, if_pos h]

theorem settle_of_unseen {fuel : Nat} (h : seen.getD n true = false) :
    p.settle before after (fuel + 1) (n :: pending) seen found =
      p.settle before after fuel (p.slips before after n ++ pending) (seen.setIfInBounds n true)
        (if p.waits n then n :: found else found) := by
  rw [settle, if_neg (by simp [h]), slips, waits]
  cases p.instr? n with
  | none => rfl
  | some i =>
      cases i with
      | look l =>
          dsimp only
          split
          · rfl
          · rfl
      | _ => rfl

/-- Where threads slip alike they are found alike. -/
theorem waiting_congr {before' after' : Option Char}
    (h : ∀ n, p.slips before after n = p.slips before' after' n) (threads : List Nat) :
    p.waiting before after threads = p.waiting before' after' threads := by
  have settled : ∀ (fuel : Nat) (pending : List Nat) (seen : Array Bool) (found : List Nat),
      p.settle before after fuel pending seen found =
        p.settle before' after' fuel pending seen found := by
    intro fuel
    induction fuel with
    | zero => exact fun _ _ _ => rfl
    | succ fuel ih =>
        intro pending seen found
        cases pending with
        | nil => rfl
        | cons n pending =>
            cases hn : seen.getD n true with
            | true =>
                rw [settle_of_seen hn, settle_of_seen hn]
                exact ih _ _ _
            | false =>
                rw [settle_of_unseen hn, settle_of_unseen hn, h n]
                exact ih _ _ _
  exact settled _ _ _ _

/-! ## Fuel -/

/-- The number of instructions that no thread has been at. -/
def unseen (seen : Array Bool) : Nat := seen.toList.count false

theorem unseen_setIfInBounds (h : seen.getD n true = false) :
    unseen (seen.setIfInBounds n true) + 1 = unseen seen := by
  obtain ⟨hn, hfalse⟩ : ∃ hn : n < seen.toList.length, seen.toList[n] = false := by
    by_cases hn : n < seen.size
    · exact ⟨hn, by simpa [Array.getD, hn] using h⟩
    · simp [Array.getD, hn] at h
  have hpos : 0 < seen.toList.count false :=
    List.count_pos_iff.mpr (hfalse ▸ List.getElem_mem hn)
  rw [unseen, unseen, Array.toList_setIfInBounds, List.count_set hn, hfalse]
  simp only [beq_self_eq_true, if_true, beq_iff_eq, Bool.true_eq_false, if_false]
  omega

theorem getD_setIfInBounds (h : seen.getD n true = false) :
    (seen.setIfInBounds n true).getD m true = true ↔ m = n ∨ seen.getD m true = true := by
  have hn : n < seen.size := Nat.lt_of_not_le fun hn => by
    simp [Array.getD, Nat.not_lt.mpr hn] at h
  by_cases hm : m < seen.size
  · by_cases hmn : n = m
    · simp [Array.getD, hm, hmn]
    · simp [Array.getD, hm, hmn, Ne.symm hmn]
  · simp [Array.getD, hm]

theorem length_slips_le (p : Program) (before after : Option Char) (n : Nat) :
    (p.slips before after n).length ≤ 2 := by
  rw [slips]
  split
  · split <;> simp
  · simp
  · simp
  · simp

/-- A round takes one from twice the instructions not seen and the threads pending. -/
theorem settle_eq_of_fuel : ∀ {fuel fuel' : Nat} {pending : List Nat} {seen : Array Bool}
    {found : List Nat}, pending.length + 2 * unseen seen ≤ fuel →
      pending.length + 2 * unseen seen ≤ fuel' →
        p.settle before after fuel pending seen found =
          p.settle before after fuel' pending seen found := by
  intro fuel
  induction fuel with
  | zero =>
      intro fuel' pending seen found h _
      obtain rfl : pending = [] := List.length_eq_zero_iff.mp (by omega)
      rw [settle_nil, settle_nil]
  | succ fuel ih =>
      intro fuel' pending seen found h h'
      cases pending with
      | nil => rw [settle_nil, settle_nil]
      | cons n pending =>
          rw [List.length_cons] at h h'
          obtain ⟨fuel', rfl⟩ : ∃ k, fuel' = k + 1 := ⟨fuel' - 1, by omega⟩
          cases hn : seen.getD n true with
          | true =>
              rw [settle_of_seen hn, settle_of_seen hn]
              exact ih (by omega) (by omega)
          | false =>
              have hmark := unseen_setIfInBounds hn
              have hslips := p.length_slips_le before after n
              rw [settle_of_unseen hn, settle_of_unseen hn]
              exact ih (by rw [List.length_append]; omega) (by rw [List.length_append]; omega)

/-! ## What is found -/

/-- The thread slips on from one instruction to the other and waits there. -/
def Settles (p : Program) (before after : Option Char) (n m : Nat) : Prop :=
  Relation.ReflTransGen (fun i j => j ∈ p.slips before after i) n m ∧ p.waits m = true

/-- What has been seen leads only to what has been seen or is pending, and is found if it waits. -/
def Covered (p : Program) (before after : Option Char) (pending : List Nat) (seen : Array Bool)
    (found : List Nat) : Prop :=
  ∀ n, seen.getD n true = true →
    (∀ m ∈ p.slips before after n, seen.getD m true = true ∨ m ∈ pending) ∧
      (p.waits n = true → n ∈ found)

theorem mem_of_mem_settle : ∀ {fuel : Nat} {pending : List Nat} {seen : Array Bool}
    {found : List Nat}, m ∈ p.settle before after fuel pending seen found →
      m ∈ found ∨ ∃ n ∈ pending, p.Settles before after n m := by
  intro fuel
  induction fuel with
  | zero => exact fun h => Or.inl (List.mem_reverse.mp h)
  | succ fuel ih =>
      intro pending seen found h
      cases pending with
      | nil => exact Or.inl (List.mem_reverse.mp h)
      | cons n pending =>
          cases hn : seen.getD n true with
          | true =>
              rw [settle_of_seen hn] at h
              exact (ih h).imp_right fun ⟨i, hi, hs⟩ => ⟨i, List.mem_cons_of_mem n hi, hs⟩
          | false =>
              rw [settle_of_unseen hn] at h
              rcases ih h with hfound | ⟨i, hi, hs⟩
              · split at hfound
                next hwait =>
                  rcases List.mem_cons.mp hfound with rfl | hfound
                  · exact Or.inr ⟨m, List.mem_cons_self, .refl, hwait⟩
                  · exact Or.inl hfound
                next => exact Or.inl hfound
              · rcases List.mem_append.mp hi with hslip | hi
                · exact Or.inr ⟨n, List.mem_cons_self, hs.1.head hslip, hs.2⟩
                · exact Or.inr ⟨i, List.mem_cons_of_mem n hi, hs⟩

/-- What has been seen is closed when nothing is pending any more. -/
theorem Covered.mem_of_settles (h : p.Covered before after [] seen found)
    (hs : p.Settles before after n m) (hn : seen.getD n true = true) : m ∈ found := by
  obtain ⟨hreach, hwait⟩ := hs
  have hm : seen.getD m true = true := by
    clear hwait
    induction hreach with
    | refl => exact hn
    | tail _ hslip ih => exact ((h _ ih).1 _ hslip).resolve_right List.not_mem_nil
  exact (h m hm).2 hwait

theorem Covered.skip (h : p.Covered before after (n :: pending) seen found)
    (hn : seen.getD n true = true) : p.Covered before after pending seen found := by
  intro i hi
  refine ⟨fun m hm => ?_, (h i hi).2⟩
  rcases (h i hi).1 m hm with hseen | hmem
  · exact Or.inl hseen
  · rcases List.mem_cons.mp hmem with rfl | hmem
    · exact Or.inl hn
    · exact Or.inr hmem

theorem Covered.mark (h : p.Covered before after (n :: pending) seen found)
    (hn : seen.getD n true = false) :
    p.Covered before after (p.slips before after n ++ pending) (seen.setIfInBounds n true)
      (if p.waits n then n :: found else found) := by
  intro i hi
  rcases (getD_setIfInBounds hn).mp hi with rfl | hi
  · refine ⟨fun m hm => Or.inr (List.mem_append_left _ hm), fun hwait => ?_⟩
    rw [if_pos hwait]
    exact List.mem_cons_self
  · constructor
    · intro m hm
      rcases (h i hi).1 m hm with hseen | hmem
      · exact Or.inl ((getD_setIfInBounds hn).mpr (Or.inr hseen))
      · rcases List.mem_cons.mp hmem with rfl | hmem
        · exact Or.inl ((getD_setIfInBounds hn).mpr (Or.inl rfl))
        · exact Or.inr (List.mem_append_right _ hmem)
    · intro hwait
      have hfound := (h i hi).2 hwait
      split
      · exact List.mem_cons_of_mem n hfound
      · exact hfound

theorem mem_settle : ∀ {fuel : Nat} {pending : List Nat} {seen : Array Bool} {found : List Nat},
    pending.length + 2 * unseen seen ≤ fuel → p.Covered before after pending seen found →
      (seen.getD n true = true ∨ n ∈ pending) → p.Settles before after n m →
        m ∈ p.settle before after fuel pending seen found := by
  intro fuel
  induction fuel with
  | zero =>
      intro pending seen found hfuel hcover hn hs
      obtain rfl : pending = [] := List.length_eq_zero_iff.mp (by omega)
      rw [settle_nil, List.mem_reverse]
      exact hcover.mem_of_settles hs (hn.resolve_right List.not_mem_nil)
  | succ fuel ih =>
      intro pending seen found hfuel hcover hn hs
      cases pending with
      | nil =>
          rw [settle_nil, List.mem_reverse]
          exact hcover.mem_of_settles hs (hn.resolve_right List.not_mem_nil)
      | cons i pending =>
          rw [List.length_cons] at hfuel
          cases hi : seen.getD i true with
          | true =>
              rw [settle_of_seen hi]
              refine ih (by omega) (hcover.skip hi) ?_ hs
              rcases hn with hn | hn
              · exact Or.inl hn
              · rcases List.mem_cons.mp hn with rfl | hn
                · exact Or.inl hi
                · exact Or.inr hn
          | false =>
              have hmark := unseen_setIfInBounds hi
              have hslips := p.length_slips_le before after i
              rw [settle_of_unseen hi]
              refine ih (by rw [List.length_append]; omega) (hcover.mark hi) ?_ hs
              rcases hn with hn | hn
              · exact Or.inl ((getD_setIfInBounds hi).mpr (Or.inr hn))
              · rcases List.mem_cons.mp hn with rfl | hn
                · exact Or.inl ((getD_setIfInBounds hi).mpr (Or.inl rfl))
                · exact Or.inr (List.mem_append_right _ hn)

theorem unseen_replicate (k : Nat) : unseen (Array.replicate k false) = k := by
  simp [unseen]

/-- Before anything has been seen only numbers without an instruction count as seen. -/
theorem covered_replicate (p : Program) (before after : Option Char) (pending : List Nat) :
    p.Covered before after pending (Array.replicate p.size false) [] := by
  intro n hn
  have hnone : p.instr? n = none := by
    rw [instr?, Array.getElem?_eq_none]
    refine Nat.le_of_not_lt fun hlt => ?_
    simp [Array.getD, size, hlt] at hn
  simp [slips, waits, hnone]

/-- The threads that wait are those that the threads given slip to. -/
theorem mem_waiting_iff :
    m ∈ p.waiting before after threads ↔ ∃ n ∈ threads, p.Settles before after n m := by
  rw [waiting]
  constructor
  · intro h
    exact (mem_of_mem_settle h).resolve_left List.not_mem_nil
  · rintro ⟨n, hn, hs⟩
    refine mem_settle ?_ (p.covered_replicate before after threads) (Or.inr hn) hs
    rw [unseen_replicate]
    omega

/-! ## Where threads arrive -/

variable {x z : Place} {k : Nat}

theorem Arrives.of_mem_slips (hm : m ∈ p.slips x.before x.ahead.head? n)
    (h : p.Arrives k m x z) : p.Arrives (k + 1) n x z := by
  rw [slips] at hm
  split at hm
  next l hl =>
    split at hm
    next hholds =>
      obtain rfl := List.mem_singleton.mp hm
      exact .look hl hholds h
    next => cases hm
  next i j hfork =>
    rcases List.mem_cons.mp hm with rfl | hm
    · exact .first hfork h
    · obtain rfl := List.mem_singleton.mp hm
      exact .second hfork h
  next i hjump =>
    obtain rfl := List.mem_singleton.mp hm
    exact .jump hjump h
  next => cases hm

/-- A thread that comes to `done` slips to an instruction from which it does, and waits there. -/
theorem Arrives.exists_settles (h : p.Arrives k n x z) :
    ∃ m j, p.Settles x.before x.ahead.head? n m ∧ p.Arrives j m x z := by
  induction h with
  | done hi => exact ⟨_, _, ⟨.refl, by rw [waits, hi]⟩, .done hi⟩
  | set hi hc harr _ => exact ⟨_, _, ⟨.refl, by rw [waits, hi]⟩, .set hi hc harr⟩
  | look hi hl _ ih =>
      obtain ⟨m, j, hs, harr⟩ := ih
      exact ⟨m, j, ⟨hs.1.head (by simp [slips, hi, hl]), hs.2⟩, harr⟩
  | first hi _ ih =>
      obtain ⟨m, j, hs, harr⟩ := ih
      exact ⟨m, j, ⟨hs.1.head (by simp [slips, hi]), hs.2⟩, harr⟩
  | second hi _ ih =>
      obtain ⟨m, j, hs, harr⟩ := ih
      exact ⟨m, j, ⟨hs.1.head (by simp [slips, hi]), hs.2⟩, harr⟩
  | jump hi _ ih =>
      obtain ⟨m, j, hs, harr⟩ := ih
      exact ⟨m, j, ⟨hs.1.head (by simp [slips, hi]), hs.2⟩, harr⟩

/-- A thread arrives just where one of those arrives that it slips to and that wait. -/
theorem exists_arrives_iff : (∃ k, p.Arrives k n x z) ↔
    ∃ m ∈ p.waiting x.before x.ahead.head? [n], ∃ k, p.Arrives k m x z := by
  constructor
  · rintro ⟨k, h⟩
    obtain ⟨m, j, hs, harr⟩ := h.exists_settles
    exact ⟨m, mem_waiting_iff.mpr ⟨n, List.mem_singleton_self n, hs⟩, j, harr⟩
  · rintro ⟨m, hm, k, h⟩
    obtain ⟨i, hi, hreach, -⟩ := mem_waiting_iff.mp hm
    obtain rfl := List.mem_singleton.mp hi
    clear hm hi
    induction hreach using Relation.ReflTransGen.head_induction_on with
    | refl => exact ⟨k, h⟩
    | head hslip _ ih =>
        obtain ⟨j, harr⟩ := ih
        exact ⟨j + 1, harr.of_mem_slips hslip⟩

end Descent.Regex.Program
