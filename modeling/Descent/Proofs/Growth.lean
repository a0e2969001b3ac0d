import Descent.Proofs.Reach
import Descent.Session

/-!
# Growing rule books

A rule is defined once.  So a rule book only *grows*: what is defined keeps its definition, and
every step of a session leads to a book that its book grows to (`Session.step_growsTo`), whether the
step succeeds or fails.  `Session.Leads` relates a session to all that any steps lead to.

A parser that is closed in a book, one from which no rule without a definition is reached, reaches
the same parsers in all later books (`GrowsTo.reaches_iff`).
-/

namespace Descent

variable {M : Type}

/-! ## Rule books -/

namespace RuleBook

/-- The second book is the first with more definitions. -/
structure GrowsTo (b b' : RuleBook M) : Prop where
  keeps : ∀ {r d}, b.definition? r = some d → b'.definition? r = some d
  length_le : b.definitions.length ≤ b'.definitions.length

variable {b b' b'' : RuleBook M}

namespace GrowsTo

theorem refl (b : RuleBook M) : b.GrowsTo b := ⟨id, Nat.le_refl _⟩

theorem trans (h : b.GrowsTo b') (h' : b'.GrowsTo b'') : b.GrowsTo b'' :=
  ⟨fun hd => h'.keeps (h.keeps hd), Nat.le_trans h.length_le h'.length_le⟩

/-- The fuel of a parse counts the definitions, so a later parse of the same text has as much at
least. -/
theorem parseFuel_le (h : b.GrowsTo b') (t : Text) : b.parseFuel t ≤ b'.parseFuel t :=
  Nat.mul_le_mul_left _ (Nat.succ_le_succ h.length_le)

/-- Definitions are kept, so a path along them is kept as well. -/
theorem reaches (h : b.GrowsTo b') {p q : Parser M} (hq : b.Reaches p q) : b'.Reaches p q := by
  induction hq with
  | refl => exact .refl p
  | tail _ huse ih =>
      cases huse with
      | part hpart => exact ih.trans (.of_part hpart)
      | definition hd => exact ih.trans (.of_definition (h.keeps hd))

/-- A closed parser reaches in a later book what it reaches now. -/
theorem reaches_iff (h : b.GrowsTo b') {p q : Parser M} (closed : b.Closed p) :
    b'.Reaches p q ↔ b.Reaches p q := by
  constructor
  · intro hq
    induction hq with
    | refl => exact .refl p
    | tail _ huse ih =>
        cases huse with
        | part hpart => exact ih.trans (.of_part hpart)
        | definition hd' =>
            obtain ⟨d, hd⟩ := closed _ ih
            cases (h.keeps hd).symm.trans hd'
            exact ih.trans (.of_definition hd)
  · exact h.reaches

/-- No later step can take away a definition that a closed parser needs. -/
theorem closed (h : b.GrowsTo b') {p : Parser M} (hp : b.Closed p) : b'.Closed p := by
  intro r hr
  obtain ⟨d, hd⟩ := hp r ((h.reaches_iff hp).mp hr)
  exact ⟨d, h.keeps hd⟩

end GrowsTo

theorem definition?_cons (n : Nat) (r s : Rule) (d : Parser M) (ds : List (Rule × Parser M)) :
    (⟨n, (r, d) :: ds⟩ : RuleBook M).definition? s =
      if r = s then some d else (⟨n, ds⟩ : RuleBook M).definition? s := by
  by_cases h : r = s
  · simp [definition?, h]
  · simp [definition?, h]

theorem declare_growsTo (b : RuleBook M) (name : Text) : b.GrowsTo (b.declare name).2 :=
  ⟨id, Nat.le_refl _⟩

/-- Defining a rule keeps the definitions there are, since the rule had none. -/
theorem define_growsTo {handle d : Parser M} (h : b.define handle d = .ok b') : b.GrowsTo b' := by
  unfold define at h
  split at h
  next => cases h
  next r _ =>
    split at h
    next => cases h
    next hnone =>
      cases h
      refine ⟨fun {s e} hs => ?_, Nat.le_succ _⟩
      rw [definition?_cons, if_neg]
      · exact hs
      · rintro rfl
        rw [hnone] at hs
        cases hs

end RuleBook

/-! ## Sessions -/

namespace Session

variable {s s' : Session M}

theorem withKept_growsTo {α : Type} {id : Text} {kept : Option α} {k : α → Reply M}
    (h : ∀ a, s.book.GrowsTo (k a).session.book) :
    s.book.GrowsTo (s.withKept id kept k).session.book := by
  unfold withKept
  split
  · exact h _
  · exact .refl _

theorem withBuilt_growsTo {recipe : Recipe M} {k : Parser M → Reply M}
    (h : ∀ p, s.book.GrowsTo (k p).session.book) :
    s.book.GrowsTo (s.withBuilt recipe k).session.book := by
  unfold withBuilt
  split
  · exact h _
  · exact .refl _

theorem define_growsTo (level : Log.Level) (handle d : Parser M) :
    s.book.GrowsTo (s.define level handle d).session.book := by
  unfold define
  split
  next => exact .refl _
  next h => exact RuleBook.define_growsTo h

theorem sealAs_growsTo (level : Log.Level) (p : Parser M) (target : Text) :
    s.book.GrowsTo (s.sealAs level p target).session.book := by
  unfold sealAs
  split
  · exact .refl _
  · exact .refl _

/-- Every step leads to a book that the book grows to. -/
theorem step_growsTo (s : Session M) (level : Log.Level) :
    ∀ st : Step M, s.book.GrowsTo (s.step level st).session.book
  | .build _ _ => withBuilt_growsTo fun _ => .refl _
  | .declare _ name => RuleBook.declare_growsTo s.book name
  | .define _ _ => withBuilt_growsTo fun d => withKept_growsTo fun p => define_growsTo level p d
  | .info _ => withKept_growsTo fun _ => .refl _
  | .seal _ target => withKept_growsTo fun p => sealAs_growsTo level p target
  | .unseal _ _ => withKept_growsTo fun _ => .refl _
  | .parse _ _ => withKept_growsTo fun _ => .refl _
  | .parseGrammar _ _ => withKept_growsTo fun _ => .refl _
  | .setCursor _ => .refl _
  | .next _ => by
      refine withKept_growsTo fun p => ?_
      simp only
      split
      · exact .refl _
      · exact .refl _

/-- The session after steps. -/
def after (s : Session M) (level : Log.Level) (sts : List (Step M)) : Session M :=
  sts.foldl (fun s st => (s.step level st).session) s

/-- Steps, at any levels of the log, lead from the first session to the second. -/
inductive Leads : Session M → Session M → Prop where
  | refl (s : Session M) : Leads s s
  | step {s s' : Session M} (level : Log.Level) (st : Step M) :
      Leads s s' → Leads s (s'.step level st).session

namespace Leads

theorem after (h : s.Leads s') (level : Log.Level) (sts : List (Step M)) :
    s.Leads (s'.after level sts) := by
  induction sts generalizing s' with
  | nil => exact h
  | cons st sts ih => exact ih (h.step level st)

/-- However many steps lie between two sessions, the later book has all definitions of the earlier.
-/
theorem growsTo (h : s.Leads s') : s.book.GrowsTo s'.book := by
  induction h with
  | refl => exact .refl _
  | step level st _ ih => exact ih.trans (step_growsTo _ level st)

end Leads

end Session

end Descent
