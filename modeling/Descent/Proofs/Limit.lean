import Descent.Proofs.Stability
import Descent.Proofs.Termination

/-!
# Runs with fuel enough

Where a rule comes to an end at a text, it comes to the same end with more fuel.  The *limit* of a
rule book runs every rule with fuel enough, as long as there is such an amount.  Under the limit a
rule is run by its definition, under the limit again (`limit_eq_call`), so nothing about fuel is
left in what is said about a grammar that finishes; and what `RuleBook.parse` makes of a text is
what the parser makes of it under the limit (`parse_eq_limit`).

That a grammar finishes is known where there is no left recursion.  The last section has what is
needed to see that there is none: a parser opens only with rules that it refers to, and a sequence
reads something if its first part does.
-/

namespace Descent

variable {M : Type}

namespace RuleBook

variable {b : RuleBook M} {p q : Parser M} {r : Rule} {t : Text} {n : Nat}

/-! ## The limit -/

open Classical in
/-- How rules are run with fuel enough.  A rule that does not finish with any fuel has no end. -/
noncomputable def limit (b : RuleBook M) (r : Rule) (t : Text) : Run M :=
  if h : ∃ n, (b.resolve n r t).Finished then b.resolve h.choose r t else .pure .unfinished

theorem resolve_eq_of_finished {n' : Nat} (h : (b.resolve n r t).Finished)
    (h' : (b.resolve n' r t).Finished) : b.resolve n r t = b.resolve n' r t := by
  have hrun : ((Parser.rule r).call (b.resolve n) t) = (Parser.rule r).call (b.resolve n') t :=
    Finishes.unique (b := b) ⟨h, n, rfl⟩ ⟨h', n', rfl⟩
  obtain ⟨hcall, houtcome⟩ := (Run.mk.injEq ..).mp hrun
  obtain ⟨-, -, hcalls, -⟩ := (Call.mk.injEq ..).mp (List.cons.inj hcall).1
  exact (Run.mk.injEq ..).mpr ⟨hcalls, houtcome⟩

theorem limit_eq_resolve (h : (b.resolve n r t).Finished) : b.limit r t = b.resolve n r t := by
  have hex : ∃ n, (b.resolve n r t).Finished := ⟨n, h⟩
  rw [limit, dif_pos hex]
  exact resolve_eq_of_finished hex.choose_spec h

theorem exists_finished_of_limit (h : (b.limit r t).Finished) :
    ∃ n, (b.resolve n r t).Finished := by
  by_contra hno
  rw [limit, dif_neg hno] at h
  exact h rfl

/-- A parser that finishes with some fuel does the same under the limit. -/
theorem body_limit (h : (p.body (b.resolve n) t).Finished) :
    p.body b.limit t = p.body (b.resolve n) t := by
  have settled : b.AllSettled b (p.toCall (b.resolve n) t) :=
    AllSettled.of_finished h fun _ _ _ _ => rfl
  exact settled.body_eq (fun r u hr => limit_eq_resolve hr.self.1) p t

/-- Under the limit a rule that finishes is run by its definition. -/
theorem limit_eq_call {d : Parser M} (hd : b.definition? r = some d)
    (h : (b.limit r t).Finished) : b.limit r t = d.call b.limit t := by
  obtain ⟨n, hn⟩ := exists_finished_of_limit h
  rw [limit_eq_resolve hn]
  cases n with
  | zero => exact absurd rfl hn
  | succ n =>
      have hcall : b.resolve (n + 1) r t = d.call (b.resolve n) t := by rw [resolve, hd]
      rw [hcall] at hn ⊢
      rw [Parser.call, Parser.call, body_limit hn]

theorem parse_eq_limit (h : b.parse p t ≠ .unfinished) :
    b.parse p t = (p.body b.limit t).outcome := by
  rw [body_limit (n := b.parseFuel t) h]
  rfl

/-- Without left recursion a rule is run by its definition at every text. -/
theorem limit_eq_call_of_acyclic {d : Parser M} (hd : b.definition? r = some d)
    (leaves : b.LeavesGiveBack (.rule r)) (acyclic : ¬b.LeftRecursive (.rule r)) (t : Text) :
    b.limit r t = d.call b.limit t := by
  have finished := resolve_parseFuel_finished leaves acyclic (.refl _) (Nat.le_refl (Text.size t))
  refine limit_eq_call hd ?_
  rwa [limit_eq_resolve finished]

/-! ## Grammars without left recursion -/

theorem OpensWith.mem_rules (h : b.OpensWith p r) : r ∈ p.rules := by
  induction h with
  | rule => exact List.mem_singleton.mpr rfl
  | seqLeft _ ih => exact Parser.mem_mergeRules.mpr (Or.inl ih)
  | seqRight _ _ ih => exact Parser.mem_mergeRules.mpr (Or.inr ih)
  | choiceLeft _ ih => exact Parser.mem_mergeRules.mpr (Or.inl ih)
  | choiceRight _ ih => exact Parser.mem_mergeRules.mpr (Or.inr ih)
  | map _ ih => exact ih
  | tryMap _ ih => exact ih
  | optional _ ih => exact ih
  | many _ ih => exact ih
  | sepBy _ ih => exact ih
  | named _ ih => exact ih

/-- A sequence reads something if its first part does and the second gives nothing back. -/
theorem Consumes.seq (leaves : b.LeavesGiveBack q) (hp : b.Consumes p) :
    b.Consumes (.seq p q) := by
  intro fuel t n hn
  obtain ⟨m, hm, hn⟩ := Run.onMatch_eq_matched_iff.mp hn
  obtain ⟨m', hm', hn⟩ := Run.onMatch_eq_matched_iff.mp hn
  cases hn
  exact Nat.lt_of_le_of_lt (call_leaves Trailing.size_le leaves (.refl q) fuel m.rest m' hm')
    (hp fuel t m hm)

/-- A choice reads something if both alternatives do. -/
theorem Consumes.choice (hp : b.Consumes p) (hq : b.Consumes q) : b.Consumes (.choice p q) := by
  intro fuel t n hn
  rcases Run.onMismatch_eq_matched_iff.mp hn with hn | ⟨-, -, -, hn⟩
  · exact hp fuel t n hn
  · rcases Run.onMismatch_eq_matched_iff.mp hn with hn | ⟨-, -, -, hn⟩
    · exact hq fuel t n hn
    · cases hn

/-- A parser without custom leaves, under rules without any, gives nothing back. -/
theorem LeavesGiveBack.of_parts (hp : ∀ s ∈ p.parts, ∀ x f, s ≠ .custom x f)
    (hb : ∀ e ∈ b.definitions, ∀ s ∈ e.2.parts, ∀ x f, s ≠ .custom x f) : b.LeavesGiveBack p :=
  fun x f h => absurd rfl (h.of_parts (P := fun s => ∀ x f, s ≠ .custom x f) hp hb x f)

end RuleBook

end Descent
