import StructuralLint.Proofs.Report.Gate

/-!
# The report as a ranking

A report is the ranking of the keys that were found: they stand in the order of file, line, column
and rule, each with the first issue that has it, and a cap cuts the end off. The order of keys and
the keys themselves have the same four components, so no two issues of a report tie
(`Gate.Key.place_injective`), and what comes first among the issues of one key is settled before
they are ranked. Where issues with equal keys are equal, there is no first among them, and only the
set of issues counts.
-/

namespace StructuralLint.Gate

/-- The numbers of the characters of a text. -/
def codePoints (text : String) : List Nat := text.toList.map Char.toNat

/-- The rank of an issue: file, line, column and rule, with texts as the numbers of their
characters. -/
def standing (issue : Issue) : List Nat ×ₗ Int ×ₗ Int ×ₗ List Nat :=
  toLex (codePoints issue.filePath,
    toLex (issue.line, toLex (issue.column, codePoints issue.ruleKey)))

/-- Issues with equal keys say the same. -/
def Consistent (issues : List Issue) : Prop :=
  ∀ a ∈ issues, ∀ b ∈ issues, key a = key b → a.message = b.message

variable {issues other : List Issue} {issue : Issue} {chosen : Key}

/-! ### Characters -/

theorem char_lt_iff (a b : Char) : a.toNat < b.toNat ↔ a < b :=
  (Char.lt_def.trans UInt32.lt_iff_toNat_lt).symm

theorem map_toNat_lt_iff (a b : List Char) : a.map Char.toNat < b.map Char.toNat ↔ a < b := by
  induction a generalizing b with
  | nil => cases b <;> simp
  | cons first rest ih =>
      cases b with
      | nil => simp
      | cons first' rest' =>
          rw [List.map_cons, List.map_cons, List.cons_lt_cons_iff, List.cons_lt_cons_iff,
            char_lt_iff, Char.toNat_inj, ih]

theorem codePoints_lt_iff (a b : String) : codePoints a < codePoints b ↔ a < b := by
  rw [codePoints, codePoints, map_toNat_lt_iff, String.lt_iff_toList_lt]

theorem codePoints_injective : Function.Injective codePoints := fun _ _ same =>
  String.toList_injective (List.map_injective_iff.mpr (fun _ _ => Char.toNat_inj.mp) same)

/-- Texts may be compared as they are. -/
theorem standing_lt_iff (a b : Issue) : standing a < standing b ↔ place a < place b := by
  simp only [standing, place, Key.place, key, Prod.Lex.toLex_lt_toLex, codePoints_lt_iff,
    codePoints_injective.eq_iff]

/-! ### Keys -/

/-- Without a cap the keys are those that were found. -/
theorem mem_keys_gate_none_iff : chosen ∈ (gate issues none).map key ↔ chosen ∈ issues.map key := by
  rw [← isSome_first?_iff, ← isSome_first?_iff, first?_gate_none]

/-- An issue is known by its key and its message. -/
theorem eq_of_key {a b : Issue} (same : key a = key b) (alike : a.message = b.message) : a = b := by
  obtain ⟨rule, file, line, column, message⟩ := a
  obtain ⟨rule', file', line', column', message'⟩ := b
  simp only [key, Key.mk.injEq] at same
  obtain ⟨rfl, rfl, rfl, rfl⟩ := same
  exact congrArg _ alike

/-- Where issues with equal keys say the same, the first of a key is the one there is. -/
theorem Consistent.first?_eq_some_iff (consistent : Consistent issues) :
    first? issues chosen = some issue ↔ issue ∈ issues ∧ key issue = chosen := by
  constructor
  · intro found
    exact ⟨mem_of_first? found, key_of_first? found⟩
  · rintro ⟨member, rfl⟩
    obtain ⟨found, first⟩ := Option.isSome_iff_exists.mp
      (isSome_first?_iff.mpr (List.mem_map_of_mem member))
    have same := key_of_first? first
    rw [first, eq_of_key same (consistent _ (mem_of_first? first) _ member same)]

theorem Consistent.of_mem_iff (consistent : Consistent issues)
    (same : ∀ issue, issue ∈ issues ↔ issue ∈ other) : Consistent other :=
  fun a memberA b memberB => consistent a ((same a).mpr memberA) b ((same b).mpr memberB)

/-- Consistent issues are reported by which they are. -/
theorem Consistent.gate_none_eq (consistent : Consistent issues)
    (same : ∀ issue, issue ∈ issues ↔ issue ∈ other) :
    StructuralLint.gate issues none = StructuralLint.gate other none := by
  refine Gate.gate_none_eq fun chosen => Option.ext fun issue => ?_
  rw [consistent.first?_eq_some_iff, (consistent.of_mem_iff same).first?_eq_some_iff, same]

/-! ### Caps -/

/-- A cap that is not negative takes as many issues as it says. -/
theorem gate_eq_take {limit : Option Int} (natural : ∀ n ∈ limit, 0 ≤ n) :
    gate issues limit = (gate issues none).take
      (limit.elim (gate issues none).length Int.toNat) := by
  obtain ⟨cap, rfl⟩ := exists_cap natural
  cases cap with
  | none => exact List.take_length.symm
  | some n =>
      rw [Option.map_some, Int.ofNat_eq_natCast, gate_some, Option.elim_some, Int.toNat_natCast]

end Gate

/-- **A report ranks the keys that were found.** With no cap, or a cap that is not negative, the
issues of a report stand in the strict order of file, line, column and rule. Without a cap the keys
are those of the issues found, each with the first issue that has it. A cap keeps as many issues
from the start as it says, so that a larger one appends to what a smaller one keeps. Where issues
with equal keys say the same, neither the order of the issues found nor their repetition counts. -/
theorem gate_ranks {limit : Option Int} (natural : ∀ n ∈ limit, 0 ≤ n) (issues : List Issue) :
    (gate issues limit).Pairwise (Gate.standing · < Gate.standing ·) ∧
      (∀ chosen, chosen ∈ (gate issues none).map Gate.key ↔ chosen ∈ issues.map Gate.key) ∧
      (∀ issue ∈ gate issues none,
        issues.find? (Gate.key · = Gate.key issue) = some issue) ∧
      (∀ n ∈ limit, gate issues limit = (gate issues none).take n.toNat) ∧
      (∀ n ∈ limit, ∀ larger, n ≤ larger → gate issues limit <+: gate issues (some larger)) ∧
      gate issues limit <+: gate issues none ∧
      (Gate.Consistent issues → ∀ other, (∀ issue, issue ∈ issues ↔ issue ∈ other) →
        gate issues limit = gate other limit) := by
  refine ⟨?_, fun _ => Gate.mem_keys_gate_none_iff, fun _ => Gate.mem_gate_none_iff.mp, ?_, ?_, ?_,
    ?_⟩
  · obtain ⟨cap, rfl⟩ := Gate.exists_cap natural
    exact Gate.increasing_gate.imp (Gate.standing_lt_iff _ _).mpr
  · rintro n rfl
    exact Gate.gate_eq_take natural
  · rintro n rfl larger le
    have natural' : ∀ m ∈ some larger, 0 ≤ m := by
      rintro m ⟨⟩
      exact (natural n rfl).trans le
    rw [Gate.gate_eq_take natural, Gate.gate_eq_take natural']
    exact List.take_prefix_take_left (Int.toNat_le_toNat le)
  · rw [Gate.gate_eq_take natural]
    exact List.take_prefix _ _
  · intro consistent other same
    rw [Gate.gate_eq_take natural, @Gate.gate_eq_take other _ natural, consistent.gate_none_eq same]

/-- Findings of two rules in two files, out of order, one of them twice. -/
def scatteredIssues : List Issue :=
  [⟨"rule", "b.py", 3, 0, "found"⟩, ⟨"rule", "a.py", 9, 4, "late"⟩, ⟨"other", "b.py", 3, 0, "also"⟩,
    ⟨"rule", "b.py", 3, 0, "found"⟩]

/-- Two of the three findings are kept, whichever way round they come. -/
theorem gate_ranks_scatteredIssues :
    (∀ n ∈ some (2 : Int), 0 ≤ n) ∧
      gate scatteredIssues (some 2) = gate scatteredIssues.reverse (some 2) ∧
      gate scatteredIssues (some 2) = (gate scatteredIssues none).take 2 ∧
      gate scatteredIssues (some 2) =
        [⟨"rule", "a.py", 9, 4, "late"⟩, ⟨"other", "b.py", 3, 0, "also"⟩] := by
  have natural : ∀ n ∈ some (2 : Int), 0 ≤ n := by decide
  have consistent : Gate.Consistent scatteredIssues := by
    unfold Gate.Consistent
    decide
  obtain ⟨-, -, -, taken, -, -, same⟩ := gate_ranks natural scatteredIssues
  exact ⟨natural, same consistent _ fun _ => List.mem_reverse.symm, taken 2 rfl, by cbv⟩

end StructuralLint
