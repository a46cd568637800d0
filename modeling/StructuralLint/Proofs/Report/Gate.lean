import Mathlib
import StructuralLint.Report.Gate

/-!
# What the gate lets through

The gate keeps the first issue of every key (`Gate.first?`), in the order of their places, up to the
cap: an issue is reported if it is the first of its key and fewer keys than the cap stand before its
place (`Gate.mem_gate_iff`). So two lists of issues are reported alike if they agree on the keys
that come before the cap is reached, and lists that agree stay in agreement when others are joined
to them (`Gate.Agree.append`). In particular parts may pass the gate before they are joined
(`gate_append`).
-/

namespace StructuralLint.Gate

/-- Places in a report: file, line, column and rule, the first counting most. -/
abbrev Place := String ×ₗ Int ×ₗ Int ×ₗ String

/-- The place of a key. -/
def Key.place (key : Key) : Place :=
  toLex (key.filePath, toLex (key.line, toLex (key.column, key.ruleKey)))

/-- The place of an issue. -/
def place (issue : Issue) : Place := (key issue).place

/-- The first issue with a key. -/
def first? (issues : List Issue) (chosen : Key) : Option Issue := issues.find? (key · = chosen)

/-- The keys of issues with a place before the given one. -/
def keysBefore (issues : List Issue) (limit : Place) : Finset Key :=
  (issues.map key).toFinset.filter (·.place < limit)

/-- How many keys stand before a place. -/
def ahead (issues : List Issue) (limit : Place) : Nat := (keysBefore issues limit).card

/-- A count stays below a cap. -/
def Below (cap : Option Nat) (count : Nat) : Prop := ∀ n ∈ cap, count < n

variable {issues other issues' other' : List Issue} {issue : Issue} {chosen : Key} {limit : Place}
  {cap : Option Nat}

theorem Below.mono {less count : Nat} (below : Below cap count) (le : less ≤ count) :
    Below cap less :=
  fun n member => le.trans_lt (below n member)

/-! ### Places -/

theorem Key.place_injective : Function.Injective Key.place := by
  rintro ⟨rule, file, line, column⟩ ⟨rule', file', line', column'⟩ same
  simp only [Key.place, toLex_inj, Prod.mk.injEq] at same
  obtain ⟨rfl, rfl, rfl, rfl⟩ := same
  rfl

theorem precedes_iff (a b : Issue) : precedes a b = true ↔ place a ≤ place b := by
  simp only [place, key, Key.place, Prod.Lex.toLex_le_toLex]
  rw [precedes]
  split
  · rename_i other
    simp [other]
  · rename_i sameFile
    split
    · rename_i other
      simp [not_ne_iff.mp sameFile, other]
    · rename_i sameLine
      split
      · rename_i other
        simp [not_ne_iff.mp sameFile, not_ne_iff.mp sameLine, other]
      · rename_i sameColumn
        rw [Bool.not_eq_true', decide_eq_false_iff_not, not_lt]
        simp [not_ne_iff.mp sameFile, not_ne_iff.mp sameLine, not_ne_iff.mp sameColumn]

/-! ### First issues -/

theorem key_of_first? (found : first? issues chosen = some issue) : key issue = chosen := by
  have passes := List.find?_some found
  exact of_decide_eq_true passes

theorem mem_of_first? (found : first? issues chosen = some issue) : issue ∈ issues :=
  List.mem_of_find?_eq_some found

theorem isSome_first?_iff : (first? issues chosen).isSome = true ↔ chosen ∈ issues.map key := by
  rw [first?, List.find?_isSome, List.mem_map]
  simp only [decide_eq_true_eq]

theorem first?_append : first? (issues ++ other) chosen =
    (first? issues chosen).or (first? other chosen) :=
  List.find?_append

theorem first?_cons : first? (issue :: issues) chosen =
    if key issue = chosen then some issue else first? issues chosen := by
  rw [first?, List.find?_cons]
  by_cases same : key issue = chosen <;> simp [same, first?]

theorem first?_filter (kept : Key → Bool) :
    first? (issues.filter fun issue => kept (key issue)) chosen =
      if kept chosen then first? issues chosen else none := by
  rw [first?, List.find?_filter, first?]
  split
  · rename_i keeps
    refine congrArg (issues.find? ·) (funext fun issue => ?_)
    by_cases same : key issue = chosen <;> simp [same, keeps]
  · rename_i drops
    refine List.find?_eq_none.mpr fun issue _ passes => drops ?_
    obtain ⟨keeps, same⟩ := of_decide_eq_true passes
    exact of_decide_eq_true same ▸ keeps

/-! ### Issues that belong to a source -/

/-- Where every key belongs to one source, the first issue with a key comes from the source of the
key. -/
theorem first?_flatMap {α : Type} [DecidableEq α] {items : List α} {found : α → List Issue}
    (owner : Key → α) (own : ∀ a ∈ items, ∀ issue ∈ found a, owner (key issue) = a) :
    first? (items.flatMap found) chosen =
      if owner chosen ∈ items then first? (found (owner chosen)) chosen else none := by
  induction items with
  | nil => rfl
  | cons a rest ih =>
      rw [List.flatMap_cons, first?_append,
        ih fun other member => own other (List.mem_cons_of_mem _ member)]
      by_cases same : owner chosen = a
      · rw [same, if_pos List.mem_cons_self]
        by_cases again : a ∈ rest
        · rw [if_pos again, Option.or_self]
        · rw [if_neg again, Option.or_none]
      · have none : first? (found a) chosen = none := by
          refine Option.eq_none_iff_forall_ne_some.mpr fun issue first => same ?_
          rw [← key_of_first? first]
          exact own a List.mem_cons_self issue (mem_of_first? first)
        rw [none, Option.none_or]
        simp [same]

/-- The issues of certain sources may be selected before the sources are asked. -/
theorem filter_flatMap {α : Type} {items : List α} {found : α → List Issue}
    (owner : Key → α) (own : ∀ a ∈ items, ∀ issue ∈ found a, owner (key issue) = a)
    (kept : α → Bool) :
    (items.flatMap found).filter (fun issue => kept (owner (key issue))) =
      (items.filter kept).flatMap found := by
  induction items with
  | nil => rfl
  | cons a rest ih =>
      have each : (found a).filter (fun issue => kept (owner (key issue))) =
          (found a).filter fun _ => kept a :=
        List.filter_congr fun issue member => by rw [own a List.mem_cons_self issue member]
      rw [List.flatMap_cons, List.filter_append, each,
        ih fun other member => own other (List.mem_cons_of_mem _ member), List.filter_cons]
      by_cases keeps : kept a = true
      · simp [keeps]
      · simp [keeps]

theorem mem_dedupFrom_iff (seen : List Key) : issue ∈ dedupFrom seen issues ↔
    key issue ∉ seen ∧ first? issues (key issue) = some issue := by
  induction issues generalizing seen with
  | nil => simp [dedupFrom, first?]
  | cons head rest ih =>
      rw [dedupFrom, first?_cons]
      by_cases known : head = issue
      · subst known
        by_cases old : key head ∈ seen <;> simp [old, ih]
      · by_cases same : key head = key issue
        · by_cases old : key issue ∈ seen <;> simp [old, same, ih, known, Ne.symm known]
        · by_cases old : key head ∈ seen <;> simp [old, same, ih, Ne.symm known, Ne.symm same]

theorem dedupFrom_distinct (seen : List Key) :
    (dedupFrom seen issues).Pairwise (key · ≠ key ·) := by
  induction issues generalizing seen with
  | nil => exact .nil
  | cons head rest ih =>
      rw [dedupFrom]
      split
      · exact ih seen
      · refine List.pairwise_cons.mpr ⟨fun issue member same => ?_, ih _⟩
        exact ((mem_dedupFrom_iff _).mp member).1 (by simp [same])

/-! ### Issues in order -/

/-- Issues in the order of their places, no two at one place. -/
abbrev Increasing (issues : List Issue) : Prop := issues.Pairwise (place · < place ·)

/-- Issues in order are known by which they are. -/
theorem Increasing.eq (increasing : Increasing issues) (increasing' : Increasing issues')
    (same : ∀ issue, issue ∈ issues ↔ issue ∈ issues') : issues = issues' :=
  haveI : Std.Irrefl fun a b : Issue => place a < place b := ⟨fun _ => lt_irrefl _⟩
  haveI : Std.Antisymm fun a b : Issue => place a < place b :=
    ⟨fun _ _ less more => absurd (less.trans more) (lt_irrefl _)⟩
  List.Pairwise.eq_of_mem_iff increasing increasing' same

theorem Increasing.nodup_keys (increasing : Increasing issues) : (issues.map key).Nodup :=
  List.pairwise_map.mpr <| increasing.imp fun less same =>
    absurd (congrArg Key.place same) less.ne

theorem Increasing.first?_eq (increasing : Increasing issues) (member : issue ∈ issues) :
    first? issues (key issue) = some issue := by
  obtain ⟨found, first⟩ := Option.isSome_iff_exists.mp
    (isSome_first?_iff.mpr (List.mem_map_of_mem member))
  rw [first, List.inj_on_of_nodup_map increasing.nodup_keys (mem_of_first? first) member
    (key_of_first? first)]

/-- The first issues in order are those with few issues before them. -/
theorem Increasing.mem_take_iff (increasing : Increasing issues) (member : issue ∈ issues)
    (n : Nat) : issue ∈ issues.take n ↔ issues.countP (place · < place issue) < n := by
  induction issues generalizing n with
  | nil => cases member
  | cons head rest ih =>
      obtain ⟨before, increasing⟩ := List.pairwise_cons.mp increasing
      cases n with
      | zero => simp
      | succ n =>
          rw [List.take_succ_cons, List.mem_cons, List.countP_cons]
          rcases List.mem_cons.mp member with rfl | later
          · have none : rest.countP (place · < place issue) = 0 :=
              List.countP_eq_zero.mpr fun other among => by simpa using (before other among).le
            simp [none]
          · have earlier := before issue later
            have other : issue ≠ head := fun same => lt_irrefl _ (same ▸ earlier)
            rw [or_iff_right other, ih increasing later, if_pos (by simpa using earlier),
              Nat.add_lt_add_iff_right]

/-- Before a place, the first issues in order are as many as there are, up to their number. -/
theorem Increasing.countP_take (increasing : Increasing issues) (n : Nat) :
    (issues.take n).countP (place · < limit) = min n (issues.countP (place · < limit)) := by
  induction issues generalizing n with
  | nil => simp
  | cons head rest ih =>
      obtain ⟨before, increasing⟩ := List.pairwise_cons.mp increasing
      cases n with
      | zero => simp
      | succ n =>
          rw [List.take_succ_cons, List.countP_cons, List.countP_cons, ih increasing]
          by_cases early : place head < limit
          · rw [if_pos (by simpa using early), Nat.add_min_add_right]
          · have none : rest.countP (place · < limit) = 0 :=
              List.countP_eq_zero.mpr fun other among => by
                simpa using (not_lt.mp early).trans (before other among).le
            simp [none, early]

/-! ### Keys before a place -/

theorem mem_keysBefore_iff : chosen ∈ keysBefore issues limit ↔
    (first? issues chosen).isSome = true ∧ chosen.place < limit := by
  rw [keysBefore, Finset.mem_filter, List.mem_toFinset, isSome_first?_iff]

theorem keysBefore_append :
    keysBefore (issues ++ other) limit = keysBefore issues limit ∪ keysBefore other limit := by
  ext chosen
  simp only [Finset.mem_union, mem_keysBefore_iff, first?_append, Option.isSome_or, Bool.or_eq_true]
  tauto

theorem ahead_mono {less : Place} (le : less ≤ limit) : ahead issues less ≤ ahead issues limit :=
  Finset.card_le_card fun _ member =>
    mem_keysBefore_iff.mpr ⟨(mem_keysBefore_iff.mp member).1,
      (mem_keysBefore_iff.mp member).2.trans_le le⟩

/-- Issues in order have as many keys before a place as there are issues. -/
theorem Increasing.ahead_eq (increasing : Increasing issues) :
    ahead issues limit = issues.countP (place · < limit) := by
  have known : keysBefore issues limit = ((issues.filter (place · < limit)).map key).toFinset := by
    ext chosen
    simp only [keysBefore, Finset.mem_filter, List.mem_toFinset, List.mem_map, List.mem_filter,
      decide_eq_true_eq]
    constructor
    · rintro ⟨⟨issue, member, rfl⟩, before⟩
      exact ⟨issue, ⟨member, before⟩, rfl⟩
    · rintro ⟨issue, ⟨member, before⟩, rfl⟩
      exact ⟨⟨issue, member, rfl⟩, before⟩
  rw [ahead, known, List.countP_eq_length_filter,
    List.toFinset_card_of_nodup (increasing.nodup_keys.sublist (List.filter_sublist.map _)),
    List.length_map]

/-! ### The gate -/

theorem increasing_gate_none : Increasing (gate issues none) := by
  have ordered : (rank (dedup issues)).Pairwise (place · ≤ place ·) := by
    have sorted := @List.pairwise_mergeSort _ precedes
      (fun a b c first second => (precedes_iff a c).mpr
        (((precedes_iff a b).mp first).trans ((precedes_iff b c).mp second)))
      (fun a b => by
        rw [Bool.or_eq_true, precedes_iff, precedes_iff]
        exact le_total _ _)
      (dedup issues)
    exact sorted.imp (precedes_iff _ _).mp
  have distinct : (rank (dedup issues)).Pairwise (key · ≠ key ·) :=
    (List.mergeSort_perm _ _).symm.pairwise (dedupFrom_distinct []) Ne.symm
  exact ordered.imp₂ (fun _ _ le other => lt_of_le_of_ne le fun same =>
    other (Key.place_injective same)) distinct

theorem mem_gate_none_iff : issue ∈ gate issues none ↔ first? issues (key issue) = some issue := by
  change issue ∈ rank (dedup issues) ↔ _
  rw [rank, List.mem_mergeSort, dedup, mem_dedupFrom_iff, and_iff_right List.not_mem_nil]

theorem gate_some (n : Nat) : gate issues (some n) = (gate issues none).take n := by
  simp only [gate, Gate.cap]
  rw [if_neg (by omega), Int.toNat_natCast]

theorem gate_sublist : (gate issues (cap.map Int.ofNat)).Sublist (gate issues none) := by
  cases cap with
  | none => exact .refl _
  | some n =>
      rw [Option.map_some, Int.ofNat_eq_natCast, gate_some]
      exact List.take_sublist _ _

theorem increasing_gate : Increasing (gate issues (cap.map Int.ofNat)) :=
  increasing_gate_none.sublist gate_sublist

/-- Without a cap no key is lost. -/
theorem first?_gate_none : first? (gate issues none) chosen = first? issues chosen := by
  cases found : first? issues chosen with
  | none =>
      refine Option.eq_none_iff_forall_ne_some.mpr fun issue first => ?_
      have passed := mem_gate_none_iff.mp (mem_of_first? first)
      rw [key_of_first? first, found] at passed
      cases passed
  | some issue =>
      have same := key_of_first? found
      subst same
      exact increasing_gate_none.first?_eq (mem_gate_none_iff.mpr found)

/-- A report depends on the first issues alone. -/
theorem gate_none_eq (same : ∀ chosen, first? issues chosen = first? issues' chosen) :
    gate issues none = gate issues' none := by
  refine increasing_gate_none.eq increasing_gate_none fun issue => ?_
  rw [mem_gate_none_iff, mem_gate_none_iff, same]

/-- Where every key belongs to one source, it makes no difference in which order the sources come
and whether they come again. -/
theorem gate_flatMap_congr {α : Type} [DecidableEq α] {items items' : List α}
    {found : α → List Issue} (owner : Key → α)
    (own : ∀ a ∈ items, ∀ issue ∈ found a, owner (key issue) = a)
    (same : ∀ a, a ∈ items ↔ a ∈ items') :
    StructuralLint.gate (items.flatMap found) none =
      StructuralLint.gate (items'.flatMap found) none := by
  refine gate_none_eq fun chosen => ?_
  rw [first?_flatMap owner own,
    first?_flatMap owner fun a member => own a ((same a).mpr member)]
  simp only [same]

/-- Issues in order pass as they are. -/
theorem Increasing.gate_none_eq (increasing : Increasing issues) :
    StructuralLint.gate issues none = issues := by
  refine increasing_gate_none.eq increasing fun issue => ?_
  rw [mem_gate_none_iff]
  exact ⟨mem_of_first?, increasing.first?_eq⟩

/-- The issues with certain keys may be selected before they pass the gate. -/
theorem filter_gate_none (kept : Key → Bool) :
    (gate issues none).filter (fun issue => kept (key issue)) =
      gate (issues.filter fun issue => kept (key issue)) none := by
  refine Increasing.eq (increasing_gate_none.filter _) increasing_gate_none fun issue => ?_
  rw [List.mem_filter, mem_gate_none_iff, mem_gate_none_iff, first?_filter]
  cases kept (key issue) <;> simp

theorem keysBefore_gate_none : keysBefore (gate issues none) limit = keysBefore issues limit := by
  ext chosen
  rw [mem_keysBefore_iff, mem_keysBefore_iff, first?_gate_none]

theorem ahead_eq_countP : ahead issues limit = (gate issues none).countP (place · < limit) := by
  rw [← increasing_gate_none.ahead_eq, ahead, ahead, keysBefore_gate_none]

/-- **What is reported.** An issue passes the gate if it is the first of its key and the keys before
its place do not fill the cap. -/
theorem mem_gate_iff : issue ∈ gate issues (cap.map Int.ofNat) ↔
    first? issues (key issue) = some issue ∧ Below cap (ahead issues (place issue)) := by
  cases cap with
  | none => simp [Below, mem_gate_none_iff]
  | some n =>
      rw [Option.map_some, Int.ofNat_eq_natCast, gate_some, ← mem_gate_none_iff]
      simp only [Below, Option.mem_some_iff, forall_eq']
      constructor
      · intro taken
        have member := List.mem_of_mem_take taken
        rw [ahead_eq_countP]
        exact ⟨member, (increasing_gate_none.mem_take_iff member n).mp taken⟩
      · rintro ⟨member, few⟩
        rw [ahead_eq_countP] at few
        exact (increasing_gate_none.mem_take_iff member n).mpr few

/-- The gate keeps the keys before a place as far as the cap goes. -/
theorem below_ahead_gate_iff :
    Below cap (ahead (gate issues (cap.map Int.ofNat)) limit) ↔ Below cap (ahead issues limit) := by
  rw [increasing_gate.ahead_eq, ahead_eq_countP]
  cases cap with
  | none => simp [Below]
  | some n =>
      rw [Option.map_some, Int.ofNat_eq_natCast, gate_some, increasing_gate_none.countP_take]
      simp [Below]

/-! ### Agreement -/

/-- Two lists of issues agree as far as a cap goes: the cap is reached at the same places, and
before it the same issues are the first of their keys. -/
structure Agree (cap : Option Nat) (issues issues' : List Issue) : Prop where
  below_iff : ∀ limit, Below cap (ahead issues limit) ↔ Below cap (ahead issues' limit)
  first?_eq : ∀ chosen : Key, Below cap (ahead issues chosen.place) →
    first? issues chosen = first? issues' chosen

namespace Agree

theorem symm (agree : Agree cap issues issues') : Agree cap issues' issues where
  below_iff limit := (agree.below_iff limit).symm
  first?_eq chosen below := (agree.first?_eq chosen ((agree.below_iff _).mpr below)).symm

theorem keysBefore_eq (agree : Agree cap issues issues') (below : Below cap (ahead issues limit)) :
    keysBefore issues limit = keysBefore issues' limit := by
  ext chosen
  rw [mem_keysBefore_iff, mem_keysBefore_iff]
  refine and_congr_left fun before => ?_
  rw [agree.first?_eq chosen (below.mono (ahead_mono before.le))]

/-- Lists that agree are reported alike. -/
theorem gate_eq (agree : Agree cap issues issues') :
    gate issues (cap.map Int.ofNat) = gate issues' (cap.map Int.ofNat) := by
  refine increasing_gate.eq increasing_gate fun issue => ?_
  rw [mem_gate_iff, mem_gate_iff, ← agree.below_iff]
  refine and_congr_left fun below => ?_
  rw [agree.first?_eq (key issue) below]

/-- A list agrees with what passes the gate. -/
theorem gate (cap : Option Nat) (issues : List Issue) :
    Agree cap issues (gate issues (cap.map Int.ofNat)) where
  below_iff _ := below_ahead_gate_iff.symm
  first?_eq chosen below := by
    cases found : first? issues chosen with
    | none =>
        refine (Option.eq_none_iff_forall_ne_some.mpr fun issue first => ?_).symm
        have passed := (mem_gate_iff.mp (mem_of_first? first)).1
        rw [key_of_first? first, found] at passed
        cases passed
    | some issue =>
        have same := key_of_first? found
        subst same
        exact (increasing_gate.first?_eq (mem_gate_iff.mpr ⟨found, below⟩)).symm

/-- Below the cap of the joined lists, those that agree may be put for each other. -/
theorem ahead_append_eq (left : Agree cap issues issues') (right : Agree cap other other')
    (below : Below cap (ahead (issues ++ other) limit)) :
    ahead (issues ++ other) limit = ahead (issues' ++ other') limit := by
  rw [ahead, keysBefore_append] at below
  have belowLeft := below.mono (Finset.card_le_card Finset.subset_union_left)
  have belowRight := below.mono (Finset.card_le_card Finset.subset_union_right)
  rw [ahead, ahead, keysBefore_append, keysBefore_append, left.keysBefore_eq belowLeft,
    right.keysBefore_eq belowRight]

/-- **Joining keeps agreement.** -/
theorem append (left : Agree cap issues issues') (right : Agree cap other other') :
    Agree cap (issues ++ other) (issues' ++ other') where
  below_iff limit :=
    ⟨fun below => left.ahead_append_eq right below ▸ below,
      fun below => left.symm.ahead_append_eq right.symm below ▸ below⟩
  first?_eq chosen below := by
    rw [ahead, keysBefore_append] at below
    rw [first?_append, first?_append,
      left.first?_eq chosen (below.mono (Finset.card_le_card Finset.subset_union_left)),
      right.first?_eq chosen (below.mono (Finset.card_le_card Finset.subset_union_right))]

end Agree

/-- A cap that is not negative is a natural number. -/
theorem exists_cap {limit : Option Int} (natural : ∀ n ∈ limit, 0 ≤ n) :
    ∃ cap : Option Nat, limit = cap.map Int.ofNat := by
  cases limit with
  | none => exact ⟨none, rfl⟩
  | some n => exact ⟨some n.toNat, by simp [Int.toNat_of_nonneg (natural n rfl)]⟩

end Gate

/-- **Parts may pass the gate before they are joined.** With no cap, or a cap that is not negative,
a report on two parts is the report on what is reported of each part. -/
theorem gate_append {limit : Option Int} (natural : ∀ n ∈ limit, 0 ≤ n) (a b : List Issue) :
    gate (a ++ b) limit = gate (gate a limit ++ gate b limit) limit := by
  obtain ⟨cap, rfl⟩ := Gate.exists_cap natural
  exact ((Gate.Agree.gate cap a).append (Gate.Agree.gate cap b)).gate_eq

/-- Two parts with one key in common. The second one says something else there. -/
def overlappingIssues : List Issue × List Issue :=
  ([⟨"rule", "b.py", 3, 0, "first"⟩, ⟨"rule", "c.py", 1, 0, "late"⟩],
    [⟨"rule", "b.py", 3, 0, "second"⟩, ⟨"rule", "a.py", 9, 4, "early"⟩])

/-- The cap drops the last place, and what the first part says of the common one is reported. -/
theorem gate_append_overlappingIssues :
    (∀ n ∈ some (2 : Int), 0 ≤ n) ∧
      gate (overlappingIssues.1 ++ overlappingIssues.2) (some 2) =
        gate (gate overlappingIssues.1 (some 2) ++ gate overlappingIssues.2 (some 2)) (some 2) ∧
      gate (overlappingIssues.1 ++ overlappingIssues.2) (some 2) =
        [⟨"rule", "a.py", 9, 4, "early"⟩, ⟨"rule", "b.py", 3, 0, "first"⟩] := by
  have natural : ∀ n ∈ some (2 : Int), 0 ≤ n := by decide
  exact ⟨natural, gate_append natural _ _, by cbv⟩

end StructuralLint
