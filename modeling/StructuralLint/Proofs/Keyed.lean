import Mathlib.Data.List.Nodup
import StructuralLint.Proofs.Lists

/-!
# Lists of keys with values

A list that holds several values under each key spreads to a list of single values with their keys.
Grouping the items of a list by their keys and spreading the groups again loses nothing.
-/

namespace StructuralLint.Lists

variable {κ β : Type}

/-- Every value with its key. -/
def spread (items : List (κ × List β)) : List (κ × β) :=
  items.flatMap fun item => item.2.map (item.1, ·)

@[simp]
theorem spread_nil : spread ([] : List (κ × List β)) = [] := rfl

@[simp]
theorem spread_cons (item : κ × List β) (items : List (κ × List β)) :
    spread (item :: items) = item.2.map (item.1, ·) ++ spread items := rfl

theorem mem_spread {items : List (κ × List β)} {key : κ} {value : β} :
    (key, value) ∈ spread items ↔ ∃ values, (key, values) ∈ items ∧ value ∈ values := by
  rw [spread, List.mem_flatMap]
  constructor
  · rintro ⟨⟨other, values⟩, member, among⟩
    obtain ⟨value', inside, same⟩ := List.mem_map.mp among
    cases same
    exact ⟨values, member, inside⟩
  · rintro ⟨values, member, inside⟩
    exact ⟨(key, values), member, List.mem_map_of_mem inside⟩

theorem spread_perm_of_values {items : List (κ × List β)} (arrange : List β → List β)
    (same : ∀ values, (arrange values).Perm values) :
    (spread (items.map fun item => (item.1, arrange item.2))).Perm (spread items) := by
  rw [spread, List.flatMap_map]
  exact List.Perm.flatMap_left _ fun item _ => (same item.2).map _

section Grouping

variable [DecidableEq κ]

theorem nodup_eraseDups : ∀ items : List κ, items.eraseDups.Nodup
  | [] => List.nodup_nil
  | head :: rest => by
    rw [List.eraseDups_cons, List.nodup_cons, List.mem_eraseDups]
    exact ⟨by simp, nodup_eraseDups _⟩
termination_by items => items.length
decreasing_by exact Nat.lt_succ_of_le (List.length_filter_le _ rest)

/-- Grouping loses nothing. -/
theorem spread_grouped_perm (items : List (κ × β)) :
    (spread ((items.map (·.1)).eraseDups.map fun key =>
      (key, (items.filter (·.1 = key)).map (·.2)))).Perm items := by
  have listed : ∀ item ∈ items, item.1 ∉ (items.map (·.1)).eraseDups → [item] = [] :=
    fun item member unlisted =>
      absurd (List.mem_eraseDups.mpr (List.mem_map_of_mem member)) unlisted
  have grouped := flatMap_perm_of_keys Prod.fst (fun item => [item])
    (nodup_eraseDups (items.map (·.1))) listed
  rw [List.flatMap_singleton'] at grouped
  refine List.Perm.trans (.of_eq ?_) grouped.symm
  rw [spread, List.flatMap_map]
  apply List.flatMap_congr
  intro key _
  rw [List.flatMap_singleton', List.map_map]
  refine (List.map_congr_left fun item member => ?_).trans (List.map_id _)
  have own : item.1 = key := of_decide_eq_true (List.mem_filter.mp member).2
  exact Prod.ext own.symm rfl

/-- The values under a key. -/
theorem filter_spread {items : List (κ × List β)} (apart : (items.map (·.1)).Nodup) {key : κ}
    {values : List β} (member : (key, values) ∈ items) :
    ((spread items).filter (·.1 = key)).map (·.2) = values := by
  induction items with
  | nil => cases member
  | cons head rest ih =>
      obtain ⟨other, own⟩ := head
      obtain ⟨new, apart⟩ := List.nodup_cons.mp apart
      rw [spread_cons, List.filter_append, List.map_append]
      rcases List.mem_cons.mp member with same | later
      · cases same
        have none : (spread rest).filter (·.1 = key) = [] := by
          apply List.filter_eq_nil_iff.mpr
          intro item among equal
          obtain ⟨values', listed, -⟩ :=
            mem_spread.mp (show (item.1, item.2) ∈ spread rest from among)
          have own : item.1 = key := of_decide_eq_true equal
          exact new (List.mem_map.mpr ⟨_, listed, own⟩)
        rw [none]
        simp [List.filter_map, Function.comp_def]
      · have unlike : other ≠ key := by
          rintro rfl
          exact new (List.mem_map.mpr ⟨_, later, rfl⟩)
        rw [ih apart later]
        simp [List.filter_map, Function.comp_def, unlike]

/-- The place of a key is found by looking through the numbered items. -/
theorem find?_zipIdx (items : List (κ × β)) (key : κ) :
    (items.zipIdx.find? fun item => item.1.1 = key).map (·.2) =
      (items.map (·.1)).findIdx? (· = key) := by
  rw [List.findIdx?_map, List.findIdx?_eq_fst_find?_zipIdx]
  rfl

theorem findIdx?_eq_some {keys : List κ} (apart : keys.Nodup) {key : κ} {place : Nat} :
    keys.findIdx? (· = key) = some place ↔ keys[place]? = some key := by
  rw [List.findIdx?_eq_some_iff_getElem]
  constructor
  · rintro ⟨inside, same, -⟩
    rw [List.getElem?_eq_getElem inside, of_decide_eq_true same]
  · intro found
    obtain ⟨inside, same⟩ := List.getElem?_eq_some_iff.mp found
    refine ⟨inside, decide_eq_true same, fun other less equal => ?_⟩
    have found' := List.getElem?_eq_getElem (Nat.lt_trans less inside)
    rw [of_decide_eq_true equal] at found'
    have twice := (List.getElem?_inj (Nat.lt_trans less inside) apart).mp (found'.trans found.symm)
    exact absurd twice (Nat.ne_of_lt less)

/-- If no key stands twice, the last pair with a key is the only one. -/
theorem find?_reverse_eq_some {pairs : List (κ × β)} (apart : (pairs.map (·.1)).Nodup) {key : κ}
    {value : β} :
    (pairs.reverse.find? fun pair => pair.1 = key).map (·.2) = some value ↔
      (key, value) ∈ pairs := by
  constructor
  · intro found
    obtain ⟨⟨key', value'⟩, first, rfl⟩ := Option.map_eq_some_iff.mp found
    have passes := List.find?_some first
    have same : key' = key := of_decide_eq_true passes
    exact same ▸ List.mem_reverse.mp (List.mem_of_find?_eq_some first)
  · intro member
    obtain ⟨pair, first⟩ := Option.isSome_iff_exists.mp
      (List.find?_isSome.mpr ⟨_, List.mem_reverse.mpr member, decide_eq_true rfl⟩ :
        (pairs.reverse.find? fun pair => pair.1 = key).isSome = true)
    have passes := List.find?_some first
    have same : pair.1 = key := of_decide_eq_true passes
    have only := List.inj_on_of_nodup_map apart
      (List.mem_reverse.mp (List.mem_of_find?_eq_some first)) member same
    rw [first, only]
    rfl

end Grouping

/-- What is chosen in one of two ways may be chosen in each way separately. -/
theorem filterMap_perm_append {α : Type} {choose first second : α → Option β}
    (either : ∀ item, choose item = first item ∧ second item = none ∨
      choose item = second item ∧ first item = none) (items : List α) :
    (items.filterMap choose).Perm (items.filterMap first ++ items.filterMap second) := by
  induction items with
  | nil => exact .refl _
  | cons item rest ih =>
      rcases either item with ⟨same, none⟩ | ⟨same, none⟩
      · rw [List.filterMap_cons_none none]
        cases found : first item with
        | none =>
            rw [List.filterMap_cons_none (same.trans found), List.filterMap_cons_none found]
            exact ih
        | some value =>
            rw [List.filterMap_cons_some (same.trans found), List.filterMap_cons_some found]
            exact ih.cons value
      · rw [List.filterMap_cons_none none]
        cases found : second item with
        | none =>
            rw [List.filterMap_cons_none (same.trans found), List.filterMap_cons_none found]
            exact ih
        | some value =>
            rw [List.filterMap_cons_some (same.trans found), List.filterMap_cons_some found]
            exact (ih.cons value).trans List.perm_middle.symm

end StructuralLint.Lists
