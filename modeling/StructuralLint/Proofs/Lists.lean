import Mathlib.Data.List.Forall2
import Mathlib.Data.List.Perm.Basic

/-!
# Lists item by item

What `List.Forall₂` says about members, how two lists that go together fall apart where one of them
does, how the items of a list are put together by a key, and what comes of a list of steps that may
fail.
-/

namespace StructuralLint.Lists

variable {α β : Type} {R : α → β → Prop} {left : List α} {right : List β}

theorem exists_left (paired : List.Forall₂ R left right) {b : β} (member : b ∈ right) :
    ∃ a ∈ left, R a b := by
  induction paired with
  | nil => simp at member
  | cons related _ ih =>
      rcases List.mem_cons.mp member with rfl | member
      · exact ⟨_, List.mem_cons_self, related⟩
      · obtain ⟨a, among, related⟩ := ih member
        exact ⟨a, List.mem_cons_of_mem _ among, related⟩

/-- What goes together with one item is one item. -/
theorem exists_singleton {a : α} (paired : List.Forall₂ R [a] right) :
    ∃ b, right = [b] ∧ R a b := by
  obtain ⟨b, others, related, none, rfl⟩ := List.forall₂_cons_left_iff.mp paired
  rw [List.forall₂_nil_left_iff.mp none]
  exact ⟨b, rfl, related⟩

theorem imp_of_mem {S : α → β → Prop} (paired : List.Forall₂ R left right)
    (step : ∀ a ∈ left, ∀ b ∈ right, R a b → S a b) : List.Forall₂ S left right := by
  induction paired with
  | nil => exact .nil
  | cons related _ ih =>
      refine .cons (step _ List.mem_cons_self _ List.mem_cons_self related) (ih ?_)
      intro a inLeft b inRight
      exact step a (List.mem_cons_of_mem _ inLeft) b (List.mem_cons_of_mem _ inRight)

theorem map_eq {γ : Type} {f : α → γ} {g : β → γ} (paired : List.Forall₂ R left right)
    (agree : ∀ a b, R a b → f a = g b) : left.map f = right.map g := by
  induction paired with
  | nil => rfl
  | cons related _ ih => rw [List.map_cons, List.map_cons, ih, agree _ _ related]

/-- Lists that go together with a third one go together with each other. -/
theorem compose {γ : Type} {S : α → γ → Prop} {T : β → γ → Prop} {other : List γ}
    (paired : List.Forall₂ R left right) (paired' : List.Forall₂ S left other)
    (step : ∀ a b c, R a b → S a c → T b c) : List.Forall₂ T right other := by
  induction paired generalizing other with
  | nil =>
      cases paired'
      exact .nil
  | cons related _ ih =>
      cases paired' with
      | cons related' rest => exact .cons (step _ _ _ related related') (ih rest)

/-- Tests that agree stop at the same place. -/
theorem takeWhile {test : α → Bool} {test' : β → Bool} (paired : List.Forall₂ R left right)
    (agree : ∀ a b, R a b → test a = test' b) :
    List.Forall₂ R (left.takeWhile test) (right.takeWhile test') := by
  induction paired with
  | nil => exact .nil
  | cons related _ ih =>
      rw [List.takeWhile_cons, List.takeWhile_cons, agree _ _ related]
      split
      · exact .cons related ih
      · exact .nil

/-- What is selected from the one goes together with what passes a test in the other. -/
theorem filterMap_filter {γ : Type} {S : γ → β → Prop} {select : α → Option γ} {test : β → Bool}
    (paired : List.Forall₂ R left right) (none : ∀ a b, R a b → select a = none → test b = false)
    (some : ∀ a b c, R a b → select a = some c → test b = true ∧ S c b) :
    List.Forall₂ S (left.filterMap select) (right.filter test) := by
  induction paired with
  | nil => exact .nil
  | @cons a b _ _ related _ ih =>
      cases selected : select a with
      | none =>
          rw [List.filterMap_cons_none selected, List.filter_cons_of_neg]
          · exact ih
          · rw [none a b related selected]
            exact Bool.false_ne_true
      | some c =>
          obtain ⟨passes, related'⟩ := some a b c related selected
          rw [List.filterMap_cons_some selected, List.filter_cons_of_pos passes]
          exact .cons related' ih

/-- Where a test of the one says what a test of the other says, the partners of those that pass
are those that pass. -/
theorem map_filter_zip {test : α → Bool} {test' : β → Bool}
    (paired : List.Forall₂ (fun a b => test' b = test a) left right) :
    ((left.zip right).filter (test ·.1)).map (·.2) = right.filter test' := by
  induction paired with
  | nil => rfl
  | @cons a b left right related _ ih =>
      rw [List.zip_cons_cons, List.filter_cons, List.filter_cons, related, ← ih]
      split <;> rfl

/-- Where items are selected by keys of their own, their partners are selected with them. -/
theorem filter_zip {κ : Type} (test : κ → Bool) (keys : List κ)
    (paired : List.Forall₂ R left right) :
    List.Forall₂ R (((keys.zip left).filter (test ·.1)).map (·.2))
      (((keys.zip right).filter (test ·.1)).map (·.2)) := by
  induction paired generalizing keys with
  | nil => simp
  | cons related _ ih =>
      cases keys with
      | nil => exact .nil
      | cons key keys =>
          rw [List.zip_cons_cons, List.zip_cons_cons, List.filter_cons, List.filter_cons]
          split
          · exact .cons related (ih keys)
          · exact ih keys

/-- The partners of two lists that stand after each other stand after each other. -/
theorem append_zip (first second : List α) (partners : List β) :
    (first ++ second).zip partners =
      first.zip (partners.take first.length) ++ second.zip (partners.drop first.length) := by
  induction first generalizing partners with
  | nil => rw [List.nil_append, List.zip_nil_left, List.nil_append, List.length_nil, List.drop_zero]
  | cons item rest ih =>
      cases partners with
      | nil => simp
      | cons partner partners =>
          rw [List.cons_append, List.zip_cons_cons, ih, List.length_cons, List.take_succ_cons,
            List.drop_succ_cons, List.zip_cons_cons, List.cons_append]

/-- The items of a list may be put together by their keys. Items with other keys do not count. -/
theorem flatMap_perm_of_keys {κ : Type} [DecidableEq κ] (key : α → κ) (f : α → List β)
    {keys : List κ} (apart : keys.Nodup) {items : List α}
    (other : ∀ item ∈ items, key item ∉ keys → f item = []) :
    (items.flatMap f).Perm
      (keys.flatMap fun chosen => (items.filter (key · = chosen)).flatMap f) := by
  induction keys generalizing items with
  | nil =>
      rw [List.flatMap_nil, List.flatMap_eq_nil_iff.mpr fun item member =>
        other item member (by simp)]
  | cons chosen keys ih =>
      obtain ⟨new, apart⟩ := List.nodup_cons.mp apart
      have split := List.filter_append_perm (fun item => decide (key item = chosen)) items
      apply (split.symm.flatMap_right f).trans
      rw [List.flatMap_append, List.flatMap_cons]
      refine List.Perm.append_left _ ((ih apart ?_).trans (.of_eq ?_))
      · intro item member unlisted
        simp only [List.mem_filter, Bool.not_eq_true', decide_eq_false_iff_not] at member
        exact other item member.1 (by simp [unlisted, member.2])
      · apply List.flatMap_congr
        intro later among
        rw [List.filter_filter]
        refine congrArg (List.flatMap f) (List.filter_congr fun item _ => ?_)
        by_cases same : key item = later
        · have apart : later ≠ chosen := fun equal => new (equal ▸ among)
          simp [same, apart]
        · simp [same]

/-! ### Steps that may fail -/

section

variable {ε : Type} {f : α → Except ε β} {items : List α}

/-- Steps one after the other end well if each of them does. -/
theorem exists_of_bind {step : Except ε α} {next : α → Except ε β} {result : β}
    (found : (step >>= next) = .ok result) :
    ∃ value, step = .ok value ∧ next value = .ok result := by
  cases step with
  | error error => cases found
  | ok value => exact ⟨value, rfl, found⟩

/-- What is computed from the result of a step says that the step ends well. -/
theorem exists_of_toOption_map {step : Except ε α} {g : α → β} {value : β}
    (computed : step.toOption.map g = some value) :
    ∃ result, step = .ok result ∧ g result = value := by
  cases step with
  | error error => cases computed
  | ok result => exact ⟨result, rfl, Option.some.inj computed⟩

theorem mapM_eq_ok {g : α → β} (each : ∀ item ∈ items, f item = .ok (g item)) :
    items.mapM f = .ok (items.map g) := by
  induction items with
  | nil => rfl
  | cons head rest ih =>
      rw [List.mapM_cons, each head List.mem_cons_self,
        ih fun item member => each item (List.mem_cons_of_mem _ member)]
      rfl

/-- Steps that all succeed have a value each. -/
theorem forall₂_of_mapM {values : List β} (done : items.mapM f = .ok values) :
    List.Forall₂ (fun item value => f item = .ok value) items values := by
  induction items generalizing values with
  | nil =>
      cases done
      exact .nil
  | cons head rest ih =>
      rw [List.mapM_cons] at done
      cases first : f head with
      | error error =>
          rw [first] at done
          cases done
      | ok value =>
          cases later : rest.mapM f with
          | error error =>
              rw [first, later] at done
              cases done
          | ok values =>
              rw [first, later] at done
              cases done
              exact .cons first (ih later)

/-- Steps that can fail in one way only fail in that way if one of them does. -/
theorem mapM_eq_error {error : ε} (one : ∃ item ∈ items, f item = .error error)
    (same : ∀ item ∈ items, ∀ other, f item = .error other → other = error) :
    items.mapM f = .error error := by
  induction items with
  | nil => simp at one
  | cons head rest ih =>
      rw [List.mapM_cons]
      cases first : f head with
      | error other =>
          rw [same head List.mem_cons_self other first]
          rfl
      | ok value =>
          obtain ⟨item, member, failed⟩ := one
          rcases List.mem_cons.mp member with rfl | member
          · rw [first] at failed
            cases failed
          · rw [ih ⟨item, member, failed⟩ fun item member =>
              same item (List.mem_cons_of_mem _ member)]
            rfl

theorem bind_pure_eq_map {γ : Type} (step : Except ε α) (make : α → γ) :
    (step >>= fun value => pure (make value)) = step.map make := by
  cases step <;> rfl

/-- Steps that make lists may be taken one after the other or bundled. -/
theorem flatten_mapM_flatMap {γ : Type} {g : α → List β} {h : β → Except ε (List γ)} :
    (items.mapM fun item => ((g item).mapM h).map List.flatten).map List.flatten =
      ((items.flatMap g).mapM h).map List.flatten := by
  induction items with
  | nil => rfl
  | cons head rest ih =>
      rw [List.mapM_cons, List.flatMap_cons, List.mapM_append]
      cases (g head).mapM h with
      | error error => rfl
      | ok first =>
          revert ih
          cases rest.mapM fun item => ((g item).mapM h).map List.flatten <;>
            cases (rest.flatMap g).mapM h <;> intro later <;>
            simp_all [Except.map, bind, Except.bind, pure, Except.pure]

theorem filterM_eq_ok {test : α → Except ε Bool} {passes : α → Bool}
    (each : ∀ item ∈ items, test item = .ok (passes item)) :
    items.filterM test = .ok (items.filter passes) := by
  have aux (seen : List α) : List.filterAuxM test items seen =
      .ok ((items.filter passes).reverse ++ seen) := by
    induction items generalizing seen with
    | nil => rfl
    | cons head rest ih =>
        rw [List.filterAuxM, each head List.mem_cons_self]
        refine (ih (fun item member => each item (List.mem_cons_of_mem _ member)) _).trans ?_
        rw [List.filter_cons]
        cases passes head <;> simp
  rw [List.filterM, aux]
  simp only [List.append_nil, bind, Except.bind, pure, Except.pure, List.reverse_reverse]

/-- Tests of which none fails have an outcome each. -/
theorem exists_of_filterM {test : α → Except ε Bool} {kept : List α}
    (done : items.filterM test = .ok kept) : ∀ item ∈ items, ∃ passes, test item = .ok passes := by
  rw [List.filterM] at done
  cases aux : List.filterAuxM test items [] with
  | error error =>
      rw [aux] at done
      cases done
  | ok chosen =>
      clear done
      suffices any : ∀ seen chosen, List.filterAuxM test items seen = .ok chosen →
          ∀ item ∈ items, ∃ passes, test item = .ok passes from any [] chosen aux
      clear aux
      induction items with
      | nil => exact fun _ _ _ _ member => absurd member List.not_mem_nil
      | cons head rest ih =>
          intro seen chosen done item member
          rw [List.filterAuxM] at done
          cases first : test head with
          | error error =>
              rw [first] at done
              cases done
          | ok passes =>
              rw [first] at done
              rcases List.mem_cons.mp member with rfl | member
              · exact ⟨passes, first⟩
              · exact ih _ chosen done item member

end

end StructuralLint.Lists
