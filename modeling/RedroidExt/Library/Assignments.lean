import Mathlib.Data.List.Nodup
import Mathlib.Logic.Function.Basic

/-!
# Assignments in a row

A list of keys with values, assigned one after the other to a store. What the store
holds afterwards depends on the last assignment to each key.
-/

namespace RedroidExt.Library

set_option autoImplicit false

variable {Key Value : Type*} [DecidableEq Key]

def assignAll (store : Key → Value) (pairs : List (Key × Value)) : Key → Value :=
  pairs.foldl (fun store pair => Function.update store pair.1 pair.2) store

namespace Assignments

theorem assign_cons (store : Key → Value) (pair : Key × Value) (rest : List (Key × Value)) :
    assignAll store (pair :: rest) = assignAll (Function.update store pair.1 pair.2) rest := rfl

theorem assign_append (store : Key → Value) (left right : List (Key × Value)) :
    assignAll store (left ++ right) = assignAll (assignAll store left) right := List.foldl_append

theorem assign_other (store : Key → Value) {pairs : List (Key × Value)} {key : Key}
    (other : key ∉ pairs.map Prod.fst) : assignAll store pairs key = store key := by
  induction pairs generalizing store with
  | nil => rfl
  | cons pair rest ih =>
      rw [List.map_cons, List.mem_cons, not_or] at other
      rw [assign_cons, ih _ other.2]
      exact Function.update_of_ne other.1 _ _

theorem assign_member (store : Key → Value) {pairs : List (Key × Value)}
    (distinct : (pairs.map Prod.fst).Nodup) {pair : Key × Value} (member : pair ∈ pairs) :
    assignAll store pairs pair.1 = pair.2 := by
  induction pairs generalizing store with
  | nil => cases member
  | cons first rest ih =>
      rw [List.map_cons, List.nodup_cons] at distinct
      rw [assign_cons]
      rcases List.mem_cons.mp member with same | later
      · rw [same, assign_other _ distinct.1]
        exact Function.update_self _ _ _
      · exact ih _ distinct.2 later

omit [DecidableEq Key] in
theorem distinct_filter {pairs : List (Key × Value)} (distinct : (pairs.map Prod.fst).Nodup)
    (keep : Key × Value → Bool) : ((pairs.filter keep).map Prod.fst).Nodup :=
  distinct.sublist (List.Sublist.map Prod.fst List.filter_sublist)

/-- Assignments to distinct keys change nothing exactly when each repeats what is there. -/
theorem assign_eq_self_iff (store : Key → Value) {pairs : List (Key × Value)}
    (distinct : (pairs.map Prod.fst).Nodup) :
    assignAll store pairs = store ↔ ∀ pair ∈ pairs, store pair.1 = pair.2 := by
  constructor
  · intro same pair member
    rw [← assign_member store distinct member, same]
  · intro repeated
    funext key
    by_cases assigned : key ∈ pairs.map Prod.fst
    · obtain ⟨pair, member, name⟩ := List.mem_map.mp assigned
      rw [← name, assign_member store distinct member, repeated pair member]
    · exact assign_other store assigned

/-- Behind assignments to the same keys earlier ones do not show. -/
theorem assign_covered (store other : Key → Value) {pairs : List (Key × Value)} {key : Key}
    (covered : key ∈ pairs.map Prod.fst) : assignAll store pairs key = assignAll other pairs key := by
  induction pairs generalizing store other with
  | nil => cases covered
  | cons pair rest ih =>
      rw [assign_cons, assign_cons]
      by_cases later : key ∈ rest.map Prod.fst
      · exact ih _ _ later
      · rw [List.map_cons, List.mem_cons] at covered
        have first : key = pair.1 := covered.resolve_right later
        rw [assign_other _ later, assign_other _ later, first, Function.update_self,
          Function.update_self]

/-- Of groups of assignments to the same keys only the last one shows. -/
theorem assign_last_group {Item : Type*} {groups : Item → List (Key × Value)} {keys : List Key}
    (sameKeys : ∀ item, (groups item).map Prod.fst = keys) (store : Key → Value)
    (items : List Item) (last : Item) :
    assignAll store ((items ++ [last]).flatMap groups) = assignAll store (groups last) := by
  induction items generalizing store with
  | nil => rw [List.nil_append, List.flatMap_singleton]
  | cons first rest ih =>
      rw [List.cons_append, List.flatMap_cons, assign_append, ih]
      funext key
      by_cases covered : key ∈ (groups last).map Prod.fst
      · exact assign_covered _ _ covered
      · have other := covered
        rw [sameKeys, ← sameKeys first] at other
        rw [assign_other _ covered, assign_other _ covered, assign_other _ other]

end Assignments

end RedroidExt.Library
