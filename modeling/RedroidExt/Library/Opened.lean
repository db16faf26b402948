import Mathlib.Data.List.Perm.Lattice
import Mathlib.Logic.Function.Basic

/-!
# What was opened in a table

A table maps handles to what they stand for. `Opened` compares a table with an earlier
one: some entries were opened since, under handles that were free, and all else is as it
was. Opening, changing and closing an entry leave the others alone.
-/

namespace RedroidExt.Library

set_option autoImplicit false

variable {Handle Object : Type*}

structure Opened (before after : Handle → Option Object) (entries : List (Handle × Object)) :
    Prop where
  distinct : (entries.map Prod.fst).Nodup
  free : ∀ entry ∈ entries, before entry.1 = none
  found : ∀ entry ∈ entries, after entry.1 = some entry.2
  rest : ∀ handle, handle ∉ entries.map Prod.fst → after handle = before handle

namespace Opened

variable {before after : Handle → Option Object} {entries : List (Handle × Object)}

theorem start (table : Handle → Option Object) : Opened table table [] where
  distinct := List.nodup_nil
  free := nofun
  found := nofun
  rest := fun _ _ => rfl

theorem unchanged (opened : Opened before after []) : after = before :=
  funext fun handle => opened.rest handle List.not_mem_nil

theorem perm {others : List (Handle × Object)} (opened : Opened before after entries)
    (same : entries.Perm others) : Opened before after others where
  distinct := (same.map Prod.fst).nodup_iff.mp opened.distinct
  free := fun entry member => opened.free entry (same.mem_iff.mpr member)
  found := fun entry member => opened.found entry (same.mem_iff.mpr member)
  rest := fun handle absent => opened.rest handle fun member =>
    absent ((same.map Prod.fst).mem_iff.mp member)

variable [DecidableEq Handle]

/-- A handle that is free is none of the entries, and free in the earlier table. -/
theorem add (opened : Opened before after entries) {handle : Handle} (free : after handle = none)
    (object : Object) :
    Opened before (Function.update after handle (some object)) ((handle, object) :: entries) := by
  have absent : handle ∉ entries.map Prod.fst := by
    intro member
    rcases List.mem_map.mp member with ⟨entry, found, rfl⟩
    exact nomatch free.symm.trans (opened.found entry found)
  constructor
  · exact List.nodup_cons.mpr ⟨absent, opened.distinct⟩
  · intro entry member
    rcases List.mem_cons.mp member with rfl | member
    · exact (opened.rest handle absent).symm.trans free
    · exact opened.free entry member
  · intro entry member
    rcases List.mem_cons.mp member with rfl | member
    · exact Function.update_self _ _ _
    · have different : entry.1 ≠ handle := fun same => absent (same ▸ List.mem_map_of_mem member)
      rw [Function.update_of_ne different]
      exact opened.found entry member
  · intro other missing
    rw [List.map_cons, List.mem_cons, not_or] at missing
    rw [Function.update_of_ne missing.1]
    exact opened.rest other missing.2

theorem set {handle : Handle} {object : Object}
    (opened : Opened before after ((handle, object) :: entries)) (changed : Object) :
    Opened before (Function.update after handle (some changed)) ((handle, changed) :: entries) := by
  have absent : handle ∉ entries.map Prod.fst := (List.nodup_cons.mp opened.distinct).1
  constructor
  · exact opened.distinct
  · intro entry member
    rcases List.mem_cons.mp member with rfl | member
    · exact opened.free (handle, object) List.mem_cons_self
    · exact opened.free entry (List.mem_cons_of_mem _ member)
  · intro entry member
    rcases List.mem_cons.mp member with rfl | member
    · exact Function.update_self _ _ _
    · have different : entry.1 ≠ handle := fun same => absent (same ▸ List.mem_map_of_mem member)
      rw [Function.update_of_ne different]
      exact opened.found entry (List.mem_cons_of_mem _ member)
  · intro other missing
    have different : other ≠ handle := fun same => missing (same ▸ List.mem_cons_self)
    rw [Function.update_of_ne different]
    exact opened.rest other missing

theorem close {handle : Handle} {object : Object}
    (opened : Opened before after ((handle, object) :: entries)) :
    Opened before (Function.update after handle none) entries := by
  have absent : handle ∉ entries.map Prod.fst := (List.nodup_cons.mp opened.distinct).1
  constructor
  · exact (List.nodup_cons.mp opened.distinct).2
  · exact fun entry member => opened.free entry (List.mem_cons_of_mem _ member)
  · intro entry member
    have different : entry.1 ≠ handle := fun same => absent (same ▸ List.mem_map_of_mem member)
    rw [Function.update_of_ne different]
    exact opened.found entry (List.mem_cons_of_mem _ member)
  · intro other missing
    by_cases same : other = handle
    · subst same
      rw [Function.update_self]
      exact (opened.free (other, object) List.mem_cons_self).symm
    · rw [Function.update_of_ne same]
      apply opened.rest
      rw [List.map_cons, List.mem_cons, not_or]
      exact ⟨same, missing⟩

end Opened

end RedroidExt.Library
