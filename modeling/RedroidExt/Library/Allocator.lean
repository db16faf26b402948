import Mathlib.Order.Defs.LinearOrder
import Mathlib.Logic.Function.Basic
import Mathlib.Data.Set.Defs
import Mathlib.Data.Fintype.EquivFin

/-!
# An allocator that never takes back

Keys are assigned items from a set, the lowest free one first. An assignment is
kept for good, two keys never share an item, and a request fails only when the
key has nothing and nothing is free.
-/

namespace RedroidExt.Library.Allocator

set_option autoImplicit false

variable {Key Item : Type*}

abbrev Assignment (Key Item : Type*) := Key → Option Item

def Exclusive (assigned : Assignment Key Item) : Prop :=
  ∀ first second item, assigned first = some item → assigned second = some item → first = second

def Within (available : Set Item) (assigned : Assignment Key Item) : Prop :=
  ∀ key item, assigned key = some item → item ∈ available

/-- One request for a key: its result and the assignment afterwards. -/
inductive Grant [LT Item] [DecidableEq Key] (available : Set Item)
    (before : Assignment Key Item) (key : Key) : Option Item → Assignment Key Item → Prop
  | held {item : Item} (owned : before key = some item) :
      Grant available before key (some item) before
  | fresh {item : Item} (unowned : before key = none) (member : item ∈ available)
      (free : ∀ other, before other ≠ some item)
      (least : ∀ lower ∈ available, lower < item → ∃ other, before other = some lower) :
      Grant available before key (some item) (Function.update before key (some item))
  | exhausted (unowned : before key = none)
      (taken : ∀ item ∈ available, ∃ other, before other = some item) :
      Grant available before key none before

variable [LT Item] [DecidableEq Key] {available : Set Item}
variable {before after : Assignment Key Item} {key : Key} {result : Option Item}

theorem grant_keeps (granted : Grant available before key result after) {other : Key}
    {item : Item} (owned : before other = some item) : after other = some item := by
  cases granted with
  | held _ => exact owned
  | exhausted _ _ => exact owned
  | fresh unowned _ _ _ =>
      have different : other ≠ key := by
        rintro rfl
        rw [unowned] at owned
        contradiction
      rw [Function.update_of_ne different]
      exact owned

theorem grant_exclusive (granted : Grant available before key result after)
    (exclusive : Exclusive before) : Exclusive after := by
  cases granted with
  | held _ => exact exclusive
  | exhausted _ _ => exact exclusive
  | fresh unowned _ free _ =>
      intro first second item firstOwns secondOwns
      by_cases firstNew : first = key
      · by_cases secondNew : second = key
        · rw [firstNew, secondNew]
        · subst firstNew
          rw [Function.update_self] at firstOwns
          rw [Function.update_of_ne secondNew, ← firstOwns] at secondOwns
          exact absurd secondOwns (free second)
      · by_cases secondNew : second = key
        · subst secondNew
          rw [Function.update_self] at secondOwns
          rw [Function.update_of_ne firstNew, ← secondOwns] at firstOwns
          exact absurd firstOwns (free first)
        · rw [Function.update_of_ne firstNew] at firstOwns
          rw [Function.update_of_ne secondNew] at secondOwns
          exact exclusive first second item firstOwns secondOwns

theorem grant_within (granted : Grant available before key result after)
    (within : Within available before) : Within available after := by
  cases granted with
  | held _ => exact within
  | exhausted _ _ => exact within
  | fresh _ member _ _ =>
      intro other item owned
      by_cases new : other = key
      · subst new
        rw [Function.update_self] at owned
        rw [← Option.some.inj owned]
        exact member
      · rw [Function.update_of_ne new] at owned
        exact within other item owned

/-- Requests fail exactly when the key has nothing and everything is assigned. -/
theorem grant_fails_iff (granted : Grant available before key result after) :
    result = none ↔
      before key = none ∧ ∀ item ∈ available, ∃ other, before other = some item := by
  cases granted with
  | held owned =>
      constructor
      · intro failed
        contradiction
      · rintro ⟨unowned, -⟩
        rw [unowned] at owned
        contradiction
  | exhausted unowned taken => exact ⟨fun _ => ⟨unowned, taken⟩, fun _ => rfl⟩
  | fresh _ member free _ =>
      constructor
      · intro failed
        contradiction
      · rintro ⟨-, taken⟩
        obtain ⟨other, owned⟩ := taken _ member
        exact absurd owned (free other)

/-- As long as only some finitely many keys own anything and there is an item for each of them,
no request of one of them fails. -/
theorem grant_succeeds {Owner : Type*} [Finite Owner] {owner : Owner} {keys : Owner → Key} {items : Owner → Item}
    (granted : Grant available before (keys owner) result after)
    (owners : ∀ other item, before other = some item → ∃ one, keys one = other)
    (distinct : Function.Injective items) (enough : ∀ one, items one ∈ available) :
    ∃ item, result = some item := by
  cases answer : result with
  | some item => exact ⟨item, rfl⟩
  | none =>
      rcases (grant_fails_iff granted).mp answer with ⟨unowned, taken⟩
      have owned : ∀ one, ∃ other, before (keys other) = some (items one) := by
        intro one
        rcases taken (items one) (enough one) with ⟨key, owns⟩
        rcases owners key (items one) owns with ⟨other, rfl⟩
        exact ⟨other, owns⟩
      choose holder holds using owned
      -- Nobody owns two items, so the holders of all of them are all the owners.
      have injective : Function.Injective holder := by
        intro first second same
        have both := holds first
        rw [same, holds second] at both
        exact distinct (Option.some.inj both).symm
      rcases Finite.injective_iff_surjective.mp injective owner with ⟨one, rfl⟩
      exact nomatch unowned.symm.trans (holds one)

end RedroidExt.Library.Allocator
