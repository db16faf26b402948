import Mathlib.Data.List.Count
import Mathlib.Logic.Function.Basic

/-!
# Handles and their owners

A log of acquired and released handles, newest first, and owners of at most one handle each.
A handle may be acquired again once it is released. `Owned` is the invariant of unique
ownership; acquiring, releasing and passing a handle on keep it.
-/

namespace RedroidExt.Library.Handles

set_option autoImplicit false

variable {Handle Owner : Type*}

inductive Event (Handle : Type*) where
  | acquired (handle : Handle)
  | released (handle : Handle)
deriving DecidableEq, Repr

/-- Acquired and not released since. -/
def Held : List (Event Handle) → Handle → Prop
  | [], _ => False
  | .acquired taken :: earlier, handle => handle = taken ∨ Held earlier handle
  | .released given :: earlier, handle => handle ≠ given ∧ Held earlier handle

instance decidableHeld [DecidableEq Handle] :
    (log : List (Event Handle)) → (handle : Handle) → Decidable (Held log handle)
  | [], _ => .isFalse id
  | .acquired taken :: earlier, handle =>
      have := decidableHeld earlier handle
      inferInstanceAs (Decidable (handle = taken ∨ Held earlier handle))
  | .released given :: earlier, handle =>
      have := decidableHeld earlier handle
      inferInstanceAs (Decidable (handle ≠ given ∧ Held earlier handle))

/-- Only handles that are not held are acquired, and only held ones are released. -/
def WellUsed : List (Event Handle) → Prop
  | [] => True
  | .acquired taken :: earlier => ¬ Held earlier taken ∧ WellUsed earlier
  | .released given :: earlier => Held earlier given ∧ WellUsed earlier

section Counts

variable [DecidableEq Handle] (log : List (Event Handle)) (taken given handle : Handle)

theorem count_acquired : (Event.acquired taken :: log).count (.acquired handle) =
    log.count (.acquired handle) + if taken = handle then 1 else 0 := by
  simp [List.count_cons]

theorem count_released : (Event.released given :: log).count (.released handle) =
    log.count (.released handle) + if given = handle then 1 else 0 := by
  simp [List.count_cons]

theorem count_released_acquired : (Event.acquired taken :: log).count (.released handle) =
    log.count (.released handle) := by
  simp

theorem count_acquired_released : (Event.released given :: log).count (.acquired handle) =
    log.count (.acquired handle) := by
  simp

end Counts

/-- A handle was released once for each time it was acquired, but for the last time while it is
held. -/
theorem count_of_well_used [DecidableEq Handle] {log : List (Event Handle)}
    (used : WellUsed log) (handle : Handle) :
    log.count (.acquired handle) =
      log.count (.released handle) + if Held log handle then 1 else 0 := by
  induction log with
  | nil => rfl
  | cons event earlier ih =>
      cases event with
      | acquired taken =>
          obtain ⟨fresh, used⟩ := used
          have balanced := ih used
          rw [count_acquired, count_released_acquired, balanced]
          by_cases same : taken = handle
          · subst same
            rw [if_neg fresh, if_pos rfl, if_pos (.inl rfl)]
          · have kept : Held (.acquired taken :: earlier) handle ↔ Held earlier handle :=
              or_iff_right fun equal => same equal.symm
            simp only [same, kept, if_false, Nat.add_zero]
      | released given =>
          obtain ⟨held, used⟩ := used
          have balanced := ih used
          rw [count_acquired_released, count_released, balanced]
          by_cases same : given = handle
          · subst same
            have gone : ¬ Held (.released given :: earlier) given := fun still => still.1 rfl
            rw [if_pos held, if_pos rfl, if_neg gone]
          · have kept : Held (.released given :: earlier) handle ↔ Held earlier handle :=
              and_iff_right fun equal => same equal.symm
            simp only [same, kept, if_false, Nat.add_zero]

/-- The held handles are those that somebody owns, each of them one owner. -/
structure Owned (owns : Owner → Option Handle) (log : List (Event Handle)) : Prop where
  used : WellUsed log
  held : ∀ handle, Held log handle ↔ ∃ owner, owns owner = some handle
  unique : ∀ first second handle, owns first = some handle → owns second = some handle →
    first = second

theorem owned_start : Owned (fun _ : Owner => none) ([] : List (Event Handle)) where
  used := trivial
  held := fun _ => ⟨fun held => held.elim, fun ⟨_, owned⟩ => nomatch owned⟩
  unique := fun _ _ _ owned => nomatch owned

section Steps

variable [DecidableEq Owner] {owns : Owner → Option Handle} {log : List (Event Handle)}

theorem update_owns_iff (owner : Owner) (value : Option Handle) (keeper : Owner)
    (handle : Handle) :
    Function.update owns owner value keeper = some handle ↔
      (keeper = owner ∧ value = some handle) ∨ (keeper ≠ owner ∧ owns keeper = some handle) := by
  by_cases same : keeper = owner
  · subst same
    simp
  · simp [same]

theorem owned_acquire (before : Owned owns log) {owner : Owner} {handle : Handle}
    (free : owns owner = none) (fresh : ¬ Held log handle) :
    Owned (Function.update owns owner (some handle)) (.acquired handle :: log) where
  used := ⟨fresh, before.used⟩
  held := by
    intro other
    simp only [Held, before.held, update_owns_iff]
    constructor
    · rintro (same | ⟨keeper, owned⟩)
      · exact ⟨owner, .inl ⟨rfl, congrArg some same.symm⟩⟩
      · refine ⟨keeper, .inr ⟨?_, owned⟩⟩
        rintro rfl
        exact nomatch free.symm.trans owned
    · rintro ⟨keeper, ⟨-, same⟩ | ⟨-, owned⟩⟩
      · exact .inl (Option.some.inj same).symm
      · exact .inr ⟨keeper, owned⟩
  unique := by
    intro first second other firstOwns secondOwns
    have notHeld : ∀ keeper, owns keeper ≠ some handle :=
      fun keeper owned => fresh ((before.held handle).mpr ⟨keeper, owned⟩)
    rw [update_owns_iff] at firstOwns secondOwns
    rcases firstOwns with ⟨isFirst, same⟩ | ⟨-, firstOwns⟩
    · rcases secondOwns with ⟨isSecond, -⟩ | ⟨-, secondOwns⟩
      · rw [isFirst, isSecond]
      · exact absurd (secondOwns.trans same.symm) (notHeld second)
    · rcases secondOwns with ⟨-, same⟩ | ⟨-, secondOwns⟩
      · exact absurd (firstOwns.trans same.symm) (notHeld first)
      · exact before.unique first second other firstOwns secondOwns

theorem owned_release (before : Owned owns log) {owner : Owner} {handle : Handle}
    (owned : owns owner = some handle) :
    Owned (Function.update owns owner none) (.released handle :: log) where
  used := ⟨(before.held handle).mpr ⟨owner, owned⟩, before.used⟩
  held := by
    intro other
    simp only [Held, before.held, update_owns_iff, reduceCtorEq, and_false, false_or]
    constructor
    · rintro ⟨different, keeper, kept⟩
      refine ⟨keeper, ?_, kept⟩
      rintro rfl
      exact different (Option.some.inj (kept.symm.trans owned))
    · rintro ⟨keeper, notOwner, kept⟩
      refine ⟨?_, keeper, kept⟩
      rintro rfl
      exact notOwner (before.unique keeper owner other kept owned)
  unique := by
    intro first second other firstOwns secondOwns
    simp only [update_owns_iff, reduceCtorEq, and_false, false_or] at firstOwns secondOwns
    exact before.unique first second other firstOwns.2 secondOwns.2

/-- Passing on what one owner has, if anything, to another one that has nothing. -/
theorem owned_transfer (before : Owned owns log) {source target : Owner}
    (different : target ≠ source) (free : owns target = none) :
    Owned (Function.update (Function.update owns target (owns source)) source none) log := by
  have moved : ∀ keeper handle,
      Function.update (Function.update owns target (owns source)) source none keeper =
        some handle ↔
      keeper ≠ source ∧ ((keeper = target ∧ owns source = some handle) ∨
        (keeper ≠ target ∧ owns keeper = some handle)) := by
    intro keeper handle
    rw [update_owns_iff, update_owns_iff]
    simp
  refine ⟨before.used, ?_, ?_⟩
  · intro handle
    simp only [before.held, moved]
    constructor
    · rintro ⟨keeper, owned⟩
      by_cases isSource : keeper = source
      · exact ⟨target, different, .inl ⟨rfl, isSource ▸ owned⟩⟩
      · refine ⟨keeper, isSource, .inr ⟨?_, owned⟩⟩
        rintro rfl
        exact nomatch free.symm.trans owned
    · rintro ⟨keeper, -, ⟨-, had⟩ | ⟨-, kept⟩⟩
      · exact ⟨source, had⟩
      · exact ⟨keeper, kept⟩
  · intro first second handle firstOwns secondOwns
    rw [moved] at firstOwns secondOwns
    obtain ⟨notFirst, firstOwns⟩ := firstOwns
    obtain ⟨notSecond, secondOwns⟩ := secondOwns
    rcases firstOwns with ⟨isFirst, had⟩ | ⟨-, kept⟩
    · rcases secondOwns with ⟨isSecond, -⟩ | ⟨-, kept⟩
      · rw [isFirst, isSecond]
      · exact absurd (before.unique second source handle kept had) notSecond
    · rcases secondOwns with ⟨-, had⟩ | ⟨-, other⟩
      · exact absurd (before.unique first source handle kept had) notFirst
      · exact before.unique first second handle kept other

end Steps

end RedroidExt.Library.Handles
