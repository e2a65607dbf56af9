import Mathlib.Data.List.Induction
import Mathlib.Data.List.Nodup

/-!
Lists without repetitions, in the order in which their members were first seen.
-/

namespace CallHierarchy

variable {α : Type} [BEq α] [LawfulBEq α]

theorem eraseDups_concat
    (seen : List α) (last : α) :
    (seen ++ [last]).eraseDups =
      if last ∈ seen then seen.eraseDups else seen.eraseDups ++ [last] := by
  rw [List.eraseDups_append]
  by_cases present : last ∈ seen
  · simp [List.removeAll, present]
  · simp [List.removeAll, present, List.eraseDups_cons]

theorem eraseDups_of_nodup
    {seen : List α} (distinct : seen.Nodup) :
    seen.eraseDups = seen := by
  induction seen with
  | nil => rfl
  | cons first rest inductionHypothesis =>
      obtain ⟨firstNotRest, restDistinct⟩ := List.nodup_cons.1 distinct
      have unchanged : (rest.filter fun other => !other == first) = rest := by
        apply List.filter_eq_self.2
        intro other member
        simpa using ne_of_mem_of_not_mem member firstNotRest
      rw [List.eraseDups_cons, unchanged, inductionHypothesis restDistinct]

theorem nodup_eraseDups
    (seen : List α) :
    seen.eraseDups.Nodup := by
  induction seen using List.reverseRecOn with
  | nil => exact List.nodup_nil
  | append_singleton seen last inductionHypothesis =>
      rw [eraseDups_concat]
      split
      · exact inductionHypothesis
      · rename_i isNew
        have isNewest : last ∉ seen.eraseDups := mt List.mem_eraseDups.1 isNew
        rw [← List.concat_eq_append]
        exact inductionHypothesis.concat isNewest

/-- The list with one more member, unless it is there already. -/
def addNew (seen : List α) (next : α) : List α :=
  if next ∈ seen then seen else seen ++ [next]

theorem mem_foldl_addNew
    {member : α} {seen more : List α} :
    member ∈ more.foldl addNew seen ↔ member ∈ seen ∨ member ∈ more := by
  induction more generalizing seen with
  | nil => simp
  | cons first rest inductionHypothesis =>
      rw [List.foldl_cons, inductionHypothesis, addNew, List.mem_cons, ← or_assoc]
      apply or_congr_left
      split
      · rename_i present
        constructor
        · exact Or.inl
        · rintro (before | rfl)
          · exact before
          · exact present
      · rw [List.mem_append, List.mem_singleton]

/-- What is added behind a list are its new members, in the order in which they are first seen. -/
theorem foldl_addNew
    (seen more : List α) :
    more.foldl addNew seen = seen ++ more.eraseDups.filter fun next => next ∉ seen := by
  induction more using List.reverseRecOn with
  | nil => simp
  | append_singleton more last inductionHypothesis =>
      rw [List.foldl_concat, addNew, eraseDups_concat]
      by_cases before : last ∈ more
      · rw [if_pos (mem_foldl_addNew.2 (Or.inr before)), if_pos before, inductionHypothesis]
      · rw [if_neg before, List.filter_append, ← List.append_assoc, ← inductionHypothesis]
        by_cases present : last ∈ seen
        · rw [if_pos (mem_foldl_addNew.2 (Or.inl present))]
          simp [present]
        · have isNew : last ∉ more.foldl addNew seen := by
            rw [mem_foldl_addNew, not_or]
            exact ⟨present, before⟩
          rw [if_neg isNew]
          simp [present]

end CallHierarchy
