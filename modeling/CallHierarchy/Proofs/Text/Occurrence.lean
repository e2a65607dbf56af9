import CallHierarchy.Text.Basic

/-!
Where occurrences stand. Each offset that the search gives is the start of a copy of the word, and
the offsets increase. No two of these copies overlap, and a copy that the search does not give
overlaps an earlier one that it gives.
-/

namespace CallHierarchy.Text

theorem le_of_mem_occurrencesFrom
    {word text : Text} {offset skipped found : Nat}
    (member : found ∈ occurrencesFrom word text offset skipped) :
    offset ≤ found := by
  induction text generalizing offset skipped with
  | nil => simp [occurrencesFrom] at member
  | cons first rest inductionHypothesis =>
      cases skipped with
      | succ ahead =>
          rw [occurrencesFrom] at member
          exact Nat.le_trans (Nat.le_add_right _ _) (inductionHypothesis member)
      | zero =>
          rw [occurrencesFrom] at member
          split at member
          · rcases List.mem_cons.1 member with rfl | later
            · exact Nat.le_refl _
            · exact Nat.le_trans (Nat.le_add_right _ _) (inductionHypothesis later)
          · exact Nat.le_trans (Nat.le_add_right _ _) (inductionHypothesis member)

theorem pairwise_occurrencesFrom
    (word text : Text) (offset skipped : Nat) :
    (occurrencesFrom word text offset skipped).Pairwise fun left right => left < right := by
  induction text generalizing offset skipped with
  | nil => simp [occurrencesFrom]
  | cons first rest inductionHypothesis =>
      cases skipped with
      | succ ahead =>
          rw [occurrencesFrom]
          exact inductionHypothesis _ _
      | zero =>
          rw [occurrencesFrom]
          split
          · refine List.pairwise_cons.2 ⟨?_, inductionHypothesis _ _⟩
            intro found later
            -- The search goes on behind the first character of what it has found.
            have behind := le_of_mem_occurrencesFrom later
            have positive : 0 < first.utf8Size := Char.utf8Size_pos first
            omega
          · exact inductionHypothesis _ _

theorem exists_of_mem_occurrencesFrom
    {word text : Text} {offset skipped found : Nat}
    (member : found ∈ occurrencesFrom word text offset skipped) :
    ∃ before behind,
      text = before ++ (word ++ behind) ∧ found = offset + byteLength before := by
  induction text generalizing offset skipped with
  | nil => simp [occurrencesFrom] at member
  | cons first rest inductionHypothesis =>
      have later : ∀ ahead,
          found ∈ occurrencesFrom word rest (offset + first.utf8Size) ahead →
            ∃ before behind,
              first :: rest = before ++ (word ++ behind) ∧
                found = offset + byteLength before := by
        intro ahead inRest
        obtain ⟨before, behind, restEq, foundEq⟩ := inductionHypothesis inRest
        refine ⟨first :: before, behind, ?_, ?_⟩
        · rw [restEq, List.cons_append]
        · rw [foundEq, byteLength_cons]
          omega
      cases skipped with
      | succ ahead =>
          rw [occurrencesFrom] at member
          exact later ahead member
      | zero =>
          rw [occurrencesFrom] at member
          split at member
          · rename_i begins
            rcases List.mem_cons.1 member with rfl | inRest
            · obtain ⟨behind, textEq⟩ := List.isPrefixOf_iff_prefix.1 begins
              exact ⟨[], behind, textEq.symm, rfl⟩
            · exact later _ inRest
          · exact later 0 member

theorem pairwise_occurrences
    (word text : Text) :
    (occurrences word text).Pairwise fun left right => left < right :=
  pairwise_occurrencesFrom word text 0 0

theorem exists_of_mem_occurrences
    {word text : Text} {found : Nat}
    (member : found ∈ occurrences word text) :
    ∃ before behind, text = before ++ (word ++ behind) ∧ found = byteLength before := by
  obtain ⟨before, behind, textEq, foundEq⟩ := exists_of_mem_occurrencesFrom member
  exact ⟨before, behind, textEq, by omega⟩

theorem skipped_le_of_mem_occurrencesFrom
    {word text : Text} {offset skipped found : Nat}
    (member : found ∈ occurrencesFrom word text offset skipped) :
    offset + byteLength (text.take skipped) ≤ found := by
  induction text generalizing offset skipped with
  | nil => simp [occurrencesFrom] at member
  | cons first rest inductionHypothesis =>
      cases skipped with
      | zero => exact le_of_mem_occurrencesFrom member
      | succ ahead =>
          rw [occurrencesFrom] at member
          have later := inductionHypothesis member
          rw [List.take_succ_cons, byteLength_cons]
          omega

theorem apart_occurrencesFrom
    {word : Text} (nonempty : word ≠ []) (text : Text) (offset skipped : Nat) :
    (occurrencesFrom word text offset skipped).Pairwise fun left right =>
      left + byteLength word ≤ right := by
  induction text generalizing offset skipped with
  | nil => simp [occurrencesFrom]
  | cons first rest inductionHypothesis =>
      cases skipped with
      | succ ahead =>
          rw [occurrencesFrom]
          exact inductionHypothesis _ _
      | zero =>
          rw [occurrencesFrom]
          split
          · rename_i begins
            refine List.pairwise_cons.2 ⟨?_, inductionHypothesis _ _⟩
            intro found later
            -- what is skipped is the rest of the copy behind its first character
            have behind := skipped_le_of_mem_occurrencesFrom later
            have copyEq : word = (first :: rest).take word.length :=
              List.prefix_iff_eq_take.1 (List.isPrefixOf_iff_prefix.1 begins)
            obtain ⟨length, lengthEq⟩ : ∃ length, word.length = length + 1 :=
              Nat.exists_eq_succ_of_ne_zero (mt List.length_eq_zero_iff.1 nonempty)
            rw [lengthEq, List.take_succ_cons] at copyEq
            rw [lengthEq, Nat.add_sub_cancel] at behind
            rw [copyEq, byteLength_cons]
            omega
          · exact inductionHypothesis _ _

theorem byteLength_lt_of_prefix
    {text left right : Text} (leftPrefix : left <+: text) (rightPrefix : right <+: text)
    (shorter : left.length < right.length) :
    byteLength left < byteLength right := by
  obtain ⟨more, rfl⟩ :=
    List.prefix_of_prefix_length_le leftPrefix rightPrefix (Nat.le_of_lt shorter)
  cases more with
  | nil => simp at shorter
  | cons first rest =>
      have positive : 0 < first.utf8Size := Char.utf8Size_pos first
      rw [byteLength_append, byteLength_cons]
      omega

/-- A copy of the word starts at an offset that the search gives, or inside a copy that it gives, or
among the characters that are skipped. -/
theorem covered_occurrencesFrom
    {word : Text} (nonempty : word ≠ []) {text before behind : Text}
    (textEq : text = before ++ (word ++ behind)) (offset skipped : Nat) :
    offset + byteLength before ∈ occurrencesFrom word text offset skipped ∨
      (∃ found ∈ occurrencesFrom word text offset skipped,
        found < offset + byteLength before ∧
          offset + byteLength before < found + byteLength word) ∨
      before.length < skipped := by
  induction text generalizing before offset skipped with
  | nil => simp [nonempty] at textEq
  | cons first rest inductionHypothesis =>
      cases before with
      | nil =>
          cases skipped with
          | succ ahead => exact Or.inr (Or.inr (Nat.succ_pos ahead))
          | zero =>
              have begins : word.isPrefixOf (first :: rest) = true :=
                List.isPrefixOf_iff_prefix.2 ⟨behind, textEq.symm⟩
              left
              rw [occurrencesFrom, if_pos begins]
              exact List.mem_cons_self
      | cons _ before =>
          obtain ⟨rfl, restEq⟩ := List.cons.inj textEq
          have shifted : offset + byteLength (first :: before) =
              offset + first.utf8Size + byteLength before := by
            rw [byteLength_cons]
            omega
          rw [shifted, List.length_cons]
          cases skipped with
          | succ ahead =>
              rw [occurrencesFrom, Nat.add_lt_add_iff_right]
              exact inductionHypothesis restEq (offset + first.utf8Size) ahead
          | zero =>
              rw [occurrencesFrom]
              split
              · rename_i begins
                rcases inductionHypothesis restEq (offset + first.utf8Size) (word.length - 1)
                  with here | ⟨found, member, overlaps⟩ | inside
                · exact Or.inl (List.mem_cons_of_mem _ here)
                · exact Or.inr (Or.inl ⟨found, List.mem_cons_of_mem _ member, overlaps⟩)
                · -- the copy at this offset covers the start of the later one
                  refine Or.inr (Or.inl ⟨offset, List.mem_cons_self, ?_⟩)
                  have shorter : (first :: before).length < word.length := by
                    rw [List.length_cons]
                    omega
                  have fewerBytes := byteLength_lt_of_prefix
                    ⟨word ++ behind, textEq.symm⟩ (List.isPrefixOf_iff_prefix.1 begins) shorter
                  have positive : 0 < first.utf8Size := Char.utf8Size_pos first
                  rw [← shifted]
                  rw [byteLength_cons] at fewerBytes ⊢
                  omega
              · rcases inductionHypothesis restEq (offset + first.utf8Size) 0
                  with here | overlaps | impossible
                · exact Or.inl here
                · exact Or.inr (Or.inl overlaps)
                · exact absurd impossible (Nat.not_lt_zero _)

/-- The copies that the search gives do not overlap. -/
theorem apart_occurrences
    {word : Text} (nonempty : word ≠ []) (text : Text) :
    (occurrences word text).Pairwise fun left right => left + byteLength word ≤ right :=
  apart_occurrencesFrom nonempty text 0 0

/-- Every copy of the word is given, or starts inside an earlier one that is. -/
theorem covered_occurrences
    {word : Text} (nonempty : word ≠ []) {text before behind : Text}
    (textEq : text = before ++ (word ++ behind)) :
    byteLength before ∈ occurrences word text ∨
      ∃ found ∈ occurrences word text,
        found < byteLength before ∧ byteLength before < found + byteLength word := by
  have covered := covered_occurrencesFrom nonempty textEq 0 0
  rw [Nat.zero_add] at covered
  rcases covered with here | overlaps | impossible
  · exact Or.inl here
  · exact Or.inr overlaps
  · exact absurd impossible (Nat.not_lt_zero _)

/-- The search gives nothing exactly when the word does not occur. -/
theorem occurrences_eq_nil_iff
    {word : Text} (nonempty : word ≠ []) {text : Text} :
    occurrences word text = [] ↔ ¬ word <:+: text := by
  constructor
  · rintro nothing ⟨before, behind, textEq⟩
    have covered := covered_occurrences nonempty (textEq.symm.trans (List.append_assoc _ _ _))
    rw [nothing] at covered
    simp at covered
  · intro absent
    rw [List.eq_nil_iff_forall_not_mem]
    intro found member
    obtain ⟨before, behind, textEq, _⟩ := exists_of_mem_occurrences member
    exact absent ⟨before, behind, by rw [textEq, List.append_assoc]⟩

end CallHierarchy.Text
