import CallHierarchy.Proofs.Engine.Accounting
import Mathlib.Data.List.Perm.Basic

/-!
The order in which references are listed. They are read in groups, one for each file, into which
each reference is put once and in which references with the same start keep their order. So nothing
is lost, and of the listed order only the order of the files, and of references of one file that
start at the same place, is seen in the questions and the callers.
-/

namespace CallHierarchy

namespace References

theorem filter_insertByStart
    (location : Location) (locations : List Location) (start : Position) :
    (insertByStart location locations).filter (fun other => other.range.start = start) =
      (location :: locations).filter fun other => other.range.start = start := by
  induction locations with
  | nil => rfl
  | cons first rest inductionHypothesis =>
      rw [insertByStart]
      split
      · rfl
      · rename_i passed
        -- what is passed starts earlier, so it does not start where the new reference does
        have different : first.range.start ≠ location.range.start := by
          intro same
          apply passed
          rw [same, Position.atOrBefore_iff_not_before]
          simp [Position.Before]
        rw [List.filter_cons, inductionHypothesis, List.filter_cons, List.filter_cons,
          List.filter_cons]
        by_cases here : location.range.start = start
        · simp [here, here ▸ different]
        · simp [here]

/-- Sorting keeps the order of references that start at the same place. -/
theorem filter_sortByStart
    (locations : List Location) (start : Position) :
    (sortByStart locations).filter (fun other => other.range.start = start) =
      locations.filter fun other => other.range.start = start := by
  induction locations with
  | nil => rfl
  | cons first rest inductionHypothesis =>
      have step : sortByStart (first :: rest) = insertByStart first (sortByStart rest) := rfl
      rw [step, filter_insertByStart, List.filter_cons, List.filter_cons, inductionHypothesis]

theorem perm_addToGroups
    (groups : List Group) (location : Location) :
    ((addToGroups groups location).flatMap Group.locations).Perm
      (groups.flatMap Group.locations ++ [location]) := by
  induction groups with
  | nil => exact List.Perm.refl _
  | cons group rest inductionHypothesis =>
      rw [addToGroups]
      split
      · rw [List.flatMap_cons, List.flatMap_cons, List.append_assoc, List.append_assoc]
        exact List.perm_append_comm.append_left _
      · rw [List.flatMap_cons, List.flatMap_cons, List.append_assoc]
        exact inductionHypothesis.append_left _

theorem perm_groups
    (locations : List Location) :
    ((groups locations).flatMap Group.locations).Perm locations := by
  induction locations using List.reverseRecOn with
  | nil => exact List.Perm.refl _
  | append_singleton earlier location inductionHypothesis =>
      have step : groups (earlier ++ [location]) = addToGroups (groups earlier) location :=
        List.foldl_concat addToGroups [] location earlier
      rw [step]
      exact (perm_addToGroups _ location).trans (inductionHypothesis.append_right [location])

def sortedGroups (locations : List Location) : List Group :=
  (groups locations).map fun group => ⟨group.uri, sortByStart group.locations⟩

theorem inReadingOrder_eq_flatMap_sortedGroups
    (locations : List Location) :
    inReadingOrder locations = (sortedGroups locations).flatMap Group.locations := by
  rw [inReadingOrder, sortedGroups, List.flatMap_map]

/-- Groups that keep all references, and in each group the order of those with the same start. -/
structure Lossless (locations : List Location) (groups : List Group) : Prop where
  /-- There is one group for each file, in the order in which the files first appear. -/
  files : groups.map Group.uri = (locations.map Location.uri).eraseDups
  distinct : (groups.map Group.uri).Nodup
  sorted : ∀ group ∈ groups, group.locations.Pairwise StartsFirst
  /-- The references of a group with a certain start are those of its file, as they were listed. -/
  stable : ∀ group ∈ groups, ∀ start,
    group.locations.filter (fun location => location.range.start = start) =
      locations.filter fun location => location.uri = group.uri ∧ location.range.start = start
  complete : (groups.flatMap Group.locations).Perm locations

theorem lossless_sortedGroups
    (locations : List Location) :
    Lossless locations (sortedGroups locations) := by
  have files : (sortedGroups locations).map Group.uri =
      (locations.map Location.uri).eraseDups := by
    rw [sortedGroups, groups_eq_map_inFile, List.map_map, List.map_map]
    exact List.map_id _
  refine ⟨files, ?_, ?_, ?_, ?_⟩
  · rw [files]
    exact nodup_eraseDups _
  · intro group member
    obtain ⟨unsorted, _, rfl⟩ := List.mem_map.1 member
    exact pairwise_sortByStart unsorted.locations
  · intro group member start
    rw [sortedGroups, groups_eq_map_inFile, List.map_map] at member
    obtain ⟨uri, _, rfl⟩ := List.mem_map.1 member
    change (sortByStart (inFile locations uri).locations).filter _ =
      locations.filter fun location => location.uri = uri ∧ location.range.start = start
    rw [filter_sortByStart, inFile, List.filter_filter]
    apply List.filter_congr
    intro location _
    simp [and_comm]
  · rw [sortedGroups, List.flatMap_map]
    refine List.Perm.trans ?_ (perm_groups locations)
    exact List.Perm.flatMap_left _ fun group _ => perm_sortByStart group.locations

/-- No two references of one file start at the same place. -/
def StartsApart (locations : List Location) : Prop :=
  locations.Pairwise fun left right => left.uri = right.uri → left.range.start ≠ right.range.start

theorem sortByStart_eq_sortByStart
    {left right : List Location} (permuted : left.Perm right)
    (apart : right.Pairwise fun first second => first.range.start ≠ second.range.start) :
    sortByStart left = sortByStart right := by
  have sortedApart : (sortByStart right).Pairwise fun first second =>
      first.range.start ≠ second.range.start :=
    (perm_sortByStart right).symm.pairwise apart Ne.symm
  refine sortByStart_eq_of_perm ?_ (permuted.trans (perm_sortByStart right).symm)
  refine ((pairwise_sortByStart right).and sortedApart).imp ?_
  rintro first second ⟨startsFirst, different⟩
  by_contra notBefore
  exact different
    (Position.eq_of_not_before notBefore ((Position.atOrBefore_iff_not_before _ _).1 startsFirst))

/-- With different starts in each file, only the order of the files makes a difference. -/
theorem inReadingOrder_eq_of_perm
    {left right : List Location} (permuted : left.Perm right)
    (sameFiles : (left.map Location.uri).eraseDups = (right.map Location.uri).eraseDups)
    (apart : StartsApart right) :
    inReadingOrder left = inReadingOrder right := by
  rw [inReadingOrder, inReadingOrder, groups_eq_map_inFile, groups_eq_map_inFile, sameFiles,
    List.flatMap_map, List.flatMap_map]
  congr 1
  funext uri
  apply sortByStart_eq_sortByStart (permuted.filter _)
  refine List.Pairwise.imp_of_mem ?_ (apart.filter _)
  intro first second firstMember secondMember different
  apply different
  rw [of_decide_eq_true (List.mem_filter.1 firstMember).2,
    of_decide_eq_true (List.mem_filter.1 secondMember).2]

end References

namespace Delegation

open Operation References

section SameOutlines

variable {left right : Host} (sameOutlines : left.documentSymbols = right.documentSymbols)
include sameOutlines

theorem symbolAt_eq_of_same_outlines
    (uri : Uri) (position : Position) :
    symbolAt left uri position = symbolAt right uri position := by
  rw [symbolAt, symbolAt, sameOutlines]

theorem resolve_eq_of_same_outlines
    (locations : List Location) :
    resolve left locations = resolve right locations := by
  induction locations with
  | nil => rfl
  | cons location rest inductionHypothesis =>
      rw [resolve, resolve, symbolAt_eq_of_same_outlines sameOutlines, inductionHypothesis]

end SameOutlines

/-- Let a host list references to an anchor, and another host with the same outlines list the same
references so that the files first appear in the same order. If no two references of one file start
at the same place, then both searches for callers ask the same questions, report the same and end in
the same way. This rests on groups that keep all references. -/
theorem incomingCalls_ignore_order_within_files
    {left right : Host} (sameOutlines : left.documentSymbols = right.documentSymbols)
    {anchor : ResolvedSymbol} {listed relisted : List Location}
    (leftListed : left.references anchor.uri anchor.selectionRange.start = .ok listed)
    (rightListed : right.references anchor.uri anchor.selectionRange.start = .ok relisted)
    (permuted : listed.Perm relisted)
    (sameFiles : (listed.map Location.uri).eraseDups = (relisted.map Location.uri).eraseDups)
    (apart : StartsApart relisted) :
    (∀ run, perform (incomingCalls left anchor) run = perform (incomingCalls right anchor) run) ∧
      ∀ references, inReadingOrder references = (sortedGroups references).flatMap Group.locations ∧
        Lossless references (sortedGroups references) := by
  constructor
  · intro run
    have sameOrder := inReadingOrder_eq_of_perm permuted sameFiles apart
    have bothEmpty : listed.isEmpty = relisted.isEmpty := permuted.isEmpty_eq
    have leftAsked := perform_ask_ok (.references anchor.uri anchor.selectionRange.start) listed run
    have rightAsked := perform_ask_ok (.references anchor.uri anchor.selectionRange.start) relisted
      run
    rw [← leftListed] at leftAsked
    rw [← rightListed] at rightAsked
    unfold incomingCalls
    dsimp only
    rw [perform_bind_of_ok leftAsked, perform_bind_of_ok rightAsked, bothEmpty, sameOrder,
      resolve_eq_of_same_outlines sameOutlines]
  · intro references
    exact ⟨inReadingOrder_eq_flatMap_sortedGroups references, lossless_sortedGroups references⟩

theorem shuffledReferences_order_is_ignored :
    let near : Uri := ⟨['a'], by decide⟩
    let far : Uri := ⟨['b'], by decide⟩
    let site (uri : Uri) (line : Nat) : Location := ⟨uri, .onLine line 1 2⟩
    let listed := [site near 6, site far 4, site near 0, site far 3, site near 4]
    let relisted := [site near 4, site near 0, site near 6, site far 3, site far 4]
    let anchor : ResolvedSymbol := ⟨near, linesSymbol 'i' 4 5 []⟩
    let run : Run QueryLog := .start [] true
    (twinHost listed).references anchor.uri anchor.selectionRange.start = .ok listed ∧
      listed ≠ relisted ∧ listed.Perm relisted ∧
      (listed.map Location.uri).eraseDups = (relisted.map Location.uri).eraseDups ∧
      StartsApart relisted ∧
      (perform (incomingCalls (twinHost relisted) anchor) run).2.state.length = 6 ∧
      perform (incomingCalls (twinHost listed) anchor) run =
        perform (incomingCalls (twinHost relisted) anchor) run ∧
      Lossless listed (sortedGroups listed) := by
  intro near far site listed relisted anchor run
  have permuted : listed.Perm relisted := by decide +kernel
  have sameFiles : (listed.map Location.uri).eraseDups = (relisted.map Location.uri).eraseDups := by
    decide +kernel
  have apart : StartsApart relisted := by
    unfold StartsApart
    decide +kernel
  have sameOutlines : (twinHost listed).documentSymbols = (twinHost relisted).documentSymbols := rfl
  obtain ⟨same, lossless⟩ :=
    @incomingCalls_ignore_order_within_files _ _ sameOutlines anchor _ _ rfl rfl permuted sameFiles
      apart
  exact ⟨rfl, by decide +kernel, permuted, sameFiles, apart, by decide +kernel, same run,
    (lossless listed).2⟩

end Delegation

end CallHierarchy
