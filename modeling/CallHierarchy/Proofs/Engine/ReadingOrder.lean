import CallHierarchy.Engine.References
import CallHierarchy.Proofs.Document.Lines
import CallHierarchy.Proofs.FirstSeen
import Mathlib.Data.List.Pairwise

/-!
Reading order. References are read file by file, in the order in which the files first appear, and
those of one file are sorted stably by their starts. So references of one file that start at
different places are read in one order only, however they were listed.
-/

namespace CallHierarchy.References

def StartsFirst (left right : Location) : Prop :=
  left.range.start.atOrBefore right.range.start = true

theorem startsFirst_trans
    (first second third : Location)
    (firstSecond : StartsFirst first second) (secondThird : StartsFirst second third) :
    StartsFirst first third := by
  unfold StartsFirst at *
  rw [Position.atOrBefore_iff_not_before] at *
  unfold Position.Before at *
  omega

theorem startsFirst_or_startsFirst
    (left right : Location) :
    (left.range.start.atOrBefore right.range.start ||
      right.range.start.atOrBefore left.range.start) = true := by
  rw [Bool.or_eq_true, Position.atOrBefore_iff_not_before, Position.atOrBefore_iff_not_before]
  unfold Position.Before
  omega

theorem insertByStart_append
    {location : Location} {before behind : List Location}
    (passed : ∀ other ∈ before, location.range.start.atOrBefore other.range.start = false)
    (stopped : ∀ other ∈ behind.head?, StartsFirst location other) :
    insertByStart location (before ++ behind) = before ++ location :: behind := by
  induction before with
  | nil =>
      cases behind with
      | nil => rfl
      | cons first rest => exact if_pos (stopped first rfl)
  | cons first rest inductionHypothesis =>
      obtain ⟨firstPassed, restPassed⟩ := List.forall_mem_cons.1 passed
      rw [List.cons_append, insertByStart, firstPassed, if_neg Bool.false_ne_true,
        inductionHypothesis restPassed, List.cons_append]

/-- Sorting is stable: insertion puts a reference in front of those that start where it does. -/
theorem sortByStart_eq_mergeSort
    (locations : List Location) :
    sortByStart locations =
      locations.mergeSort fun left right => left.range.start.atOrBefore right.range.start := by
  induction locations with
  | nil => rw [List.mergeSort_nil, sortByStart, List.foldr_nil]
  | cons first rest inductionHypothesis =>
      obtain ⟨before, behind, whole, withoutFirst, passed⟩ :=
        List.mergeSort_cons startsFirst_trans startsFirst_or_startsFirst first rest
      have sorted := List.pairwise_mergeSort startsFirst_trans startsFirst_or_startsFirst
        (first :: rest)
      rw [whole] at sorted
      have firstBefore := (List.pairwise_cons.1 (List.pairwise_append.1 sorted).2.1).1
      have step : sortByStart (first :: rest) = insertByStart first (sortByStart rest) := rfl
      rw [step, inductionHypothesis, whole, withoutFirst]
      refine insertByStart_append ?_ ?_
      · intro other member
        simpa using passed other member
      · intro other isHead
        exact firstBefore other (List.mem_of_head? isHead)

theorem perm_sortByStart
    (locations : List Location) :
    (sortByStart locations).Perm locations := by
  rw [sortByStart_eq_mergeSort]
  exact List.mergeSort_perm locations _

theorem pairwise_sortByStart
    (locations : List Location) :
    (sortByStart locations).Pairwise StartsFirst := by
  rw [sortByStart_eq_mergeSort]
  exact List.pairwise_mergeSort startsFirst_trans startsFirst_or_startsFirst locations

/-- Of all lists of the same references with different starts, one is sorted. -/
theorem sortByStart_eq_of_perm
    {references locations : List Location}
    (ordered : locations.Pairwise fun left right =>
      left.range.start.Before right.range.start)
    (permuted : references.Perm locations) :
    sortByStart references = locations := by
  have sameMembers := (perm_sortByStart references).trans permuted
  have sorted : locations.Pairwise StartsFirst :=
    ordered.imp fun before => before.atOrBefore
  refine List.Perm.eq_of_pairwise ?_ (pairwise_sortByStart references) sorted sameMembers
  intro left right leftMember rightMember leftFirst rightFirst
  by_contra different
  -- two different members of the ordered list start at different places, in one order or the other
  have apart : left.range.start.Before right.range.start ∨
      right.range.start.Before left.range.start := by
    have symmetric : Std.Symm fun first second : Location =>
        first.range.start.Before second.range.start ∨
          second.range.start.Before first.range.start := by
      constructor
      intro first second either
      exact either.symm
    have eitherOrder := ordered.imp fun {first second} before =>
      (Or.inl before : first.range.start.Before second.range.start ∨
        second.range.start.Before first.range.start)
    exact eitherOrder.forall (sameMembers.mem_iff.1 leftMember) rightMember different
  rcases apart with before | before
  · exact (Position.atOrBefore_iff_not_before _ _).1 rightFirst before
  · exact (Position.atOrBefore_iff_not_before _ _).1 leftFirst before

def inFile (locations : List Location) (uri : Uri) : Group :=
  ⟨uri, locations.filter fun location => location.uri = uri⟩

theorem inFile_concat_same
    (earlier : List Location) (location : Location) :
    inFile (earlier ++ [location]) location.uri =
      ⟨location.uri, (inFile earlier location.uri).locations ++ [location]⟩ := by
  simp [inFile]

theorem inFile_concat_other
    {location : Location} {uri : Uri} (other : uri ≠ location.uri) (earlier : List Location) :
    inFile (earlier ++ [location]) uri = inFile earlier uri := by
  simp [inFile, other.symm]

theorem map_inFile_concat
    {location : Location} {uris : List Uri} (isNew : location.uri ∉ uris)
    (earlier : List Location) :
    uris.map (inFile (earlier ++ [location])) = uris.map (inFile earlier) := by
  apply List.map_congr_left
  intro uri member
  exact inFile_concat_other (ne_of_mem_of_not_mem member isNew) earlier

theorem addToGroups_of_new
    {location : Location} {uris : List Uri} (isNew : location.uri ∉ uris)
    (earlier : List Location) :
    addToGroups (uris.map (inFile earlier)) location =
      uris.map (inFile (earlier ++ [location])) ++ [⟨location.uri, [location]⟩] := by
  induction uris with
  | nil => rfl
  | cons uri rest inductionHypothesis =>
      obtain ⟨other, restNew⟩ := not_or.1 (mt List.mem_cons.2 isNew)
      rw [List.map_cons, List.map_cons, inFile_concat_other (Ne.symm other), List.cons_append,
        ← inductionHypothesis restNew]
      exact if_neg (Ne.symm other)

theorem addToGroups_of_seen
    {location : Location} {uris : List Uri} (seen : location.uri ∈ uris)
    (distinct : uris.Nodup) (earlier : List Location) :
    addToGroups (uris.map (inFile earlier)) location =
      uris.map (inFile (earlier ++ [location])) := by
  induction uris with
  | nil => exact absurd seen List.not_mem_nil
  | cons uri rest inductionHypothesis =>
      obtain ⟨uriNotRest, restDistinct⟩ := List.nodup_cons.1 distinct
      rw [List.map_cons, List.map_cons]
      by_cases same : uri = location.uri
      · subst same
        rw [inFile_concat_same, map_inFile_concat uriNotRest]
        exact if_pos rfl
      · have seenInRest : location.uri ∈ rest :=
          (List.mem_cons.1 seen).resolve_left (Ne.symm same)
        rw [inFile_concat_other same, ← inductionHypothesis seenInRest restDistinct]
        exact if_neg same

/-- One group for each file, in the order in which the files first appear. -/
theorem groups_eq_map_inFile
    (locations : List Location) :
    groups locations = (locations.map Location.uri).eraseDups.map (inFile locations) := by
  induction locations using List.reverseRecOn with
  | nil => rfl
  | append_singleton earlier location inductionHypothesis =>
      have step : groups (earlier ++ [location]) = addToGroups (groups earlier) location :=
        List.foldl_concat addToGroups [] location earlier
      rw [step, inductionHypothesis, List.map_append, List.map_singleton, eraseDups_concat]
      split
      · rename_i seen
        exact addToGroups_of_seen (List.mem_eraseDups.2 seen) (nodup_eraseDups _) earlier
      · rename_i isNew
        have noneInFile : inFile earlier location.uri = ⟨location.uri, []⟩ := by
          rw [inFile, List.filter_eq_nil_iff.2]
          intro other member
          have otherUri : other.uri ≠ location.uri :=
            ne_of_mem_of_not_mem (List.mem_map_of_mem member) isNew
          simpa using otherUri
        rw [addToGroups_of_new (mt List.mem_eraseDups.1 isNew), List.map_append,
          List.map_singleton, inFile_concat_same, noneInFile]
        rfl

/-- The references file by file, in the order in which the files first appear, those of each file
in a stable order by start. -/
def byFile (locations : List Location) : List Location :=
  (locations.map Location.uri).eraseDups.flatMap fun uri =>
    (locations.filter fun location => location.uri = uri).mergeSort fun left right =>
      left.range.start.atOrBefore right.range.start

/-- Grouping and insertion read the references by file, and stably by start in each file. -/
theorem inReadingOrder_eq_byFile
    (locations : List Location) :
    inReadingOrder locations = byFile locations := by
  rw [inReadingOrder, groups_eq_map_inFile, List.flatMap_map, byFile]
  congr 1
  funext uri
  exact sortByStart_eq_mergeSort _

theorem mem_inReadingOrder
    {location : Location} {locations : List Location} :
    location ∈ inReadingOrder locations ↔ location ∈ locations := by
  rw [inReadingOrder_eq_byFile, byFile]
  simp only [List.mem_flatMap, List.mem_eraseDups, List.mem_map, List.mem_mergeSort,
    List.mem_filter, decide_eq_true_eq]
  constructor
  · rintro ⟨_, _, member, _⟩
    exact member
  · intro member
    exact ⟨location.uri, ⟨location, member, rfl⟩, member, rfl⟩

theorem inReadingOrder_of_same_uri
    {uri : Uri} {locations : List Location}
    (sameUri : ∀ location ∈ locations, location.uri = uri) :
    inReadingOrder locations = sortByStart locations := by
  cases locations with
  | nil => rfl
  | cons first rest =>
      obtain ⟨rfl, restUri⟩ := List.forall_mem_cons.1 sameUri
      have noOther : ((rest.map Location.uri).filter fun uri => !uri == first.uri) = [] := by
        rw [List.filter_eq_nil_iff]
        simpa using restUri
      have oneFile : ((first :: rest).map Location.uri).eraseDups = [first.uri] := by
        rw [List.map_cons, List.eraseDups_cons, noOther, List.eraseDups_nil]
      have allInFile : inFile (first :: rest) first.uri = ⟨first.uri, first :: rest⟩ := by
        simpa [inFile] using restUri
      rw [inReadingOrder, groups_eq_map_inFile, oneFile, List.map_singleton, allInFile,
        List.flatMap_singleton]

end CallHierarchy.References
