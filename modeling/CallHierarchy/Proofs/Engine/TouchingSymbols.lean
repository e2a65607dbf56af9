import CallHierarchy.Proofs.Document.Lines
import CallHierarchy.Proofs.Engine.HiddenSymbols

/-!
Symbols that touch. A symbol contains the place where it ends, so where one symbol ends and another
starts, both are around the position, and the walk stays with the one that is listed first. In an
outline whose symbols touch but do not overlap, a symbol is found at its start unless a sibling that
ends there is listed before it, or before a symbol around it; then one that ends there is found.
-/

namespace CallHierarchy

namespace Range

/-- Whether nothing lies in the range when its end is left out. -/
def isEmpty (range : Range) : Bool :=
  range.finish.atOrBefore range.start

/-- Whether two ranges have nothing in common when their ends are left out. -/
def isApart (left right : Range) : Bool :=
  left.finish.atOrBefore right.start || right.finish.atOrBefore left.start

theorem isEmpty_eq_false_iff
    {range : Range} :
    range.isEmpty = false ↔ range.start.Before range.finish := by
  rw [Bool.eq_false_iff, isEmpty, ne_eq, Position.atOrBefore_iff_not_before, not_not]

theorem isApart_iff
    {left right : Range} :
    left.isApart right = true ↔
      ¬ right.start.Before left.finish ∨ ¬ left.start.Before right.finish := by
  rw [isApart, Bool.or_eq_true, Position.atOrBefore_iff_not_before,
    Position.atOrBefore_iff_not_before]

theorem contains_iff
    {range : Range} {position : Position} :
    range.contains position = true ↔
      ¬ position.Before range.start ∧ ¬ range.finish.Before position := by
  rw [contains, Bool.and_eq_true, Position.atOrBefore_iff_not_before,
    Position.atOrBefore_iff_not_before]

theorem encloses_iff
    {outer inner : Range} :
    outer.encloses inner = true ↔
      (¬inner.start.Before outer.start ∧ ¬outer.finish.Before inner.start) ∧
        ¬inner.finish.Before outer.start ∧ ¬outer.finish.Before inner.finish := by
  rw [encloses, Bool.and_eq_true, contains_iff, contains_iff]

theorem contains_start
    {range : Range} (nonempty : range.isEmpty = false) :
    range.contains range.start = true := by
  rw [isEmpty_eq_false_iff] at nonempty
  rw [contains_iff]
  unfold Position.Before at *
  omega

theorem contains_finish
    {range : Range} (nonempty : range.isEmpty = false) :
    range.contains range.finish = true := by
  rw [isEmpty_eq_false_iff] at nonempty
  rw [contains_iff]
  unfold Position.Before at *
  omega

theorem isApart_comm
    (left right : Range) :
    left.isApart right = right.isApart left :=
  Bool.or_comm _ _

section Touching

variable {outer inner other : Range}

/-- What contains the start of a range, but is apart from a range around it, ends there. -/
theorem finish_eq_of_isApart
    (encloses : outer.encloses inner = true) (nonempty : inner.isEmpty = false)
    (apart : outer.isApart other = true) (inside : other.contains inner.start = true) :
    other.finish = inner.start := by
  rw [encloses_iff] at encloses
  rw [isEmpty_eq_false_iff] at nonempty
  rw [isApart_iff] at apart
  rw [contains_iff] at inside
  apply Position.eq_of_not_before <;> unfold Position.Before at * <;> omega

theorem not_encloses_of_finish_eq
    (nonempty : other.isEmpty = false) (touches : other.finish = inner.start) :
    inner.encloses other = false := by
  rw [isEmpty_eq_false_iff, touches] at nonempty
  rw [Bool.eq_false_iff, ne_eq, encloses_iff, not_and_or, not_and_or, not_not]
  exact Or.inl (Or.inl nonempty)

theorem start_eq_of_encloses
    (encloses : outer.encloses inner = true) (inside : inner.contains outer.start = true) :
    inner.start = outer.start := by
  rw [encloses_iff] at encloses
  rw [contains_iff] at inside
  exact Position.eq_of_not_before encloses.1.1 inside.1

theorem finish_eq_of_encloses
    (encloses : outer.encloses inner = true) (inside : inner.contains outer.finish = true) :
    inner.finish = outer.finish := by
  rw [encloses_iff] at encloses
  rw [contains_iff] at inside
  exact Position.eq_of_not_before inside.2 encloses.2.2

end Touching

end Range

namespace Symbol

/-! ## Outlines that may touch -/

/-- An outline without variables: ranges are not empty, lie within the ones around them, and those
of siblings have nothing in common but ends. -/
structure Tiled (outline : List Symbol) : Prop where
  wellNested : WellNested outline
  noVariable : ∀ siblings, SiblingsIn outline siblings → ∀ symbol ∈ siblings,
    symbol.isVariable = false
  nonempty : ∀ siblings, SiblingsIn outline siblings → ∀ symbol ∈ siblings,
    symbol.range.isEmpty = false
  apart : ∀ siblings, SiblingsIn outline siblings →
    siblings.Pairwise fun left right => left.range.isApart right.range = true

/-- A sibling that ends at the position is listed before some symbol of the path. -/
def EndsBefore (position : Position) : (symbols path : List Symbol) → Prop
  | _, [] => False
  | symbols, first :: rest =>
      (∃ other, [other, first].Sublist symbols ∧ other.range.finish = position) ∨
        EndsBefore position first.nested rest

instance decidableEndsBefore
    (position : Position) :
    (symbols path : List Symbol) → Decidable (EndsBefore position symbols path)
  | _, [] => .isFalse id
  | symbols, first :: rest =>
      have := decidableEndsBefore position first.nested rest
      have listed : (∃ other ∈ symbols,
            [other, first].Sublist symbols ∧ other.range.finish = position) ↔
          ∃ other, [other, first].Sublist symbols ∧ other.range.finish = position :=
        exists_congr fun _ => and_iff_right_of_imp fun ends => ends.1.subset List.mem_cons_self
      decidable_of_iff _ (or_congr_left listed)

section Tiled

variable {outline : List Symbol} {symbol : Symbol}

theorem Tiled.nested
    (tiled : Tiled outline) (member : symbol ∈ outline) :
    Tiled symbol.nested where
  wellNested := tiled.wellNested.nested member
  noVariable siblings level := tiled.noVariable siblings (level.of_nested member)
  nonempty siblings level := tiled.nonempty siblings (level.of_nested member)
  apart siblings level := tiled.apart siblings (level.of_nested member)

/-- A sibling of a symbol contains the start of what lies in the symbol only if it ends there. -/
theorem Tiled.finish_eq_of_sibling
    (tiled : Tiled outline) {first other : Symbol}
    (listed : [other, first].Sublist outline ∨ [first, other].Sublist outline)
    (encloses : first.range.encloses symbol.range = true)
    (nonempty : symbol.range.isEmpty = false)
    (inside : other.range.contains symbol.range.start = true) :
    other.range.finish = symbol.range.start := by
  apply Range.finish_eq_of_isApart encloses nonempty ?_ inside
  cases listed with
  | inl before =>
      rw [Range.isApart_comm]
      exact List.pairwise_iff_forall_sublist.1 (tiled.apart outline .top) before
  | inr after => exact List.pairwise_iff_forall_sublist.1 (tiled.apart outline .top) after

theorem Tiled.nonempty_of_path
    (tiled : Tiled outline) {path : List Symbol} (isPath : IsPath outline path)
    (last : path.getLast? = some symbol) :
    symbol.range.isEmpty = false := by
  obtain ⟨siblings, level, member⟩ := isPath.exists_siblings last
  exact tiled.nonempty siblings level symbol member

theorem Tiled.encloses_of_path
    (tiled : Tiled outline) {path : List Symbol} (isPath : IsPath outline path)
    (last : path.getLast? = some symbol) :
    ∀ outer ∈ path, outer.range.encloses symbol.range = true := by
  have nonempty := tiled.nonempty_of_path isPath last
  have startInside := tiled.wellNested.contains_of_path isPath last (Range.contains_start nonempty)
  have finishInside :=
    tiled.wellNested.contains_of_path isPath last (Range.contains_finish nonempty)
  intro outer member
  rw [Range.encloses, Bool.and_eq_true]
  exact ⟨startInside outer member, finishInside outer member⟩

end Tiled

section Walk

variable {position : Position} {symbols : List Symbol} {best : Option Symbol}

/-- Once the walk has a symbol that ends at the position, it does not leave such symbols. -/
theorem exists_finish_of_best
    {symbol : Symbol} (ends : symbol.range.finish = position) :
    ∃ found, enclosingFrom position symbols (some symbol) = some found ∧
      found.range.finish = position := by
  -- the walk moves only to what is within the best symbol and contains the position
  have walked := walked_enclosingFrom position symbols (some symbol)
  generalize enclosingFrom position symbols (some symbol) = result at walked
  cases walked with
  | kept _ => exact ⟨symbol, rfl, ends⟩
  | @moved path found leads within =>
      have inside := (isAround_iff.1 (leads.around found leads.mem)).2
      have encloses := within symbol rfl found leads.mem
      rw [← ends] at inside ⊢
      exact ⟨found, rfl, Range.finish_eq_of_encloses encloses inside⟩

/-- Among symbols that end at the position if they contain it, one that ends there is found. -/
theorem exists_finish_of_taken
    (endThere : ∀ symbol ∈ symbols, symbol.range.contains position = true →
      symbol.range.finish = position)
    {symbol : Symbol} (member : symbol ∈ symbols) (taken : Taken position symbol.info best) :
    ∃ found, enclosingFrom position symbols best = some found ∧
      found.range.finish = position := by
  have walked := walked_enclosingFrom position symbols best
  generalize enclosingFrom position symbols best = result at walked
  cases walked with
  | kept noneTaken => exact absurd taken (noneTaken symbol member)
  | @moved path found leads _ =>
      have inside := (isAround_iff.1 (leads.around found leads.mem)).2
      cases path with
      | nil => simpa using leads.last
      | cons top rest =>
          have topAround := leads.around top List.mem_cons_self
          have topEnds := endThere top leads.isPath.1 (isAround_iff.1 topAround).2
          have encloses := leads.encloses (List.mem_cons_self : top ∈ top :: rest)
          rw [← topEnds] at inside ⊢
          exact ⟨found, rfl, Range.finish_eq_of_encloses encloses inside⟩

end Walk

/-! ## The start of a symbol -/

/-- What the walk to the start of a symbol finds: the symbol, or one that ends there. -/
inductive FoundAtStart (symbol : Symbol) (outline path : List Symbol) : Symbol → Prop
  | itself (noneBefore : ¬EndsBefore symbol.range.start outline path) :
      FoundAtStart symbol outline path symbol
  | touching {found : Symbol} (before : EndsBefore symbol.range.start outline path)
      (ends : found.range.finish = symbol.range.start) : FoundAtStart symbol outline path found

section Start

variable {outline path : List Symbol} {symbol : Symbol} {best : Option Symbol}

/-- At the start of a symbol the walk stays with it if no child starts there. -/
theorem enclosingFrom_nested_start
    (wellNested : ∀ child ∈ symbol.nested, symbol.range.encloses child.range = true)
    (noneAtStart : ∀ child ∈ symbol.nested, child.range.start ≠ symbol.range.start) :
    enclosingFrom symbol.range.start symbol.nested (some symbol) = some symbol := by
  apply enclosingFrom_of_none_taken
  intro child member taken
  exact noneAtStart child member
    (Range.start_eq_of_encloses (wellNested child member) taken.inside)

theorem Tiled.taken
    (tiled : Tiled outline) {position : Position} {other : Symbol} (member : other ∈ outline)
    (inside : other.range.contains position = true)
    (withinBest : ∀ outer ∈ best, outer.range.encloses other.range = true) :
    Taken position other.info best :=
  taken_iff.2 ⟨isAround_iff.2 ⟨tiled.noVariable outline .top other member, inside⟩, withinBest⟩

section OneLevel

variable {first : Symbol} {before after : List Symbol}
variable (tiled : Tiled (before ++ first :: after))
variable (encloses : first.range.encloses symbol.range = true)
variable (nonempty : symbol.range.isEmpty = false)
include tiled encloses nonempty

/-- Where no sibling listed before ends there, the walk enters the symbol on the path. -/
theorem Tiled.enclosingFrom_enters
    (noneBefore : ∀ other ∈ before, other.range.finish ≠ symbol.range.start)
    (withinBest : ∀ outer ∈ best, outer.range.encloses first.range = true) :
    enclosingFrom symbol.range.start (before ++ first :: after) best =
      enclosingFrom symbol.range.start after
        (enclosingFrom symbol.range.start first.nested (some first)) := by
  have notTaken : ∀ other ∈ before, ¬Taken symbol.range.start other.info best := by
    intro other member taken
    have listed : [other, first].Sublist (before ++ first :: after) :=
      (List.singleton_sublist.2 member).append (by simp)
    exact noneBefore other member
      (tiled.finish_eq_of_sibling (.inl listed) encloses nonempty taken.inside)
  have inside := covers_of_encloses encloses _ (Range.contains_start nonempty)
  have taken : Taken symbol.range.start first.info best := tiled.taken (by simp) inside withinBest
  rw [enclosingFrom_append, enclosingFrom_of_none_taken notTaken, enclosingFrom,
    enclosingStep_eq_nested taken]

/-- The walk does not leave a symbol for what follows it, or follows one around it. -/
theorem Tiled.enclosingFrom_after :
    enclosingFrom symbol.range.start after (some symbol) = some symbol := by
  apply enclosingFrom_of_none_taken
  intro other member taken
  have listed : [first, other].Sublist (before ++ first :: after) :=
    (List.cons_sublist_cons.2 (List.singleton_sublist.2 member)).trans
      (List.sublist_append_right before _)
  have ends := tiled.finish_eq_of_sibling (.inr listed) encloses nonempty taken.inside
  have otherNonempty := tiled.nonempty _ .top other (by simp [member])
  have notWithin := Range.not_encloses_of_finish_eq otherNonempty ends
  exact Bool.false_ne_true (notWithin.symm.trans (taken.nested symbol rfl))

end OneLevel

/-- If a sibling that ends where the symbol starts is listed before a symbol around it, the walk
stays with what ends there. -/
theorem Tiled.exists_touching
    (tiled : Tiled outline) {first other : Symbol} (listed : [other, first].Sublist outline)
    (ends : other.range.finish = symbol.range.start)
    (encloses : first.range.encloses symbol.range = true)
    (nonempty : symbol.range.isEmpty = false)
    (withinBest : ∀ outer ∈ best, ∀ inner ∈ outline, outer.range.encloses inner.range = true) :
    ∃ found, enclosingFrom symbol.range.start outline best = some found ∧
      found.range.finish = symbol.range.start := by
  have member : other ∈ outline := listed.subset List.mem_cons_self
  have inside := Range.contains_finish (tiled.nonempty outline .top other member)
  rw [ends] at inside
  have taken : Taken symbol.range.start other.info best :=
    tiled.taken member inside fun outer isBest => withinBest outer isBest other member
  obtain ⟨before, after, rfl, isBefore, firstListed⟩ := List.cons_sublist_iff.1 listed
  have endThere : ∀ earlier ∈ before, earlier.range.contains symbol.range.start = true →
      earlier.range.finish = symbol.range.start := by
    intro earlier earlierMember
    apply tiled.finish_eq_of_sibling (.inl ?_) encloses nonempty
    exact (List.singleton_sublist.2 earlierMember).append firstListed
  obtain ⟨middle, walkedBefore, middleEnds⟩ := exists_finish_of_taken endThere isBefore taken
  rw [enclosingFrom_append, walkedBefore]
  exact exists_finish_of_best middleEnds

/-- The walk to the start of a symbol comes to it by the path that leads there, unless something
that ends there is listed before the path. -/
theorem Tiled.exists_foundAtStart
    (tiled : Tiled outline) (isPath : IsPath outline path) (last : path.getLast? = some symbol)
    (noneAtStart : ∀ child ∈ symbol.nested, child.range.start ≠ symbol.range.start)
    (withinBest : ∀ outer ∈ best, ∀ inner ∈ outline, outer.range.encloses inner.range = true) :
    ∃ found, enclosingFrom symbol.range.start outline best = some found ∧
      FoundAtStart symbol outline path found := by
  -- on the way down, the best symbol is the one whose children are walked
  induction path generalizing outline best with
  | nil => simp at last
  | cons first rest inductionHypothesis =>
      have nonempty := tiled.nonempty_of_path isPath last
      have encloses := tiled.encloses_of_path isPath last first List.mem_cons_self
      by_cases earlier : ∃ other, [other, first].Sublist outline ∧
          other.range.finish = symbol.range.start
      · obtain ⟨other, listed, ends⟩ := earlier
        obtain ⟨found, walked, foundEnds⟩ :=
          tiled.exists_touching listed ends encloses nonempty withinBest
        exact ⟨found, walked, .touching (.inl ⟨other, listed, ends⟩) foundEnds⟩
      · have wellNested := tiled.wellNested outline .top first isPath.1
        have foundInside : ∃ found,
            enclosingFrom symbol.range.start first.nested (some first) = some found ∧
              FoundAtStart symbol first.nested rest found := by
          cases rest with
          | nil =>
              obtain rfl : first = symbol := by simpa using last
              exact ⟨first, enclosingFrom_nested_start wellNested noneAtStart, .itself id⟩
          | cons second more =>
              exact inductionHypothesis (tiled.nested isPath.1) isPath.2 (by simpa using last)
                (by simpa using wellNested)
        obtain ⟨inner, walkedInside, atStart⟩ := foundInside
        obtain ⟨before, after, rfl⟩ := List.append_of_mem isPath.1
        have noneBefore : ∀ other ∈ before, other.range.finish ≠ symbol.range.start := by
          intro other member ends
          exact earlier ⟨other, (List.singleton_sublist.2 member).append (by simp), ends⟩
        rw [tiled.enclosingFrom_enters encloses nonempty noneBefore
          fun outer isBest => withinBest outer isBest first isPath.1, walkedInside]
        cases atStart with
        | itself noneDeeper =>
            rw [tiled.enclosingFrom_after encloses nonempty]
            exact ⟨symbol, rfl, .itself (not_or.2 ⟨earlier, noneDeeper⟩)⟩
        | touching deeper ends =>
            obtain ⟨found, walkedAfter, foundEnds⟩ := exists_finish_of_best ends
            exact ⟨found, walkedAfter, .touching (.inr deeper) foundEnds⟩

theorem FoundAtStart.touches
    {found : Symbol} (atStart : FoundAtStart symbol outline path found)
    (before : EndsBefore symbol.range.start outline path) :
    found.range.finish = symbol.range.start := by
  cases atStart with
  | itself noneBefore => exact absurd before noneBefore
  | touching _ ends => exact ends

theorem FoundAtStart.eq_iff
    {found : Symbol} (atStart : FoundAtStart symbol outline path found)
    (nonempty : symbol.range.isEmpty = false) :
    found = symbol ↔ ¬EndsBefore symbol.range.start outline path := by
  cases atStart with
  | itself noneBefore => simp [noneBefore]
  | touching before ends =>
      refine ⟨?_, fun noneBefore => absurd before noneBefore⟩
      rintro rfl
      rw [Range.isEmpty_eq_false_iff, ends] at nonempty
      unfold Position.Before at nonempty
      omega

end Start

end Symbol

namespace Delegation

open Operation CallHierarchy.Symbol

/-- In an outline whose symbols touch but do not overlap, a symbol that does not share its start
with a child is found there exactly when no sibling that ends there is listed before it or before a
symbol around it. Else a symbol that ends there is found. A definition at the start of the symbol is
resolved in the same way. -/
theorem symbolAt_start_finds_symbol_unless_another_ends_there
    {host : Host} {uri : Uri} {outline path : List Symbol} {symbol : Symbol}
    (answered : host.documentSymbols uri = .ok outline) (tiled : Tiled outline)
    (isPath : IsPath outline path) (last : path.getLast? = some symbol)
    (noneAtStart : ∀ child ∈ symbol.nested, child.range.start ≠ symbol.range.start) :
    ∃ found,
      (∀ run, ∃ after,
        perform (symbolAt host uri symbol.range.start) run = (.ok (some ⟨uri, found⟩), after)) ∧
        (∀ source position definition others,
          host.definitions source position = .ok (definition :: others) →
            definition.uri = uri → definition.range.start = symbol.range.start →
              ∀ run, ∃ after,
                perform (prepare host source position) run =
                  (.ok (some ⟨uri, found⟩), after)) ∧
        (found = symbol ↔ ¬EndsBefore symbol.range.start outline path) ∧
        (EndsBefore symbol.range.start outline path →
          found.range.finish = symbol.range.start) := by
  obtain ⟨found, walked, atStart⟩ :=
    tiled.exists_foundAtStart isPath last noneAtStart (by simp : ∀ outer ∈ none, _)
  have performed : ∀ run, ∃ after,
      perform (symbolAt host uri symbol.range.start) run = (.ok (some ⟨uri, found⟩), after) := by
    intro run
    obtain ⟨after, performed⟩ := perform_symbolAt answered symbol.range.start run
    rw [enclosing?, walked] at performed
    exact ⟨after, performed⟩
  refine ⟨found, performed, ?_, atStart.eq_iff (tiled.nonempty_of_path isPath last),
    atStart.touches⟩
  intro source position definition others defined sameUri sameStart run
  rw [perform_prepare defined, sameUri, sameStart]
  exact performed _

def functionOnLines (first last : Nat) (children : List Symbol) : Symbol :=
  .mk
    { name := []
      detail := none
      kind := .function
      tags := none
      deprecated := none
      range := ⟨⟨first, 0⟩, ⟨last, 0⟩⟩
      selectionRange := .onLine first 0 1 }
    (some children)

def definingHost (definition : Location) (outline : List Symbol) : Host :=
  { outlineHost outline with definitions := fun _ _ => .ok [definition] }

/-- The first symbol of a function that touches the one above it and is listed before it. -/
def firstInside : Symbol :=
  functionOnLines 5 7 []

def lowerFunction : Symbol :=
  functionOnLines 5 9 [firstInside, functionOnLines 7 9 []]

def lowerListedFirst : List Symbol :=
  [functionOnLines 0 9 [lowerFunction, functionOnLines 2 5 []]]

theorem lowerListedFirst_start_finds_symbol :
    let start : Position := ⟨5, 0⟩
    let uri : Uri := ⟨['a'], Eq.refl true⟩
    let host := definingHost ⟨uri, ⟨start, start⟩⟩ lowerListedFirst
    let path := lowerListedFirst ++ [lowerFunction, firstInside]
    Tiled lowerListedFirst ∧ IsPath lowerListedFirst path ∧
      ¬EndsBefore start lowerListedFirst path ∧
      (∀ run, ∃ after,
        perform (symbolAt host uri start) run = (.ok (some ⟨uri, firstInside⟩), after)) ∧
      (∀ run, ∃ after,
        perform (prepare host uri ⟨0, 0⟩) run = (.ok (some ⟨uri, firstInside⟩), after)) := by
  intro start uri host path
  have everyLevel {property : List Symbol → Prop} :=
    @forall_siblings lowerListedFirst property
      [lowerListedFirst, lowerListedFirst.flatMap nested, lowerFunction.nested, []]
      (by decide +kernel) (by decide +kernel)
  have tiled : Tiled lowerListedFirst :=
    { wellNested := everyLevel (by decide +kernel)
      noVariable := everyLevel (by decide +kernel)
      nonempty := everyLevel (by decide +kernel)
      apart := everyLevel (by decide +kernel) }
  have isPath : IsPath lowerListedFirst path :=
    ⟨by decide +kernel, by decide +kernel, by decide +kernel, trivial⟩
  have noneBefore : ¬EndsBefore start lowerListedFirst path := by decide +kernel
  have answered : host.documentSymbols uri = .ok lowerListedFirst := rfl
  have defined : host.definitions uri ⟨0, 0⟩ = .ok [⟨uri, ⟨start, start⟩⟩] := rfl
  obtain ⟨found, performed, prepared, isSymbol, _⟩ :=
    symbolAt_start_finds_symbol_unless_another_ends_there answered tiled isPath
      (rfl : path.getLast? = some firstInside) (by decide +kernel)
  obtain rfl : found = firstInside := isSymbol.2 noneBefore
  exact ⟨tiled, isPath, noneBefore, performed, prepared uri ⟨0, 0⟩ _ [] defined rfl rfl⟩

/-- Where one function ends and the next one starts, the one listed first is found. -/
theorem earlier_symbol_hides_start_of_next :
    let first := functionOnLines 0 5 []
    let next := functionOnLines 5 9 []
    let uri : Uri := ⟨['a'], Eq.refl true⟩
    let host := definingHost ⟨uri, next.range⟩ [first, next]
    Tiled [first, next] ∧ IsPath [first, next] [next] ∧ next.nested = [] ∧
      (perform (symbolAt host uri next.range.start) (.start [] false)).1 =
        .ok (some ⟨uri, first⟩) ∧
      (perform (prepare host uri next.range.start) (.start [] false)).1 =
        .ok (some ⟨uri, first⟩) ∧
      first ≠ next := by
  intro first next uri host
  have everyLevel {property : List Symbol → Prop} :=
    @forall_siblings [first, next] property [[first, next], []]
      (by decide +kernel) (by decide +kernel)
  have tiled : Tiled [first, next] :=
    { wellNested := everyLevel (by decide +kernel)
      noVariable := everyLevel (by decide +kernel)
      nonempty := everyLevel (by decide +kernel)
      apart := everyLevel (by decide +kernel) }
  exact ⟨tiled, ⟨by decide +kernel, trivial⟩, rfl, by decide +kernel, by decide +kernel,
    by decide +kernel⟩

end Delegation

end CallHierarchy
