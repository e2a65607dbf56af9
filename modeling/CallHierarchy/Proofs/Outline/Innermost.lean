import CallHierarchy.Proofs.Outline.Enclosing
import Mathlib.Data.List.Infix

/-!
What the walk over an outline finds. It ends with a symbol that it has reached along a path of
symbols around the position, each nested in the one before, and in whose children it could not go
on; or it ends with nothing, because nothing at the top is around the position. Where ranges nest
and siblings do not share the position, there is only one such path, so the symbol found lies within
every other symbol around the position that can be reached without passing through a variable.
-/

namespace CallHierarchy

namespace Range

theorem encloses_trans
    {outer middle inner : Range} (outerEncloses : outer.encloses middle = true)
    (middleEncloses : middle.encloses inner = true) :
    outer.encloses inner = true := by
  rw [encloses, Bool.and_eq_true] at middleEncloses ⊢
  exact ⟨Symbol.covers_of_encloses outerEncloses _ middleEncloses.1,
    Symbol.covers_of_encloses outerEncloses _ middleEncloses.2⟩

theorem encloses_self
    {range : Range} {position : Position} (inside : range.contains position = true) :
    range.encloses range = true := by
  simp only [encloses, contains, Position.atOrBefore, Bool.and_eq_true, Bool.or_eq_true,
    decide_eq_true_eq, beq_iff_eq, true_and] at inside ⊢
  omega

end Range

namespace Symbol

def nested (symbol : Symbol) : List Symbol :=
  symbol.children.getD []

def isVariable (symbol : Symbol) : Bool :=
  symbol.info.kind = .variableKind

/-- Whether a symbol is around a position and may be found there. -/
def isAround (position : Position) (symbol : Symbol) : Bool :=
  !symbol.isVariable && symbol.range.contains position

theorem isAround_iff
    {position : Position} {symbol : Symbol} :
    symbol.isAround position = true ↔
      symbol.isVariable = false ∧ symbol.range.contains position = true := by
  simp [isAround]

theorem taken_iff
    {position : Position} {symbol : Symbol} {best : Option Symbol} :
    Taken position symbol.info best ↔
      symbol.isAround position = true ∧
        ∀ outer ∈ best, outer.range.encloses symbol.range = true := by
  constructor
  · intro taken
    refine ⟨isAround_iff.2 ⟨?_, taken.inside⟩, taken.nested⟩
    exact decide_eq_false taken.notVariable
  · intro known
    obtain ⟨notVariable, inside⟩ := isAround_iff.1 known.1
    exact ⟨of_decide_eq_false notVariable, inside, known.2⟩

theorem enclosingStep_eq_nested
    {position : Position} {symbol : Symbol} {best : Option Symbol}
    (taken : Taken position symbol.info best) :
    enclosingStep position symbol best =
      enclosingFrom position symbol.nested (some symbol) := by
  cases symbol with
  | mk info children =>
      have infoTaken : Taken position info best := taken
      rw [enclosingStep_of_taken infoTaken]
      cases children with
      | none => simp [enclosingChildren, nested, Symbol.children, enclosingFrom]
      | some _ => simp [enclosingChildren, nested, Symbol.children]

/-- The symbols of the second list lead down from the first one: each is directly inside the one
before it, and the first is one of the given symbols. -/
def IsPath : List Symbol → List Symbol → Prop
  | _, [] => True
  | symbols, first :: rest => first ∈ symbols ∧ IsPath first.nested rest

theorem IsPath.mono
    {symbols more path : List Symbol} (isPath : IsPath symbols path) (subset : symbols ⊆ more) :
    IsPath more path := by
  cases path with
  | nil => trivial
  | cons first rest => exact ⟨subset isPath.1, isPath.2⟩

/-- How the walk gets from some symbols to the one that it ends with. -/
structure Leads (position : Position) (symbols path : List Symbol) (found : Symbol) : Prop where
  isPath : IsPath symbols path
  last : path.getLast? = some found
  /-- No symbol on the way is a variable, and all contain the position. -/
  around : ∀ symbol ∈ path, symbol.isAround position = true
  /-- Each symbol on the way encloses those that follow. -/
  nested : path.Pairwise fun outer inner => outer.range.encloses inner.range = true
  /-- No symbol directly inside the last one is around the position and within its range. -/
  innermost : ∀ child ∈ found.nested, child.isAround position = true →
    found.range.encloses child.range = false

section Leads

variable {position : Position} {symbols path : List Symbol} {found : Symbol}

theorem Leads.mem (leads : Leads position symbols path found) : found ∈ path :=
  List.mem_of_getLast? leads.last

theorem Leads.mono
    (leads : Leads position symbols path found) {more : List Symbol} (subset : symbols ⊆ more) :
    Leads position more path found :=
  { leads with isPath := leads.isPath.mono subset }

theorem Leads.encloses
    (leads : Leads position symbols path found) {symbol : Symbol} (member : symbol ∈ path) :
    symbol.range.encloses found.range = true := by
  obtain ⟨before, rfl⟩ := List.getLast?_eq_some_iff.1 leads.last
  rcases List.mem_append.1 member with isBefore | isLast
  · exact (List.pairwise_append.1 leads.nested).2.2 symbol isBefore found List.mem_cons_self
  · rw [List.mem_singleton.1 isLast]
    exact Range.encloses_self (isAround_iff.1 (leads.around found leads.mem)).2

end Leads

/-! ## The walk -/

/-- What a walk over some symbols can do: keep the best symbol because it can take none of them, or
end with one that it has reached from them, everything on the way being within the best symbol. -/
inductive Walked (position : Position) (symbols : List Symbol) (best : Option Symbol) :
    Option Symbol → Prop
  | kept (noneTaken : ∀ symbol ∈ symbols, ¬Taken position symbol.info best) :
      Walked position symbols best best
  | moved {path : List Symbol} {found : Symbol} (leads : Leads position symbols path found)
      (within : ∀ outer ∈ best, ∀ symbol ∈ path, outer.range.encloses symbol.range = true) :
      Walked position symbols best (some found)

section Walked

variable {position : Position} {best middle result : Option Symbol}

theorem Walked.cons
    {first : Symbol} {rest : List Symbol} (firstWalked : Walked position [first] best middle)
    (restWalked : Walked position rest middle result) :
    Walked position (first :: rest) best result := by
  have firstSubset : [first] ⊆ first :: rest := by simp
  have restSubset : rest ⊆ first :: rest := List.subset_cons_self first rest
  cases firstWalked with
  | kept firstNotTaken =>
      cases restWalked with
      | kept restNotTaken =>
          refine .kept (List.forall_mem_cons.2 ⟨?_, restNotTaken⟩)
          exact firstNotTaken first List.mem_cons_self
      | moved leads within => exact .moved (leads.mono restSubset) within
  | moved leads within =>
      cases restWalked with
      | kept _ => exact .moved (leads.mono firstSubset) within
      | moved laterLeads laterWithin =>
          -- the later symbols are within the one found first, and that one is within the best
          refine .moved (laterLeads.mono restSubset) ?_
          intro outer isBest symbol member
          exact Range.encloses_trans (within outer isBest _ leads.mem)
            (laterWithin _ rfl symbol member)

/-- The walk goes on inside a symbol that it takes. -/
theorem Walked.inside
    {symbol : Symbol} (taken : Taken position symbol.info best)
    (walked : Walked position symbol.nested (some symbol) result) :
    Walked position [symbol] best result := by
  obtain ⟨around, withinBest⟩ := taken_iff.1 taken
  cases walked with
  | kept noneTaken =>
      have leads : Leads position [symbol] [symbol] symbol :=
        { isPath := ⟨List.mem_cons_self, trivial⟩
          last := rfl
          around := by simpa using around
          nested := List.pairwise_singleton _ symbol
          innermost := by
            intro child member childAround
            rw [Bool.eq_false_iff]
            intro encloses
            apply noneTaken child member
            rw [taken_iff]
            exact ⟨childAround, by simpa using encloses⟩ }
      exact .moved leads (by simpa using withinBest)
  | @moved path found leads within =>
      have withinSymbol := within symbol rfl
      have longer : Leads position [symbol] (symbol :: path) found :=
        { isPath := ⟨List.mem_cons_self, leads.isPath⟩
          last := by rw [List.getLast?_cons, leads.last, Option.getD_some]
          around := List.forall_mem_cons.2 ⟨around, leads.around⟩
          nested := List.pairwise_cons.2 ⟨withinSymbol, leads.nested⟩
          innermost := leads.innermost }
      refine .moved longer ?_
      intro outer isBest
      refine List.forall_mem_cons.2 ⟨withinBest outer isBest, ?_⟩
      intro inner member
      exact Range.encloses_trans (withinBest outer isBest) (withinSymbol inner member)

end Walked

-- one lemma for each function of the walk, by the recursion of the walk itself
mutual

/-- The search over a list of symbols is a walk over them. -/
theorem walked_enclosingFrom
    (position : Position) (symbols : List Symbol) (best : Option Symbol) :
    Walked position symbols best (enclosingFrom position symbols best) := by
  cases symbols with
  | nil =>
      rw [enclosingFrom]
      exact .kept (by simp)
  | cons first rest =>
      rw [enclosingFrom]
      exact (walked_enclosingStep position first best).cons (walked_enclosingFrom position rest _)

theorem walked_enclosingStep
    (position : Position) (symbol : Symbol) (best : Option Symbol) :
    Walked position [symbol] best (enclosingStep position symbol best) := by
  cases symbol with
  | mk info children =>
      by_cases taken : Taken position info best
      · rw [enclosingStep_of_taken taken]
        apply Walked.inside taken
        exact walked_enclosingChildren position children (some (mk info children))
      · rw [enclosingStep_of_not_taken taken]
        apply Walked.kept
        rw [List.forall_mem_singleton]
        exact taken

theorem walked_enclosingChildren
    (position : Position) (children : Option (List Symbol)) (best : Option Symbol) :
    Walked position (children.getD []) best (enclosingChildren position children best) := by
  cases children with
  | none =>
      rw [enclosingChildren]
      exact .kept (by simp)
  | some symbols =>
      rw [enclosingChildren]
      exact walked_enclosingFrom position symbols best

end

/-- Nothing is found exactly when no symbol at the top is around the position. -/
theorem enclosing?_eq_none_iff
    {outline : List Symbol} {position : Position} :
    enclosing? outline position = none ↔
      ∀ symbol ∈ outline, symbol.isAround position = false := by
  have walked := walked_enclosingFrom position outline none
  rw [enclosing?]
  generalize enclosingFrom position outline none = result at walked
  cases walked with
  | kept noneTaken =>
      refine ⟨fun _ symbol member => ?_, fun _ => rfl⟩
      rw [Bool.eq_false_iff]
      intro around
      exact noneTaken symbol member (taken_iff.2 ⟨around, by simp⟩)
  | @moved path found leads _ =>
      refine ⟨by simp, fun nothing => ?_⟩
      have around := leads.around
      have isPath := leads.isPath
      have last := leads.last
      cases path with
      | nil => simp at last
      | cons top _ => simpa [nothing top isPath.1] using around top List.mem_cons_self

theorem exists_leads_of_enclosing?
    {outline : List Symbol} {position : Position} {found : Symbol}
    (enclosed : enclosing? outline position = some found) :
    ∃ path, Leads position outline path found := by
  have walked := walked_enclosingFrom position outline none
  rw [enclosing?] at enclosed
  rw [enclosed] at walked
  cases walked with
  | moved leads _ => exact ⟨_, leads⟩

/-! ## Outlines with one path around the position -/

/-- The lists of siblings of an outline, at any depth. -/
inductive SiblingsIn (outline : List Symbol) : List Symbol → Prop
  | top : SiblingsIn outline outline
  | inside {siblings : List Symbol} {symbol : Symbol} :
      SiblingsIn outline siblings → symbol ∈ siblings → SiblingsIn outline symbol.nested

/-- Every symbol lies within the one that it is directly inside. -/
def WellNested (outline : List Symbol) : Prop :=
  ∀ siblings, SiblingsIn outline siblings → ∀ parent ∈ siblings, ∀ child ∈ parent.nested,
    parent.range.encloses child.range = true

/-- Among siblings, at most one is of some kind. -/
def OneAmongSiblings (kind : Symbol → Bool) (outline : List Symbol) : Prop :=
  ∀ siblings, SiblingsIn outline siblings → (siblings.filter kind).length ≤ 1

section SiblingsIn

variable {outline siblings : List Symbol} {symbol : Symbol}

theorem SiblingsIn.of_nested
    (member : symbol ∈ outline) (level : SiblingsIn symbol.nested siblings) :
    SiblingsIn outline siblings := by
  induction level with
  | top => exact .inside .top member
  | inside _ isSibling inductionHypothesis => exact .inside inductionHypothesis isSibling

theorem IsPath.exists_siblings
    {path : List Symbol} (isPath : IsPath outline path) (last : path.getLast? = some symbol) :
    ∃ siblings, SiblingsIn outline siblings ∧ symbol ∈ siblings := by
  induction path generalizing outline with
  | nil => simp at last
  | cons first rest inductionHypothesis =>
      cases rest with
      | nil =>
          obtain rfl : first = symbol := by simpa using last
          exact ⟨outline, .top, isPath.1⟩
      | cons second more =>
          obtain ⟨siblings, level, member⟩ := inductionHypothesis isPath.2 (by simpa using last)
          exact ⟨siblings, level.of_nested isPath.1, member⟩

theorem WellNested.nested
    (wellNested : WellNested outline) (member : symbol ∈ outline) :
    WellNested symbol.nested :=
  fun siblings level => wellNested siblings (level.of_nested member)

theorem OneAmongSiblings.nested
    {kind : Symbol → Bool} (alone : OneAmongSiblings kind outline) (member : symbol ∈ outline) :
    OneAmongSiblings kind symbol.nested :=
  fun siblings level => alone siblings (level.of_nested member)

theorem OneAmongSiblings.eq
    {kind : Symbol → Bool} (alone : OneAmongSiblings kind outline) {other : Symbol}
    (member : symbol ∈ outline) (otherMember : other ∈ outline) (isKind : kind symbol = true)
    (otherIsKind : kind other = true) :
    symbol = other := by
  have atMostOne := alone outline .top
  have filtered : symbol ∈ outline.filter kind := List.mem_filter.2 ⟨member, isKind⟩
  have otherFiltered : other ∈ outline.filter kind := List.mem_filter.2 ⟨otherMember, otherIsKind⟩
  match found : outline.filter kind with
  | [] => simp [found] at filtered
  | [only] =>
      rw [found] at filtered otherFiltered
      rw [List.mem_singleton.1 filtered, List.mem_singleton.1 otherFiltered]
  | _ :: _ :: _ => simp [found] at atMostOne

/-- What a symbol contains, all symbols on the way to it contain. -/
theorem WellNested.contains_of_path
    (wellNested : WellNested outline) {path : List Symbol} (isPath : IsPath outline path)
    (last : path.getLast? = some symbol) {position : Position}
    (inside : symbol.range.contains position = true) :
    ∀ outer ∈ path, outer.range.contains position = true := by
  induction path generalizing outline with
  | nil => simp
  | cons first rest inductionHypothesis =>
      cases rest with
      | nil =>
          obtain rfl : first = symbol := by simpa using last
          simpa using inside
      | cons second more =>
          have restInside := inductionHypothesis (wellNested.nested isPath.1) isPath.2
            (by simpa using last)
          refine List.forall_mem_cons.2 ⟨?_, restInside⟩
          have encloses := wellNested outline .top first isPath.1 second isPath.2.1
          exact covers_of_encloses encloses position (restInside second List.mem_cons_self)

end SiblingsIn

theorem Leads.tail
    {position : Position} {symbols rest : List Symbol} {first second found : Symbol}
    (leads : Leads position symbols (first :: second :: rest) found) :
    Leads position first.nested (second :: rest) found where
  isPath := leads.isPath.2
  last := by simpa using leads.last
  around := (List.forall_mem_cons.1 leads.around).2
  nested := (List.pairwise_cons.1 leads.nested).2
  innermost := leads.innermost

/-- The walk passes through every symbol that is around the position and in no variable. -/
theorem Leads.prefix_of_path
    {position : Position} {outline path around : List Symbol} {found symbol : Symbol}
    (leads : Leads position outline path found) (wellNested : WellNested outline)
    (alone : OneAmongSiblings (isAround position) outline) (isPath : IsPath outline around)
    (last : around.getLast? = some symbol)
    (noVariable : ∀ outer ∈ around, outer.isVariable = false)
    (inside : symbol.range.contains position = true) :
    around <+: path := by
  induction around generalizing outline path with
  | nil => exact List.nil_prefix
  | cons first rest inductionHypothesis =>
      have allAround : ∀ outer ∈ first :: rest, outer.isAround position = true := by
        intro outer member
        exact isAround_iff.2 ⟨noVariable outer member,
          wellNested.contains_of_path isPath last inside outer member⟩
      have leadsLast := leads.last
      cases path with
      | nil => simp at leadsLast
      | cons top more =>
          obtain rfl : first = top :=
            alone.eq isPath.1 leads.isPath.1 (allAround first List.mem_cons_self)
              (leads.around top List.mem_cons_self)
          rw [List.prefix_cons_inj]
          cases rest with
          | nil => exact List.nil_prefix
          | cons second others =>
              have encloses := wellNested outline .top first isPath.1 second isPath.2.1
              have secondAround := allAround second (by simp)
              cases more with
              | nil =>
                  -- the walk could have gone on into the second symbol of the path
                  obtain rfl : first = found := by simpa using leadsLast
                  have notWithin := leads.innermost second isPath.2.1 secondAround
                  rw [encloses] at notWithin
                  cases notWithin
              | cons next later =>
                  exact inductionHypothesis leads.tail (wellNested.nested isPath.1)
                    (alone.nested isPath.1) isPath.2 (by simpa using last)
                    (List.forall_mem_cons.1 noVariable).2

/-- Something is found if a path without variables leads to a symbol that contains the position. -/
theorem WellNested.exists_enclosing?
    {position : Position} {outline path : List Symbol} {symbol : Symbol}
    (wellNested : WellNested outline) (isPath : IsPath outline path)
    (last : path.getLast? = some symbol)
    (noVariable : ∀ outer ∈ path, outer.isVariable = false)
    (inside : symbol.range.contains position = true) :
    ∃ found, enclosing? outline position = some found := by
  apply Option.ne_none_iff_exists'.1
  intro nothing
  have allInside := wellNested.contains_of_path isPath last inside
  cases path with
  | nil => simp at last
  | cons top rest =>
      have topAround : top.isAround position = true :=
        isAround_iff.2 ⟨noVariable top List.mem_cons_self, allInside top List.mem_cons_self⟩
      simp [enclosing?_eq_none_iff.1 nothing top isPath.1] at topAround

/-- The search finds nothing exactly when no symbol at the top of the outline is around the
position. What it finds is around the position, reached from the top through such symbols, each
within the one before it, and none of its own children could be found in its place. If ranges nest
and no two siblings are around the position, it lies within every symbol that contains the position
and is neither a variable nor inside one. -/
theorem enclosing?_is_sound_and_locally_innermost
    (outline : List Symbol) (position : Position) :
    (enclosing? outline position = none ↔
      ∀ symbol ∈ outline, symbol.isVariable = true ∨ symbol.range.contains position = false) ∧
      (∀ found, enclosing? outline position = some found →
        found.isVariable = false ∧ found.range.contains position = true ∧
          ∃ path, Leads position outline path found) ∧
      (WellNested outline → OneAmongSiblings (isAround position) outline →
        ∀ around symbol, IsPath outline around → around.getLast? = some symbol →
          (∀ outer ∈ around, outer.isVariable = false) →
          symbol.range.contains position = true →
            ∃ found, enclosing? outline position = some found ∧
              symbol.range.encloses found.range = true) := by
  refine ⟨?_, ?_, ?_⟩
  · rw [enclosing?_eq_none_iff]
    apply forall₂_congr
    intro symbol _
    rw [Bool.eq_false_iff, ne_eq, isAround_iff, not_and_or]
    simp
  · intro found enclosed
    obtain ⟨path, leads⟩ := exists_leads_of_enclosing? enclosed
    obtain ⟨notVariable, inside⟩ := isAround_iff.1 (leads.around found leads.mem)
    exact ⟨notVariable, inside, path, leads⟩
  · intro wellNested alone around symbol isPath last noVariable inside
    obtain ⟨found, enclosed⟩ := wellNested.exists_enclosing? isPath last noVariable inside
    obtain ⟨path, leads⟩ := exists_leads_of_enclosing? enclosed
    have isPrefix := leads.prefix_of_path wellNested alone isPath last noVariable inside
    exact ⟨found, enclosed, leads.encloses (isPrefix.subset (List.mem_of_getLast? last))⟩

/-- What holds of some lists, among them the top and whatever is directly inside a member of one of
them, holds at every level. -/
theorem forall_siblings
    {outline : List Symbol} {property : List Symbol → Prop} (levels : List (List Symbol))
    (top : outline ∈ levels)
    (closed : ∀ level ∈ levels, ∀ symbol ∈ level, symbol.nested ∈ levels)
    (checked : ∀ level ∈ levels, property level) :
    ∀ siblings, SiblingsIn outline siblings → property siblings := by
  intro siblings level
  apply checked
  induction level with
  | top => exact top
  | inside _ isSibling inductionHypothesis => exact closed _ inductionHypothesis _ isSibling

def ofLines (kind : KindCode) (name : Char) (first last : Nat) (children : List Symbol) : Symbol :=
  .mk
    { name := [name]
      detail := none
      kind := kind
      tags := none
      deprecated := none
      range := ⟨⟨first, 0⟩, ⟨last, 1⟩⟩
      selectionRange := .onLine first 0 1 }
    (some children)

/-- A function with a variable inside, and a function both in the variable and behind it. -/
def innerFunction : Symbol :=
  ofLines .function 'm' 2 6
    [ofLines .variableKind 'l' 3 4 [ofLines .function 'h' 3 4 []], ofLines .function 'i' 4 5 []]

def outerFunction : Symbol :=
  ofLines .function 'w' 0 9 [ofLines .variableKind 'v' 1 1 [], innerFunction]

/-- The siblings of the outline that has the outer function at its top. -/
def outerSiblings : List (List Symbol) :=
  [[outerFunction], outerFunction.nested, innerFunction.nested, [ofLines .function 'h' 3 4 []], []]

theorem outerFunction_search_is_locally_innermost :
    let position : Position := ⟨4, 0⟩
    let found := ofLines .function 'i' 4 5 []
    enclosing? [outerFunction] position = some found ∧
      WellNested [outerFunction] ∧ OneAmongSiblings (isAround position) [outerFunction] ∧
      IsPath [outerFunction] [outerFunction, innerFunction] ∧
      (∃ path, Leads position [outerFunction] path found) ∧
      ∃ other, enclosing? [outerFunction] position = some other ∧
        innerFunction.range.encloses other.range = true := by
  intro position found
  have enclosed : enclosing? [outerFunction] position = some found := by decide +kernel
  have wellNested : WellNested [outerFunction] :=
    forall_siblings outerSiblings (by decide +kernel) (by decide +kernel) (by decide +kernel)
  have alone : OneAmongSiblings (isAround position) [outerFunction] :=
    forall_siblings outerSiblings (by decide +kernel) (by decide +kernel) (by decide +kernel)
  have isPath : IsPath [outerFunction] [outerFunction, innerFunction] :=
    ⟨by decide +kernel, by decide +kernel, trivial⟩
  obtain ⟨_, sound, within⟩ :=
    enclosing?_is_sound_and_locally_innermost [outerFunction] position
  exact ⟨enclosed, wellNested, alone, isPath, (sound found enclosed).2.2,
    within wellNested alone _ innerFunction isPath rfl (by decide +kernel) (by decide +kernel)⟩

end Symbol

end CallHierarchy
