import CallHierarchy.Proofs.Engine.Delegation
import CallHierarchy.Proofs.Outline.Innermost

/-!
Symbols that variables hide. The search for the symbol at a position does not look into variables. So
it finds the innermost symbol to which a path without variables leads; this is the innermost symbol
around the position in the whole outline exactly when no symbol around the position is inside a
variable.
-/

namespace CallHierarchy

namespace Symbol

def ReachesAround (position : Position) (path : List Symbol) : Prop :=
  ∃ symbol, path.getLast? = some symbol ∧ symbol.isAround position = true

/-- The path leads to a symbol around the position, and through no variable. -/
def ReachesOpenly (position : Position) (path : List Symbol) : Prop :=
  ReachesAround position path ∧ ∀ outer ∈ path, outer.isVariable = false

/-- The symbol found is the innermost one to which a path of some kind leads: the path to it goes on
from all other such paths. Nothing is found only if there is no such path. -/
def FindsInnermost (kind : List Symbol → Prop) (outline : List Symbol) : Option Symbol → Prop
  | none => ∀ path, IsPath outline path → ¬kind path
  | some found =>
      ∃ path, IsPath outline path ∧ kind path ∧ path.getLast? = some found ∧
        ∀ other, IsPath outline other → kind other → other <+: path

theorem FindsInnermost.congr
    {kind otherKind : List Symbol → Prop} {outline : List Symbol} {found : Option Symbol}
    (finds : FindsInnermost kind outline found)
    (sameKind : ∀ path, IsPath outline path → (kind path ↔ otherKind path)) :
    FindsInnermost otherKind outline found := by
  cases found with
  | none =>
      intro path isPath isKind
      exact finds path isPath ((sameKind path isPath).2 isKind)
  | some symbol =>
      obtain ⟨path, isPath, isKind, last, goesOn⟩ := finds
      refine ⟨path, isPath, (sameKind path isPath).1 isKind, last, ?_⟩
      intro other otherIsPath otherIsKind
      exact goesOn other otherIsPath ((sameKind other otherIsPath).2 otherIsKind)

theorem OneAmongSiblings.imp
    {kind narrower : Symbol → Bool} {outline : List Symbol} (alone : OneAmongSiblings kind outline)
    (implied : ∀ symbol, narrower symbol = true → kind symbol = true) :
    OneAmongSiblings narrower outline := by
  intro siblings level
  exact (List.monotone_filter_right siblings implied).length_le.trans (alone siblings level)

section Search

variable {outline : List Symbol} {position : Position}

/-- The search finds the innermost of the symbols that are reached through no variable. -/
theorem findsInnermost_enclosing?
    (wellNested : WellNested outline)
    (alone : OneAmongSiblings (fun symbol => symbol.range.contains position) outline) :
    FindsInnermost (ReachesOpenly position) outline (enclosing? outline position) := by
  cases enclosed : enclosing? outline position with
  | none =>
      rintro path isPath ⟨⟨symbol, last, around⟩, noVariable⟩
      obtain ⟨found, someFound⟩ :=
        wellNested.exists_enclosing? isPath last noVariable (isAround_iff.1 around).2
      simp [enclosed] at someFound
  | some found =>
      obtain ⟨path, leads⟩ := exists_leads_of_enclosing? enclosed
      have aroundAlone : OneAmongSiblings (isAround position) outline :=
        alone.imp fun symbol around => (isAround_iff.1 around).2
      refine ⟨path, leads.isPath, ⟨⟨found, leads.last, leads.around found leads.mem⟩, ?_⟩,
        leads.last, ?_⟩
      · intro outer member
        exact (isAround_iff.1 (leads.around outer member)).1
      · rintro other isPath ⟨⟨symbol, last, around⟩, noVariable⟩
        exact leads.prefix_of_path wellNested aroundAlone isPath last noVariable
          (isAround_iff.1 around).2

end Search

theorem sizeOf_lt_of_mem_nested
    {symbol child : Symbol} (member : child ∈ symbol.nested) :
    sizeOf child < sizeOf symbol := by
  cases symbol with
  | mk info children =>
      cases children with
      | none => simp [nested, children] at member
      | some symbols =>
          have smaller : sizeOf child < sizeOf symbols := List.sizeOf_lt_of_mem member
          simp only [mk.sizeOf_spec, Option.some.sizeOf_spec]
          omega

theorem sizeOf_lt_of_path
    {symbol last : Symbol} {path : List Symbol} (isPath : IsPath symbol.nested path)
    (isLast : path.getLast? = some last) :
    sizeOf last < sizeOf symbol := by
  induction path generalizing symbol with
  | nil => simp at isLast
  | cons first rest inductionHypothesis =>
      have smaller := sizeOf_lt_of_mem_nested isPath.1
      cases rest with
      | nil =>
          obtain rfl : first = last := by simpa using isLast
          exact smaller
      | cons second more =>
          exact (inductionHypothesis isPath.2 (by simpa using isLast)).trans smaller

theorem IsPath.rest
    {outline path rest : List Symbol} {symbol : Symbol} (isPath : IsPath outline (path ++ rest))
    (last : path.getLast? = some symbol) :
    IsPath symbol.nested rest := by
  induction path generalizing outline with
  | nil => simp at last
  | cons first others inductionHypothesis =>
      cases others with
      | nil =>
          obtain rfl : first = symbol := by simpa using last
          exact isPath.2
      | cons second more => exact inductionHypothesis isPath.2 (by simpa using last)

/-- Two paths to one symbol, of which one goes on from the other, are equal. -/
theorem eq_of_prefix_of_last
    {outline path longer : List Symbol} {symbol : Symbol} (isPath : IsPath outline longer)
    (isPrefix : path <+: longer) (last : path.getLast? = some symbol)
    (longerLast : longer.getLast? = some symbol) :
    path = longer := by
  obtain ⟨rest, rfl⟩ := isPrefix
  cases rest with
  | nil => rw [List.append_nil]
  | cons next more =>
      have restLast : (next :: more).getLast? = some symbol := by
        simpa [List.getLast?_append] using longerLast
      exact absurd (sizeOf_lt_of_path (isPath.rest last) restLast) (Nat.lt_irrefl _)

/-- What is found without passing through variables is the innermost symbol of all only if nothing
around the position is inside a variable. -/
theorem FindsInnermost.open_of_around
    {outline : List Symbol} {position : Position} {found : Option Symbol}
    (openly : FindsInnermost (ReachesOpenly position) outline found)
    (finds : FindsInnermost (ReachesAround position) outline found)
    {path : List Symbol} (isPath : IsPath outline path) (reaches : ReachesAround position path) :
    ∀ outer ∈ path, outer.isVariable = false := by
  cases found with
  | none => exact absurd reaches (finds path isPath)
  | some symbol =>
      obtain ⟨openPath, openIsPath, ⟨openReaches, noVariable⟩, openLast, _⟩ := openly
      obtain ⟨longest, longestIsPath, _, longestLast, goesOn⟩ := finds
      obtain rfl : openPath = longest :=
        eq_of_prefix_of_last longestIsPath (goesOn openPath openIsPath openReaches) openLast
          longestLast
      intro outer member
      exact noVariable outer ((goesOn path isPath reaches).subset member)

end Symbol

namespace Delegation

open Operation CallHierarchy.Symbol

/-- Let ranges nest in the outline of a document, and no two siblings contain a position. Then the
symbol at the position is the innermost one around it that is not inside a variable; and it is the
innermost one in the whole outline exactly when no symbol around the position is inside a
variable. -/
theorem symbolAt_finds_innermost_unless_hidden
    {host : Host} {uri : Uri} {outline : List Symbol}
    (answered : host.documentSymbols uri = .ok outline) {position : Position}
    (wellNested : WellNested outline)
    (alone : OneAmongSiblings (fun symbol => symbol.range.contains position) outline)
    (run : Run QueryLog) :
    ∃ found after,
      perform (symbolAt host uri position) run =
        (.ok (found.map (ResolvedSymbol.mk uri)), after) ∧
        FindsInnermost (ReachesOpenly position) outline found ∧
        (FindsInnermost (ReachesAround position) outline found ↔
          ∀ path, IsPath outline path → ReachesAround position path →
            ∀ outer ∈ path, outer.isVariable = false) := by
  obtain ⟨after, performed⟩ := perform_symbolAt answered position run
  have openly := findsInnermost_enclosing? wellNested alone
  refine ⟨enclosing? outline position, after, performed, openly, ?_⟩
  constructor
  · intro finds path isPath reaches
    exact openly.open_of_around finds isPath reaches
  · intro noneHidden
    apply openly.congr
    intro path isPath
    exact ⟨fun reaches => reaches.1, fun reaches => ⟨reaches, noneHidden path isPath reaches⟩⟩

/-- Variables with nothing inside hide nothing. -/
theorem open_of_bare_variables
    {outline : List Symbol} {position : Position}
    (bare : ∀ siblings, SiblingsIn outline siblings → ∀ symbol ∈ siblings,
      symbol.isVariable = true → symbol.nested = [])
    {path : List Symbol} (isPath : IsPath outline path) (reaches : ReachesAround position path) :
    ∀ outer ∈ path, outer.isVariable = false := by
  obtain ⟨last, isLast, around⟩ := reaches
  induction path generalizing outline with
  | nil => simp
  | cons first rest inductionHypothesis =>
      cases rest with
      | nil =>
          obtain rfl : first = last := by simpa using isLast
          simpa using (isAround_iff.1 around).1
      | cons second more =>
          have bareInside : ∀ siblings, SiblingsIn first.nested siblings → ∀ symbol ∈ siblings,
              symbol.isVariable = true → symbol.nested = [] :=
            fun siblings level => bare siblings (level.of_nested isPath.1)
          refine List.forall_mem_cons.2
            ⟨?_, inductionHypothesis bareInside isPath.2 (by simpa using isLast)⟩
          rw [Bool.eq_false_iff]
          intro isVariable
          have nothing := bare outline .top first isPath.1 isVariable
          simpa [nothing] using isPath.2.1

def outlineHost (outline : List Symbol) : Host :=
  { definitions := fun _ _ => .ok []
    references := fun _ _ => .ok []
    documentSymbols := fun _ => .ok outline }

def functionWithVariable : Symbol :=
  ofLines .function 'r' 5 7 [ofLines .variableKind 'l' 6 6 []]

def openOutline : List Symbol :=
  [ofLines .function 'w' 0 9 [ofLines .variableKind 'v' 1 1 [], functionWithVariable]]

def openSiblings : List (List Symbol) :=
  [openOutline, openOutline.flatMap nested, functionWithVariable.nested, []]

theorem openOutline_symbolAt_finds_innermost :
    let position : Position := ⟨6, 0⟩
    let uri : Uri := ⟨['a'], Eq.refl true⟩
    WellNested openOutline ∧
      OneAmongSiblings (fun symbol => symbol.range.contains position) openOutline ∧
      (perform (symbolAt (outlineHost openOutline) uri position) (.start [] false)).1 =
        .ok (some ⟨uri, functionWithVariable⟩) ∧
      ∃ found after,
        perform (symbolAt (outlineHost openOutline) uri position) (.start [] false) =
          (.ok (found.map (ResolvedSymbol.mk uri)), after) ∧
          FindsInnermost (ReachesAround position) openOutline found := by
  intro position uri
  have wellNested : WellNested openOutline :=
    forall_siblings openSiblings (by decide +kernel) (by decide +kernel) (by decide +kernel)
  have alone : OneAmongSiblings (fun symbol => symbol.range.contains position) openOutline :=
    forall_siblings openSiblings (by decide +kernel) (by decide +kernel) (by decide +kernel)
  have bare : ∀ siblings, SiblingsIn openOutline siblings → ∀ symbol ∈ siblings,
      symbol.isVariable = true → symbol.nested = [] :=
    forall_siblings openSiblings (by decide +kernel) (by decide +kernel) (by decide +kernel)
  have answered : (outlineHost openOutline).documentSymbols uri = .ok openOutline := rfl
  obtain ⟨found, after, performed, _, innermost⟩ :=
    symbolAt_finds_innermost_unless_hidden answered wellNested alone (.start [] false)
  refine ⟨wellNested, alone, by decide +kernel, found, after, performed, innermost.2 ?_⟩
  intro path isPath reaches
  exact open_of_bare_variables bare isPath reaches

def hiddenFunction : Symbol :=
  ofLines .function 'f' 1 5 []

def hidingVariable : Symbol :=
  ofLines .variableKind 'v' 0 9 [hiddenFunction]

/-- The function inside a variable is not found, although it is the only symbol around the
position. -/
theorem variable_hides_function :
    let position : Position := ⟨3, 0⟩
    let uri : Uri := ⟨['a'], Eq.refl true⟩
    WellNested [hidingVariable] ∧
      OneAmongSiblings (fun symbol => symbol.range.contains position) [hidingVariable] ∧
      (perform (symbolAt (outlineHost [hidingVariable]) uri position) (.start [] false)).1 =
        .ok none ∧
      hiddenFunction ∈ hidingVariable.nested ∧ hiddenFunction.isAround position = true ∧
      ¬FindsInnermost (ReachesAround position) [hidingVariable] none := by
  intro position uri
  have wellNested : WellNested [hidingVariable] :=
    forall_siblings [[hidingVariable], [hiddenFunction], []]
      (by decide +kernel) (by decide +kernel) (by decide +kernel)
  have alone : OneAmongSiblings (fun symbol => symbol.range.contains position) [hidingVariable] :=
    forall_siblings [[hidingVariable], [hiddenFunction], []]
      (by decide +kernel) (by decide +kernel) (by decide +kernel)
  have inside : hiddenFunction ∈ hidingVariable.nested := by decide +kernel
  have around : hiddenFunction.isAround position = true := by decide +kernel
  refine ⟨wellNested, alone, by decide +kernel, inside, around, ?_⟩
  intro nothing
  have isPath : IsPath [hidingVariable] [hidingVariable, hiddenFunction] :=
    ⟨List.mem_cons_self, inside, trivial⟩
  exact nothing _ isPath ⟨hiddenFunction, rfl, around⟩

end Delegation

end CallHierarchy
