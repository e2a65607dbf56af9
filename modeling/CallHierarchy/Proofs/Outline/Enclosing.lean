import CallHierarchy.Outline.Enclosing

/-!
What the walk over an outline keeps. The best symbol is replaced only by one that contains the
position, so whatever the walk ends with contains it too; and only by one that nests in it, so two
walks that end in the same range never part.
-/

namespace CallHierarchy.Symbol

theorem enclosingFrom_append
    (position : Position) (left right : List Symbol) (best : Option Symbol) :
    enclosingFrom position (left ++ right) best =
      enclosingFrom position right (enclosingFrom position left best) := by
  induction left generalizing best with
  | nil => simp [enclosingFrom]
  | cons first rest inductionHypothesis =>
      rw [List.cons_append, enclosingFrom, enclosingFrom, inductionHypothesis]

/-- Whether the best symbol so far, if there is one, contains the position. -/
def BestContains (position : Position) (best : Option Symbol) : Prop :=
  ∀ symbol ∈ best, symbol.range.contains position = true

-- one lemma for each function of the walk, by the recursion of the walk itself
mutual

theorem BestContains.enclosingFrom
    {position : Position} (symbols : List Symbol) {best : Option Symbol}
    (contained : BestContains position best) :
    BestContains position (enclosingFrom position symbols best) := by
  cases symbols with
  | nil =>
      rw [Symbol.enclosingFrom]
      exact contained
  | cons first rest =>
      rw [Symbol.enclosingFrom]
      exact BestContains.enclosingFrom rest (BestContains.enclosingStep first contained)

theorem BestContains.enclosingStep
    {position : Position} (symbol : Symbol) {best : Option Symbol}
    (contained : BestContains position best) :
    BestContains position (enclosingStep position symbol best) := by
  cases symbol with
  | mk info children =>
      rw [Symbol.enclosingStep]
      split
      · exact contained
      · rename_i taken
        split
        · have inside : info.range.contains position = true := by
            simpa using (not_or.1 (mt Bool.or_eq_true_iff.2 taken)).2
          have ownContains : BestContains position (some (mk info children)) := by
            rintro _ ⟨⟩
            exact inside
          exact BestContains.enclosingChildren children ownContains
        · exact contained

theorem BestContains.enclosingChildren
    {position : Position} (children : Option (List Symbol)) {best : Option Symbol}
    (contained : BestContains position best) :
    BestContains position (enclosingChildren position children best) := by
  cases children with
  | none =>
      rw [Symbol.enclosingChildren]
      exact contained
  | some symbols =>
      rw [Symbol.enclosingChildren]
      exact BestContains.enclosingFrom symbols contained

end

theorem contains_of_enclosing?
    {outline : List Symbol} {position : Position} {symbol : Symbol}
    (found : enclosing? outline position = some symbol) :
    symbol.range.contains position = true := by
  have noneYet : BestContains position none := by
    rintro _ ⟨⟩
  exact noneYet.enclosingFrom outline symbol found

/-- Every position of the inner range is one of the outer range. -/
def Covers (outer inner : Range) : Prop :=
  ∀ position, inner.contains position = true → outer.contains position = true

theorem covers_of_encloses
    {outer inner : Range} (encloses : outer.encloses inner = true) :
    Covers outer inner := by
  intro position inside
  simp only [Range.encloses, Range.contains, Position.atOrBefore, Bool.and_eq_true,
    Bool.or_eq_true, decide_eq_true_eq, beq_iff_eq] at encloses inside ⊢
  omega

/-- The best symbol so far, if there is one, covers a range. -/
def BestCovers (range : Range) (best : Option Symbol) : Prop :=
  ∀ symbol ∈ best, Covers symbol.range range

structure Taken (position : Position) (info : SymbolInfo) (best : Option Symbol) : Prop where
  notVariable : info.kind ≠ .variableKind
  inside : info.range.contains position = true
  nested : ∀ outer ∈ best, outer.range.encloses info.range = true

theorem enclosingStep_of_taken
    {position : Position} {info : SymbolInfo} {best : Option Symbol}
    (taken : Taken position info best) (children : Option (List Symbol)) :
    enclosingStep position (mk info children) best =
      enclosingChildren position children (some (mk info children)) := by
  have nested : best.all (fun outer => outer.range.encloses info.range) = true :=
    (Option.all_eq_true _ _).2 taken.nested
  simp [enclosingStep, taken.notVariable, taken.inside, nested]

theorem enclosingStep_of_not_taken
    {position : Position} {info : SymbolInfo} {best : Option Symbol}
    (notTaken : ¬Taken position info best) (children : Option (List Symbol)) :
    enclosingStep position (mk info children) best = best := by
  rw [enclosingStep]
  split
  · rfl
  · rename_i considered
    split
    · rename_i nested
      simp only [Bool.or_eq_true, decide_eq_true_eq, Bool.not_eq_true', not_or,
        Bool.not_eq_false] at considered
      exact absurd ⟨considered.1, considered.2, (Option.all_eq_true _ _).1 nested⟩ notTaken
    · rfl

theorem enclosingFrom_of_none_taken
    {position : Position} {symbols : List Symbol} {best : Option Symbol}
    (noneTaken : ∀ symbol ∈ symbols, ¬Taken position symbol.info best) :
    enclosingFrom position symbols best = best := by
  induction symbols with
  | nil => rw [enclosingFrom]
  | cons first rest inductionHypothesis =>
      obtain ⟨firstNotTaken, restNotTaken⟩ := List.forall_mem_cons.1 noneTaken
      rw [enclosingFrom]
      cases first with
      | mk info children =>
          have notTaken : ¬Taken position info best := firstNotTaken
          rw [enclosingStep_of_not_taken notTaken, inductionHypothesis restNotTaken]

-- what the walk ends with is nested in every best symbol on the way
mutual

/-- If the symbol that a walk ends with covers a range, so did the one that it began with. -/
theorem BestCovers.of_enclosingFrom
    {position : Position} {range : Range} (symbols : List Symbol) {best : Option Symbol}
    (covers : BestCovers range (enclosingFrom position symbols best)) :
    BestCovers range best := by
  cases symbols with
  | nil =>
      rw [Symbol.enclosingFrom] at covers
      exact covers
  | cons first rest =>
      rw [Symbol.enclosingFrom] at covers
      exact BestCovers.of_enclosingStep first (BestCovers.of_enclosingFrom rest covers)

theorem BestCovers.of_enclosingStep
    {position : Position} {range : Range} (symbol : Symbol) {best : Option Symbol}
    (covers : BestCovers range (enclosingStep position symbol best)) :
    BestCovers range best := by
  cases symbol with
  | mk info children =>
      by_cases taken : Taken position info best
      · rw [enclosingStep_of_taken taken] at covers
        have ownCovers := BestCovers.of_enclosingChildren children covers
        intro outer isBest position inside
        have encloses := taken.nested outer isBest
        exact covers_of_encloses encloses position (ownCovers _ rfl position inside)
      · rwa [enclosingStep_of_not_taken taken] at covers

theorem BestCovers.of_enclosingChildren
    {position : Position} {range : Range} (children : Option (List Symbol))
    {best : Option Symbol} (covers : BestCovers range (enclosingChildren position children best)) :
    BestCovers range best := by
  cases children with
  | none =>
      rw [Symbol.enclosingChildren] at covers
      exact covers
  | some symbols =>
      rw [Symbol.enclosingChildren] at covers
      exact BestCovers.of_enclosingFrom symbols covers

end

/-- A symbol that one walk takes contains the range in which the walks end, so the other walk takes
it too. -/
theorem Taken.of_covers
    {left right : Position} {range : Range} {info : SymbolInfo} {best : Option Symbol}
    (inRange : range.contains right = true) (taken : Taken left info best)
    {children : Option (List Symbol)}
    (covers : BestCovers range (enclosingStep left (.mk info children) best)) :
    Taken right info best := by
  rw [enclosingStep_of_taken taken] at covers
  have ownCovers := BestCovers.of_enclosingChildren children covers
  exact ⟨taken.notVariable, ownCovers _ rfl right inRange, taken.nested⟩

-- both walks take the same symbols, one after the other
mutual

/-- Two walks for positions of a range are the same if both end with symbols that cover it. -/
theorem enclosingFrom_eq
    {left right : Position} {range : Range} (leftIn : range.contains left = true)
    (rightIn : range.contains right = true) (symbols : List Symbol) {best : Option Symbol}
    (leftCovers : BestCovers range (enclosingFrom left symbols best))
    (rightCovers : BestCovers range (enclosingFrom right symbols best)) :
    enclosingFrom left symbols best = enclosingFrom right symbols best := by
  cases symbols with
  | nil => rw [enclosingFrom, enclosingFrom]
  | cons first rest =>
      rw [enclosingFrom] at leftCovers rightCovers
      have sameStep : enclosingStep left first best = enclosingStep right first best :=
        enclosingStep_eq leftIn rightIn first (.of_enclosingFrom rest leftCovers)
          (.of_enclosingFrom rest rightCovers)
      rw [← sameStep] at rightCovers
      rw [enclosingFrom, enclosingFrom, ← sameStep]
      exact enclosingFrom_eq leftIn rightIn rest leftCovers rightCovers

theorem enclosingStep_eq
    {left right : Position} {range : Range} (leftIn : range.contains left = true)
    (rightIn : range.contains right = true) (symbol : Symbol) {best : Option Symbol}
    (leftCovers : BestCovers range (enclosingStep left symbol best))
    (rightCovers : BestCovers range (enclosingStep right symbol best)) :
    enclosingStep left symbol best = enclosingStep right symbol best := by
  cases symbol with
  | mk info children =>
      by_cases taken : Taken left info best
      · have rightTaken := taken.of_covers rightIn leftCovers
        rw [enclosingStep_of_taken taken] at leftCovers ⊢
        rw [enclosingStep_of_taken rightTaken] at rightCovers ⊢
        exact enclosingChildren_eq leftIn rightIn children leftCovers rightCovers
      · have rightNotTaken : ¬Taken right info best := fun rightTaken =>
          taken (rightTaken.of_covers leftIn rightCovers)
        rw [enclosingStep_of_not_taken taken, enclosingStep_of_not_taken rightNotTaken]

theorem enclosingChildren_eq
    {left right : Position} {range : Range} (leftIn : range.contains left = true)
    (rightIn : range.contains right = true) (children : Option (List Symbol))
    {best : Option Symbol}
    (leftCovers : BestCovers range (enclosingChildren left children best))
    (rightCovers : BestCovers range (enclosingChildren right children best)) :
    enclosingChildren left children best = enclosingChildren right children best := by
  cases children with
  | none => rw [enclosingChildren, enclosingChildren]
  | some symbols =>
      rw [enclosingChildren] at leftCovers rightCovers
      rw [enclosingChildren, enclosingChildren]
      exact enclosingFrom_eq leftIn rightIn symbols leftCovers rightCovers

end

/-- In one outline, the enclosing symbol is known by its range. -/
theorem eq_of_enclosing?_range_eq
    {outline : List Symbol} {left right : Position} {leftSymbol rightSymbol : Symbol}
    (leftFound : enclosing? outline left = some leftSymbol)
    (rightFound : enclosing? outline right = some rightSymbol)
    (sameRange : leftSymbol.range = rightSymbol.range) :
    leftSymbol = rightSymbol := by
  have leftIn := contains_of_enclosing? leftFound
  have rightIn := contains_of_enclosing? rightFound
  rw [← sameRange] at rightIn
  have leftCovers : BestCovers leftSymbol.range (enclosingFrom left outline none) := by
    rw [← enclosing?, leftFound]
    rintro _ ⟨⟩ position inside
    exact inside
  have rightCovers : BestCovers leftSymbol.range (enclosingFrom right outline none) := by
    rw [← enclosing?, rightFound, sameRange]
    rintro _ ⟨⟩ position inside
    exact inside
  have sameWalk := enclosingFrom_eq leftIn rightIn outline leftCovers rightCovers
  rw [← enclosing?, ← enclosing?, leftFound, rightFound] at sameWalk
  exact Option.some.inj sameWalk

end CallHierarchy.Symbol
