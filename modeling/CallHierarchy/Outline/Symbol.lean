import CallHierarchy.Declaration.Tree

/-!
Outlines: the symbols of a document as a tree. Kinds are the numbers of the protocol, and any
number is allowed; only a few of them have a meaning here.
-/

namespace CallHierarchy

abbrev KindCode := Int

namespace KindCode

def function : KindCode := 12

/-- A variable, which never encloses anything. -/
def variableKind : KindCode := 13

end KindCode

/-- What an outline says about one symbol, apart from what is nested in it. -/
structure SymbolInfo where
  name : Text
  detail : Option Text
  kind : KindCode
  tags : Option (List Int)
  deprecated : Option Bool
  range : Range
  selectionRange : Range
  deriving DecidableEq, Repr

/-- A symbol of an outline. No list of children is not the same as an empty one. -/
inductive Symbol where
  | mk (info : SymbolInfo) (children : Option (List Symbol))

namespace Symbol

def info : Symbol → SymbolInfo
  | mk info _ => info

def children : Symbol → Option (List Symbol)
  | mk _ children => children

def range (symbol : Symbol) : Range :=
  symbol.info.range

mutual

def decideEq : (left right : Symbol) → Decidable (left = right)
  | mk info children, mk info' children' =>
      if sameInfo : info = info' then
        match decideEqChildren children children' with
        | isTrue sameChildren => isTrue (by rw [sameInfo, sameChildren])
        | isFalse different => isFalse (by
            intro same
            injection same with _ sameChildren
            exact different sameChildren)
      else
        isFalse (by
          intro same
          injection same with same _
          exact sameInfo same)

def decideEqChildren : (left right : Option (List Symbol)) → Decidable (left = right)
  | none, none => isTrue rfl
  | none, some _ => isFalse (by simp)
  | some _, none => isFalse (by simp)
  | some symbols, some symbols' =>
      match decideEqList symbols symbols' with
      | isTrue same => isTrue (by rw [same])
      | isFalse different => isFalse (by
          intro same
          injection same with same
          exact different same)

def decideEqList : (left right : List Symbol) → Decidable (left = right)
  | [], [] => isTrue rfl
  | [], _ :: _ => isFalse (by simp)
  | _ :: _, [] => isFalse (by simp)
  | symbol :: rest, symbol' :: rest' =>
      match decideEq symbol symbol', decideEqList rest rest' with
      | isTrue sameHead, isTrue sameTail => isTrue (by rw [sameHead, sameTail])
      | isFalse different, _ => isFalse (by
          intro same
          injection same with sameHead _
          exact different sameHead)
      | _, isFalse different => isFalse (by
          intro same
          injection same with _ sameTail
          exact different sameTail)

end

instance : DecidableEq Symbol := decideEq

end Symbol

/-- The outline entry of a declaration. -/
def Declaration.symbol (declaration : Declaration) : Symbol :=
  .mk
    { name := declaration.name
      detail := none
      kind := .function
      tags := none
      deprecated := none
      range := declaration.fullRange
      selectionRange := declaration.nameRange }
    none

/-- One symbol for each declaration, in source order. -/
def SyntaxTree.outline (tree : SyntaxTree) : List Symbol :=
  tree.declarations.map Declaration.symbol

end CallHierarchy
