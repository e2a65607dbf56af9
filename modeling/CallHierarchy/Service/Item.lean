import CallHierarchy.Engine.Basic
import CallHierarchy.Engine.Delegated

/-!
Call hierarchy items: the form in which symbols are handed to a client and come back from it.
-/

namespace CallHierarchy

/-- A symbol as a client sees it. -/
structure Item where
  name : Text
  kind : KindCode
  tags : Option (List Int)
  detail : Option Text
  uri : Uri
  range : Range
  selectionRange : Range
  /-- Whatever a client attached to the item, as it was written. -/
  data : Option Text
  deriving DecidableEq, Repr

def Declaration.item (declaration : Declaration) : Item :=
  { name := declaration.name
    kind := .function
    tags := none
    detail := none
    uri := declaration.uri
    range := declaration.fullRange
    selectionRange := declaration.nameRange
    data := none }

/-- The item of an outline symbol. Children and the deprecation mark are not part of it. -/
def ResolvedSymbol.item (resolved : ResolvedSymbol) : Item :=
  { name := resolved.symbol.info.name
    kind := resolved.symbol.info.kind
    tags := resolved.symbol.info.tags
    detail := resolved.symbol.info.detail
    uri := resolved.uri
    range := resolved.symbol.info.range
    selectionRange := resolved.symbol.info.selectionRange
    data := none }

def Item.symbol (item : Item) : ResolvedSymbol :=
  { uri := item.uri
    symbol := .mk
      { name := item.name
        detail := item.detail
        kind := item.kind
        tags := item.tags
        deprecated := none
        range := item.range
        selectionRange := item.selectionRange }
      none }

/-- A call as a client sees it: the item on the other side and the ranges of the call. -/
structure ItemCall where
  item : Item
  ranges : List Range
  deriving DecidableEq, Repr

def Call.toItemCall {Symbol : Type} (call : Call Symbol) (item : Symbol → Item) : ItemCall :=
  ⟨item call.symbol, call.sites.map Location.range⟩

end CallHierarchy
