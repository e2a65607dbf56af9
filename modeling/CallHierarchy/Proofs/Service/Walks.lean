import CallHierarchy.Proofs.Operation
import CallHierarchy.Service.Referenced

/-!
Walks from caller to caller. A client walks over items and an engine over its own symbols. An item
has less than its symbol, but all that the callers of the symbol depend on, so both see the same on
every walk.
-/

namespace CallHierarchy

namespace Delegation

/-- Both symbols are in one document and have the same name and ranges. -/
structure SameAnchor (left right : ResolvedSymbol) : Prop where
  uri : left.uri = right.uri
  name : left.name = right.name
  range : left.range = right.range
  selectionRange : left.selectionRange = right.selectionRange

theorem SameAnchor.withoutAnchor_eq
    {left right : ResolvedSymbol} (same : SameAnchor left right) :
    withoutAnchor left = withoutAnchor right := by
  funext calls
  simp only [withoutAnchor, same.range]

/-- The callers of a symbol depend on its document, its name and its ranges only. -/
theorem SameAnchor.incomingCalls_eq
    {left right : ResolvedSymbol} (same : SameAnchor left right) (host : Host) :
    incomingCalls host left = incomingCalls host right := by
  simp only [incomingCalls, same.uri, same.name, same.selectionRange, same.withoutAnchor_eq]

theorem sameAnchor_symbol_item (symbol : ResolvedSymbol) : SameAnchor symbol.item.symbol symbol :=
  ⟨rfl, rfl, rfl, rfl⟩

end Delegation

/-- What an operation gives, with the run as it leaves it. -/
abbrev Answer (α : Type) := Except GraphError α × Run QueryLog

def Answer.convert {α β : Type} (answer : Answer α) (conversion : α → β) : Answer β :=
  (answer.1.map conversion, answer.2)

/-- The entry of an answer that a choice is for, if there are so many. -/
def Answer.entry? {α : Type} (answer : Answer (List α)) (choice : Nat) : Option α :=
  answer.1.toOption.bind fun entries => entries[choice]?

theorem Answer.entry?_convert
    {α β : Type} (answer : Answer (List α)) (conversion : α → β) (choice : Nat) :
    Answer.entry? (answer.convert (List.map conversion)) choice =
      (answer.entry? choice).map conversion := by
  rcases answer with ⟨error | entries, run⟩
  · rfl
  · exact List.getElem?_map

/-- One who looks up a symbol and goes on from there to callers. -/
structure Walker (Anchor Incoming : Type) where
  prepare : Uri → Position → Operation QueryLog (Option Anchor)
  incomingCalls : Anchor → Operation QueryLog (List Incoming)
  caller : Incoming → Anchor

namespace Walker

variable {Anchor Incoming : Type}

/-- The answers on a walk: the callers of an anchor, then the callers of the one that the first
choice takes from them, and so on. The walk ends where there is nothing to take. -/
def walk (walker : Walker Anchor Incoming) :
    List Nat → Anchor → Run QueryLog → List (Answer (List Incoming))
  | [], anchor, run => [(walker.incomingCalls anchor).perform run]
  | choice :: choices, anchor, run =>
      let answer : Answer (List Incoming) := (walker.incomingCalls anchor).perform run
      match answer.entry? choice with
      | some call => answer :: walker.walk choices (walker.caller call) answer.2
      | none => [answer]

/-- What a position is found to be, and the walk from there if it is a symbol. -/
def walkFrom (walker : Walker Anchor Incoming) (uri : Uri) (position : Position)
    (choices : List Nat) (run : Run QueryLog) :
    Answer (Option Anchor) × List (Answer (List Incoming)) :=
  let prepared : Answer (Option Anchor) := (walker.prepare uri position).perform run
  match prepared.1 with
  | .ok (some anchor) => (prepared, walker.walk choices anchor prepared.2)
  | _ => (prepared, [])

/-- A client gives the answers of a walker in forms of its own. -/
structure Renders {Item ItemCall : Type} (client : Walker Item ItemCall)
    (walker : Walker Anchor Incoming) (item : Anchor → Item) (itemCall : Incoming → ItemCall) :
    Prop where
  prepare : ∀ uri position run, (client.prepare uri position).perform run =
    Answer.convert ((walker.prepare uri position).perform run) (Option.map item)
  incomingCalls : ∀ anchor run, (client.incomingCalls (item anchor)).perform run =
    Answer.convert ((walker.incomingCalls anchor).perform run) (List.map itemCall)
  caller : ∀ call, client.caller (itemCall call) = item (walker.caller call)

variable {Item ItemCall : Type} {client : Walker Item ItemCall} {walker : Walker Anchor Incoming}
  {item : Anchor → Item} {itemCall : Incoming → ItemCall}

/-- A client that renders single answers renders whole walks. -/
theorem Renders.walk_eq
    (renders : Renders client walker item itemCall) (choices : List Nat) (anchor : Anchor)
    (run : Run QueryLog) :
    client.walk choices (item anchor) run =
      (walker.walk choices anchor run).map fun answer => answer.convert (List.map itemCall) := by
  induction choices generalizing anchor run with
  | nil =>
      rw [walk, walk, renders.incomingCalls]
      rfl
  | cons choice choices inductionHypothesis =>
      -- The client chooses the item of what the walker chooses, so both go on together.
      rw [walk, walk, renders.incomingCalls, Answer.entry?_convert]
      cases Answer.entry? ((walker.incomingCalls anchor).perform run) choice with
      | none => rfl
      | some call =>
          dsimp only [Option.map_some]
          rw [renders.caller, inductionHypothesis]
          rfl

theorem Renders.walkFrom_eq
    (renders : Renders client walker item itemCall) (uri : Uri) (position : Position)
    (choices : List Nat) (run : Run QueryLog) :
    client.walkFrom uri position choices run =
      ((walker.walkFrom uri position choices run).1.convert (Option.map item),
        (walker.walkFrom uri position choices run).2.map fun answer =>
          answer.convert (List.map itemCall)) := by
  rw [walkFrom, walkFrom, renders.prepare]
  rcases (walker.prepare uri position).perform run with ⟨error | _ | anchor, after⟩
  · rfl
  · rfl
  · exact Prod.ext rfl (renders.walk_eq choices anchor after)

end Walker

def Delegation.walker (host : Host) : Walker ResolvedSymbol (Call ResolvedSymbol) where
  prepare := Delegation.prepare host
  incomingCalls := Delegation.incomingCalls host
  caller := Call.symbol

namespace ReferencedService

open Operation

def client (host : Host) : Walker Item ItemCall where
  prepare := prepare host
  incomingCalls := incomingCalls host
  caller := ItemCall.item

def itemCalls (calls : List (Call ResolvedSymbol)) : List ItemCall :=
  calls.map fun call => call.toItemCall ResolvedSymbol.item

theorem perform_incomingCalls_item
    (host : Host) (symbol : ResolvedSymbol) (run : Run QueryLog) :
    (incomingCalls host symbol.item).perform run =
      Answer.convert ((Delegation.incomingCalls host symbol).perform run) itemCalls := by
  have sameCalls := (Delegation.sameAnchor_symbol_item symbol).incomingCalls_eq host
  rw [incomingCalls, sameCalls, perform_bind_pure]
  rfl

theorem client_renders_walker (host : Host) :
    Walker.Renders (client host) (Delegation.walker host) ResolvedSymbol.item
      fun call => call.toItemCall ResolvedSymbol.item where
  prepare uri position run := perform_bind_pure (Delegation.prepare host uri position) _ run
  incomingCalls := perform_incomingCalls_item host
  caller _ := rfl

/-- Items lose nothing that a service needs. The callers of a symbol's item are those of the symbol,
found by the same questions; so a client that goes from item to item sees all along what the engine
sees that goes from symbol to symbol. Of an item itself only what a client attached to it is lost. -/
theorem items_stand_for_symbols_on_every_walk (host : Host) :
    (∀ symbol run,
      (incomingCalls host (ResolvedSymbol.item symbol)).perform run =
        Answer.convert ((Delegation.incomingCalls host symbol).perform run) itemCalls) ∧
    (∀ uri position choices run,
      (client host).walkFrom uri position choices run =
        (((Delegation.walker host).walkFrom uri position choices run).1.convert
            (Option.map ResolvedSymbol.item),
          ((Delegation.walker host).walkFrom uri position choices run).2.map fun answer =>
            answer.convert itemCalls)) ∧
    ∀ item : Item, item.symbol.item = { item with data := none } :=
  ⟨perform_incomingCalls_item host, (client_renders_walker host).walkFrom_eq, fun _ => rfl⟩

end ReferencedService

end CallHierarchy
