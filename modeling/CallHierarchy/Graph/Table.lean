/-!
Finite maps that remember the order in which their keys came.
-/

namespace CallHierarchy

/-- A finite map in the order of its keys' first insertion. -/
structure Table (κ α : Type) where
  entries : List (κ × α)
  deriving DecidableEq, Repr

namespace Table

variable {κ α : Type} [DecidableEq κ]

def empty : Table κ α :=
  ⟨[]⟩

def find? (table : Table κ α) (key : κ) : Option α :=
  (table.entries.find? fun entry => entry.1 = key).map Prod.snd

def contains (table : Table κ α) (key : κ) : Bool :=
  (table.find? key).isSome

def values (table : Table κ α) : List α :=
  table.entries.map Prod.snd

def size (table : Table κ α) : Nat :=
  table.entries.length

/-- Replaces the value of a key, or puts the key at the end. -/
def insertEntry (key : κ) (value : α) : List (κ × α) → List (κ × α)
  | [] => [(key, value)]
  | first :: rest =>
      if first.1 = key then (key, value) :: rest else first :: insertEntry key value rest

def insert (table : Table κ α) (key : κ) (value : α) : Table κ α :=
  ⟨insertEntry key value table.entries⟩

theorem find?_insertEntry
    (key other : κ) (value : α) (entries : List (κ × α)) :
    ((insertEntry key value entries).find? fun entry => entry.1 = other).map Prod.snd =
      if other = key then some value
      else (entries.find? fun entry => entry.1 = other).map Prod.snd := by
  induction entries with
  | nil =>
      by_cases same : other = key
      · simp [insertEntry, same]
      · simp [insertEntry, same, Ne.symm same]
  | cons first rest inductionHypothesis =>
      by_cases sameFirst : first.1 = key
      · by_cases same : other = key
        · simp [insertEntry, sameFirst, same]
        · simp [insertEntry, sameFirst, same, Ne.symm same]
      · by_cases firstOther : first.1 = other
        · have different : ¬ other = key := fun same => sameFirst (firstOther.trans same)
          simp [insertEntry, firstOther, different]
        · simpa [insertEntry, sameFirst, firstOther] using inductionHypothesis

/-- After an insertion the key has the new value and every other key keeps its own. -/
@[simp] theorem find?_insert
    (table : Table κ α) (key other : κ) (value : α) :
    (table.insert key value).find? other =
      if other = key then some value else table.find? other :=
  find?_insertEntry key other value table.entries

@[simp] theorem find?_empty (key : κ) : (empty : Table κ α).find? key = none :=
  rfl

end Table

end CallHierarchy
