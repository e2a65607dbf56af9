import CallHierarchy.Document.Snapshot

/-!
Reference lists in reading order: file by file, in the order in which the files first appear, and
by start position within a file. References that start at the same place keep their order.
-/

namespace CallHierarchy.References

structure Group where
  uri : Uri
  locations : List Location
  deriving DecidableEq, Repr

/-- The groups with one more reference, in its file's group or in a new one at the end. -/
def addToGroups : List Group → Location → List Group
  | [], location => [⟨location.uri, [location]⟩]
  | group :: rest, location =>
      if group.uri = location.uri then
        { group with locations := group.locations ++ [location] } :: rest
      else
        group :: addToGroups rest location

/-- The references by file, in the order in which the files first appear. -/
def groups (locations : List Location) : List Group :=
  locations.foldl addToGroups []

/-- A sorted list with one more reference, before those that start where it does. -/
def insertByStart (location : Location) : List Location → List Location
  | [] => [location]
  | first :: rest =>
      if location.range.start.atOrBefore first.range.start then location :: first :: rest
      else first :: insertByStart location rest

/-- The references by start position; those with the same start keep their order. -/
def sortByStart (locations : List Location) : List Location :=
  locations.foldr insertByStart []

def inReadingOrder (locations : List Location) : List Location :=
  (groups locations).flatMap fun group => sortByStart group.locations

end CallHierarchy.References
