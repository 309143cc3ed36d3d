/-!
# Collections

The generic abstractions that are read as sequences of one element type or as maps from one type to
another. A generic type of any other name is neither.
-/

namespace TypeSchema

/-- A generic abstraction, by its canonical name. -/
inductive CollectionKind where
  | list
  | set
  | sequence
  | readOnlyList
  | queue
  | stack
  | dictionary
  | readOnlyDictionary
  | other (name : String)
  deriving DecidableEq, Repr

namespace CollectionKind

/-- The canonical name. -/
def name : CollectionKind → String
  | list => "List"
  | set => "Set"
  | sequence => "Sequence"
  | readOnlyList => "ReadOnlyList"
  | queue => "Queue"
  | stack => "Stack"
  | dictionary => "Dictionary"
  | readOnlyDictionary => "ReadOnlyDictionary"
  | other name => name

/-- Whether the abstraction is a sequence of one element type. -/
def isSequence : CollectionKind → Bool
  | list | set | sequence | readOnlyList | queue | stack => true
  | _ => false

/-- Whether the abstraction maps one type to another. -/
def isMap : CollectionKind → Bool
  | dictionary | readOnlyDictionary => true
  | _ => false

/-- The abstraction of a name; several names may stand for one abstraction. -/
def ofName (name : String) : CollectionKind :=
  match name with
  | "List" | "Vec" => list
  | "Set" | "HashSet" | "BTreeSet" => set
  | "Sequence" | "Iterable" => sequence
  | "ReadOnlyList" => readOnlyList
  | "Queue" | "VecDeque" => queue
  | "Stack" => stack
  | "Dictionary" | "Map" | "HashMap" | "BTreeMap" => dictionary
  | "ReadOnlyDictionary" => readOnlyDictionary
  | name => other name

end CollectionKind

end TypeSchema
