import TypeSchema.SortedMap
import TypeSchema.Number.Binary64

/-!
# JSON values

The fields of an object are kept in lexical order of their keys, each key once: `Json.ofFields`
builds objects that way. Integers and doubles are told apart, as their texts are.
-/

namespace TypeSchema

/-- A JSON value. -/
inductive Json where
  | null
  | bool (b : Bool)
  | int (n : Int)
  | float (x : Float)
  | string (s : String)
  | array (items : List Json)
  | object (fields : List (String × Json))
  deriving Inhabited

namespace Json

/-- The object with the entries of a map. -/
def ofMap (m : SortedMap Json) : Json := object m.toList

/-- The object with some fields; of several under one key the last counts. -/
def ofFields (fields : List (String × Json)) : Json := ofMap (SortedMap.ofList fields)

/-- An array of texts. -/
def ofStrings (ss : List String) : Json := array (ss.map string)

/-- A natural number. -/
def ofNat (n : Nat) : Json := int n

/-- The value of a field of an object. -/
def get? (key : String) : Json → Option Json
  | object fields => SortedMap.lookup key fields
  | _ => none

/-- A field that is there only if it has a value. -/
def optionalField (key : String) : Option Json → List (String × Json)
  | some v => [(key, v)]
  | none => []

/-- Sets a field of an object that has none of this name; other values stay as they are. -/
def withDefault (key : String) (v : Json) : Json → Json
  | object fields =>
    if (SortedMap.lookup key fields).isSome then object fields
    else object (SortedMap.insertEntry key v fields)
  | j => j

/-- A double as a JSON number: an integer if it is one and fits 64 bits with a sign, and null if
it is infinite or not a number. The double just above the greatest such integer counts as that
integer. -/
def ofBound (x : Float) : Json :=
  match Binary64.ofFloat x with
  | .finite negative m e =>
    match (Binary64.finite negative m e).integer? with
    | some n =>
      if signedMin 64 ≤ n ∧ n ≤ signedMax 64 + 1 then int (min n (signedMax 64)) else float x
    | none => float x
  | _ => null

end Json

end TypeSchema
