import TypeSchema.SortedMap

/-!
# TOML values

A table remembers how it was written, because that decides what may still be added to it.
-/

namespace TypeSchema

/-- How a table came to be. -/
inductive TableOrigin where
  /-- By the header of a table inside of it. -/
  | implied
  /-- By a dotted key. -/
  | dotted
  /-- By its own header. -/
  | headed
  /-- Between braces. -/
  | inline
  deriving DecidableEq, Repr, Inhabited

/-- A TOML value. Of a date or a time only the fact that it is one is kept. -/
inductive Toml where
  | string (s : String)
  | integer (n : Int)
  | float (x : Float)
  | bool (b : Bool)
  | datetime
  | array (items : List Toml)
  /-- An array of tables that have headers of their own, last first. -/
  | tables (items : List Toml)
  | table (origin : TableOrigin) (entries : List (String × Toml))
  deriving Inhabited

namespace Toml

/-- The table without entries that a document begins with. -/
def emptyDocument : Toml := .table .headed []

/-- The items of an array, first to last. -/
def items? : Toml → Option (List Toml)
  | array items => some items
  | tables items => some items.reverse
  | _ => none

/-- The entries of a table. -/
def entries? : Toml → Option (List (String × Toml))
  | table _ entries => some entries
  | _ => none

/-! ### Putting values in place -/

/-- Changes the value under a key of an entry list; the change sees `none` if there is none. -/
def alterEntry (key : String) (f : Option Toml → Option Toml) :
    List (String × Toml) → Option (List (String × Toml))
  | [] => (f none).map fun v => [(key, v)]
  | (k, v) :: rest =>
    if k = key then (f (some v)).map fun v => (k, v) :: rest
    else (alterEntry key f rest).map ((k, v) :: ·)

/-- Sets a value under a dotted key. The tables on the way are created, or exist and have no header
of their own; the last one of them has to come from dotted keys too. -/
def setDotted (v : Toml) : List String → Toml → Option Toml
  | [], _ => none
  | [key], table origin entries =>
    (alterEntry key (fun | none => some v | some _ => none) entries).map (table origin)
  | [outer, key], table origin entries =>
    (alterEntry outer (fun old? =>
      match old? with
      | none => setDotted v [key] (table .dotted [])
      | some (table .dotted inner) => setDotted v [key] (table .dotted inner)
      | some _ => none) entries).map (table origin)
  | outer :: path, table origin entries =>
    (alterEntry outer (fun old? =>
      match old? with
      | none => setDotted v path (table .dotted [])
      | some (table .dotted inner) => setDotted v path (table .dotted inner)
      | some (table .implied inner) => setDotted v path (table .implied inner)
      | some (tables (last :: before)) =>
        (setDotted v path last).map fun last => tables (last :: before)
      | some _ => none) entries).map (table origin)
  | _, _ => none

/-- Changes the value under the path of a header. The tables on the way are created, or exist and
are not written between braces; of an array of tables the last one counts. -/
def alterHeaded (f : Option Toml → Option Toml) : List String → Toml → Option Toml
  | [], v => f (some v)
  | [key], table origin entries => (alterEntry key f entries).map (table origin)
  | outer :: path, table origin entries =>
    (alterEntry outer (fun old? =>
      match old? with
      | none => alterHeaded f path (table .implied [])
      | some (table .inline _) => none
      | some (table origin inner) => alterHeaded f path (table origin inner)
      | some (tables (last :: before)) =>
        (alterHeaded f path last).map fun last => tables (last :: before)
      | some _ => none) entries).map (table origin)
  | _, _ => none

/-- Opens the table of a header: a new one, or one that was only implied before. -/
def openTable (path : List String) (document : Toml) : Option Toml :=
  alterHeaded (fun old? =>
    match old? with
    | none => some (table .headed [])
    | some (table .implied entries) => some (table .headed entries)
    | some _ => none) path document

/-- Opens another table of an array of tables. -/
def openElement (path : List String) (document : Toml) : Option Toml :=
  alterHeaded (fun old? =>
    match old? with
    | none => some (tables [table .headed []])
    | some (tables items) => some (tables (table .headed [] :: items))
    | some _ => none) path document

/-- Sets a value under a dotted key of the table that was opened last. -/
def setUnder (header key : List String) (v : Toml) (document : Toml) : Option Toml :=
  match header with
  | [] => setDotted v key document
  | header =>
    alterHeaded (fun old? =>
      match old? with
      | some (tables (last :: before)) =>
        (setDotted v key last).map fun last => tables (last :: before)
      | some t => setDotted v key t
      | none => none) header document

/-! ### Statements -/

/-- One statement of a document. -/
inductive Statement where
  | table (path : List String)
  | element (path : List String)
  | entry (key : List String) (v : Toml)

/-- The document of some statements, after those that opened the table `header`. -/
def assemble (header : List String) (document : Toml) : List Statement → Option Toml
  | [] => some document
  | .table path :: rest => (openTable path document).bind fun d => assemble path d rest
  | .element path :: rest => (openElement path document).bind fun d => assemble path d rest
  | .entry key v :: rest => (setUnder header key v document).bind fun d => assemble header d rest

end Toml

end TypeSchema
