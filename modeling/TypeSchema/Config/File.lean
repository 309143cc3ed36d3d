import TypeSchema.Config.Basic
import TypeSchema.Number.Bounds
import TypeSchema.Text.Numeral
import TypeSchema.Toml.Text

/-!
# Configuration files

A configuration file is a TOML document with two tables that both may be missing: `generator` has
the settings, and `scalar_overrides` has a table for each overridden name. Settings that are missing
keep their defaults; a setting that is not known is an error. A table of known fields may also be
written as the array of its fields.
-/

namespace TypeSchema.Config

/-! ### Reading values -/

/-- A text. -/
def tomlText? : Toml → Option String
  | .string s => some s
  | _ => none

/-- A truth value. -/
def tomlBool? : Toml → Option Bool
  | .bool b => some b
  | _ => none

/-- A natural number of 64 bits. -/
def tomlNat? : Toml → Option Nat
  | .integer n => if fitsUnsigned 64 n then some n.toNat else none
  | _ => none

/-- One of some names: a text, or a table with the name as its only key and nothing in it. -/
def tomlName? : Toml → Option String
  | .string s => some s
  | .table _ [(name, .table _ [])] => some name
  | .table _ [(name, .array [])] => some name
  | _ => none

/-- Whether a value that nobody asks for may stand: its integers have to fit 128 bits. -/
def isReadable (v : Toml) : Bool :=
  match v with
  | .integer n => signedMin 128 ≤ n && n ≤ unsignedMax 128
  | .array items => areReadable items
  | .tables items => areReadable items
  | .table _ entries => haveReadable entries
  | _ => true
where
  /-- Whether all items may stand. -/
  areReadable : List Toml → Bool
    | [] => true
    | v :: rest => isReadable v && areReadable rest
  /-- Whether the values of all entries may stand. -/
  haveReadable : List (String × Toml) → Bool
    | [] => true
    | (_, v) :: rest => isReadable v && haveReadable rest

/-! ### Settings -/

/-- The settings of a file, in the order in which an array has them. -/
structure Settings where
  specVersion? : Option String := none
  maxDepth? : Option Nat := none
  enumThreshold? : Option Nat := none
  memberThreshold? : Option Nat := none
  exampleBudget? : Option Nat := none
  enumMode? : Option EnumMode := none
  enumNaming? : Option NamingPolicy := none
  synthesizeExamples? : Option Bool := none

/-- The names of the settings, in their order. -/
def settingNames : List String :=
  ["spec_version", "max_depth", "enum_threshold", "object_member_threshold", "example_budget_ms",
    "enum_mode", "enum_naming", "synthesize_examples"]

/-- Takes one setting. -/
def Settings.set? (s : Settings) (name : String) (v : Toml) : Option Settings :=
  match name with
  | "spec_version" => (tomlText? v).map fun x => { s with specVersion? := some x }
  | "max_depth" => (tomlNat? v).map fun x => { s with maxDepth? := some x }
  | "enum_threshold" => (tomlNat? v).map fun x => { s with enumThreshold? := some x }
  | "object_member_threshold" => (tomlNat? v).map fun x => { s with memberThreshold? := some x }
  | "example_budget_ms" => (tomlNat? v).map fun x => { s with exampleBudget? := some x }
  | "enum_mode" =>
    ((tomlName? v).bind EnumMode.ofName?).map fun x => { s with enumMode? := some x }
  | "enum_naming" =>
    ((tomlName? v).bind NamingPolicy.ofName?).map fun x => { s with enumNaming? := some x }
  | "synthesize_examples" => (tomlBool? v).map fun x => { s with synthesizeExamples? := some x }
  | _ => none

/-- Takes settings in order. -/
def Settings.setAll? (s : Settings) : List (String × Toml) → Option Settings
  | [] => some s
  | (name, v) :: rest => (s.set? name v).bind fun s => s.setAll? rest

/-- The settings of a table, or of an array that has at least all of them. -/
def settings? (v : Toml) : Option Settings :=
  match v.entries?, v.items? with
  | some entries, _ => Settings.setAll? {} entries
  | none, some items =>
    if items.length < settingNames.length then none
    else Settings.setAll? {} (settingNames.zip items)
  | none, none => none

/-! ### Overrides -/

/-- The primitive type that a value names. -/
def tomlPrimitive? (v : Toml) : Option PrimitiveType := (tomlName? v).bind PrimitiveType.ofName?

/-- An override: a type and perhaps a format. Other fields are ignored. -/
def override? (v : Toml) : Option ScalarOverride :=
  match v.entries?, v.items? with
  | some entries, _ => do
    let primitive ← (entries.lookup "type").bind tomlPrimitive?
    let others := entries.filter fun (k, _) => k ≠ "type" && k ≠ "format"
    if !others.all (fun (_, v) => isReadable v) then none
    else
      match entries.lookup "format" with
      | none => return ⟨primitive, none⟩
      | some v => return ⟨primitive, some (← tomlText? v)⟩
  | none, some (kind :: rest) => do
    let primitive ← tomlPrimitive? kind
    match rest with
    | [] => return ⟨primitive, none⟩
    | v :: _ => return ⟨primitive, some (← tomlText? v)⟩
  | none, _ => none

/-- The overrides of a table. -/
def overrides? (v : Toml) : Option Overrides := do
  let entries ← v.entries?
  let named ← entries.mapM fun (name, v) => (override? v).map fun o => (name, o)
  return SortedMap.ofList named

/-! ### Files -/

/-- The configuration of some settings and overrides. -/
def ofSettings (s : Settings) (overrides : Overrides) : Config :=
  let defaults : Config := {}
  { version := (s.specVersion?.bind OpenApiVersion.parse?).getD defaults.version
    maxDepth := max 1 (s.maxDepth?.getD defaults.maxDepth)
    enumThreshold := s.enumThreshold?.getD defaults.enumThreshold
    memberThreshold? := s.memberThreshold?
    exampleBudget := s.exampleBudget?.getD defaults.exampleBudget
    enumMode := s.enumMode?.getD defaults.enumMode
    enumNaming := s.enumNaming?.getD defaults.enumNaming
    overrides
    synthesizeExamples := s.synthesizeExamples?.getD defaults.synthesizeExamples }

/-- The configuration of a document, which has no tables but the known ones. -/
def ofDocument? (document : Toml) : Option Config := do
  let entries ← document.entries?
  if !entries.all (fun (k, _) => k = "generator" || k = "scalar_overrides") then none
  else
    let s ← ((entries.lookup "generator").map settings?).getD (some {})
    let overrides ← ((entries.lookup "scalar_overrides").map overrides?).getD (some SortedMap.empty)
    return ofSettings s overrides

/-- Reads a configuration file. -/
def ofToml? (text : String) : Option Config := (Toml.read? text).bind ofDocument?

end TypeSchema.Config
