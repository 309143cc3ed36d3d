/-!
# YAML tokens

The scanner turns a text into tokens. It adds those for the beginning and the end of a block, which
the text shows by indentation only.
-/

namespace TypeSchema.Yaml

/-- How a scalar is written. -/
inductive ScalarStyle where
  | plain
  | quoted
  | literal
  | folded
  deriving DecidableEq, Repr, Inhabited

/-- A tag as it is written: a handle that stands for a beginning, and the rest. -/
structure TagText where
  handle : String
  suffix : String
  deriving DecidableEq, Repr

/-- A token. -/
inductive Token where
  | streamEnd
  | versionDirective (major minor : Nat)
  | tagDirective (handle : String) (expansion : String)
  | documentStart
  | documentEnd
  | blockSequenceStart
  | blockMappingStart
  | blockEnd
  | flowSequenceStart
  | flowSequenceEnd
  | flowMappingStart
  | flowMappingEnd
  | blockEntry
  | flowEntry
  | key
  | value
  | alias (name : String)
  | anchor (name : String)
  | tag (t : TagText)
  | scalar (text : String) (style : ScalarStyle)
  deriving DecidableEq, Repr, Inhabited

end TypeSchema.Yaml
