/-!
# Scalars

The scalar types with a meaning of their own, their names and the keywords that stand for them in
type expressions. Any other scalar is only a name.
-/

namespace TypeSchema

/-- A kind of scalar. -/
inductive ScalarKind where
  | string
  | char
  | boolean
  | int8
  | int16
  | int32
  | int64
  | uint8
  | uint16
  | uint32
  | uint64
  | float32
  | float64
  | decimal
  | uuid
  | dateTime
  | date
  | time
  | duration
  | uri
  | binary
  | file
  | other (name : String)
  deriving DecidableEq, Repr

namespace ScalarKind

/-- The name that a scalar has as a type. -/
def name : ScalarKind → String
  | string => "String"
  | char => "Char"
  | boolean => "Boolean"
  | int8 => "Int8"
  | int16 => "Int16"
  | int32 => "Int32"
  | int64 => "Int64"
  | uint8 => "UInt8"
  | uint16 => "UInt16"
  | uint32 => "UInt32"
  | uint64 => "UInt64"
  | float32 => "Float32"
  | float64 => "Float64"
  | decimal => "Decimal"
  | uuid => "Uuid"
  | dateTime => "DateTime"
  | date => "Date"
  | time => "Time"
  | duration => "Duration"
  | uri => "Uri"
  | binary => "Binary"
  | file => "File"
  | other name => name

/-- The scalar that a keyword of type expressions stands for. -/
def ofKeyword? (keyword : String) : Option ScalarKind :=
  match keyword with
  | "string" | "str" => some string
  | "char" => some char
  | "bool" | "boolean" => some boolean
  | "i8" | "int8" => some int8
  | "i16" | "int16" => some int16
  | "i32" | "int32" | "int" => some int32
  | "i64" | "int64" | "long" => some int64
  | "u8" | "uint8" | "byte" => some uint8
  | "u16" | "uint16" => some uint16
  | "u32" | "uint32" => some uint32
  | "u64" | "uint64" => some uint64
  | "f32" | "float" | "float32" => some float32
  | "f64" | "double" | "float64" => some float64
  | "decimal" => some decimal
  | "uuid" => some uuid
  | "datetime" | "date-time" | "timestamp" => some dateTime
  | "date" => some date
  | "time" => some time
  | "duration" => some duration
  | "uri" | "url" => some uri
  | "binary" | "bytes" => some binary
  | "file" => some file
  | _ => none

end ScalarKind

end TypeSchema
