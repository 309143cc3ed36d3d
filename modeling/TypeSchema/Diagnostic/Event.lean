import TypeSchema.Json.Value
import TypeSchema.Text.Sanitized

/-!
# Diagnostic events

Every decision that loses something is reported as an event with a severity, a code, a clean
message and, as a rule, a context.
-/

namespace TypeSchema

/-- How bad an event is, from a mere record to a broken invariant. -/
inductive Severity where
  | info
  | warn
  | error
  | critical
  deriving DecidableEq, Repr, Inhabited

namespace Severity

/-- The word for a severity. -/
def name : Severity → String
  | info => "info"
  | warn => "warn"
  | error => "error"
  | critical => "critical"

/-- All severities, from the least on. -/
def all : List Severity := [info, warn, error, critical]

/-- The rank of a severity; a worse one has a higher rank. -/
def rank : Severity → Nat
  | info => 0
  | warn => 1
  | error => 2
  | critical => 3

/-- The worse of two severities. -/
def worse (a b : Severity) : Severity := if a.rank < b.rank then b else a

end Severity

/-- What an event is about. -/
inductive DiagnosticCode where
  | cycleDetected
  | depthExceeded
  | enumOverflow
  | enumVirtualized
  | objectVirtualized
  | exampleThrottled
  | constraintConflict
  | invalidPattern
  | idCollision
  | scalarOverride
  | unsupportedOverride
  | guardStackMismatch
  deriving DecidableEq, Repr, Inhabited

namespace DiagnosticCode

/-- The word for a code. -/
def name : DiagnosticCode → String
  | cycleDetected => "cycle_detected"
  | depthExceeded => "depth_exceeded"
  | enumOverflow => "enum_overflow"
  | enumVirtualized => "enum_virtualized"
  | objectVirtualized => "object_virtualized"
  | exampleThrottled => "example_throttled"
  | constraintConflict => "constraint_conflict"
  | invalidPattern => "invalid_pattern"
  | idCollision => "id_collision"
  | scalarOverride => "scalar_override"
  | unsupportedOverride => "unsupported_override"
  | guardStackMismatch => "guard_stack_mismatch"

/-- All codes. -/
def all : List DiagnosticCode :=
  [cycleDetected, depthExceeded, enumOverflow, enumVirtualized, objectVirtualized,
    exampleThrottled, constraintConflict, invalidPattern, idCollision, scalarOverride,
    unsupportedOverride, guardStackMismatch]

end DiagnosticCode

/-- One reported decision. -/
structure DiagnosticEvent where
  severity : Severity
  code : DiagnosticCode
  /-- The message, already clean. -/
  message : String
  context? : Option Json
  /-- Whether cleaning changed the message. -/
  sanitized : Bool
  deriving Inhabited

namespace DiagnosticEvent

/-- The event with a message as it came up. -/
def new (severity : Severity) (code : DiagnosticCode) (raw : String)
    (context? : Option Json := none) : DiagnosticEvent :=
  let (message, sanitized) := Text.sanitize raw
  ⟨severity, code, message, context?, sanitized⟩

/-- The event with a message as it came up and the fields of its context. -/
def withFields (severity : Severity) (code : DiagnosticCode) (raw : String)
    (fields : List (String × Json)) : DiagnosticEvent :=
  new severity code raw (some (Json.ofFields fields))

end DiagnosticEvent

/-! ### Collecting events -/

/-- A collector keeps what it was given, in order. -/
structure Collector where
  events : List DiagnosticEvent := []
  deriving Inhabited

namespace Collector

/-- Takes one more event. -/
def emit (c : Collector) (e : DiagnosticEvent) : Collector := ⟨c.events ++ [e]⟩

/-- How many events have a code. -/
def count (c : Collector) (code : DiagnosticCode) : Nat :=
  c.events.countP (fun e => e.code = code)

/-- The collected events, and the collector without them. -/
def drain (c : Collector) : List DiagnosticEvent × Collector := (c.events, ⟨[]⟩)

/-- Whether nothing was collected. -/
def isEmpty (c : Collector) : Bool := c.events.isEmpty

/-- The worst severity of the collected events. -/
def worst? (c : Collector) : Option Severity :=
  c.events.foldl (fun w e => some (match w with
    | some s => s.worse e.severity
    | none => e.severity)) none

end Collector

/-- Several collectors that each take every event. -/
structure Fanout where
  collectors : List Collector
  deriving Inhabited

/-- Gives an event to every collector. -/
def Fanout.emit (f : Fanout) (e : DiagnosticEvent) : Fanout :=
  ⟨f.collectors.map (·.emit e)⟩

end TypeSchema
