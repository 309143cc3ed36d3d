import TypeSchema.Proofs.Generation.Step
import TypeSchema.Proofs.Registry
import TypeSchema.Schema.Example

/-!
# Generation — what its actions report

Each action of a generation reports under codes of its own: `ReportsOnly codes events` says that no
other code is among the events.  There is one lemma for each place that reports.  Collisions of
identifiers are reported by assignments only (`reportsOnly_assign`), and no place reports a type
that is closed out of turn.
-/

namespace TypeSchema

/-- The events have no codes but these. -/
def ReportsOnly (codes : List DiagnosticCode) (events : List DiagnosticEvent) : Prop :=
  ∀ e ∈ events, e.code ∈ codes

namespace ReportsOnly

variable {codes codes' : List DiagnosticCode} {events events' : List DiagnosticEvent}

theorem nil (codes : List DiagnosticCode) : ReportsOnly codes [] := fun _ he => by cases he

theorem append (h : ReportsOnly codes events) (h' : ReportsOnly codes events') :
    ReportsOnly codes (events ++ events') := List.forall_mem_append.2 ⟨h, h'⟩

theorem mono (h : ReportsOnly codes events) (sub : codes ⊆ codes') : ReportsOnly codes' events :=
  fun e he => sub (h e he)

/-- A code that is not in the list is not reported. -/
theorem code_ne (h : ReportsOnly codes events) {code : DiagnosticCode} (other : code ∉ codes) :
    ∀ e ∈ events, e.code ≠ code :=
  fun e he hc => other (hc ▸ h e he)

/-- Reports under other codes are no collisions of identifiers. -/
theorem noCollision (h : ReportsOnly codes events) (other : .idCollision ∉ codes) :
    ∀ e ∈ events, e.code ≠ .idCollision := h.code_ne other

end ReportsOnly

theorem reportsOnly_withFields (severity : Severity) (code : DiagnosticCode) (raw : String)
    (fields : List (String × Json)) :
    ReportsOnly [code] [.withFields severity code raw fields] := by
  intro e he
  obtain rfl := List.mem_singleton.1 he
  exact List.mem_singleton.2 rfl

/-! ### Constraints -/

/-- A constraint reports a bad pattern or a conflict. -/
theorem reportsOnly_applyReported (patterns : PatternCheck) (member : String) (k : Keywords)
    (c : Constraint) :
    ReportsOnly [.invalidPattern, .constraintConflict] (k.applyReported patterns member c).2 := by
  have conflicts : ReportsOnly [.invalidPattern, .constraintConflict]
      (if (k.apply c).2.isEmpty then [] else [Keywords.conflictEvent member (k.apply c).2]) := by
    split
    · exact .nil _
    · exact (reportsOnly_withFields _ _ _ _).mono (by simp)
  cases c with
  | pattern p =>
    simp only [Keywords.applyReported]
    split
    · exact (reportsOnly_withFields _ _ _ _).mono (by simp)
    · exact conflicts
  | range _ _ | minLength _ | maxLength _ | length _ _ => exact conflicts

/-- So do constraints one after the other. -/
theorem reportsOnly_applyAll (patterns : PatternCheck) (member : String) (k : Keywords)
    (constraints : List Constraint) :
    ReportsOnly [.invalidPattern, .constraintConflict]
      (k.applyAll patterns member constraints).2 := by
  induction constraints generalizing k with
  | nil => exact .nil _
  | cons c rest ih => exact (reportsOnly_applyReported patterns member k c).append (ih _)

/-- Constraints are reported when they do not count or replace each other. -/
theorem reportsOnly_annotate (patterns : PatternCheck) (a : Arena) (id : NodeId) (member : String)
    (constraints : List Constraint) :
    ReportsOnly [.invalidPattern, .constraintConflict]
      (a.annotate patterns id member constraints).2.2 := by
  unfold Arena.annotate
  split
  · exact .nil _
  · exact reportsOnly_applyAll patterns member _ constraints

/-! ### Expansion -/

/-- Members that do not fit are reported as an overflow. -/
theorem reportsOnly_complete (enc : EnumEncoding) (typeName : String) (e : Enumeration) :
    ReportsOnly [.enumOverflow] (enc.complete typeName e).2 := by
  unfold EnumEncoding.complete
  split
  · exact .nil _
  · dsimp only
    split
    · exact reportsOnly_withFields _ _ _ _
    · exact .nil _

/-- Members that are left out are reported as virtualized. -/
theorem reportsOnly_truncate (enc : EnumEncoding) (typeName : String) (n : SchemaNode) :
    ReportsOnly [.enumVirtualized] (enc.truncate typeName n).2 := by
  unfold EnumEncoding.truncate
  dsimp only
  split
  · exact reportsOnly_withFields _ _ _ _
  · exact .nil _

/-- An enumeration is reported when its values do not fit or are not all kept. -/
theorem reportsOnly_encode (enc : EnumEncoding) (typeName : String) (e : Enumeration) :
    ReportsOnly [.enumOverflow, .enumVirtualized] (enc.encode typeName e).2 :=
  ((reportsOnly_complete enc typeName e).mono (by simp)).append
    ((reportsOnly_truncate enc typeName _).mono (by simp))

/-- Of the leaf nodes only those of enumerations report anything. -/
theorem reportsOnly_leafNode? {gen : Generator} {d : TypeDescriptor} {cls : Classification}
    {n : SchemaNode} {events : List DiagnosticEvent} (h : leafNode? gen d cls = some (n, events)) :
    ReportsOnly [.enumOverflow, .enumVirtualized] events := by
  cases cls with
  | enumeration e =>
    have encoded := reportsOnly_encode gen.config.enumEncoding d.name e
    rwa [Option.some.inj h] at encoded
  | scalar _ | bytes => cases h; exact .nil _
  | object o? =>
    cases o? with
    | none => cases h; exact .nil _
    | some o => cases h
  | nullable _ | sequence _ | map _ | pair _ _ => cases h

/-- An object is reported when it loses fields. -/
theorem reportsOnly_objectEvents (gen : Generator) (d : TypeDescriptor) (o : ObjectShape) :
    ReportsOnly [.objectVirtualized] (objectEvents gen d o) := by
  unfold objectEvents
  split
  · exact reportsOnly_withFields _ _ _ _
  · exact .nil _

/-- A placeholder is reported when it is new. -/
theorem reportsOnly_placeholder (guard : Guard) (a : Arena) (v : Visit) (reason : CutReason) :
    ReportsOnly [.cycleDetected, .depthExceeded] (guard.placeholder a v reason).2.2.2 := by
  unfold Guard.placeholder
  split
  · exact .nil _
  · cases reason <;> exact (reportsOnly_withFields _ _ _ _).mono (by simp)

theorem reportsOnly_ignoredOverride (identity : String) :
    ReportsOnly [.unsupportedOverride] [ignoredOverrideEvent identity] :=
  reportsOnly_withFields _ _ _ _

/-! ### Identifiers and examples -/

/-- A claim reports a collision at most. -/
theorem reportsOnly_claim (r : Registry) (identity base : String) :
    ReportsOnly [.idCollision] (r.claim identity base).2.2 := by
  unfold Registry.claim
  split
  · exact .nil _
  · split
    · exact .nil _
    · exact reportsOnly_withFields _ _ _ _

/-- An assignment is reported when the base is taken. -/
theorem reportsOnly_assign {r r' : Registry} {g : TypeGraph} {ty : TypeId} {id : String}
    {events : List DiagnosticEvent} (h : r.assign g ty = .ok (id, r', events)) :
    ReportsOnly [.idCollision] events := by
  obtain ⟨d, -, ⟨-, -, rfl⟩ | ⟨base, -, hclaim⟩⟩ := Registry.assign_cases h
  · exact .nil _
  · have claimed := reportsOnly_claim r d.identity base
    rwa [hclaim] at claimed

/-- An example is reported when it is given up. -/
theorem reportsOnly_resolve (sources : ExampleSources) (shared : SortedMap Json) (a : Arena)
    (d : Deadline) : ReportsOnly [.exampleThrottled] (sources.resolve shared a d).2 := by
  have sampled : ∀ id, ReportsOnly [.exampleThrottled] (a.synthesize d id).2 := by
    intro id
    unfold Arena.synthesize
    split
    · exact .nil _
    · exact reportsOnly_withFields _ _ _ _
  unfold ExampleSources.resolve
  split
  · exact .nil _
  · split
    · exact .nil _
    · exact .nil _
    · exact sampled _

end TypeSchema
