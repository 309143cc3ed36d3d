import Mathlib
import TypeSchema.Proofs.Generation.Once
import TypeSchema.Proofs.Generation.Placeholders
import TypeSchema.Proofs.Generation.Reports
import TypeSchema.Proofs.Schema.Counts

/-!
# Generation — every loss is reported once

What a generation loses can be counted in what it builds: a type that is cut off leaves a
placeholder, an enumeration that loses literals leaves a node that says so, and so does the recorded
node of an object that loses fields.  `t.losses code` is how many of them the state `t` holds, and
`t.Accounts t'` says that from `t` to `t'` just as many were reported as are new, for each code.

The two sides do not move together.  A placeholder is given out again without a node and without a
report; an enumeration has a node and a report wherever it is met; an object is reported when it is
opened, recorded after its fields, and added twice.  That it is not recorded by one of its fields is
what `Traversal.Once` knows.

`generate_accounts` says it of a generation.
-/

namespace TypeSchema

variable {gen : Generator} {g : TypeGraph}

/-! ### Counting events -/

/-- How many of the events have the code. -/
abbrev countCode (code : DiagnosticCode) (events : List DiagnosticEvent) : Nat :=
  (Collector.mk events).count code

/-- Counts of events add up along a concatenation. -/
theorem countCode_append (code : DiagnosticCode) (events events' : List DiagnosticEvent) :
    countCode code (events ++ events') = countCode code events + countCode code events' :=
  List.countP_append ..

/-- Under a code that is not reported there are no events. -/
theorem ReportsOnly.countCode_eq_zero {codes : List DiagnosticCode}
    {events : List DiagnosticEvent} (h : ReportsOnly codes events) {code : DiagnosticCode}
    (other : code ∉ codes) : countCode code events = 0 :=
  List.countP_eq_zero.2 fun e he => by simpa using h.code_ne other e he

/-- One event counts once, for its own code. -/
theorem countCode_withFields (code code' : DiagnosticCode) (severity : Severity) (raw : String)
    (fields : List (String × Json)) :
    countCode code [.withFields severity code' raw fields] = if code' = code then 1 else 0 := by
  by_cases h : code' = code <;>
    simp [Collector.count, DiagnosticEvent.withFields, DiagnosticEvent.new, h]

/-! ### Losses -/

/-- The codes of the reports about something that is lost. -/
def lossCodes : List DiagnosticCode :=
  [.cycleDetected, .depthExceeded, .objectVirtualized, .enumVirtualized]

namespace SchemaNode

/-- The node is a placeholder for the reason. -/
def isCutFor (reason : CutReason) (n : SchemaNode) : Bool :=
  match n.kind with
  | .placeholder p => p.reason = reason
  | _ => false

/-- The node says that some of its content was dropped. -/
def isTruncated (n : SchemaNode) : Bool := n.truncation?.isSome

/-- The node says that some of its content was dropped, and is no component. -/
def dropsLiterals (n : SchemaNode) : Bool := n.isTruncated && n.identifier?.isNone

/-- Whether a report with the code is about a node of this kind. -/
def isLoss (code : DiagnosticCode) (n : SchemaNode) : Bool :=
  match code with
  | .cycleDetected => n.isCutFor .cycle
  | .depthExceeded => n.isCutFor .depth
  | .enumVirtualized => n.dropsLiterals
  | _ => false

theorem undecorated_isTruncated : Undecorated isTruncated where
  mark n n' h := by rw [h]; rfl
  wrap _ _ := rfl
  null := rfl
  union _ _ := rfl
  extend n id := by unfold Arena.addAlternative; split <;> rfl

/-- What a node says that it lost is the same after decoration. -/
theorem undecorated_isLoss (code : DiagnosticCode) : Undecorated (isLoss code) where
  mark n n' h := by rw [h]; rfl
  wrap _ _ := by cases code <;> rfl
  null := by cases code <;> rfl
  union _ _ := by cases code <;> rfl
  extend n id := by
    unfold Arena.addAlternative
    split
    · next hk => cases code <;> simp [isLoss, isCutFor, dropsLiterals, isTruncated, hk]
    · next hk => cases code <;> simp [isLoss, isCutFor, dropsLiterals, isTruncated, hk]
    · rfl

end SchemaNode

/-- How many recorded components say that some of their fields were dropped. -/
def truncatedComponents (a : Arena) (identifiers : SortedMap NodeId) : Nat :=
  identifiers.toList.countP fun e => (a.get? e.2).any SchemaNode.isTruncated

namespace Traversal

/-- How many losses a state holds that are reported with the code. -/
def losses (t : Traversal) (code : DiagnosticCode) : Nat :=
  t.arena.count (SchemaNode.isLoss code) +
    if code = .objectVirtualized then truncatedComponents t.arena t.identifiers else 0

/-- From `t` to `t'` each loss is reported once. -/
def Accounts (t t' : Traversal) : Prop :=
  ∃ events, t'.events = t.events ++ events ∧
    ∀ code ∈ lossCodes, t'.losses code = t.losses code + countCode code events

namespace Accounts

variable {t t₁ t' : Traversal}

theorem refl (t : Traversal) : t.Accounts t := ⟨[], by simp, fun _ _ => rfl⟩

theorem trans (h₁ : t.Accounts t₁) (h₂ : t₁.Accounts t') : t.Accounts t' := by
  obtain ⟨e₁, he₁, hl₁⟩ := h₁
  obtain ⟨e₂, he₂, hl₂⟩ := h₂
  refine ⟨e₁ ++ e₂, by rw [he₂, he₁, List.append_assoc], fun code hc => ?_⟩
  rw [hl₂ code hc, hl₁ code hc, countCode_append, Nat.add_assoc]

/-- Nothing is lost, and something else is reported. -/
theorem aside {codes : List DiagnosticCode} {events : List DiagnosticEvent}
    (reports : ReportsOnly codes events) (other : ∀ code ∈ lossCodes, code ∉ codes)
    (he : t'.events = t.events ++ events)
    (same : ∀ code ∈ lossCodes, t'.losses code = t.losses code) : t.Accounts t' :=
  ⟨events, he, fun code hc => by
    rw [same code hc, reports.countCode_eq_zero (other code hc), Nat.add_zero]⟩

/-- What is reported before the parts is lost after them. -/
theorem around {t₀ : Traversal} {events : List DiagnosticEvent}
    (before : t₀.events = t.events ++ events) (same : ∀ code, t₀.losses code = t.losses code)
    (parts : t₀.Accounts t₁) (after : t'.events = t₁.events)
    (lost : ∀ code ∈ lossCodes, t'.losses code = t₁.losses code + countCode code events) :
    t.Accounts t' := by
  obtain ⟨more, he, hl⟩ := parts
  refine ⟨events ++ more, by rw [after, he, before, List.append_assoc], fun code hc => ?_⟩
  rw [lost code hc, hl code hc, same, countCode_append]
  omega

/-- Neither is anything lost nor is anything reported. -/
theorem of_eq (he : t'.events = t.events) (ha : t'.arena = t.arena)
    (hi : t'.identifiers = t.identifiers) : t.Accounts t' :=
  ⟨[], by simp [he], fun code _ => by simp [losses, ha, hi, Collector.count]⟩

end Accounts

end Traversal

/-! ### One node -/

/-- The events report what the node says that it lost. -/
def SchemaNode.Accounts (n : SchemaNode) (events : List DiagnosticEvent) : Prop :=
  ∀ code ∈ lossCodes, countCode code events = if n.isLoss code then 1 else 0

namespace SchemaNode

/-- What a node that is no placeholder can lose are literals. -/
theorem isLoss_of_ne_placeholder {n : SchemaNode} (kind : ∀ p, n.kind ≠ .placeholder p)
    (code : DiagnosticCode) :
    n.isLoss code = (decide (code = .enumVirtualized) && n.dropsLiterals) := by
  have uncut : ∀ reason, n.isCutFor reason = false := by
    intro reason
    unfold isCutFor
    split
    · next p hp => exact absurd hp (kind p)
    · rfl
  cases code <;> simp [isLoss, uncut]

/-- A node made of others that keeps its literals has lost nothing. -/
theorem IsMadeOf.isLoss_eq_false {n : SchemaNode} {identifier? : Option String}
    {ids : List NodeId} (made : n.IsMadeOf identifier? ids) (complete : n.dropsLiterals = false)
    (code : DiagnosticCode) : n.isLoss code = false := by
  obtain ⟨p, kind⟩ := made.primitive
  rw [isLoss_of_ne_placeholder (fun q hq => by rw [kind] at hq; cases hq), complete,
    Bool.and_false]

/-- Nothing is reported about a node that lost nothing. -/
theorem Accounts.silent {n : SchemaNode} (complete : ∀ code, n.isLoss code = false) :
    n.Accounts [] := fun code _ => by simp [complete code, Collector.count]

/-- A list of literals is cut with a report. -/
theorem accounts_truncate (enc : EnumEncoding) (typeName : String) {n : SchemaNode}
    (kind : ∀ p, n.kind ≠ .placeholder p) (complete : n.truncation? = none)
    (unnamed : n.identifier? = none) :
    (enc.truncate typeName n).1.Accounts (enc.truncate typeName n).2 := by
  unfold EnumEncoding.truncate
  dsimp only
  split
  · intro code _
    rw [EnumEncoding.truncationEvent, countCode_withFields,
      isLoss_of_ne_placeholder (by exact kind)]
    by_cases hc : code = .enumVirtualized
    · simp [hc, dropsLiterals, isTruncated, unnamed]
    · simp [hc, Ne.symm hc]
  · refine .silent fun code => ?_
    simp [isLoss_of_ne_placeholder kind, dropsLiterals, isTruncated, complete]

/-- An enumeration reports what its node says that it lost. -/
theorem accounts_encode (enc : EnumEncoding) (typeName : String) (e : Enumeration) :
    (enc.encode typeName e).1.Accounts (enc.encode typeName e).2 := by
  have whole : (enc.complete typeName e).1.truncation? = none ∧
      (enc.complete typeName e).1.identifier? = none ∧
      ∀ p, (enc.complete typeName e).1.kind ≠ .placeholder p := by
    unfold EnumEncoding.complete
    split
    · simp [ofPrimitive]
    · dsimp only
      split <;> simp [ofPrimitive]
  obtain ⟨complete, unnamed, kind⟩ := whole
  intro code hc
  have overflow : countCode code (enc.complete typeName e).2 = 0 :=
    (reportsOnly_complete enc typeName e).countCode_eq_zero fun h => by
      rw [List.mem_singleton.1 h] at hc
      exact absurd hc (by decide)
  simp only [EnumEncoding.encode, countCode_append, overflow, Nat.zero_add]
  exact accounts_truncate enc typeName kind complete unnamed code hc

/-- So does every leaf. -/
theorem accounts_leafNode? {d : TypeDescriptor} {cls : Classification} {n : SchemaNode}
    {events : List DiagnosticEvent} (h : leafNode? gen d cls = some (n, events)) :
    n.Accounts events := by
  cases cls with
  | enumeration e =>
    have encoded := accounts_encode gen.config.enumEncoding d.name e
    rwa [Option.some.inj h] at encoded
  | scalar kind =>
    cases h
    have made : kind.node.IsMadeOf none [] :=
      isMadeOf_leafNode? (show leafNode? gen d (.scalar kind) = some (kind.node, []) from rfl)
    exact .silent (made.isLoss_eq_false (by cases kind <;> rfl))
  | bytes => cases h; exact .silent ((isMadeOf_ofPrimitive _ _).isLoss_eq_false rfl)
  | object o? =>
    cases o? with
    | none => cases h; exact .silent ((isMadeOf_ofPrimitive _ _).isLoss_eq_false rfl)
    | some o => cases h
  | nullable _ | sequence _ | map _ | pair _ _ => cases h

/-- A placeholder is reported under the code of its reason. -/
theorem accounts_placeholder (guard : Guard) (typeName : String) (identifier? : Option String)
    (reason : CutReason) :
    SchemaNode.Accounts { kind := .placeholder ⟨typeName, identifier?, reason⟩ }
      [guard.cutEvent typeName reason] := by
  intro code hc
  cases reason <;> rw [Guard.cutEvent] <;> simp only [countCode_withFields] <;>
    cases code <;> simp [isLoss, isCutFor, dropsLiterals, isTruncated]

end SchemaNode

/-! ### Recorded components -/

/-- The components that are recorded in the state are in its arena. -/
def Traversal.RecordsNodes (t : Traversal) : Prop :=
  ∀ i node, t.identifiers.get? i = some node → ∃ n, t.arena.get? node = some n

theorem Traversal.Once.recordsNodes {t : Traversal} (h : t.Once g) : t.RecordsNodes :=
  fun i node hi => by
    obtain ⟨copy, twins⟩ := h.twins i node hi
    obtain ⟨n, -, hn, -⟩ := twins.same
    exact ⟨n, hn⟩

/-- Components that stay are counted the same. -/
theorem truncatedComponents_congr {a a' : Arena} {identifiers : SortedMap NodeId}
    (same : ∀ i node, identifiers.get? i = some node →
      (a'.get? node).any SchemaNode.isTruncated = (a.get? node).any SchemaNode.isTruncated) :
    truncatedComponents a' identifiers = truncatedComponents a identifiers :=
  List.countP_congr fun e he => by rw [same e.1 e.2 (SortedMap.mem_toList_iff.1 he)]

/-- A component that is recorded is counted if it lost fields. -/
theorem truncatedComponents_insertNew {a : Arena} {identifiers : SortedMap NodeId} {i : String}
    (fresh : identifiers.get? i = none) {node : NodeId} {n : SchemaNode}
    (hn : a.get? node = some n) :
    truncatedComponents a (identifiers.insertNew i node) =
      truncatedComponents a identifiers + if n.isTruncated then 1 else 0 := by
  simp [truncatedComponents, (SortedMap.perm_toList_insertNew fresh node).countP_eq,
    List.countP_cons, hn]

namespace Traversal

variable {t t' : Traversal}

/-- A node that is added is counted if it lost something. -/
theorem losses_push (records : t.RecordsNodes) {n : SchemaNode}
    (arena : t'.arena = (t.arena.push n).2) (identifiers : t'.identifiers = t.identifiers)
    (code : DiagnosticCode) :
    t'.losses code = t.losses code + if n.isLoss code then 1 else 0 := by
  have same : truncatedComponents (t.arena.push n).2 t.identifiers =
      truncatedComponents t.arena t.identifiers :=
    truncatedComponents_congr fun i node hi => by
      obtain ⟨m, hm⟩ := records i node hi
      rw [hm, Arena.keeps_push _ _ hm]
  simp only [losses, arena, identifiers, Arena.count_push, same]
  omega

/-- A node is added, and just what it lost is reported. -/
theorem Accounts.added (records : t.RecordsNodes) {n : SchemaNode} {events : List DiagnosticEvent}
    (node : n.Accounts events) (arena : t'.arena = (t.arena.push n).2)
    (identifiers : t'.identifiers = t.identifiers) (he : t'.events = t.events ++ events) :
    t.Accounts t' :=
  ⟨events, he, fun code hc => by rw [losses_push records arena identifiers, node code hc]⟩

/-- A node is added that lost nothing. -/
theorem Accounts.pushed (records : t.RecordsNodes) {n : SchemaNode}
    (complete : ∀ code, n.isLoss code = false) : t.Accounts (t.pushed n) :=
  .added records (.silent complete) rfl rfl (List.append_nil _).symm

/-- A type is cut off: its placeholder is new, and reported, or there already. -/
theorem Accounts.cut (records : t.RecordsNodes) (v : Visit) (reason : CutReason) :
    t.Accounts (t.cut v reason).2 := by
  unfold Traversal.cut Guard.placeholder
  cases t.guard.placeholders.lookup (v.type, reason) with
  | some id => exact .of_eq (List.append_nil _) rfl rfl
  | none =>
    exact .added records (SchemaNode.accounts_placeholder t.guard _ _ _) rfl rfl rfl

/-- Constraints, nullability and examples leave the number of losses as it was. -/
theorem losses_dressed (records : t.RecordsNodes) {id id' : NodeId} (hd : Decorated t id t' id')
    (code : DiagnosticCode) : t'.losses code = t.losses code := by
  obtain ⟨dressed, _, ht⟩ := hd
  have identifiers : t'.identifiers = t.identifiers := by rw [ht]
  have same : truncatedComponents t'.arena t.identifiers =
      truncatedComponents t.arena t.identifiers :=
    truncatedComponents_congr fun i node hi => by
      obtain ⟨m, hm⟩ := records i node hi
      rw [hm, Arena.any_get?_dressed SchemaNode.undecorated_isTruncated dressed hm,
        Option.any_some]
  rw [losses, losses, identifiers, same,
    Arena.count_dressed (SchemaNode.undecorated_isLoss code) dressed]

end Traversal

/-! ### Decorating -/

/-- What decorating reports is about constraints. -/
def Complains (t t' : Traversal) : Prop :=
  ∃ events, t'.events = t.events ++ events ∧
    ReportsOnly [.invalidPattern, .constraintConflict] events

theorem Complains.refl (t : Traversal) : Complains t t := ⟨[], by simp, .nil _⟩

theorem Complains.trans {t t₁ t' : Traversal} (h₁ : Complains t t₁) (h₂ : Complains t₁ t') :
    Complains t t' := by
  obtain ⟨e₁, he₁, r₁⟩ := h₁
  obtain ⟨e₂, he₂, r₂⟩ := h₂
  exact ⟨e₁ ++ e₂, by rw [he₂, he₁, List.append_assoc], r₁.append r₂⟩

section

variable {d : TypeDescriptor} {field? : Option Field} {t t' : Traversal} {id id' : NodeId}

/-- Constraints report conflicts and patterns that are no patterns, and nothing else. -/
theorem annotate_complains {patterns : PatternCheck} {member : String}
    {constraints : List Constraint}
    (h : Build.annotate patterns id member constraints t = .ok id' t') : Complains t t' := by
  cases h
  exact ⟨_, rfl, reportsOnly_annotate patterns t.arena id member constraints⟩

theorem applyNull_complains {encoding : NullEncoding} {nullable : Bool}
    (h : Build.applyNull encoding id nullable t = .ok id' t') : Complains t t' := by
  cases h
  exact ⟨[], (List.append_nil _).symm, .nil _⟩

theorem setExample_complains {v : Json} (h : Build.setExample id v t = .ok () t') :
    Complains t t' := by
  cases h
  refine ⟨[], ?_, .nil _⟩
  by_cases hs : t.arena.isShared id <;> simp [hs]

theorem annotateField_complains {patterns : PatternCheck}
    (h : annotateField patterns id field? t = .ok id' t') : Complains t t' := by
  cases field? with
  | none => cases h; exact .refl _
  | some f =>
    obtain ⟨id₁, t₁, ha, hr⟩ := bind_ok_iff.1 h
    have h₁ := annotate_complains ha
    cases he : f.example? with
    | none => simp only [he] at hr; cases hr; exact h₁
    | some v =>
      simp only [he] at hr
      obtain ⟨_, t₂, hs, hp⟩ := bind_ok_iff.1 hr
      cases hp
      exact h₁.trans (setExample_complains hs)

/-- The last steps of a type complain at most. -/
theorem decorate_complains (h : decorate gen d field? id t = .ok id' t') : Complains t t' := by
  obtain ⟨id₁, t₁, ha, hr⟩ := bind_ok_iff.1 h
  obtain ⟨id₂, t₂, hf, hn⟩ := bind_ok_iff.1 hr
  exact (annotate_complains ha).trans ((annotateField_complains hf).trans (applyNull_complains hn))

theorem wrapNull_complains (h : wrapNull gen d id t = .ok id' t') : Complains t t' := by
  obtain ⟨id₁, t₁, ha, hn⟩ := bind_ok_iff.1 h
  exact (annotate_complains ha).trans (applyNull_complains hn)

end

/-! ### Building -/

/-- The accounts survive a decoration that complains at most: what it reports is not counted. -/
theorem Traversal.Accounts.complained {t t' : Traversal} (records : t.RecordsNodes)
    {id id' : NodeId} (hd : Decorated t id t' id') (complains : Complains t t') :
    t.Accounts t' := by
  obtain ⟨events, he, reports⟩ := complains
  exact .aside reports (by decide) he fun code _ => Traversal.losses_dressed records hd code

/-- An object is reported if its node says that it lost fields. -/
theorem countCode_objectEvents (gen : Generator) (d : TypeDescriptor) (o : ObjectShape)
    (i : String) (ids : List NodeId) (code : DiagnosticCode) :
    countCode code (objectEvents gen d o) =
      if code = .objectVirtualized ∧ (objectNode gen o i ids).isTruncated then 1 else 0 := by
  unfold objectEvents
  simp only [objectNode, SchemaNode.isTruncated]
  split
  · next h => simp [h, objectTruncationEvent, countCode_withFields, eq_comm]
  · next h => simp [h, Collector.count]

/-- The node of an object is recorded and added once more: what it lost is counted once. -/
theorem Traversal.losses_recorded {t : Traversal} (records : t.RecordsNodes) {i : String}
    (fresh : t.identifiers.get? i = none) {n : SchemaNode}
    (complete : ∀ code, n.isLoss code = false) (code : DiagnosticCode) :
    ((((t.pushed n).recorded i ⟨t.arena.size⟩).pushed n).closed).losses code =
      t.losses code + if code = .objectVirtualized ∧ n.isTruncated then 1 else 0 := by
  have component : (t.pushed n).arena.get? ⟨t.arena.size⟩ = some n := t.arena.get?_push_self n
  have inserted : truncatedComponents (t.pushed n).arena
      (t.identifiers.insertNew i ⟨t.arena.size⟩) =
        truncatedComponents (t.pushed n).arena t.identifiers + if n.isTruncated then 1 else 0 :=
    truncatedComponents_insertNew fresh component
  have first : (t.pushed n).losses code = t.losses code + if n.isLoss code then 1 else 0 :=
    losses_push records (by rfl) (by rfl) code
  have recorded : ((t.pushed n).recorded i ⟨t.arena.size⟩).losses code =
      (t.pushed n).losses code + if code = .objectVirtualized ∧ n.isTruncated then 1 else 0 := by
    by_cases hc : code = .objectVirtualized
    · simp only [losses, Traversal.recorded, hc, if_true, true_and]
      rw [show (t.pushed n).identifiers = t.identifiers from rfl, inserted, Nat.add_assoc]
    · simp only [losses, Traversal.recorded, hc, if_false, false_and]
  have records' : ((t.pushed n).recorded i ⟨t.arena.size⟩).RecordsNodes := by
    intro i' node hi
    rw [Traversal.recorded, SortedMap.get?_insertNew] at hi
    split at hi
    · rw [show (t.pushed n).identifiers.get? i = none from fresh] at hi
      cases hi
      exact ⟨n, component⟩
    · obtain ⟨m, hm⟩ := records i' node hi
      exact ⟨m, Arena.keeps_push _ _ hm⟩
  calc ((((t.pushed n).recorded i ⟨t.arena.size⟩).pushed n).closed).losses code
      = ((t.pushed n).recorded i ⟨t.arena.size⟩).losses code + if n.isLoss code then 1 else 0 :=
        losses_push records' (by rfl) (by rfl) code
    _ = t.losses code + if code = .objectVirtualized ∧ n.isTruncated then 1 else 0 := by
        rw [recorded, first, complete code]
        simp

section

variable {levels : Nat} {ty : TypeId} {d : TypeDescriptor} {t t' : Traversal} {id : NodeId}

/-- Building the parts of a type accounts for their losses if building one does. -/
theorem Visits.accounts (distinct : g.Distinct)
    (step : ∀ ty field? t id t', nodeFor gen g levels ty field? t = .ok id t' → t.Once g →
      t.Accounts t') {parts : List (TypeId × Option Field)} {ids : List NodeId}
    (h : Visits (nodeFor gen g levels) parts t ids t') (once : t.Once g) :
    t.Accounts t' ∧ t'.Once g := by
  induction h with
  | nil => exact ⟨.refl _, once⟩
  | cons head _ ih =>
    obtain ⟨accounts, once'⟩ := ih (nodeFor_once distinct head once)
    exact ⟨(step _ _ _ _ _ head once).trans accounts, once'⟩

/-- An expansion keeps the accounts, given that building its parts does. -/
theorem Expansion.accounts (distinct : g.Distinct) {cls : Classification}
    (known : g.HasClass ty cls) (h : Expansion gen g (nodeFor gen g levels) ty d cls t id t')
    (step : ∀ ty field? t id t', nodeFor gen g levels ty field? t = .ok id t' → t.Once g →
      t.Accounts t') (once : t.Once g) : t.Accounts t' := by
  have claimed : ∀ {i r events}, t.registry.assign g ty = .ok (i, r, events) →
      t.Accounts (t.claimed ty i r events) := fun ha =>
    .aside (reportsOnly_assign ha) (by decide) rfl fun code _ => rfl
  cases h with
  | leaf node =>
    exact .added once.recordsNodes (SchemaNode.accounts_leafNode? node) rfl rfl rfl
  | cut _ _ => exact .cut once.recordsNodes _ _
  | @collection _ _ t₁ _ n _ parts node _ =>
    have inside : (t.opened ty).Once g := once.open_ fun o object => by
      rw [known.unique object] at node
      cases node
    obtain ⟨accounts, once₁⟩ := parts.accounts distinct step inside
    have made := SchemaNode.isMadeOf_collectionNode? node
    have complete : n.dropsLiterals = false := by
      unfold Classification.collectionNode? at node
      split at node <;> cases node <;> rfl
    have opened : t.Accounts (t.opened ty) := .of_eq rfl rfl rfl
    have pushed := Traversal.Accounts.pushed once₁.recordsNodes
      (made.isLoss_eq_false complete)
    exact opened.trans (accounts.trans (pushed.trans (.of_eq rfl rfl rfl)))
  | reference assigned _ =>
    refine (claimed assigned).trans (.pushed (once.claimed assigned).recordsNodes fun code => ?_)
    rw [SchemaNode.isLoss_of_ne_placeholder fun p hp => by cases hp]
    exact Bool.and_false _
  | cutObject assigned _ _ =>
    exact (claimed assigned).trans (.cut (once.claimed assigned).recordsNodes _ _)
  | @object o _ t₁ i r events ids assigned fresh _ parts _ =>
    obtain ⟨accounts, once₁⟩ := parts.accounts distinct step (once.inside assigned fresh _)
    have returned := parts.returns
    have fresh₁ : t₁.identifiers.get? i = none :=
      once₁.fresh_of_open (returned.2.1 ▸ List.mem_cons_self) known
        ((Registry.assign_spec assigned).2.mono returned.1.registry)
    have made := SchemaNode.isMadeOf_objectNode gen o i ids
    have named : (objectNode gen o i ids).dropsLiterals = false := by
      rw [SchemaNode.dropsLiterals, made.identifier]
      exact Bool.and_false _
    have same : ∀ code, (((t.claimed ty i r events).opened ty).reported
        (objectEvents gen d o)).losses code = (t.claimed ty i r events).losses code :=
      fun _ => rfl
    refine (claimed assigned).trans (.around rfl same accounts rfl fun code _ => ?_)
    rw [Traversal.losses_recorded once₁.recordsNodes fresh₁ (made.isLoss_eq_false named),
      countCode_objectEvents]

/-- A step keeps the accounts, given that the descent does. -/
theorem Step.accounts (distinct : g.Distinct) {field? : Option Field}
    (known : g.describe? ty = some d)
    (h : Step gen g (nodeFor gen g levels) ty field? d t id t')
    (step : ∀ ty field? t id t', nodeFor gen g levels ty field? t = .ok id t' → t.Once g →
      t.Accounts t') (once : t.Once g) : t.Accounts t' := by
  cases h with
  | wrapped _ part finish =>
    have once₁ := nodeFor_once distinct part once
    exact (step _ _ _ _ _ part once).trans
      (.complained once₁.recordsNodes (wrapNull_decorated finish) (wrapNull_complains finish))
  | @overridden o _ _ _ _ _ finish =>
    have made := SchemaNode.isMadeOf_override o
    exact (Traversal.Accounts.pushed once.recordsNodes (made.isLoss_eq_false rfl)).trans
      (.complained (once.pushed_madeOf made).recordsNodes (decorate_decorated finish)
        (decorate_complains finish))
  | @expanded _ t₀ _ _ _ _ _ plain expansion finish =>
    have looked : t.Accounts t₀ := by
      rcases overrideFor_ok plain with ⟨o, ho, -⟩ | ⟨-, rfl | rfl⟩
      · cases ho
      · exact .refl _
      · exact .aside (reportsOnly_ignoredOverride d.identity) (by decide) rfl fun _ _ => rfl
    have once₀ : t₀.Once g := by
      rw [overrideFor_none plain]
      exact once.aside rfl rfl rfl (List.Subset.refl _)
    have once₁ := expansion.once distinct ⟨d, known, rfl⟩ (fun _ _ _ _ _ h => nodeFor_returns h)
      (fun _ _ _ _ _ h => nodeFor_once distinct h) once₀
    exact (looked.trans (expansion.accounts distinct ⟨d, known, rfl⟩ step once₀)).trans
      (.complained once₁.recordsNodes (decorate_decorated finish) (decorate_complains finish))

/-- **From before a type is built to after it, each loss is reported once.** -/
theorem nodeFor_accounts (distinct : g.Distinct) {field? : Option Field}
    (h : nodeFor gen g levels ty field? t = .ok id t') (once : t.Once g) : t.Accounts t' :=
  nodeFor_descent (P := fun _ _ t _ t' => t.Once g → t.Accounts t')
    (fun _ step _ _ _ _ _ _ known hs => hs.accounts distinct known step) levels ty field? t id t' h
    once

end

/-! ### Generations -/

/-- The events report each loss of the schema once. -/
structure GeneratedSchema.Accounted (s : GeneratedSchema) (events : List DiagnosticEvent) :
    Prop where
  cycles : (Collector.mk events).count .cycleDetected = s.arena.count (·.isCutFor .cycle)
  depths : (Collector.mk events).count .depthExceeded = s.arena.count (·.isCutFor .depth)
  objects : (Collector.mk events).count .objectVirtualized =
    truncatedComponents s.arena s.identifiers
  enumerations : (Collector.mk events).count .enumVirtualized =
    s.arena.count SchemaNode.dropsLiterals

/-- **Every loss is reported once.**  A generation adds as many reports of cycles, and of the depth,
as it leaves placeholders for that reason; no two of them stand for the same type and reason.  It
adds as many reports of objects as it records components that lost fields, and as many reports of
enumerations as there are other nodes that lost something. -/
theorem generate_accounts (distinct : g.Distinct) {root : TypeId} {w w' : Workspace}
    (reachable : w.registry.Reachable) {s : GeneratedSchema}
    (h : generate gen g root w = .ok s w') :
    (∃ events, w'.events = w.events ++ events ∧ s.Accounted events) ∧
      s.StandsOnce g w'.registry (StandsFor gen g root w) := by
  refine ⟨?_, generate_standsFor h⟩
  obtain ⟨t, hn, hs, rfl⟩ := generate_ok h
  obtain ⟨events, he, hl⟩ :=
    nodeFor_accounts distinct hn (Traversal.once_begin g reachable.coherent gen)
  -- nothing is lost in the beginning
  have nothing : ∀ code, (w.begin gen).losses code = 0 := by
    intro code
    have nodes : (w.begin gen).arena.count (SchemaNode.isLoss code) = 0 := rfl
    have components : truncatedComponents (w.begin gen).arena (w.begin gen).identifiers = 0 := rfl
    rw [Traversal.losses, nodes, components]
    simp
  have counts : ∀ code ∈ lossCodes, countCode code events = t.losses code := fun code hc => by
    rw [hl code hc, nothing, Nat.zero_add]
  rw [hs]
  refine ⟨events, he, ?_, ?_, ?_, ?_⟩
  · exact counts _ (by decide)
  · exact counts _ (by decide)
  · refine (counts _ (by decide)).trans ?_
    have nodes : t.arena.count (SchemaNode.isLoss .objectVirtualized) = 0 :=
      List.countP_eq_zero.2 fun n _ => by simp [SchemaNode.isLoss]
    rw [Traversal.losses, nodes, if_pos rfl, Nat.zero_add]
  · exact counts _ (by decide)

/-- An object with a field of itself, two of one enumeration and two of an object that has, in two
fields, one more object. -/
def TypeGraph.crowded : TypeGraph := .ofTypes #[
  { identity := "A", name := "A", shape := .object { fields := [
      { name := "a", type := ⟨0⟩ }, { name := "b", type := ⟨1⟩ }, { name := "c", type := ⟨1⟩ },
      { name := "d", type := ⟨3⟩ }, { name := "e", type := ⟨3⟩ },
      { name := "f", type := ⟨3⟩ }] } },
  { identity := "B", name := "B", shape := .object { fields := [
      { name := "x", type := ⟨2⟩ }, { name := "y", type := ⟨2⟩ }] } },
  { identity := "C", name := "C", shape := .object {} },
  { identity := "E", name := "E",
    shape := .enumeration { members := [⟨"on", 1⟩, ⟨"off", 0⟩] } }]

/-- Five of the six fields and one of the two literals are kept, and two types may be open: one
report for the placeholder of the cycle, one for that of the depth, which is given out twice, one
for the object, and two for the enumeration. -/
theorem generate_accounts_crowded :
    ∃ s w', generate (.plain { maxDepth := 2, enumThreshold := 1, memberThreshold? := some 5 })
        .crowded ⟨0⟩ {} = .ok s w' ∧
      lossCodes.map (countCode · w'.events) = [1, 1, 1, 2] ∧ s.Accounted w'.events ∧
      s.arena.count (·.isCutFor .depth) = 1 ∧ s.arena.count SchemaNode.dropsLiterals = 2 := by
  have computed : Work.value? (do
      let _ ← generate (.plain { maxDepth := 2, enumThreshold := 1, memberThreshold? := some 5 })
        .crowded ⟨0⟩
      return lossCodes.map (countCode · (← get).events)) {} = some [1, 1, 1, 2] := by cbv
  obtain ⟨s, w', hs, counts⟩ := Work.ok_of_reading computed
  obtain ⟨⟨events, he, accounted⟩, -⟩ := generate_accounts (.ofTypes (by decide)) .empty hs
  obtain rfl : w'.events = events := he
  have each := counts
  simp only [lossCodes, List.map_cons, List.cons.injEq] at each
  obtain ⟨-, depth, -, literals, -⟩ := each
  exact ⟨s, w', hs, counts, accounted, accounted.depths ▸ depth,
    accounted.enumerations ▸ literals⟩

end TypeSchema
