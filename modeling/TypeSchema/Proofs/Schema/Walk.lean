import TypeSchema.Proofs.Schema.Arena
import TypeSchema.Schema.Example

/-!
# Schema — what a walk comes to

A walk that is not given up comes to a value that has nothing to do with the clock: `Arena.sample`.
Which node it is at when it looks at the clock, and how often it looks, are in the schema as well,
so the clock decides one thing only, which is whether and where the walk is given up.

`Comes m x` says so for the steps of a walk: there is a number of looks, and on any clock `m` comes
to `x` if the budget lasts at each of them, and is given up at the first at which it is spent.

* `comes_walk`: a node comes to its sample if the nodes that it leads to do.
* `Arena.comes_walkTo`: so does a whole walk, by induction on its levels.
* `Arena.synthesize_cases`: what is synthesized is the whole sample and no report, or no value and
  one report of the time that has passed.
* `Arena.synthesize_of_lasts`, `Arena.synthesize_of_zero`: the two kinds of budget for which the
  clock does not matter.
-/

namespace TypeSchema

/-! ### Samples -/

namespace SchemaNode

/-- The plain sample text, cut to a greatest and then padded to a least length. -/
def fittedText (k : Keywords) : String :=
  String.ofList (cutText k ++ List.replicate (k.minLength.getD 0 - (cutText k).length) 'x')

/-- A text that fits; one with a format ignores length bounds. -/
def sampleText (n : SchemaNode) : Json :=
  match n.format? with
  | some format => .string (formatSample format)
  | none => .string (fittedText n.keywords)

/-- A sample of a node, given samples of its children and which of them are null. -/
def sample (n : SchemaNode) (isNull : NodeId → Bool) (child : NodeId → Json) : Json :=
  match n.example?, n.enumValues with
  | some v, _ => v
  | none, v :: _ => v
  | none, [] =>
    match n.kind with
    | .primitive .string => n.sampleText
    | .primitive .integer => sampleInteger n.keywords
    | .primitive .number => sampleNumber n.keywords
    | .primitive .boolean => .bool true
    | .primitive .array => .array (n.items?.toList.map child)
    | .primitive .object =>
      .ofFields ((n.properties.mapValues child).toList
        ++ Json.optionalField "additionalProp1" (n.additional?.map child))
    | .null => .null
    | .anyOf ids | .oneOf ids =>
      match ids.find? (fun id => !isNull id) with
      | some id => child id
      | none => .null
    | .allOf ids =>
      match ids.map child with
      | [] => .null
      | v :: rest => rest.foldl Json.mergeSample v
    | .placeholder _ => .object []
    | .reference r => child r.target

end SchemaNode

namespace Arena

/-- A sample of a node down to a number of levels; what lies deeper, and an unknown node, is
null. -/
def sampleTo (a : Arena) : (levels : Nat) → NodeId → Json
  | 0, _ => .null
  | levels + 1, id =>
    match a.get? id with
    | some n => n.sample a.isNull (a.sampleTo levels)
    | none => .null

/-- A sample of a node. -/
def sample (a : Arena) (id : NodeId) : Json := a.sampleTo a.size id

end Arena

/-! ### Steps on a clock -/

namespace Deadline

/-- The budget lasts at each of `looks` looks from `start` on. -/
def InTime (d : Deadline) (start looks : Nat) : Prop :=
  ∀ i < looks, d.elapsed (start + i) < d.budget

theorem InTime.append {d : Deadline} {start k k' : Nat} (h : d.InTime start k)
    (h' : d.InTime (start + k) k') : d.InTime start (k + k') := by
  intro i hi
  by_cases hk : i < k
  · exact h i hk
  · have := h' (i - k) (by omega)
    rwa [show start + k + (i - k) = start + i by omega] at this

/-- The run of a step that looks at the clock `looks` times and comes to `x` if it is not given
up. -/
inductive Runs {α : Type} (d : Deadline) (m : Walk α) (x : α) (start looks : Nat) : Prop
  | lasts (inTime : d.InTime start looks) (run : m start = .ok x (start + looks))
  | spent (i : Nat) (kind : String) (lt : i < looks) (inTime : d.InTime start i)
      (late : d.budget ≤ d.elapsed (start + i))
      (run : m start = .error ⟨d.elapsed (start + i), kind⟩ (start + i + 1))

/-- A sequence is given up where its first step is, and else where the second is. -/
theorem Runs.bind {α β : Type} {d : Deadline} {m : Walk α} {f : α → Walk β} {x : α} {y : β}
    {start k k' : Nat} (first : d.Runs m x start k) (second : d.Runs (f x) y (start + k) k') :
    d.Runs (m >>= f) y start (k + k') := by
  cases first with
  | spent i kind lt inTime late run =>
    exact .spent i kind (by omega) inTime late (by
      simp only [Bind.bind, EStateM.bind, run])
  | lasts inTime run =>
    cases second with
    | lasts inTime' run' =>
      exact .lasts (inTime.append inTime') (by
        simp only [Bind.bind, EStateM.bind, run, run', Nat.add_assoc])
    | spent i kind lt inTime' late run' =>
      refine .spent (k + i) kind (by omega) (inTime.append inTime') ?_ ?_
      · rwa [← Nat.add_assoc]
      · simp only [Bind.bind, EStateM.bind, run, run', Nat.add_assoc]

end Deadline

/-- On any clock the step comes to the value if it is not given up, and it is given up at the first
of its looks at which the budget is spent. -/
def Comes {α : Type} (m : Deadline → Walk α) (x : α) : Prop :=
  ∃ looks, ∀ (d : Deadline) (start : Nat), d.Runs (m d) x start looks

theorem comes_pure {α : Type} (x : α) : Comes (fun _ => pure x) x :=
  ⟨0, fun _ _ => .lasts (fun _ hi => absurd hi (Nat.not_lt_zero _)) rfl⟩

/-- A look at the clock comes to nothing, or gives up. -/
theorem comes_look (kind : String) : Comes (·.look kind) () := by
  refine ⟨1, fun d start => ?_⟩
  by_cases late : d.budget ≤ d.elapsed start
  · refine .spent 0 kind Nat.one_pos (fun i hi => absurd hi (Nat.not_lt_zero i)) late ?_
    simp only [Deadline.look, late, if_true, Nat.add_zero]
  · refine .lasts (fun i hi => ?_) ?_
    · obtain rfl : i = 0 := by omega
      exact Nat.lt_of_not_le late
    · simp only [Deadline.look, late, if_false]

namespace Comes

variable {α β : Type}

/-- Steps come to their values one after the other. -/
theorem bind {m : Deadline → Walk α} {f : Deadline → α → Walk β} {x : α} {y : β}
    (first : Comes m x) (second : Comes (f · x) y) : Comes (fun d => m d >>= f d) y := by
  obtain ⟨k, first⟩ := first
  obtain ⟨k', second⟩ := second
  exact ⟨k + k', fun d start => (first d start).bind (second d _)⟩

/-- What follows a step without looking at the clock. -/
theorem map {m : Deadline → Walk α} {x : α} (h : Comes m x) (f : α → β) :
    Comes (fun d => m d >>= fun y => pure (f y)) (f x) :=
  h.bind (comes_pure (f x))

theorem mapM {step : Deadline → α → Walk β} {value : α → β} {l : List α}
    (h : ∀ x ∈ l, Comes (step · x) (value x)) : Comes (fun d => l.mapM (step d)) (l.map value) := by
  induction l with
  | nil => exact comes_pure []
  | cons x l ih =>
    simp only [List.mapM_cons, List.map_cons]
    exact (h x (by simp)).bind ((ih fun y hy => h y (by simp [hy])).map (value x :: ·))

theorem optionMapM {step : Deadline → α → Walk β} {value : α → β} {x? : Option α}
    (h : ∀ x ∈ x?, Comes (step · x) (value x)) :
    Comes (fun d => x?.mapM (step d)) (x?.map value) := by
  cases x? with
  | none => exact comes_pure none
  | some x => exact (h x rfl).map some

end Comes

/-! ### Nodes -/

namespace SchemaNode

/-- Padding comes to the padded text, whatever the number of chunks. -/
theorem comes_pad (cs : List Char) (missing : Nat) :
    Comes (fun d => pad d cs missing) (cs ++ List.replicate missing 'x') := by
  induction missing using Nat.strongRecOn generalizing cs with
  | ind missing ih =>
    unfold pad
    by_cases done : missing = 0
    · subst done
      simpa using comes_pure cs
    · simp only [done, if_false]
      have smaller : missing - min missing padChunk < missing := by
        simp only [padChunk]
        omega
      have rest := ih _ smaller (cs ++ List.replicate (min missing padChunk) 'x')
      rw [List.append_assoc, List.replicate_append_replicate,
        show min missing padChunk + (missing - min missing padChunk) = missing by omega] at rest
      exact (comes_look _).bind rest

theorem comes_walkText (n : SchemaNode) : Comes (n.walkText ·) n.sampleText := by
  unfold walkText sampleText
  cases n.format? with
  | some format => exact comes_pure _
  | none => exact (comes_pad _ _).map fun cs => Json.string (String.ofList cs)

/-- **A node comes to its sample** if the nodes that it leads to come to theirs. -/
theorem comes_walk (n : SchemaNode) (isNull : NodeId → Bool) {child : Deadline → NodeId → Walk Json}
    {value : NodeId → Json} (h : ∀ c, Comes (child · c) (value c)) :
    Comes (fun d => n.walk d isNull (child d)) (n.sample isNull value) := by
  unfold walk sample
  refine (comes_look _).bind ?_
  cases n.example? with
  | some v => exact comes_pure v
  | none =>
    cases n.enumValues with
    | cons v _ => exact comes_pure v
    | nil =>
      cases n.kind with dsimp only
      | null => exact comes_pure _
      | placeholder p => exact comes_pure _
      | reference r => exact h r.target
      | anyOf ids | oneOf ids =>
        cases ids.find? (fun id => !isNull id) with
        | some id => exact h id
        | none => exact comes_pure _
      | allOf ids =>
        refine (Comes.mapM fun c _ => h c).bind ?_
        cases ids.map value with
        | nil => exact comes_pure _
        | cons v rest => exact comes_pure _
      | primitive p =>
        cases p with dsimp only
        | string => exact n.comes_walkText
        | integer => exact comes_pure _
        | number => exact comes_pure _
        | boolean => exact comes_pure _
        | array => exact (Comes.mapM fun c _ => h c).map Json.array
        | object =>
          have fields : Comes
              (fun d => n.properties.toList.mapM fun e => return (e.1, ← child d e.2))
              (n.properties.mapValues value).toList :=
            Comes.mapM fun e _ => (h e.2).map (e.1, ·)
          have more : Comes (fun d => n.additional?.mapM (child d)) (n.additional?.map value) :=
            Comes.optionMapM fun c _ => h c
          exact fields.bind (more.map fun more? =>
            Json.ofFields (_ ++ Json.optionalField "additionalProp1" more?))

end SchemaNode

/-! ### Whole walks -/

namespace Deadline

/-- The budget never runs out. -/
def Lasts (d : Deadline) : Prop := ∀ look, d.elapsed look < d.budget

/-- The budget never runs out, or was never there. -/
def Steady (d : Deadline) : Prop := d.budget = 0 ∨ d.Lasts

theorem lasts_still {budget : Nat} (some : budget ≠ 0) : (still budget).Lasts :=
  fun _ => Nat.pos_of_ne_zero some

/-- On a clock that stands still every budget is steady. -/
theorem steady_still (budget : Nat) : (still budget).Steady :=
  (Nat.eq_zero_or_pos budget).imp_right fun some _ => some

end Deadline

namespace Arena

/-- **A walk comes to the sample of its node.** -/
theorem comes_walkTo (a : Arena) (levels : Nat) (id : NodeId) :
    Comes (fun d => a.walkTo d levels id) (a.sampleTo levels id) := by
  induction levels generalizing id with
  | zero => exact comes_pure _
  | succ levels ih =>
    unfold walkTo sampleTo
    cases a.get? id with
    | none => exact comes_pure _
    | some n => exact n.comes_walk a.isNull ih

/-- **A sample is whole or there is none.**  There is a number of looks for each node, whatever the
clock says: if the budget lasts at all of them the sample is synthesized and nothing is reported,
and else nothing is synthesized and the time at the first look that came too late is reported. -/
theorem synthesize_cases (a : Arena) (id : NodeId) : ∃ looks, ∀ d : Deadline,
    (d.InTime 0 looks ∧ a.synthesize d id = (some (a.sample id), [])) ∨
      ∃ i < looks, d.InTime 0 i ∧ d.budget ≤ d.elapsed i ∧
        ∃ kind, a.synthesize d id = (none, [throttledEvent d.budget ⟨d.elapsed i, kind⟩]) := by
  obtain ⟨looks, h⟩ := a.comes_walkTo a.size id
  refine ⟨looks, fun d => ?_⟩
  have runs : d.Runs (a.walkTo d a.size id) (a.sample id) 0 looks := h d 0
  cases runs with
  | lasts inTime run => exact .inl ⟨inTime, by simp only [synthesize, run]⟩
  | spent i kind lt inTime late run =>
    rw [Nat.zero_add] at late run
    exact .inr ⟨i, lt, inTime, late, kind, by simp only [synthesize, run]⟩

/-- An object and its first field are reached in time and its second one is not: no part of the
object is left. -/
example :
    (Arena.mk #[{ kind := .primitive .boolean }, { kind := .primitive .string },
      { kind := .primitive .object,
        properties := .ofList [("a", ⟨0⟩), ("b", ⟨1⟩)] }]).synthesize ⟨15, (10 * ·)⟩ ⟨2⟩ =
      (none, [throttledEvent 15 ⟨20, "string"⟩]) := by rfl

/-- A budget that lasts gives the sample, and no report. -/
theorem synthesize_of_lasts (a : Arena) (id : NodeId) {d : Deadline} (lasts : d.Lasts) :
    a.synthesize d id = (some (a.sample id), []) := by
  obtain ⟨looks, cases⟩ := a.synthesize_cases id
  rcases cases d with ⟨-, h⟩ | ⟨i, -, -, late, -⟩
  · exact h
  · exact absurd (lasts i) (Nat.not_lt.2 late)

/-- A budget of zero is spent when the first node is reached. -/
theorem synthesize_of_zero {a : Arena} {id : NodeId} {n : SchemaNode} (hn : a.get? id = some n)
    {d : Deadline} (zero : d.budget = 0) :
    a.synthesize d id = (none, [throttledEvent 0 ⟨d.elapsed 0, n.kind.label⟩]) := by
  obtain ⟨levels, hlevels⟩ := Nat.exists_eq_succ_of_ne_zero
    (Nat.ne_of_gt (Nat.zero_lt_of_lt (lt_size_of_get? hn)))
  have late : d.budget ≤ d.elapsed 0 := by omega
  have run : a.walkTo d a.size id 0 = .error ⟨d.elapsed 0, n.kind.label⟩ 1 := by
    simp only [hlevels, walkTo, hn, SchemaNode.walk, Deadline.look, late, if_true, Bind.bind,
      EStateM.bind]
  simp only [synthesize, run, zero]

/-- A budget that lasts gives the sample of a node, and one of zero gives none. -/
theorem synthesize_of_steady {a : Arena} {id : NodeId} {n : SchemaNode} (hn : a.get? id = some n)
    {d : Deadline} (steady : d.Steady) :
    (a.synthesize d id).1 = if d.budget = 0 then none else some (a.sample id) := by
  by_cases zero : d.budget = 0
  · rw [if_pos zero, synthesize_of_zero hn zero]
  · rw [if_neg zero, synthesize_of_lasts a id (steady.resolve_left zero)]

/-- Where a budget lasts or is zero, what is synthesized does not depend on the clock. -/
theorem synthesize_of_budget_eq (a : Arena) (id : NodeId) {d d' : Deadline} (steady : d.Steady)
    (steady' : d'.Steady) (same : d'.budget = d.budget) :
    (a.synthesize d' id).1 = (a.synthesize d id).1 := by
  cases hn : a.get? id with
  | some n => rw [synthesize_of_steady hn steady', synthesize_of_steady hn steady, same]
  | none =>
    have unknown : ∀ d levels, a.walkTo d levels id = pure .null := fun d levels => by
      cases levels with
      | zero => rfl
      | succ levels => simp only [walkTo, hn]
    simp only [synthesize, unknown]
    rfl

end Arena

end TypeSchema
