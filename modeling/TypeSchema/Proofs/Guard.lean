import Mathlib.Data.List.Forall2
import Mathlib.Data.List.Nodup
import TypeSchema.Guard
import TypeSchema.Proofs.Schema.Arena

/-!
# Guard — what every sequence of visits keeps

A session is one guard and one arena that are asked to open and to close types, in any order and
whether or not the guard agrees.  It remembers what was asked and answered, and what was reported.

`enter_cases` says all that a visit may come to: the type is opened; or it is cut off and gets the
placeholder that the guard remembers for the type and the reason, or a new one, which is reported.
`Session.Sound` is what each request keeps (`Sound.serve`): the open types, what the guard remembers
against what was given out (`Session.Given`), and the new nodes against the reports, one by one.

`session_disciplined` reads the rules of the guard off it, after any sequence of requests.
-/

namespace TypeSchema

/-- The code under which a new placeholder is reported. -/
def CutReason.code : CutReason → DiagnosticCode
  | cycle => .cycleDetected
  | depth => .depthExceeded

/-- The node of a placeholder. -/
def Placeholder.node (p : Placeholder) : SchemaNode := { kind := .placeholder p }

theorem Placeholder.node_injective {p q : Placeholder} (h : p.node = q.node) : p = q :=
  NodeKind.placeholder.inj (congrArg SchemaNode.kind h)

namespace Guard

/-! ### Single requests -/

/-- Why a type is cut off if it is: a type that is open makes a cycle, another one is too deep. -/
def reasonFor (g : Guard) (ty : TypeId) : CutReason := if ty ∈ g.active then .cycle else .depth

theorem reasonFor_eq_cycle_iff {g : Guard} {ty : TypeId} :
    g.reasonFor ty = .cycle ↔ ty ∈ g.active := by
  unfold reasonFor
  split
  · next h => simp [h]
  · next h => simp [h]

theorem cutEvent_code (g : Guard) (typeName : String) (reason : CutReason) :
    (g.cutEvent typeName reason).code = reason.code := by
  cases reason <;> rfl

/-- A type is cut if it is open already or the limit of depth is reached. -/
theorem cutReason?_eq (g : Guard) (ty : TypeId) : g.cutReason? ty =
    if ty ∉ g.active ∧ g.active.length < g.maxDepth then none else some (g.reasonFor ty) := by
  unfold cutReason? isExpanding reasonFor depth
  by_cases open_ : ty ∈ g.active
  · simp [open_]
  · by_cases room : g.active.length < g.maxDepth
    · simp [open_, room, Nat.not_le.2 room]
    · simp [open_, room, Nat.not_lt.1 room]

/-- The guard after a type was opened. -/
def opened (g : Guard) (ty : TypeId) : Guard := { g with active := ty :: g.active }

/-- The guard after it was given a placeholder to remember. -/
def remembering (g : Guard) (key : TypeId × CutReason) (id : NodeId) : Guard :=
  { g with placeholders := (key, id) :: g.placeholders }

/-- The placeholder that is made for a visit. -/
def standIn (g : Guard) (v : Visit) : Placeholder := ⟨v.typeName, v.identifier?, g.reasonFor v.type⟩

/-- **What a visit comes to.** -/
theorem enter_cases (g : Guard) (a : Arena) (v : Visit) :
    (v.type ∉ g.active ∧ g.active.length < g.maxDepth ∧
      g.enter a v = (.expand, g.opened v.type, a, [])) ∨
    ¬ (v.type ∉ g.active ∧ g.active.length < g.maxDepth) ∧
      ((∃ id, g.placeholders.lookup (v.type, g.reasonFor v.type) = some id ∧
        g.enter a v = (.substitute id, g, a, [])) ∨
      g.placeholders.lookup (v.type, g.reasonFor v.type) = none ∧
        g.enter a v = (.substitute ⟨a.size⟩, g.remembering (v.type, g.reasonFor v.type) ⟨a.size⟩,
          (a.push (g.standIn v).node).2, [g.cutEvent v.typeName (g.reasonFor v.type)])) := by
  by_cases admitted : v.type ∉ g.active ∧ g.active.length < g.maxDepth
  · refine .inl ⟨admitted.1, admitted.2, ?_⟩
    rw [enter, cutReason?_eq, if_pos admitted]
    rfl
  · refine .inr ⟨admitted, ?_⟩
    rw [enter, cutReason?_eq, if_neg admitted]
    cases remembered : g.placeholders.lookup (v.type, g.reasonFor v.type) with
    | some id => exact .inl ⟨id, rfl, by simp only [placeholder, remembered]⟩
    | none => exact .inr ⟨rfl, by simp only [placeholder, remembered]; rfl⟩

/-- **A type is closed exactly if it is the innermost open one.** -/
theorem exit_eq (g : Guard) (ty : TypeId) : g.exit ty =
    if g.active.head? = some ty then .ok { g with active := g.active.tail }
    else .error (.guardMismatch g.active.head? ty) := by
  unfold exit
  split
  · next top rest active => simp [active]
  · next active => simp [active]

theorem lookup_remembering (g : Guard) (key key' : TypeId × CutReason) (id : NodeId) :
    (g.remembering key id).placeholders.lookup key' =
      if key' = key then some id else g.placeholders.lookup key' := by
  rw [remembering, List.lookup_cons]
  by_cases same : key' = key
  · simp [same]
  · have other : (key' == key) = false := by simpa using same
    simp [other, same]

/-! ### Sessions -/

/-- What a guard is asked for. -/
inductive Request where
  | enter (v : Visit)
  | exit (ty : TypeId)

/-- What a guard answers. -/
inductive Answer where
  | admission (a : Admission)
  | closed
  | refused (e : GenerationError)

/-- A guard and an arena that are asked one thing after the other. -/
structure Session where
  guard : Guard
  arena : Arena
  /-- What was asked and answered, in order. -/
  turns : List (Request × Answer) := []
  /-- What was reported, in order. -/
  events : List DiagnosticEvent := []

namespace Session

/-- A session with a new guard. -/
def start (maxDepth : Nat) (a : Arena) : Session := { guard := .new maxDepth, arena := a }

/-- The session after a request; a type that may not be closed leaves everything as it is. -/
def serve (s : Session) : Request → Session
  | .enter v =>
    let (admission, guard, arena, events) := s.guard.enter s.arena v
    { guard, arena
      turns := s.turns ++ [(.enter v, .admission admission)]
      events := s.events ++ events }
  | .exit ty =>
    match s.guard.exit ty with
    | .ok guard => { s with guard, turns := s.turns ++ [(.exit ty, .closed)] }
    | .error e => { s with turns := s.turns ++ [(.exit ty, .refused e)] }

/-- The session after some requests, one after the other. -/
def serveAll (s : Session) (requests : List Request) : Session := requests.foldl serve s

theorem serve_exit (s : Session) (ty : TypeId) : s.serve (.exit ty) =
    if s.guard.active.head? = some ty then
      { s with
        guard := { s.guard with active := s.guard.active.tail }
        turns := s.turns ++ [(.exit ty, .closed)] }
    else
      { s with turns := s.turns ++
        [(.exit ty, .refused (.guardMismatch s.guard.active.head? ty))] } := by
  by_cases innermost : s.guard.active.head? = some ty
  · simp [serve, exit_eq, innermost]
  · simp [serve, exit_eq, innermost]

/-- A visit of the type got the placeholder, which has the reason. -/
def Given (s : Session) (key : TypeId × CutReason) (id : NodeId) : Prop :=
  ∃ v p, (.enter v, .admission (.substitute id)) ∈ s.turns ∧
    s.arena.get? id = some (Placeholder.node p) ∧ key = (v.type, p.reason)

/-- An event reports a node: a placeholder, under the code of its reason. -/
def Reports (e : DiagnosticEvent) (n : SchemaNode) : Prop :=
  ∃ p : Placeholder, n = p.node ∧ e.code = p.reason.code

/-- The rules for a visit. -/
structure Visited (s : Session) (limit : Nat) (v : Visit) (admission : Admission) (g : Guard)
    (a : Arena) (events : List DiagnosticEvent) : Prop where
  /-- A type is opened exactly if it is not open and there is room. -/
  expands_iff : admission = .expand ↔ v.type ∉ s.guard.active ∧ s.guard.active.length < limit
  expands : admission = .expand →
    g = { s.guard with active := v.type :: s.guard.active } ∧ a = s.arena ∧ events = []
  /-- Otherwise the open types stay, and the visit gets the placeholder that was given for the type
  and the reason before, or a new one if there was none, with one report under the code of the
  reason. -/
  substitutes : ∀ id, admission = .substitute id → g.active = s.guard.active ∧
    ∃ p : Placeholder, a.get? id = some p.node ∧ (p.reason = .cycle ↔ v.type ∈ s.guard.active) ∧
      (s.Given (v.type, p.reason) id ∧ a = s.arena ∧ events = [] ∨
        (∀ id', ¬ s.Given (v.type, p.reason) id') ∧ s.arena.push p.node = (id, a) ∧
          p.typeName = v.typeName ∧ p.identifier? = v.identifier? ∧
          events.map (·.code) = [p.reason.code])

/-- What each request keeps, in a session that began with some nodes. -/
structure Sound (a₀ : Arena) (limit : Nat) (s : Session) : Prop where
  maxDepth : s.guard.maxDepth = limit
  nodup : s.guard.active.Nodup
  bounded : s.guard.active.length ≤ limit
  /-- What is given out is remembered. -/
  placed : ∀ v id, (.enter v, .admission (.substitute id)) ∈ s.turns →
    ∃ p, s.arena.get? id = some (Placeholder.node p) ∧
      s.guard.placeholders.lookup (v.type, p.reason) = some id
  /-- What is remembered was given out. -/
  remembered : ∀ key id, s.guard.placeholders.lookup key = some id → s.Given key id
  distinct : ∀ key key' id, s.guard.placeholders.lookup key = some id →
    s.guard.placeholders.lookup key' = some id → key = key'
  /-- The new nodes are those that are remembered. -/
  new : ∀ id, a₀.size ≤ id.index → id.index < s.arena.size →
    ∃ key, s.guard.placeholders.lookup key = some id
  /-- The new nodes are those that are reported. -/
  reported : ∃ created, s.arena.nodes.toList = a₀.nodes.toList ++ created ∧
    List.Forall₂ Reports s.events created

namespace Sound

variable {a₀ : Arena} {limit : Nat} {s : Session}

theorem begin (a₀ : Arena) (maxDepth : Nat) : (start maxDepth a₀).Sound a₀ (max 1 maxDepth) where
  maxDepth := rfl
  nodup := .nil
  bounded := Nat.zero_le _
  placed _ _ h := nomatch h
  remembered _ _ h := nomatch h
  distinct _ _ _ h := nomatch h
  new _ above below := absurd below (Nat.not_lt.2 above)
  reported := ⟨[], (List.append_nil _).symm, .nil⟩

/-- What is remembered is what was given out. -/
theorem given_iff (h : s.Sound a₀ limit) {key : TypeId × CutReason} {id : NodeId} :
    s.Given key id ↔ s.guard.placeholders.lookup key = some id := by
  refine ⟨?_, h.remembered key id⟩
  rintro ⟨v, p, asked, node, rfl⟩
  obtain ⟨q, node', found⟩ := h.placed v id asked
  rw [node] at node'
  rwa [← Placeholder.node_injective (Option.some.inj node')] at found

/-- A request may change the open types, and give out a placeholder that is remembered. -/
theorem turned (h : s.Sound a₀ limit) (turn : Request × Answer) {active : List TypeId}
    (nodup : active.Nodup) (bounded : active.length ≤ limit)
    (known : ∀ v id, turn = (.enter v, .admission (.substitute id)) →
      ∃ p, s.arena.get? id = some (Placeholder.node p) ∧
        s.guard.placeholders.lookup (v.type, p.reason) = some id) :
    Sound a₀ limit { s with guard := { s.guard with active }, turns := s.turns ++ [turn] } where
  maxDepth := h.maxDepth
  nodup := nodup
  bounded := bounded
  placed v id asked := by
    rcases List.mem_append.1 asked with before | now
    · exact h.placed v id before
    · exact known v id (List.mem_singleton.1 now).symm
  remembered key id found := by
    obtain ⟨v, p, asked, node⟩ := h.remembered key id found
    exact ⟨v, p, List.mem_append_left _ asked, node⟩
  distinct := h.distinct
  new := h.new
  reported := h.reported

/-- A new placeholder is given out, remembered and reported. -/
theorem created (h : s.Sound a₀ limit) (v : Visit) (p : Placeholder) (e : DiagnosticEvent)
    (fresh : s.guard.placeholders.lookup (v.type, p.reason) = none)
    (code : e.code = p.reason.code) :
    Sound a₀ limit
      { guard := s.guard.remembering (v.type, p.reason) ⟨s.arena.size⟩
        arena := (s.arena.push p.node).2
        turns := s.turns ++ [(.enter v, .admission (.substitute ⟨s.arena.size⟩))]
        events := s.events ++ [e] } where
  maxDepth := h.maxDepth
  nodup := h.nodup
  bounded := h.bounded
  placed v' id asked := by
    rcases List.mem_append.1 asked with before | now
    · obtain ⟨q, node, found⟩ := h.placed v' id before
      have below := Arena.lt_size_of_get? node
      refine ⟨q, by rw [Arena.get?_push, if_neg (Nat.ne_of_lt below), node], ?_⟩
      rw [lookup_remembering, if_neg, found]
      intro same
      rw [same, fresh] at found
      cases found
    · cases List.mem_singleton.1 now
      exact ⟨p, Arena.get?_push_self _ _, by rw [lookup_remembering, if_pos rfl]⟩
  remembered key id found := by
    rw [lookup_remembering] at found
    split at found
    · next same =>
      cases found
      exact ⟨v, p, List.mem_append_right _ List.mem_cons_self, Arena.get?_push_self _ _, same⟩
    · obtain ⟨v', q, asked, node, eq⟩ := h.remembered key id found
      have below := Arena.lt_size_of_get? node
      refine ⟨v', q, List.mem_append_left _ asked, ?_, eq⟩
      rw [Arena.get?_push, if_neg (Nat.ne_of_lt below), node]
  distinct key key' id found found' := by
    -- what was remembered before is a node that was there before
    have old : ∀ {key : TypeId × CutReason},
        s.guard.placeholders.lookup key ≠ some ⟨s.arena.size⟩ := fun {key} found => by
      obtain ⟨_, _, -, node, -⟩ := h.remembered key _ found
      exact Nat.lt_irrefl _ (Arena.lt_size_of_get? node)
    rw [lookup_remembering] at found found'
    split at found
    · next same =>
      cases found
      split at found'
      · next same' => rw [same, same']
      · exact absurd found' old
    · split at found'
      · cases found'
        exact absurd found old
      · exact h.distinct key key' id found found'
  new id above below := by
    rw [Arena.size_push] at below
    rcases Nat.lt_succ_iff_lt_or_eq.1 below with below | last
    · obtain ⟨key, found⟩ := h.new id above below
      refine ⟨key, ?_⟩
      rw [lookup_remembering, if_neg, found]
      intro same
      rw [same, fresh] at found
      cases found
    · obtain rfl : id = ⟨s.arena.size⟩ := by cases id; cases last; rfl
      exact ⟨_, by rw [lookup_remembering, if_pos rfl]⟩
  reported := by
    obtain ⟨created, nodes, matched⟩ := h.reported
    refine ⟨created ++ [p.node], ?_, List.rel_append matched (.cons ⟨p, rfl, code⟩ .nil)⟩
    rw [← List.append_assoc, ← nodes]
    exact Array.toList_push

/-- **Each request keeps a session sound.** -/
theorem serve (h : s.Sound a₀ limit) (r : Request) : (s.serve r).Sound a₀ limit := by
  cases r with
  | enter v =>
    obtain ⟨closed, room, entered⟩ | ⟨-, ⟨id, found, entered⟩ | ⟨fresh, entered⟩⟩ :=
      s.guard.enter_cases s.arena v
    · have opened := h.turned (.enter v, .admission .expand)
        (List.nodup_cons.2 ⟨closed, h.nodup⟩) (h.maxDepth ▸ room) nofun
      simpa [Session.serve, entered, Guard.opened] using opened
    · obtain ⟨_, p, -, node, eq⟩ := h.remembered _ id found
      have repeated := h.turned (.enter v, .admission (.substitute id)) h.nodup h.bounded ?_
      · simpa [Session.serve, entered] using repeated
      · rintro _ _ ⟨⟩
        exact ⟨p, node, by rw [← (Prod.mk.inj eq).2, found]⟩
    · have new := h.created v (s.guard.standIn v)
        (s.guard.cutEvent v.typeName (s.guard.reasonFor v.type)) fresh (cutEvent_code ..)
      simpa [Session.serve, entered, standIn] using new
  | exit ty =>
    rw [serve_exit]
    split
    · exact h.turned (.exit ty, .closed) h.nodup.tail
        (Nat.le_trans (List.tail_sublist _).length_le h.bounded) nofun
    · exact h.turned (.exit ty, .refused _) h.nodup h.bounded nofun

/-- A session stays sound through any requests. -/
theorem serveAll (h : s.Sound a₀ limit) (requests : List Request) :
    (s.serveAll requests).Sound a₀ limit := by
  induction requests generalizing s with
  | nil => exact h
  | cons r rest ih => exact ih (h.serve r)

/-- A visit in a sound session follows the rules. -/
theorem visited (h : s.Sound a₀ limit) {v : Visit} {admission : Admission} {g : Guard} {a : Arena}
    {events : List DiagnosticEvent}
    (entered : s.guard.enter s.arena v = (admission, g, a, events)) :
    s.Visited limit v admission g a events := by
  have bound := h.maxDepth
  obtain ⟨closed, room, opened⟩ | ⟨shut, cut⟩ := s.guard.enter_cases s.arena v
  · rw [entered] at opened
    cases opened
    rw [bound] at room
    exact ⟨iff_of_true rfl ⟨closed, room⟩, fun _ => ⟨rfl, rfl, rfl⟩, nofun⟩
  · rw [bound] at shut
    obtain ⟨id, found, repeated⟩ | ⟨fresh, new⟩ := cut
    · rw [entered] at repeated
      cases repeated
      have given := h.given_iff.2 found
      obtain ⟨_, p, -, node, eq⟩ := h.remembered _ id found
      refine ⟨iff_of_false nofun shut, nofun, ?_⟩
      rintro _ ⟨⟩
      have reason : s.guard.reasonFor v.type = p.reason := (Prod.mk.inj eq).2
      rw [reason] at given
      exact ⟨rfl, p, node, reason ▸ reasonFor_eq_cycle_iff, .inl ⟨given, rfl, rfl⟩⟩
    · rw [entered] at new
      cases new
      refine ⟨iff_of_false nofun shut, nofun, ?_⟩
      rintro _ ⟨⟩
      refine ⟨rfl, s.guard.standIn v, Arena.get?_push_self _ _, reasonFor_eq_cycle_iff, .inr ?_⟩
      refine ⟨fun id given => ?_, rfl, rfl, rfl, congrArg (List.cons · []) (cutEvent_code ..)⟩
      have found := h.given_iff.1 given
      rw [show (s.guard.standIn v).reason = s.guard.reasonFor v.type from rfl, fresh] at found
      cases found

end Sound

/-- **The rules of the guard**, after any sequence of requests.  No type is open twice, and never
more than the limit.  Every visit follows the rules (`Visited`).  A type is closed exactly if it is
the innermost open one, and otherwise nothing changes.  All in all, each type has at most one
placeholder for each reason, and no two have the same one; the new nodes were all given out, and are
reported one by one. -/
theorem session_disciplined {maxDepth : Nat} {a₀ : Arena} {requests : List Request} {s : Session}
    (h : (start maxDepth a₀).serveAll requests = s) :
    (s.guard.active.Nodup ∧ s.guard.active.length ≤ max 1 maxDepth) ∧
    (∀ v admission g a events, s.guard.enter s.arena v = (admission, g, a, events) →
      s.Visited (max 1 maxDepth) v admission g a events) ∧
    (∀ ty, s.serve (.exit ty) =
      if s.guard.active.head? = some ty then
        { s with
          guard := { s.guard with active := s.guard.active.tail }
          turns := s.turns ++ [(.exit ty, .closed)] }
      else
        { s with turns := s.turns ++
          [(.exit ty, .refused (.guardMismatch s.guard.active.head? ty))] }) ∧
    (∀ key key' id id', s.Given key id → s.Given key' id' → (key = key' ↔ id = id')) ∧
    (∀ id, a₀.size ≤ id.index → id.index < s.arena.size → ∃ key, s.Given key id) ∧
    ∃ created, s.arena.nodes.toList = a₀.nodes.toList ++ created ∧
      List.Forall₂ Reports s.events created := by
  have sound : s.Sound a₀ (max 1 maxDepth) := h ▸ (Sound.begin a₀ maxDepth).serveAll requests
  refine ⟨⟨sound.nodup, sound.bounded⟩, fun v admission g a events => sound.visited,
    s.serve_exit, fun key key' id id' given given' => ?_, fun id above below => ?_, sound.reported⟩
  · rw [sound.given_iff] at given given'
    constructor
    · rintro rfl
      exact Option.some.inj (given.symm.trans given')
    · rintro rfl
      exact sound.distinct _ _ _ given given'
  · obtain ⟨key, found⟩ := sound.new id above below
    exact ⟨key, sound.given_iff.2 found⟩

/-- A type that is too deep at first and a cycle later gets two placeholders, each of them once; a
type that is not the innermost one stays open. -/
theorem session_disciplined_twoReasons :
    let visit (ty : Nat) : Request := .enter ⟨⟨ty⟩, "T", none⟩
    ∃ s, (start 2 .empty).serveAll [visit 1, visit 2, visit 3, .exit ⟨1⟩, .exit ⟨2⟩, .exit ⟨1⟩,
        visit 3, visit 3, visit 4, visit 3, visit 3, .exit ⟨3⟩] = s ∧
      s.guard.active = [⟨4⟩, ⟨3⟩] ∧ s.arena.size = 2 ∧
      s.events.map (·.code) = [.depthExceeded, .cycleDetected] ∧
      s.Given (⟨3⟩, .depth) ⟨0⟩ ∧ s.Given (⟨3⟩, .cycle) ⟨1⟩ ∧
      ∀ key, s.Given key ⟨1⟩ → key = (⟨3⟩, .cycle) := by
  intro visit
  have sound := (Sound.begin .empty 2).serveAll [visit 1, visit 2, visit 3, .exit ⟨1⟩, .exit ⟨2⟩,
    .exit ⟨1⟩, visit 3, visit 3, visit 4, visit 3, visit 3, .exit ⟨3⟩]
  refine ⟨_, rfl, by decide +kernel, by decide +kernel, by decide +kernel,
    sound.given_iff.2 (by decide +kernel), sound.given_iff.2 (by decide +kernel),
    fun key other => ?_⟩
  refine ((session_disciplined rfl).2.2.2.1 _ _ _ _ other ?_).2 rfl
  exact sound.given_iff.2 (by decide +kernel)

end Session

end Guard

end TypeSchema
