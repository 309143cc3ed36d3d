/-!
# Outcomes of actions

An action with a state and an error ends in a value or in an error, and leaves a state either way.
`bind_ok_iff` and `bind_error_iff` take a sequence of two actions apart by its outcome.
`Succeeds x s` says that `x` ends in a value from the state `s`, and `Succeeds.bind` puts a sequence
together.

`Lockstep R A x y` says that `y` keeps up with `x`: from states that `R` relates, when `x` gives a
value, `y` gives one that `A` relates to it, and `R` relates the states after.

`Agree R x y` says that two actions without a state give values that `R` relates, or fail with the
same error.
-/

namespace TypeSchema

variable {ε σ α β : Type}

/-- A sequence gives a value iff both of its actions do. -/
theorem bind_ok_iff {x : EStateM ε σ α} {f : α → EStateM ε σ β} {s s' : σ} {b : β} :
    (x >>= f) s = .ok b s' ↔ ∃ a s₁, x s = .ok a s₁ ∧ f a s₁ = .ok b s' := by
  simp only [bind, EStateM.bind]
  cases x s <;> simp [and_assoc]

/-- A sequence fails iff its first action does, or its second one after it. -/
theorem bind_error_iff {x : EStateM ε σ α} {f : α → EStateM ε σ β} {s s' : σ} {e : ε} :
    (x >>= f) s = .error e s' ↔
      x s = .error e s' ∨ ∃ a s₁, x s = .ok a s₁ ∧ f a s₁ = .error e s' := by
  simp only [bind, EStateM.bind]
  cases x s <;> simp [and_assoc]

theorem bind_of_ok {x : EStateM ε σ α} {f : α → EStateM ε σ β} {s s₁ : σ} {a : α}
    (h : x s = .ok a s₁) : (x >>= f) s = f a s₁ := by
  simp only [bind, EStateM.bind, h]

theorem bind_of_error {x : EStateM ε σ α} {f : α → EStateM ε σ β} {s s₁ : σ} {e : ε}
    (h : x s = .error e s₁) : (x >>= f) s = .error e s₁ := by
  simp only [bind, EStateM.bind, h]

theorem pure_ok_iff {a b : α} {s s' : σ} :
    (pure a : EStateM ε σ α) s = .ok b s' ↔ a = b ∧ s = s' := by
  simp [pure, EStateM.pure]

/-- The action gives a value from this state. -/
def Succeeds (x : EStateM ε σ α) (s : σ) : Prop := ∃ a s', x s = .ok a s'

/-- A sequence succeeds if its first part does, and the rest after every result of it. -/
theorem Succeeds.bind {x : EStateM ε σ α} {f : α → EStateM ε σ β} {s : σ} (hx : Succeeds x s)
    (hf : ∀ a s', x s = .ok a s' → Succeeds (f a) s') : Succeeds (x >>= f) s := by
  obtain ⟨a, s', ha⟩ := hx
  obtain ⟨b, s'', hb⟩ := hf a s' ha
  exact ⟨b, s'', by rw [bind_of_ok ha, hb]⟩

theorem Succeeds.of_pure (a : α) (s : σ) : Succeeds (pure a : EStateM ε σ α) s := ⟨a, s, rfl⟩

theorem toOption_eq_some_iff {x : Except ε α} {a : α} : x.toOption = some a ↔ x = .ok a := by
  cases x <;> simp [Except.toOption]

/-- A sequence without a state gives a value iff both of its actions do. -/
theorem except_bind_ok_iff {x : Except ε α} {f : α → Except ε β} {b : β} :
    (x >>= f) = .ok b ↔ ∃ a, x = .ok a ∧ f a = .ok b := by
  cases x <;> simp [bind, Except.bind]

/-- Mapping over a list gives values iff the function does for each entry. -/
theorem mapM_cons_ok_iff {f : α → Except ε β} {a : α} {l : List α} {bs : List β} :
    (a :: l).mapM f = .ok bs ↔
      ∃ b more, f a = .ok b ∧ l.mapM f = .ok more ∧ bs = b :: more := by
  rw [List.mapM_cons]
  cases f a with
  | error e => simp [bind, Except.bind]
  | ok b => cases l.mapM f <;> simp [bind, Except.bind, pure, Except.pure, eq_comm]

/-- Mapping over a list fails with the error of one of its entries. -/
theorem exists_of_mapM_error {f : α → Except ε β} {l : List α} {e : ε} (h : l.mapM f = .error e) :
    ∃ a ∈ l, f a = .error e := by
  induction l with
  | nil => cases h
  | cons a rest ih =>
    rw [List.mapM_cons] at h
    cases ha : f a with
    | error e' =>
      rw [ha] at h
      cases h
      exact ⟨a, List.mem_cons_self, ha⟩
    | ok b =>
      rw [ha] at h
      cases hr : rest.mapM f with
      | error e' =>
        simp only [hr] at h
        cases h
        obtain ⟨a', hmem, ha'⟩ := ih hr
        exact ⟨a', List.mem_cons_of_mem _ hmem, ha'⟩
      | ok bs => simp only [hr] at h; cases h

/-! ### Agreement -/

/-- Both give values, which `R` relates, or both fail with the same error. -/
inductive Agree {ε α β : Type} (R : α → β → Prop) : Except ε α → Except ε β → Prop where
  | ok {a : α} {b : β} (h : R a b) : Agree R (.ok a) (.ok b)
  | error (e : ε) : Agree R (.error e) (.error e)

namespace Agree

variable {γ δ : Type} {R : α → β → Prop} {x : Except ε α} {y : Except ε β}

theorem bind {S : γ → δ → Prop} {f : α → Except ε γ} {f' : β → Except ε δ} (hx : Agree R x y)
    (hf : ∀ a b, y = .ok b → R a b → Agree S (f a) (f' b)) : Agree S (x >>= f) (y >>= f') := by
  cases hx with
  | ok h => exact hf _ _ rfl h
  | error e => exact .error e

theorem mono {R' : α → β → Prop} (h : Agree R x y) (weaker : ∀ a b, R a b → R' a b) :
    Agree R' x y := by
  cases h with
  | ok h => exact .ok (weaker _ _ h)
  | error e => exact .error e

theorem exists_right (h : Agree R x y) {a : α} (hx : x = .ok a) : ∃ b, y = .ok b ∧ R a b := by
  subst hx
  cases h with
  | ok h => exact ⟨_, rfl, h⟩

theorem exists_left (h : Agree R x y) {b : β} (hy : y = .ok b) : ∃ a, x = .ok a ∧ R a b := by
  subst hy
  cases h with
  | ok h => exact ⟨_, rfl, h⟩

end Agree

/-! ### Lockstep -/

/-- From related states, `y` gives a related value whenever `x` gives one. -/
def Lockstep (R : σ → σ → Prop) (A : α → β → Prop) (x : EStateM ε σ α) (y : EStateM ε σ β) : Prop :=
  ∀ ⦃s s'⦄, R s s' → ∀ ⦃a s₁⦄, x s = .ok a s₁ → ∃ b s₁', y s' = .ok b s₁' ∧ A a b ∧ R s₁ s₁'

namespace Lockstep

variable {γ δ : Type} {R : σ → σ → Prop}

theorem bind {A : α → β → Prop} {B : γ → δ → Prop} {x : EStateM ε σ α} {y : EStateM ε σ β}
    {f : α → EStateM ε σ γ} {f' : β → EStateM ε σ δ} (hx : Lockstep R A x y)
    (hf : ∀ a b, A a b → Lockstep R B (f a) (f' b)) : Lockstep R B (x >>= f) (y >>= f') := by
  intro s s' hs c s₂ h
  obtain ⟨a, s₁, ha, hc⟩ := bind_ok_iff.1 h
  obtain ⟨b, s₁', hb, hab, hs₁⟩ := hx hs ha
  obtain ⟨d, s₂', hd, hcd, hs₂⟩ := hf a b hab hs₁ hc
  exact ⟨d, s₂', by rw [bind_of_ok hb, hd], hcd, hs₂⟩

/-- The sequence of actions that give equal values. -/
theorem bind_eq {B : γ → δ → Prop} {x y : EStateM ε σ α} {f : α → EStateM ε σ γ}
    {f' : α → EStateM ε σ δ} (hx : Lockstep R Eq x y) (hf : ∀ a, Lockstep R B (f a) (f' a)) :
    Lockstep R B (x >>= f) (y >>= f') :=
  hx.bind fun a _ h => h ▸ hf a

theorem of_pure {A : α → β → Prop} {a : α} {b : β} (h : A a b) :
    Lockstep R A (pure a : EStateM ε σ α) (pure b) := by
  intro s s' hs a' s₁ ha
  cases ha
  exact ⟨b, s', rfl, h, hs⟩

/-- An action that fails has nobody to keep up with it. -/
theorem of_throw {A : α → β → Prop} (e : ε) (y : EStateM ε σ β) :
    Lockstep R A (throw e : EStateM ε σ α) y := by
  intro s s' hs a s₁ ha
  cases ha

theorem of_get : Lockstep R R (get : EStateM ε σ σ) get := by
  intro s s' hs a s₁ ha
  cases ha
  exact ⟨s', s', rfl, hs, hs⟩

theorem of_modifyGet {A : α → β → Prop} {f : σ → α × σ} {f' : σ → β × σ}
    (h : ∀ s s', R s s' → A (f s).1 (f' s').1 ∧ R (f s).2 (f' s').2) :
    Lockstep R A (modifyGet f : EStateM ε σ α) (modifyGet f') := by
  intro s s' hs a s₁ ha
  cases ha
  exact ⟨_, _, rfl, h s s' hs⟩

theorem of_modify {f f' : σ → σ} (h : ∀ s s', R s s' → R (f s) (f' s')) :
    Lockstep R Eq (modify f : EStateM ε σ PUnit) (modify f') :=
  of_modifyGet fun s s' hs => ⟨rfl, h s s' hs⟩

end Lockstep

end TypeSchema
