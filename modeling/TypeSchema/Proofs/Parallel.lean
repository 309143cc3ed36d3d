import TypeSchema.Proofs.Outcome

/-!
# Outcomes of actions — two runs that end alike

`Parallel E R Q x y` says that from states that `R` relates, `x` and `y` both give a value or both
fail: `Q` relates the values and the states then, and if they fail it is with the same error, and
`E` relates the states.  Other than `Lockstep`, it says something of both runs whichever way they
end, and the relation may change on the way.
-/

namespace TypeSchema

variable {ε σ α β γ δ : Type}

/-- From related states both actions give related values, or fail with the same error. -/
def Parallel (E R : σ → σ → Prop) (Q : α → β → σ → σ → Prop) (x : EStateM ε σ α)
    (y : EStateM ε σ β) : Prop :=
  ∀ ⦃s s'⦄, R s s' →
    (∃ a b s₁ s₁', x s = .ok a s₁ ∧ y s' = .ok b s₁' ∧ Q a b s₁ s₁') ∨
    ∃ e s₁ s₁', x s = .error e s₁ ∧ y s' = .error e s₁' ∧ E s₁ s₁'

/-- The values are equal, and the states related. -/
def Equally (R : σ → σ → Prop) (a b : α) (s s' : σ) : Prop := a = b ∧ R s s'

namespace Parallel

variable {E R R' : σ → σ → Prop} {Q Q' : α → β → σ → σ → Prop} {P : γ → δ → σ → σ → Prop}
  {x : EStateM ε σ α} {y : EStateM ε σ β}

theorem bind {f : α → EStateM ε σ γ} {f' : β → EStateM ε σ δ} (hx : Parallel E R Q x y)
    (hf : ∀ a b, Parallel E (Q a b) P (f a) (f' b)) : Parallel E R P (x >>= f) (y >>= f') := by
  intro s s' hs
  rcases hx hs with ⟨a, b, s₁, s₁', ha, hb, hab⟩ | ⟨e, s₁, s₁', he, he', hs₁⟩
  · rcases hf a b hab with ⟨c, d, s₂, s₂', hc, hd, hcd⟩ | ⟨e, s₂, s₂', he, he', hs₂⟩
    · exact .inl ⟨c, d, s₂, s₂', by rw [bind_of_ok ha, hc], by rw [bind_of_ok hb, hd], hcd⟩
    · exact .inr ⟨e, s₂, s₂', by rw [bind_of_ok ha, he], by rw [bind_of_ok hb, he'], hs₂⟩
  · exact .inr ⟨e, s₁, s₁', bind_of_error he, bind_of_error he', hs₁⟩

/-- The sequence of actions that give equal values. -/
theorem bind_eq {x y : EStateM ε σ α} {f : α → EStateM ε σ γ} {f' : α → EStateM ε σ δ}
    (hx : Parallel E R (Equally R') x y) (hf : ∀ a, Parallel E R' P (f a) (f' a)) :
    Parallel E R P (x >>= f) (y >>= f') :=
  hx.bind fun a b s s' ⟨same, hs⟩ => by
    subst same
    exact hf a hs

theorem of_pure {a : α} {b : β} (h : ∀ s s', R s s' → Q a b s s') :
    Parallel E R Q (pure a : EStateM ε σ α) (pure b) :=
  fun s s' hs => .inl ⟨a, b, s, s', rfl, rfl, h s s' hs⟩

theorem pure_eq (a : α) : Parallel E R (Equally R) (pure a : EStateM ε σ α) (pure a) :=
  .of_pure fun _ _ hs => ⟨rfl, hs⟩

theorem of_throw (e : ε) (h : ∀ s s', R s s' → E s s') :
    Parallel E R Q (throw e : EStateM ε σ α) (throw e) :=
  fun s s' hs => .inr ⟨e, s, s', rfl, rfl, h s s' hs⟩

theorem of_modifyGet {f : σ → α × σ} {f' : σ → β × σ}
    (h : ∀ s s', R s s' → Q (f s).1 (f' s').1 (f s).2 (f' s').2) :
    Parallel E R Q (modifyGet f : EStateM ε σ α) (modifyGet f') :=
  fun s s' hs => .inl ⟨_, _, _, _, rfl, rfl, h s s' hs⟩

theorem of_modify {f f' : σ → σ} (h : ∀ s s', R s s' → R' (f s) (f' s')) :
    Parallel E R (Equally R') (modify f : EStateM ε σ PUnit) (modify f') :=
  .of_modifyGet fun s s' hs => ⟨rfl, h s s' hs⟩

/-- What the states are read for is decided by the states that are read. -/
theorem of_get {f : σ → EStateM ε σ γ} {f' : σ → EStateM ε σ δ}
    (h : ∀ s s', R s s' → Parallel E (fun t t' => t = s ∧ t' = s') P (f s) (f' s')) :
    Parallel E R P (get >>= f) (get >>= f') :=
  fun s s' hs => h s s' hs ⟨rfl, rfl⟩

/-- If the first action gives a value, so does the second one. -/
theorem ok (h : Parallel E R Q x y) {s s' s₁ : σ} {a : α} (hs : R s s') (hx : x s = .ok a s₁) :
    ∃ b s₁', y s' = .ok b s₁' ∧ Q a b s₁ s₁' := by
  rcases h hs with ⟨a', b, s₂, s₂', ha, hb, hab⟩ | ⟨e, s₂, s₂', he, -, -⟩
  · cases hx.symm.trans ha
    exact ⟨b, s₂', hb, hab⟩
  · cases hx.symm.trans he

/-- The relations before and after may be weakened. -/
theorem weaken {E' : σ → σ → Prop} (h : Parallel E R Q x y) (before : ∀ s s', R' s s' → R s s')
    (after : ∀ a b s s', Q a b s s' → Q' a b s s') (failed : ∀ s s', E s s' → E' s s') :
    Parallel E' R' Q' x y := by
  intro s s' hs
  rcases h (before s s' hs) with ⟨a, b, s₁, s₁', ha, hb, hab⟩ | ⟨e, s₁, s₁', he, he', hs₁⟩
  · exact .inl ⟨a, b, s₁, s₁', ha, hb, after a b s₁ s₁' hab⟩
  · exact .inr ⟨e, s₁, s₁', he, he', failed s₁ s₁' hs₁⟩

end Parallel

end TypeSchema
