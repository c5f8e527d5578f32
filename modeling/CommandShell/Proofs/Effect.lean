/-!
# Steps that may fail

The steps of handles, handlers and the shell are functions from a state to a result and a state. The
lemmas here apply such a step to a state, tell what it keeps, and compare it on two states.
-/

namespace CommandShell.Effect

variable {ε σ α β : Type}

theorem bind_apply (x : ExceptT ε (StateM σ) α) (f : α → ExceptT ε (StateM σ) β) (s : σ) :
    (x >>= f) s =
      match x s with
      | (.ok a, s) => f a s
      | (.error e, s) => (.error e, s) := by
  simp only [bind, ExceptT.bind, ExceptT.mk, ExceptT.bindCont, StateT.bind]
  cases x s with
  | mk r t => cases r <;> rfl

theorem bind_ok {x : ExceptT ε (StateM σ) α} {f : α → ExceptT ε (StateM σ) β} {s t : σ} {a : α}
    (h : x s = (.ok a, t)) : (x >>= f) s = f a t := by
  rw [bind_apply, h]

theorem bind_error {x : ExceptT ε (StateM σ) α} {f : α → ExceptT ε (StateM σ) β} {s t : σ} {e : ε}
    (h : x s = (.error e, t)) : (x >>= f) s = (.error e, t) := by
  rw [bind_apply, h]

@[simp] theorem get_apply (s : σ) : (get : ExceptT ε (StateM σ) σ) s = (.ok s, s) := rfl

@[simp] theorem set_apply (t s : σ) : (set t : ExceptT ε (StateM σ) PUnit) s = (.ok ⟨⟩, t) := rfl

@[simp] theorem modify_apply (f : σ → σ) (s : σ) :
    (modify f : ExceptT ε (StateM σ) PUnit) s = (.ok ⟨⟩, f s) := rfl

theorem tryCatch_apply (x : ExceptT ε (StateM σ) α) (f : ε → ExceptT ε (StateM σ) α) (s : σ) :
    (tryCatch x f) s =
      match x s with
      | (.ok a, s) => (.ok a, s)
      | (.error e, s) => f e s := by
  simp only [tryCatch, tryCatchThe, MonadExceptOf.tryCatch, ExceptT.tryCatch, ExceptT.mk, bind,
    StateT.bind]
  cases x s with
  | mk r t => cases r <;> rfl

theorem discard_apply (x : ExceptT ε (StateM σ) α) (s : σ) :
    (discard x) s =
      match x s with
      | (.ok _, s) => (.ok ⟨⟩, s)
      | (.error e, s) => (.error e, s) := by
  have hmap : discard x = (x >>= fun _ => pure ⟨⟩) := by
    rw [discard, map_const, Function.comp_apply, map_eq_pure_bind]
  rw [hmap, bind_apply]
  rfl

/-! ## What a step keeps -/

/-- The step leaves a state that is related to the one that it finds, whatever it comes to. -/
def Keeps (K : σ → σ → Prop) (x : ExceptT ε (StateM σ) α) : Prop := ∀ s, K s (x s).2

section Keeps

variable {K : σ → σ → Prop} (hrefl : ∀ s, K s s) (htrans : ∀ ⦃s t u⦄, K s t → K t u → K s u)

include hrefl in
theorem keeps_pure (a : α) : Keeps K (pure a : ExceptT ε (StateM σ) α) := fun s => hrefl s

theorem keeps_modify {f : σ → σ} (hf : ∀ s, K s (f s)) :
    Keeps K (modify f : ExceptT ε (StateM σ) PUnit) := hf

include htrans in
theorem keeps_bind {x : ExceptT ε (StateM σ) α} {f : α → ExceptT ε (StateM σ) β} (hx : Keeps K x)
    (hf : ∀ a, Keeps K (f a)) : Keeps K (x >>= f) := by
  intro s
  have hfirst := hx s
  rw [bind_apply]
  rcases hrun : x s with ⟨r, t⟩
  rw [hrun] at hfirst
  cases r with
  | error e => exact hfirst
  | ok a => exact htrans hfirst (hf a t)

end Keeps

/-! ## Two runs side by side -/

inductive Same (R : α → β → Prop) : Except ε α → Except ε β → Prop
  | error (e : ε) : Same R (.error e) (.error e)
  | ok {a : α} {b : β} : R a b → Same R (.ok a) (.ok b)

def TwinAt (R : σ → σ → Prop) (x : ExceptT ε (StateM σ) α) (s s' : σ) : Prop :=
  ∃ r t t', x s = (r, t) ∧ x s' = (r, t') ∧ R t t'

/-- On related states the step comes to one result and leaves related states. -/
def Twin (R : σ → σ → Prop) (x : ExceptT ε (StateM σ) α) : Prop :=
  ∀ s s', R s s' → TwinAt R x s s'

section Twin

variable {R : σ → σ → Prop}

theorem twin_pure (a : α) : Twin R (pure a : ExceptT ε (StateM σ) α) :=
  fun s s' h => ⟨.ok a, s, s', rfl, rfl, h⟩

theorem twin_throw (e : ε) : Twin R (throw e : ExceptT ε (StateM σ) α) :=
  fun s s' h => ⟨.error e, s, s', rfl, rfl, h⟩

theorem twin_modify {f : σ → σ} (hf : ∀ s s', R s s' → R (f s) (f s')) :
    Twin R (modify f : ExceptT ε (StateM σ) PUnit) :=
  fun s s' h => ⟨.ok ⟨⟩, f s, f s', rfl, rfl, hf s s' h⟩

theorem twinAt_bind {x : ExceptT ε (StateM σ) α} {f : α → ExceptT ε (StateM σ) β} {s s' : σ}
    (hx : TwinAt R x s s') (hf : ∀ a, Twin R (f a)) : TwinAt R (x >>= f) s s' := by
  obtain ⟨r, t, t', hs, hs', ht⟩ := hx
  cases r with
  | error e => exact ⟨.error e, t, t', bind_error hs, bind_error hs', ht⟩
  | ok a =>
    obtain ⟨r, u, u', hu, hu', hru⟩ := hf a t t' ht
    exact ⟨r, u, u', (bind_ok hs).trans hu, (bind_ok hs').trans hu', hru⟩

theorem twin_bind {x : ExceptT ε (StateM σ) α} {f : α → ExceptT ε (StateM σ) β} (hx : Twin R x)
    (hf : ∀ a, Twin R (f a)) : Twin R (x >>= f) :=
  fun s s' h => twinAt_bind (hx s s' h) hf

end Twin

theorem except_bind_ok {x : Except ε α} {f : α → Except ε β} {b : β} (h : (x >>= f) = .ok b) :
    ∃ a, x = .ok a ∧ f a = .ok b := by
  cases x with
  | error e => cases h
  | ok a => exact ⟨a, rfl, h⟩

end CommandShell.Effect
