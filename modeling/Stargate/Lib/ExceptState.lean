import Mathlib.Logic.Basic

/-!
# Stargate.Lib.ExceptState

Computations that may fail, and how to take them apart. An `Except` bind succeeds when both
its parts do. Over a state, `ExceptT ε (StateM σ)` keeps what a computation wrote when a later
step fails; `ExceptState.run` runs one from a state to its result and its final state, and
the lemmas take a `do` block apart one step at a time, in the order its steps run.
-/

/-- A mapped computation fails exactly when the computation does, with its error. -/
theorem Except.map_eq_error_iff {ε α β : Type} (f : α → β) (r : Except ε α) (e : ε) :
    r.map f = .error e ↔ r = .error e := by
  cases r <;> simp [Except.map]

/-- A bind succeeded exactly when its first computation did and so did the rest. -/
theorem Except.bind_eq_ok {ε α β : Type} {m : Except ε α} {f : α → Except ε β} {b : β} :
    (m >>= f) = .ok b ↔ ∃ a, m = .ok a ∧ f a = .ok b := by
  cases m with
  | error e =>
      constructor
      · intro h
        cases h
      · rintro ⟨a, h, -⟩
        cases h
  | ok a =>
      constructor
      · intro h
        exact ⟨a, rfl, h⟩
      · rintro ⟨a', h, hf⟩
        cases h
        exact hf

/-- A `mapM` succeeds when each element's computation does. -/
theorem Except.mapM_eq_ok_of_forall {ε α β : Type} {f : α → Except ε β} :
    ∀ {l : List α}, (∀ a ∈ l, ∃ b, f a = .ok b) → ∃ rs, l.mapM f = .ok rs
  | [], _ => ⟨[], rfl⟩
  | a :: l, h => by
      obtain ⟨b, hb⟩ := h a List.mem_cons_self
      obtain ⟨rs, hrs⟩ := Except.mapM_eq_ok_of_forall fun a' ha' => h a' (List.mem_cons_of_mem a ha')
      refine ⟨b :: rs, ?_⟩
      rw [List.mapM_cons, hb, hrs]
      rfl

/-- The results of a successful `mapM` are in the order of the elements: what each result says
about its element holds along the two lists. -/
theorem Except.map_of_mapM_eq_ok {ε α β γ : Type} {f : α → Except ε β} {g : β → γ} {k : α → γ}
    (hf : ∀ a b, f a = .ok b → g b = k a) :
    ∀ {l : List α} {rs : List β}, l.mapM f = .ok rs → rs.map g = l.map k
  | [], rs, h => by
      cases h
      rfl
  | a :: l, rs, h => by
      rw [List.mapM_cons] at h
      obtain ⟨b, hb, h⟩ := Except.bind_eq_ok.mp h
      obtain ⟨rs', hrs', h⟩ := Except.bind_eq_ok.mp h
      cases h
      rw [List.map_cons, List.map_cons, hf a b hb, Except.map_of_mapM_eq_ok hf hrs']

namespace ExceptState

variable {ε σ α β : Type}

/-- Run a computation from a state: its result, and the state it leaves. -/
def run (m : ExceptT ε (StateM σ) α) (s : σ) : Except ε α × σ := m.run.run s

/-- A computation that reads and writes nothing. -/
def ofExcept (e : Except ε α) : ExceptT ε (StateM σ) α := ExceptT.mk (pure e)

@[simp] theorem run_pure (a : α) (s : σ) : run (pure a : ExceptT ε (StateM σ) α) s = (.ok a, s) :=
  rfl

@[simp] theorem run_throw (e : ε) (s : σ) :
    run (throw e : ExceptT ε (StateM σ) α) s = (.error e, s) := rfl

@[simp] theorem run_get_bind (f : σ → ExceptT ε (StateM σ) α) (s : σ) :
    run (get >>= f) s = run (f s) s := rfl

@[simp] theorem run_pure_bind (a : α) (f : α → ExceptT ε (StateM σ) β) (s : σ) :
    run (pure a >>= f) s = run (f a) s := rfl

@[simp] theorem run_throw_bind (e : ε) (f : α → ExceptT ε (StateM σ) β) (s : σ) :
    run (throw e >>= f) s = (.error e, s) := rfl

@[simp] theorem run_set (s s' : σ) : run (set s' : ExceptT ε (StateM σ) PUnit) s = (.ok ⟨⟩, s') :=
  rfl

@[simp] theorem run_ofExcept (e : Except ε α) (s : σ) :
    run (ofExcept e : ExceptT ε (StateM σ) α) s = (e, s) := rfl

/-- A step that succeeds hands its result and its state to the rest; one that fails stops
there, keeping the state it wrote. -/
theorem run_bind (m : ExceptT ε (StateM σ) α) (f : α → ExceptT ε (StateM σ) β) (s : σ) :
    run (m >>= f) s =
      match run m s with
      | (.ok a, s') => run (f a) s'
      | (.error e, s') => (.error e, s') := by
  unfold run
  simp only [ExceptT.run_bind, StateT.run_bind]
  rcases m.run.run s with ⟨_ | a, s'⟩ <;> rfl

theorem run_bind_of_ok {m : ExceptT ε (StateM σ) α} {s s' : σ} {a : α}
    (h : run m s = (.ok a, s')) (f : α → ExceptT ε (StateM σ) β) :
    run (m >>= f) s = run (f a) s' := by
  rw [run_bind, h]

@[simp] theorem run_ofExcept_bind (e : Except ε α) (f : α → ExceptT ε (StateM σ) β) (s : σ) :
    run (ofExcept e >>= f) s =
      match e with
      | .ok a => run (f a) s
      | .error x => (.error x, s) := by
  cases e <;> rfl

/-- Inversion of a run through a bind: either the first step failed, or it succeeded and the
rest ran from where it stopped. -/
theorem run_bind_eq {m : ExceptT ε (StateM σ) α} {f : α → ExceptT ε (StateM σ) β} {s s'' : σ}
    {r : Except ε β} (h : run (m >>= f) s = (r, s'')) :
    (∃ e, run m s = (.error e, s'') ∧ r = .error e) ∨
      ∃ a s', run m s = (.ok a, s') ∧ run (f a) s' = (r, s'') := by
  rw [run_bind] at h
  rcases hm : run m s with ⟨_ | a, s'⟩
  · rw [hm] at h
    cases h
    exact .inl ⟨_, rfl, rfl⟩
  · rw [hm] at h
    exact .inr ⟨a, s', rfl, h⟩

/-- Inversion of a run through a step that reads and writes nothing. -/
theorem run_ofExcept_bind_eq {e : Except ε α} {f : α → ExceptT ε (StateM σ) β} {s s' : σ}
    {r : Except ε β} (h : run (ofExcept e >>= f) s = (r, s')) :
    (∃ x, e = .error x ∧ r = .error x ∧ s' = s) ∨ ∃ a, e = .ok a ∧ run (f a) s = (r, s') := by
  rw [run_ofExcept_bind] at h
  cases e with
  | error x =>
      cases h
      exact .inl ⟨x, rfl, rfl, rfl⟩
  | ok a => exact .inr ⟨a, rfl, h⟩

/-- A computation whose result is dropped: it fails, or writes, as the computation does. -/
theorem run_bind_pure (m : ExceptT ε (StateM σ) α) (b : β) (s : σ) :
    run (m >>= fun _ => pure b) s = ((run m s).1.map fun _ => b, (run m s).2) := by
  rw [run_bind]
  rcases run m s with ⟨_ | a, s'⟩ <;> rfl

@[simp] theorem run_map (f : α → β) (m : ExceptT ε (StateM σ) α) (s : σ) :
    run (f <$> m) s = ((run m s).1.map f, (run m s).2) := by
  rw [← bind_pure_comp, run_bind]
  rcases run m s with ⟨_ | a, s'⟩ <;> rfl

/-- Inversion of a run whose result is dropped. -/
theorem run_bind_pure_eq {m : ExceptT ε (StateM σ) α} {b : β} {s s' : σ} {r : Except ε β}
    (h : run (m >>= fun _ => pure b) s = (r, s')) :
    ∃ r', run m s = (r', s') ∧ r = r'.map fun _ => b := by
  rw [run_bind_pure] at h
  cases h
  exact ⟨_, rfl, rfl⟩

end ExceptState
