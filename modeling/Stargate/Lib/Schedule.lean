import Mathlib.Data.List.Basic

/-!
# Stargate.Lib.Schedule

Tasks that share a state and take turns. A task is a small-step program whose step is one
atomic section (what it runs under a lock, or between two points where another task may run);
a schedule is the list of the tasks that take the next steps, in order. `run` runs a schedule
over the shared state and the tasks. An index past the end of the list names no task and takes
no step. Any interleaving of the tasks is some schedule.

The rules: a property of the state and the tasks that every step keeps holds after every
schedule (`run_invariant`); a schedule that names one task only runs that task alone
(`run_replicate`); and a serial schedule, which runs each task to its end before the next one
starts, runs each task alone in turn (`run_serial`).
-/

namespace Schedule

variable {σ τ : Type} (step : σ → τ → σ × τ)

/-- Task `i` takes its next atomic step. -/
def stepAt (st : σ × List τ) (i : Nat) : σ × List τ :=
  match st.2[i]? with
  | some t => ((step st.1 t).1, st.2.set i (step st.1 t).2)
  | none => st

/-- Run a schedule: the tasks it names take their steps in its order. -/
def run (st : σ × List τ) (sched : List Nat) : σ × List τ :=
  sched.foldl (stepAt step) st

/-- `n` steps of one task running alone. -/
def alone : Nat → σ → τ → σ × τ
  | 0, s, t => (s, t)
  | n + 1, s, t => alone n (step s t).1 (step s t).2

/-- Each task in turn runs `n` steps alone, from the state the one before left. -/
def aloneEach (n : Nat) : σ → List τ → σ × List τ
  | s, [] => (s, [])
  | s, t :: ts =>
      let r := alone step n s t
      let rest := aloneEach n r.1 ts
      (rest.1, r.2 :: rest.2)

/-- The serial schedule of `k` tasks: task `0` takes `n` steps, then task `1`, and so on. -/
def serial (n : Nat) : Nat → List Nat
  | 0 => []
  | k + 1 => List.replicate n 0 ++ (serial n k).map (· + 1)

variable {step}

@[simp] theorem run_nil (st : σ × List τ) : run step st [] = st := rfl

@[simp] theorem run_cons (st : σ × List τ) (i : Nat) (sched : List Nat) :
    run step st (i :: sched) = run step (stepAt step st i) sched := rfl

theorem run_append (st : σ × List τ) (sched₁ sched₂ : List Nat) :
    run step st (sched₁ ++ sched₂) = run step (run step st sched₁) sched₂ := by
  simp [run, List.foldl_append]

theorem stepAt_of_getElem? {st : σ × List τ} {i : Nat} {t : τ} (h : st.2[i]? = some t) :
    stepAt step st i = ((step st.1 t).1, st.2.set i (step st.1 t).2) := by
  rw [stepAt, h]

theorem stepAt_of_getElem?_none {st : σ × List τ} {i : Nat} (h : st.2[i]? = none) :
    stepAt step st i = st := by
  rw [stepAt, h]

/-- **Invariant rule.** A property that every step of every task keeps holds after every
schedule. -/
theorem run_invariant (inv : σ → List τ → Prop)
    (hstep : ∀ s ts i t, ts[i]? = some t → inv s ts →
      inv (step s t).1 (ts.set i (step s t).2))
    (st : σ × List τ) (h : inv st.1 st.2) (sched : List Nat) :
    inv (run step st sched).1 (run step st sched).2 := by
  induction sched generalizing st with
  | nil => exact h
  | cons i sched ih =>
      rw [run_cons]
      apply ih
      cases hi : st.2[i]? with
      | none => rwa [stepAt_of_getElem?_none hi]
      | some t =>
          rw [stepAt_of_getElem? hi]
          exact hstep _ _ _ _ hi h

/-- A schedule that names only task `i` runs it alone. -/
theorem run_replicate (n : Nat) {st : σ × List τ} {i : Nat} {t : τ} (h : st.2[i]? = some t) :
    run step st (List.replicate n i) =
      ((alone step n st.1 t).1, st.2.set i (alone step n st.1 t).2) := by
  obtain ⟨hlt, hget⟩ := List.getElem?_eq_some_iff.mp h
  induction n generalizing st t with
  | zero =>
      rw [List.replicate_zero, run_nil, alone, ← hget, List.set_getElem_self]
  | succ n ih =>
      -- the task stays at index `i`, one step further
      let st' : σ × List τ := ((step st.1 t).1, st.2.set i (step st.1 t).2)
      have hi : st'.2[i]? = some (step st.1 t).2 := List.getElem?_set_self hlt
      obtain ⟨hlt', hget'⟩ := List.getElem?_eq_some_iff.mp hi
      rw [List.replicate_succ, run_cons, stepAt_of_getElem? h, ih hi hlt' hget']
      simp [st', alone]

/-- A step of a task behind the first one is that task's step in the list without the first. -/
theorem stepAt_cons_succ (s : σ) (t : τ) (ts : List τ) (i : Nat) :
    stepAt step (s, t :: ts) (i + 1) =
      ((stepAt step (s, ts) i).1, t :: (stepAt step (s, ts) i).2) := by
  unfold stepAt
  simp only [List.getElem?_cons_succ]
  split <;> simp

/-- A schedule that leaves the first task out runs the others as if it were not there. -/
theorem run_map_succ (s : σ) (t : τ) (ts : List τ) (sched : List Nat) :
    run step (s, t :: ts) (sched.map (· + 1)) =
      ((run step (s, ts) sched).1, t :: (run step (s, ts) sched).2) := by
  induction sched generalizing s ts with
  | nil => rfl
  | cons i sched ih =>
      rw [List.map_cons, run_cons, run_cons, stepAt_cons_succ]
      exact ih _ _

/-- **Serial schedules.** Running each task to its end before the next one starts runs each
task alone in turn. -/
theorem run_serial (n : Nat) (s : σ) (ts : List τ) :
    run step (s, ts) (serial n ts.length) = aloneEach step n s ts := by
  induction ts generalizing s with
  | nil => rfl
  | cons t ts ih =>
      rw [List.length_cons, serial, run_append, run_replicate n (t := t) rfl]
      simp only [List.set_cons_zero]
      rw [run_map_succ, ih]
      rfl

end Schedule
