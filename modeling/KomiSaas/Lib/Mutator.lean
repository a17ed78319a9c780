import Mathlib

/-!
# Methods that change an object in place

A method of a mutable object returns or throws, and leaves the object as it is by
then, also where it throws. It is atomic, for what an observer sees of the object,
when the observer sees no difference wherever it throws (`AtomicAt`).

Rules: a method that throws nothing is atomic (`atomicAt_of_ok`), so is one that
changes nothing (`atomicAt_of_same`), and a check may stand before an atomic
method (`atomicAt_bind_of_same`).
-/

namespace KomiSaas.Lib

/-- A method of an object of type `σ` that may throw an `ε`. -/
abbrev Mutator (ε σ α : Type) := ExceptT ε (StateM σ) α

namespace Mutator

variable {ε σ τ α β : Type}

/-- A method, by what it does to an object. -/
def of (m : σ → Except ε α × σ) : Mutator ε σ α := ExceptT.mk m

/-- What the method ends with, and the object that it leaves. -/
def exec (x : Mutator ε σ α) (s : σ) : Except ε α × σ := x.run.run s

variable {x : Mutator ε σ α} {f : α → Mutator ε σ β} {s s' : σ} {a : α} {e : ε}

@[simp] theorem exec_of {m : σ → Except ε α × σ} : exec (of m) s = m s := rfl

@[simp] theorem exec_get : exec (get : Mutator ε σ σ) s = (.ok s, s) := rfl

@[simp] theorem exec_modify {g : σ → σ} :
    exec (modify g : Mutator ε σ Unit) s = (.ok (), g s) := rfl

/-- One method after another: what the first throws ends both. -/
theorem exec_bind : exec (x >>= f) s =
    match exec x s with
    | (.ok a, s') => exec (f a) s'
    | (.error e, s') => (.error e, s') := by
  unfold exec
  rw [ExceptT.run_bind, StateT.run_bind]
  show (match (x.run.run s).1 with | .ok a => _ | .error e => _ : StateM σ (Except ε β)).run
    (x.run.run s).2 = _
  obtain ⟨result, s'⟩ := x.run.run s
  cases result <;> rfl

theorem exec_bind_of_ok (h : exec x s = (.ok a, s')) : exec (x >>= f) s = exec (f a) s' := by
  rw [exec_bind, h]

theorem exec_bind_of_error (h : exec x s = (.error e, s')) : exec (x >>= f) s = (.error e, s') := by
  rw [exec_bind, h]

/-! ## Atomic methods -/

variable {view : σ → τ} {m : σ → Except ε α × σ}

/-- Where the method throws, `view` shows of the object what it showed before. -/
def AtomicAt (view : σ → τ) (m : σ → Except ε α × σ) (s : σ) : Prop :=
  ∀ e s', m s = (.error e, s') → view s' = view s

theorem atomicAt_of_ok (h : m s = (.ok a, s')) : AtomicAt view m s := by
  intro e after herror
  rw [h] at herror
  cases herror

theorem atomicAt_of_same (h : (m s).2 = s) : AtomicAt view m s := by
  intro e after herror
  rw [herror] at h
  exact congrArg view h

/-- Where the method throws, it is atomic exactly when nothing is seen of it. -/
theorem atomicAt_iff_of_error (h : m s = (.error e, s')) :
    AtomicAt view m s ↔ view s' = view s := by
  constructor
  · intro hatomic
    exact hatomic e s' h
  · intro hview other after herror
    rw [h] at herror
    cases herror
    exact hview

/-- A check that changes nothing, and then the rest. -/
theorem atomicAt_bind_of_same (hsame : (exec x s).2 = s)
    (h : ∀ a, exec x s = (.ok a, s) → AtomicAt view (exec (f a)) s) :
    AtomicAt view (exec (x >>= f)) s := by
  cases hx : exec x s with
  | mk result after =>
    rw [hx] at hsame
    obtain rfl : after = s := hsame
    intro e s' herror
    cases result with
    | ok a =>
      rw [exec_bind_of_ok hx] at herror
      exact h a hx e s' herror
    | error e' =>
      rw [exec_bind_of_error hx] at herror
      rw [(Prod.mk.inj herror).2]

end Mutator

end KomiSaas.Lib
