import Mathlib

/-!
# Runs of a labelled transition system

A system is a partial step function `next : σ → α → Option σ`: `next s a` is
the state after action `a`, or `none` where `a` is not enabled in `s`. A run
keeps every transition it made, so a property of a whole run can speak about
the states and the actions on the way.

Rules:
* `Run.invariant`: what every step keeps holds all along a run.
* `Run.invariant_of_guard`: the same, where only the steps that meet a guard
  are known to keep it, for runs whose steps all meet the guard.
* `Run.append`, `Run.split`, `Run.of_append_cons`, `Run.next_of_mem`: composing
  runs, and cutting one at a transition.
* `Run.exists_transition`: what holds at the end and not at the beginning was
  made true by a step.
* `Run.pre_of_post`: from the states after the steps to those before them.
* `Run.forall_post_iff`, `Run.stays_iff`: the exact condition for a property to
  hold all along, and to stay true once it was made true.
* `Run.follows_iff`: the exact condition for what is read in the states to be
  the value that was set last (`lastValue`).
* `run_of_exec`, `exists_of_any_exec`: a list of actions that evaluates is a run.
-/

namespace KomiSaas.Lib

/-- One performed action with the states before and after it. -/
structure Transition (σ α : Type*) where
  pre : σ
  action : α
  post : σ

variable {σ α : Type*}

/-- `Run next s₀ tr s`: from `s₀` the transitions `tr`, in order, lead to `s`. -/
inductive Run (next : σ → α → Option σ) (s₀ : σ) : List (Transition σ α) → σ → Prop
  | nil : Run next s₀ [] s₀
  | snoc {tr : List (Transition σ α)} {s s' : σ} {a : α} : Run next s₀ tr s →
      next s a = some s' → Run next s₀ (tr ++ [⟨s, a, s'⟩]) s'

variable {next : σ → α → Option σ} {s₀ s s' : σ} {tr tr' : List (Transition σ α)}

/-! ## Invariants -/

/-- Steps that meet the guard `G` keep `I`: then `I` holds at the end of every
    run whose steps all meet `G`, and before and after each of its steps. -/
theorem Run.invariant_of_guard {I : σ → Prop} {G : σ → α → Prop}
    (hstep : ∀ s a s', I s → G s a → next s a = some s' → I s')
    (hrun : Run next s₀ tr s) (h₀ : I s₀) (hG : ∀ t ∈ tr, G t.pre t.action) :
    I s ∧ ∀ t ∈ tr, I t.pre ∧ I t.post := by
  induction hrun with
  | nil => exact ⟨h₀, by simp⟩
  | @snoc tr s s' a _ hnext ih =>
    obtain ⟨hs, htr⟩ := ih fun t ht => hG t (List.mem_append_left _ ht)
    have hs' : I s' :=
      hstep s a s' hs (hG ⟨s, a, s'⟩ (List.mem_append_right _ (List.mem_singleton_self _))) hnext
    refine ⟨hs', fun t ht => ?_⟩
    rcases List.mem_append.mp ht with ht | ht
    · exact htr t ht
    · obtain rfl := List.mem_singleton.mp ht
      exact ⟨hs, hs'⟩

/-- What every step keeps holds all along every run. -/
theorem Run.invariant {I : σ → Prop} (hstep : ∀ s a s', I s → next s a = some s' → I s')
    (hrun : Run next s₀ tr s) (h₀ : I s₀) : I s ∧ ∀ t ∈ tr, I t.pre ∧ I t.post :=
  hrun.invariant_of_guard (G := fun _ _ => True) (fun s a s' h _ => hstep s a s' h) h₀
    fun _ _ => trivial

/-! ## Composing and cutting runs -/

theorem Run.append (h : Run next s₀ tr s) (h' : Run next s tr' s') :
    Run next s₀ (tr ++ tr') s' := by
  induction h' with
  | nil => simpa using h
  | snoc _ hnext ih => rw [← List.append_assoc]; exact ih.snoc hnext

theorem Run.cons {a : α} (hnext : next s₀ a = some s) (h : Run next s tr s') :
    Run next s₀ (⟨s₀, a, s⟩ :: tr) s' :=
  (Run.snoc Run.nil hnext).append h

/-- Cut a run at one of its transitions. -/
theorem Run.split (h : Run next s₀ tr s) {t : Transition σ α} (ht : t ∈ tr) :
    ∃ tr₁ tr₂, tr = tr₁ ++ t :: tr₂ ∧ Run next s₀ tr₁ t.pre ∧
      next t.pre t.action = some t.post ∧ Run next t.post tr₂ s := by
  induction h with
  | nil => simp at ht
  | @snoc tr s s' a hrun hnext ih =>
    rcases List.mem_append.mp ht with ht | ht
    · obtain ⟨tr₁, tr₂, rfl, h₁, h₂, h₃⟩ := ih ht
      exact ⟨tr₁, tr₂ ++ [⟨s, a, s'⟩], by simp, h₁, h₂, h₃.snoc hnext⟩
    · obtain rfl := List.mem_singleton.mp ht
      exact ⟨tr, [], by simp, hrun, hnext, Run.nil⟩

/-- The same where the cut is given. -/
theorem Run.of_append_cons {tr₁ tr₂ : List (Transition σ α)} {t : Transition σ α}
    (h : Run next s₀ (tr₁ ++ t :: tr₂) s) :
    Run next s₀ tr₁ t.pre ∧ next t.pre t.action = some t.post ∧ Run next t.post tr₂ s := by
  generalize he : tr₁ ++ t :: tr₂ = tr at h
  induction h generalizing tr₂ with
  | nil => simp at he
  | @snoc tr s s' a hrun hnext ih =>
    rcases List.eq_nil_or_concat' tr₂ with rfl | ⟨rest, last, rfl⟩
    · obtain ⟨rfl, ht⟩ := List.append_inj' he rfl
      obtain rfl := List.head_eq_of_cons_eq ht
      exact ⟨hrun, hnext, Run.nil⟩
    · rw [← List.cons_append, ← List.append_assoc] at he
      obtain ⟨htr, hlast⟩ := List.append_inj' he rfl
      obtain rfl := List.head_eq_of_cons_eq hlast
      obtain ⟨h₁, h₂, h₃⟩ := ih htr
      exact ⟨h₁, h₂, h₃.snoc hnext⟩

/-- What holds at the end of a run and not at its beginning was made true by one
    of its steps. `I` is what holds along the run anyway. -/
theorem Run.exists_transition {I P : σ → Prop} {Q : Transition σ α → Prop}
    (hI : ∀ s a s', I s → next s a = some s' → I s')
    (hP : ∀ s a s', I s → next s a = some s' → P s' → P s ∨ Q ⟨s, a, s'⟩)
    (hrun : Run next s₀ tr s) (h₀ : I s₀) (hP₀ : ¬ P s₀) (h : P s) : ∃ t ∈ tr, Q t := by
  induction hrun with
  | nil => exact absurd h hP₀
  | @snoc tr s s' a hrun hnext ih =>
    rcases hP s a s' (hrun.invariant hI h₀).1 hnext h with h | hQ
    · obtain ⟨t, ht, hQ⟩ := ih h
      exact ⟨t, List.mem_append_left _ ht, hQ⟩
    · exact ⟨_, List.mem_append_right _ (List.mem_singleton_self _), hQ⟩

/-- Every transition of a run is a step. -/
theorem Run.next_of_mem (h : Run next s₀ tr s) {t : Transition σ α} (ht : t ∈ tr) :
    next t.pre t.action = some t.post := by
  obtain ⟨-, -, -, -, hnext, -⟩ := h.split ht
  exact hnext

/-- What holds first and after each step holds before each step. -/
theorem Run.pre_of_post {P : σ → Prop} (h : Run next s₀ tr s) (h₀ : P s₀)
    (hpost : ∀ t ∈ tr, P t.post) {t : Transition σ α} (ht : t ∈ tr) : P t.pre := by
  have hend : ∀ {tr s}, Run next s₀ tr s → (∀ t ∈ tr, P t.post) → P s := by
    intro tr s hrun hpost
    cases hrun with
    | nil => exact h₀
    | snoc hrun hnext => exact hpost _ (List.mem_append_right _ (List.mem_singleton_self _))
  obtain ⟨tr₁, tr₂, rfl, hpre, -, -⟩ := h.split ht
  exact hend hpre fun t ht => hpost t (List.mem_append_left _ ht)

/-- Where a step keeps `P` exactly when it meets the guard `G`, `P` holds after
    every step of a run exactly when all its steps meet `G`. `I` is what holds
    along the run anyway. -/
theorem Run.forall_post_iff {I P : σ → Prop} {G : σ → α → Prop}
    (hI : ∀ s a s', I s → next s a = some s' → I s')
    (hP : ∀ s a s', I s → P s → next s a = some s' → (P s' ↔ G s a))
    (hrun : Run next s₀ tr s) (h₀ : I s₀) (hP₀ : P s₀) :
    (∀ t ∈ tr, P t.post) ↔ ∀ t ∈ tr, G t.pre t.action := by
  constructor
  · intro hpost t ht
    have hpre : I t.pre := ((hrun.invariant hI h₀).2 t ht).1
    exact (hP _ _ _ hpre (hrun.pre_of_post hP₀ hpost ht) (hrun.next_of_mem ht)).mp (hpost t ht)
  · intro hguard t ht
    have hstep : ∀ s a s', (I s ∧ P s) → G s a → next s a = some s' → I s' ∧ P s' :=
      fun s a s' h hG hnext => ⟨hI s a s' h.1 hnext, (hP s a s' h.1 h.2 hnext).mpr hG⟩
    exact ((hrun.invariant_of_guard hstep ⟨h₀, hP₀⟩ hguard).2 t ht).2.2

/-- `P` is made true by the transitions `Q` and by no others, and a step keeps it
    exactly when it meets the guard `G`. Then it stays true after every `Q` of a
    run exactly when all its steps meet `G` where `P` holds. `I` is what holds
    along the run anyway. -/
theorem Run.stays_iff {I P : σ → Prop} {Q : Transition σ α → Prop} {G : σ → α → Prop}
    (hI : ∀ s a s', I s → next s a = some s' → I s')
    (hmade : ∀ s a s', I s → next s a = some s' → P s' → P s ∨ Q ⟨s, a, s'⟩)
    (hQ : ∀ s a s', I s → next s a = some s' → Q ⟨s, a, s'⟩ → P s')
    (hkept : ∀ s a s', I s → P s → next s a = some s' → (P s' ↔ G s a))
    (hrun : Run next s₀ tr s) (h₀ : I s₀) (hP₀ : ¬ P s₀) :
    (∀ tr₁ t tr₂, tr = tr₁ ++ t :: tr₂ → Q t → ∀ t' ∈ tr₂, P t'.post) ↔
      ∀ t ∈ tr, P t.pre → G t.pre t.action := by
  have hall := (hrun.invariant hI h₀).2
  constructor
  · intro hstays t ht hpre
    obtain ⟨before, after, rfl, hbefore, hnext, -⟩ := hrun.split ht
    -- the state before `t` has `P` because of an earlier transition
    obtain ⟨r, hr, hQr⟩ := hbefore.exists_transition hI hmade h₀ hP₀ hpre
    obtain ⟨tr₁, tr₂, rfl⟩ := List.append_of_mem hr
    have hpost : P t.post := hstays tr₁ r (tr₂ ++ t :: after) (by simp) hQr t (by simp)
    exact (hkept _ _ _ (hall t ht).1 hpre hnext).mp hpost
  · rintro hguard tr₁ t tr₂ rfl hQt t' ht'
    obtain ⟨-, hnext, hrest⟩ := hrun.of_append_cons
    have ht : t ∈ tr₁ ++ t :: tr₂ := by simp
    have hstep : ∀ s a s', (I s ∧ P s) → (P s → G s a) → next s a = some s' → I s' ∧ P s' :=
      fun s a s' h hG hnext => ⟨hI s a s' h.1 hnext, (hkept s a s' h.1 h.2 hnext).mpr (hG h.2)⟩
    have hpost : I t.post ∧ P t.post := ⟨(hall t ht).2, hQ _ _ _ (hall t ht).1 hnext hQt⟩
    exact ((hrest.invariant_of_guard hstep hpost fun u hu => hguard u (by simp [hu])).2 t' ht').2.2

/-! ## What was set last -/

/-- The value that `g` gives for the last of the transitions that sets one, or
    the `first` one. -/
def lastValue {β : Type*} (g : Transition σ α → Option β) (first : β) (tr : List (Transition σ α)) :
    β :=
  tr.foldl (fun value t => (g t).getD value) first

@[simp] theorem lastValue_concat {β : Type*} {g : Transition σ α → Option β} {first : β}
    {t : Transition σ α} :
    lastValue g first (tr ++ [t]) = (g t).getD (lastValue g first tr) := by
  simp [lastValue]

/-- The transitions set what is read after them. Then in all states of a run what
    is read is what was set last, exactly when no other transition changes it. -/
theorem Run.follows_iff {β : Type*} {I : σ → Prop} {f : σ → β} {g : Transition σ α → Option β}
    (hI : ∀ s a s', I s → next s a = some s' → I s')
    (hset : ∀ s a s' b, I s → next s a = some s' → g ⟨s, a, s'⟩ = some b → f s' = b)
    (hrun : Run next s₀ tr s) (h₀ : I s₀) :
    (∀ tr₁ t tr₂, tr = tr₁ ++ t :: tr₂ → f t.post = lastValue g (f s₀) (tr₁ ++ [t])) ↔
      ∀ t ∈ tr, g t = none → f t.post = f t.pre := by
  have hkeeps : ∀ {tr s}, Run next s₀ tr s → (∀ t ∈ tr, g t = none → f t.post = f t.pre) →
      f s = lastValue g (f s₀) tr := by
    intro tr s hrun hkept
    induction hrun with
    | nil => rfl
    | @snoc tr s s' a hrun hnext ih =>
      rw [lastValue_concat]
      cases hg : g ⟨s, a, s'⟩ with
      | none =>
        rw [Option.getD_none, ← ih fun t ht => hkept t (List.mem_append_left _ ht)]
        exact hkept _ (List.mem_append_right _ (List.mem_singleton_self _)) hg
      | some b => exact hset s a s' b (hrun.invariant hI h₀).1 hnext hg
  constructor
  · intro hfollows t ht hnone
    obtain ⟨tr₁, tr₂, rfl, hpre, -, -⟩ := hrun.split ht
    rw [hfollows tr₁ t tr₂ rfl, lastValue_concat, hnone, Option.getD_none]
    cases hpre with
    | nil => rfl
    | @snoc tr₀ s₁ _ a _ _ =>
      exact (hfollows tr₀ ⟨s₁, a, t.pre⟩ (t :: tr₂) (by simp)).symm
  · rintro hkept tr₁ t tr₂ rfl
    obtain ⟨hpre, hnext, -⟩ := hrun.of_append_cons
    refine hkeeps (hpre.snoc hnext) fun u hu => hkept u ?_
    rw [List.append_cons]
    exact List.mem_append_left _ hu

/-! ## Evaluating a list of actions -/

/-- The transitions and the last state of performing `as` one after another. -/
def exec (next : σ → α → Option σ) : σ → List α → Option (List (Transition σ α) × σ)
  | s, [] => some ([], s)
  | s, a :: as => (next s a).bind fun s' => (exec next s' as).map fun r => (⟨s, a, s'⟩ :: r.1, r.2)

theorem run_of_exec {as : List α} (h : exec next s₀ as = some (tr, s)) : Run next s₀ tr s := by
  induction as generalizing s₀ tr with
  | nil =>
    obtain ⟨rfl, rfl⟩ := Prod.mk.inj (Option.some.inj h)
    exact Run.nil
  | cons a as ih =>
    obtain ⟨s₁, hnext, h⟩ := Option.bind_eq_some_iff.mp h
    obtain ⟨⟨tr₁, s₂⟩, hexec, h⟩ := Option.map_eq_some_iff.mp h
    obtain ⟨rfl, rfl⟩ := Prod.mk.inj h
    exact Run.cons hnext (ih hexec)

/-- Evaluating a list of actions and testing the result. -/
theorem exists_of_any_exec {p : List (Transition σ α) → σ → Prop} [∀ tr s, Decidable (p tr s)]
    {as : List α} (h : (exec next s₀ as).any (fun r => p r.1 r.2) = true) :
    ∃ tr s, exec next s₀ as = some (tr, s) ∧ p tr s := by
  cases hexec : exec next s₀ as with
  | none => simp [hexec] at h
  | some r =>
    rw [hexec, Option.any_some] at h
    exact ⟨r.1, r.2, rfl, of_decide_eq_true h⟩

/-- Two entries of a list, the first where the list is cut. -/
theorem exists_split_of_getElem {β : Type*} {l : List β} {i j : ℕ} {a b : β} (hij : i < j)
    (hi : l[i]? = some a) (hj : l[j]? = some b) : ∃ l₁ l₂, l = l₁ ++ a :: l₂ ∧ b ∈ l₂ := by
  obtain ⟨hlt, rfl⟩ := List.getElem?_eq_some_iff.mp hi
  refine ⟨l.take i, l.drop (i + 1), ?_, ?_⟩
  · rw [← List.drop_eq_getElem_cons hlt, List.take_append_drop]
  · refine List.mem_of_getElem? (i := j - (i + 1)) ?_
    rw [List.getElem?_drop, show i + 1 + (j - (i + 1)) = j by omega, hj]

end KomiSaas.Lib
