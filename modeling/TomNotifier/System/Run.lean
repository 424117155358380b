import Mathlib.Data.List.Induction

/-!
This module contains executable transition systems: a step function that takes a state and a label
and either refuses the label or returns the next state. All the nondeterminism of a system
(scheduling, failures, clock readings) lives in the labels, so a run is a list of labels.
-/

namespace System

universe u v

variable {σ : Type u} {α : Type v}

/--
Execute the labels of a run one after another, `none` as soon as one of them is refused.
-/
def run (step : σ → α → Option σ) (s : σ) : List α → Option σ
  | [] => some s
  | a :: as =>
    match step s a with
    | none => none
    | some s' => run step s' as

/-- Every step of the run is taken in a state that meets the condition. -/
def Along (step : σ → α → Option σ) (C : σ → α → Prop) (s : σ) : List α → Prop
  | [] => True
  | a :: as => C s a ∧ ∀ s', step s a = some s' → Along step C s' as

instance Along.decidable {step : σ → α → Option σ} {C : σ → α → Prop} [∀ s a, Decidable (C s a)]
    : (s : σ) → (as : List α) → Decidable (Along step C s as)
  | _, [] => isTrue trivial
  | s, a :: as =>
    match h : step s a with
    | none => decidable_of_iff (C s a) (by simp [Along, h])
    | some s' =>
      have : Decidable (Along step C s' as) := Along.decidable s' as
      decidable_of_iff (C s a ∧ Along step C s' as) (by simp [Along, h])

section

variable {step : σ → α → Option σ} {s s' s'' : σ} {a : α} {as bs : List α}

@[simp]
theorem run_nil : run step s [] = some s := by
  rfl

@[simp]
theorem run_cons_eq_some
    : run step s (a :: as) = some s'' ↔ ∃ s', step s a = some s' ∧ run step s' as = some s'' := by
  rw [run]
  cases step s a with
  | none => simp
  | some s' => simp

theorem run_append_eq_some
    : run step s (as ++ bs) = some s''
        ↔
      ∃ s', run step s as = some s' ∧ run step s' bs = some s'' := by
  induction as generalizing s with
  | nil => simp
  | cons a as ih =>
    simp only [List.cons_append, run_cons_eq_some, ih]
    constructor
    . rintro ⟨t, hstep, t', hrun, hrun'⟩
      exact ⟨t', ⟨t, hstep, hrun⟩, hrun'⟩
    . rintro ⟨t', ⟨t, hstep, hrun⟩, hrun'⟩
      exact ⟨t, hstep, t', hrun, hrun'⟩

theorem run_invariant {P : σ → Prop} (hstep : ∀ s a s', P s → step s a = some s' → P s')
    (hs : P s) (hrun : run step s as = some s') : P s' := by
  induction as generalizing s with
  | nil =>
    simp only [run_nil, Option.some.injEq] at hrun
    rwa [← hrun]
  | cons a as ih =>
    rw [run_cons_eq_some] at hrun
    rcases hrun with ⟨t, ht, hrun⟩
    exact ih (hstep s a t hs ht) hrun

theorem run_invariant_along {P : σ → Prop} {C : σ → α → Prop}
    (hstep : ∀ s a s', P s → C s a → step s a = some s' → P s') (hs : P s)
    (hC : Along step C s as) (hrun : run step s as = some s') : P s' := by
  induction as generalizing s with
  | nil =>
    simp only [run_nil, Option.some.injEq] at hrun
    rwa [← hrun]
  | cons a as ih =>
    rw [run_cons_eq_some] at hrun
    rcases hrun with ⟨t, ht, hrun⟩
    exact ih (hstep s a t hs hC.1 ht) (hC.2 t ht) hrun

theorem Along.imp {C C' : σ → α → Prop} (himp : ∀ s a, C s a → C' s a) (h : Along step C s as)
    : Along step C' s as := by
  induction as generalizing s with
  | nil => trivial
  | cons a as ih => exact ⟨himp s a h.1, fun s' hs' => ih (h.2 s' hs')⟩

theorem along_append_singleton {C : σ → α → Prop}
    : Along step C s (as ++ [a]) ↔ Along step C s as ∧ ∀ s', run step s as = some s' → C s' a := by
  induction as generalizing s with
  | nil => simp [Along]
  | cons b as ih =>
    simp only [List.cons_append, Along, ih, run_cons_eq_some]
    constructor
    . rintro ⟨hb, h⟩
      refine ⟨⟨hb, fun t ht => (h t ht).1⟩, ?_⟩
      rintro s' ⟨t, ht, hrun⟩
      exact (h t ht).2 s' hrun
    . rintro ⟨⟨hb, h⟩, ha⟩
      exact ⟨hb, fun t ht => ⟨h t ht, fun s' hrun => ha s' ⟨t, ht, hrun⟩⟩⟩

/--
The invariant rule for properties of a state and the labels that led to it.
-/
theorem run_induction {P : List α → σ → Prop} (hnil : P [] s)
    (hsnoc : ∀ as a t t', run step s as = some t → P as t → step t a = some t' →
      P (as ++ [a]) t')
    (hrun : run step s as = some s') : P as s' := by
  induction as using List.reverseRecOn generalizing s' with
  | nil =>
    simp only [run_nil, Option.some.injEq] at hrun
    rwa [← hrun]
  | append_singleton as a ih =>
    rw [run_append_eq_some] at hrun
    rcases hrun with ⟨t, hrun, hstep⟩
    simp only [run_cons_eq_some, run_nil, Option.some.injEq, exists_eq_right] at hstep
    exact hsnoc as a t s' hrun (ih hrun) hstep

theorem run_rel {R : σ → σ → Prop} (hrefl : ∀ s, R s s)
    (htrans : ∀ s t u, R s t → R t u → R s u) (hstep : ∀ s a s', step s a = some s' → R s s')
    (hrun : run step s as = some s') : R s s' := by
  apply run_invariant (P := R s) _ (hrefl s) hrun
  intro t a t' ht hstep'
  exact htrans s t t' ht (hstep t a t' hstep')

end

end System
