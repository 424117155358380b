import Mathlib.Order.BoundedOrder.Basic
import Mathlib.Order.WellFounded
import TomNotifier.System.Run

/-!
This module contains what a system comes to when it is left to labels of one kind, for example to those
that stand for a call that succeeds. Every one of them that is taken brings the system nearer to a state
in which there is none left to take.
-/

namespace System

universe u v w

variable {σ : Type u} {α : Type v} {μ : Type w}

/-- No label that meets the condition can be taken. -/
def Quiescent (step : σ → α → Option σ) (C : σ → α → Prop) (s : σ) : Prop :=
  ∀ a, C s a → step s a = none

/--
The states the system goes through when only labels that meet the condition are taken, for as long as
there is one. They may be chosen among in any way.
-/
def Path (step : σ → α → Option σ) (C : σ → α → Prop) (path : Nat → σ) : Prop :=
  ∀ k, (∃ a, C (path k) a ∧ step (path k) a = some (path (k + 1)))
    ∨ (Quiescent step C (path k) ∧ path (k + 1) = path k)

/-- The states of a path with the labels that are taken from one to the next. -/
def LabelledPath (step : σ → α → Option σ) (C : σ → α → Prop) (path : Nat → σ)
    (labels : Nat → Option α) : Prop :=
  ∀ k, match labels k with
    | some a => C (path k) a ∧ step (path k) a = some (path (k + 1))
    | none => Quiescent step C (path k) ∧ path (k + 1) = path k

/-- Every label that meets the condition keeps the invariant and lowers the measure. -/
structure Progress (step : σ → α → Option σ) (C : σ → α → Prop) (P : σ → Prop) [LT μ]
    (measure : σ → μ) : Prop where
  invariant : ∀ s a s', P s → C s a → step s a = some s' → P s'
  lowers : ∀ s a s', P s → C s a → step s a = some s' → measure s' < measure s

variable {step : σ → α → Option σ} {C : σ → α → Prop} {P G : σ → Prop} {path : Nat → σ}
variable {labels : Nat → Option α} {s s' : σ} {as : List α}

theorem Path.invariant (h : Path step C path)
    (hstep : ∀ s a s', P s → C s a → step s a = some s' → P s') (hstart : P (path 0))
    : ∀ k, P (path k) := by
  intro k
  induction k with
  | zero => exact hstart
  | succ k ih =>
    rcases h k with ⟨a, hC, ha⟩ | ⟨_, hsame⟩
    . exact hstep _ a _ ih hC ha
    . exact hsame ▸ ih

theorem Path.eq_of_quiescent (h : Path step C path) {k : Nat} (hk : Quiescent step C (path k))
    : ∀ j, path (k + j) = path k := by
  intro j
  induction j with
  | zero => rfl
  | succ j ih =>
    rcases h (k + j) with ⟨a, hC, ha⟩ | ⟨_, hsame⟩
    . rw [ih] at hC ha
      simp [hk a hC] at ha
    . exact hsame.trans ih

theorem Path.exists_quiescent [LT μ] [WellFoundedLT μ] {measure : σ → μ} (h : Path step C path)
    (hprogress : Progress step C P measure) (hstart : P (path 0))
    : ∃ k, Quiescent step C (path k) := by
  have hinvariant := h.invariant hprogress.invariant hstart
  have hfrom : ∀ m k, measure (path k) = m → ∃ k, Quiescent step C (path k) := by
    intro m
    induction m using WellFoundedLT.induction with
    | _ m ih =>
      intro k hm
      rcases h k with ⟨a, hC, ha⟩ | ⟨hquiescent, _⟩
      . exact ih _ (hm ▸ hprogress.lowers _ a _ (hinvariant k) hC ha) (k + 1) rfl
      . exact ⟨k, hquiescent⟩
  exact hfrom _ 0 rfl

/-- What holds wherever the system can come to rest holds from some time on. -/
theorem Progress.eventually [LT μ] [WellFoundedLT μ] {measure : σ → μ}
    (hprogress : Progress step C P measure) (hrest : ∀ s, P s → Quiescent step C s → G s)
    (h : Path step C path) (hstart : P (path 0)) : ∃ k, ∀ j, k ≤ j → G (path j) := by
  rcases h.exists_quiescent hprogress hstart with ⟨k, hquiescent⟩
  refine ⟨k, ?_⟩
  intro j hj
  have hsame := h.eq_of_quiescent hquiescent (j - k)
  rw [Nat.add_sub_cancel' hj] at hsame
  rw [hsame]
  exact hrest _ (h.invariant hprogress.invariant hstart k) hquiescent

open Classical in
theorem exists_path (step : σ → α → Option σ) (C : σ → α → Prop) (s : σ)
    : ∃ path, path 0 = s ∧ Path step C path := by
  let next : σ → σ := fun s =>
    if h : ∃ s', ∃ a, C s a ∧ step s a = some s' then h.choose else s
  refine ⟨fun k => next^[k] s, rfl, ?_⟩
  intro k
  dsimp only
  rw [Function.iterate_succ_apply']
  generalize next^[k] s = t
  by_cases h : ∃ t', ∃ a, C t a ∧ step t a = some t'
  . refine .inl ?_
    simp only [next, dif_pos h]
    exact h.choose_spec
  . refine .inr ⟨?_, dif_neg h⟩
    intro a hC
    rw [Option.eq_none_iff_forall_not_mem]
    intro t' ht'
    exact h ⟨t', a, hC, ht'⟩

theorem LabelledPath.toPath (h : LabelledPath step C path labels) : Path step C path := by
  intro k
  have hk := h k
  cases hlabel : labels k with
  | none =>
    rw [hlabel] at hk
    exact .inr hk
  | some a =>
    rw [hlabel] at hk
    exact .inl ⟨a, hk⟩

/-- The labels of a run followed by those of a path are a run to where the path has got. -/
theorem LabelledPath.run (h : LabelledPath step C path labels)
    (hrun : System.run step s as = some (path 0)) (j : Nat)
    : System.run step s (as ++ (List.range j).filterMap labels) = some (path j) := by
  induction j with
  | zero => simpa using hrun
  | succ j ih =>
    rw [List.range_succ, List.filterMap_append, ← List.append_assoc, run_append_eq_some]
    refine ⟨path j, ih, ?_⟩
    have hj := h j
    cases hlabel : labels j with
    | none =>
      rw [hlabel] at hj
      simp [hlabel, hj.2]
    | some a =>
      rw [hlabel] at hj
      simp [hlabel, hj.2]

/-- A run of such labels to a state without any is a path. -/
theorem exists_labelledPath (hrun : System.run step s as = some s') (hC : Along step C s as)
    (hquiescent : Quiescent step C s')
    : ∃ path, path 0 = s ∧ LabelledPath step C path (as[·]?) ∧ ∀ j, as.length ≤ j → path j = s' := by
  induction as generalizing s with
  | nil =>
    rw [run_nil, Option.some.injEq] at hrun
    subst hrun
    refine ⟨fun _ => s, rfl, ?_, fun _ _ => rfl⟩
    intro k
    exact ⟨hquiescent, rfl⟩
  | cons a as ih =>
    rcases run_cons_eq_some.mp hrun with ⟨t, ht, hrun⟩
    rcases ih hrun (hC.2 t ht) with ⟨path, hstart, hpath, hend⟩
    refine ⟨fun k => k.casesOn s path, rfl, ?_, ?_⟩
    . intro k
      cases k with
      | zero =>
        refine ⟨hC.1, ?_⟩
        dsimp only
        rw [hstart]
        exact ht
      | succ k => exact hpath k
    . intro j hj
      cases j with
      | zero => contradiction
      | succ j => exact hend j (Nat.le_of_succ_le_succ hj)

theorem Progress.quiescent [Preorder μ] [OrderBot μ] {measure : σ → μ}
    (hprogress : Progress step C P measure) (hP : P s) (hmeasure : measure s = ⊥)
    : Quiescent step C s := by
  intro a hC
  rw [Option.eq_none_iff_forall_not_mem]
  intro s' hs'
  have hlt := hprogress.lowers s a s' hP hC hs'
  rw [hmeasure] at hlt
  exact not_lt_bot hlt

/-- A run of such labels to where the measure cannot be lowered is a path. -/
theorem Progress.exists_labelledPath [Preorder μ] [OrderBot μ] {measure : σ → μ}
    (hprogress : Progress step C P measure) (hstart : P s) (hrun : System.run step s as = some s')
    (hC : Along step C s as) (hmeasure : measure s' = ⊥)
    : ∃ path, path 0 = s ∧ LabelledPath step C path (as[·]?) ∧ ∀ j, as.length ≤ j → path j = s' := by
  apply System.exists_labelledPath hrun hC
  apply hprogress.quiescent _ hmeasure
  exact run_invariant_along hprogress.invariant hstart hC hrun

end System
