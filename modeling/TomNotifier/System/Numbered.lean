import Mathlib.Data.List.Basic

/-!
This module contains lists of numbered elements in increasing order, on which a loop from the front
and a search for one number select by the number alone.
-/

namespace Numbered

universe u

variable {X : Type u} {l : List (Nat × X)} {a : Nat × X} {n : Nat}

def Ordered (l : List (Nat × X)) : Prop := l.Pairwise (fun a b => a.1 < b.1)

theorem ordered_nil : Ordered ([] : List (Nat × X)) := by
  exact List.Pairwise.nil

theorem ordered_cons_iff : Ordered (a :: l) ↔ (∀ b ∈ l, a.1 < b.1) ∧ Ordered l := by
  exact List.pairwise_cons

theorem ordered_append_singleton_iff
    : Ordered (l ++ [a]) ↔ Ordered l ∧ ∀ b ∈ l, b.1 < a.1 := by
  simp [Ordered, List.pairwise_append]

theorem Ordered.filter {p : Nat × X → Bool} (h : Ordered l) : Ordered (l.filter p) := by
  exact List.Pairwise.filter p h

-- Behind an element there are greater numbers only, so a filter takes all of them or none.
theorem Ordered.filter_tail_eq_nil {p : Nat → Bool} (h : Ordered (a :: l))
    (hp : ∀ k, a.1 < k → p k = false) : l.filter (fun b => p b.1) = [] := by
  rw [ordered_cons_iff] at h
  rw [List.filter_eq_nil_iff]
  intro b hb
  simp [hp b.1 (h.1 b hb)]

theorem Ordered.filter_tail_eq_self {p : Nat → Bool} (h : Ordered (a :: l))
    (hp : ∀ k, a.1 < k → p k = true) : l.filter (fun b => p b.1) = l := by
  rw [ordered_cons_iff] at h
  rw [List.filter_eq_self]
  intro b hb
  exact hp b.1 (h.1 b hb)

theorem takeWhile_le_eq_filter (h : Ordered l)
    : l.takeWhile (fun a => a.1 ≤ n) = l.filter (fun a => a.1 ≤ n) := by
  induction l with
  | nil => rfl
  | cons a l ih =>
    by_cases ha : a.1 ≤ n
    . simp [ha, ih (ordered_cons_iff.mp h).2]
    . have hnil : l.filter (fun a => a.1 ≤ n) = [] := by
        apply h.filter_tail_eq_nil (p := fun k => k ≤ n)
        intro k hk
        simp only [decide_eq_false_iff_not]
        omega
      simp [ha, hnil]

theorem dropWhile_le_eq_filter (h : Ordered l)
    : l.dropWhile (fun a => a.1 ≤ n) = l.filter (fun a => !decide (a.1 ≤ n)) := by
  induction l with
  | nil => rfl
  | cons a l ih =>
    by_cases ha : a.1 ≤ n
    . simpa [ha] using ih (ordered_cons_iff.mp h).2
    . have hall : l.filter (fun a => !decide (a.1 ≤ n)) = l := by
        apply h.filter_tail_eq_self (p := fun k => !decide (k ≤ n))
        intro k hk
        simp only [Bool.not_eq_true', decide_eq_false_iff_not]
        omega
      rw [List.dropWhile_cons_of_neg (by simpa using ha), List.filter_cons_of_pos (by simpa using ha),
        hall]

theorem find?_eq_filter (h : Ordered l)
    : (l.find? (fun a => a.1 = n)).toList = l.filter (fun a => a.1 = n) := by
  induction l with
  | nil => rfl
  | cons a l ih =>
    by_cases ha : a.1 = n
    . have hnil : l.filter (fun a => a.1 = n) = [] := by
        apply h.filter_tail_eq_nil (p := fun k => k = n)
        intro k hk
        simp only [decide_eq_false_iff_not]
        omega
      simp [ha, hnil]
    . simpa [ha] using ih (ordered_cons_iff.mp h).2

theorem eraseP_eq_filter (h : Ordered l)
    : l.eraseP (fun a => a.1 = n) = l.filter (fun a => !decide (a.1 = n)) := by
  induction l with
  | nil => rfl
  | cons a l ih =>
    by_cases ha : a.1 = n
    . have hall : l.filter (fun a => !decide (a.1 = n)) = l := by
        apply h.filter_tail_eq_self (p := fun k => !decide (k = n))
        intro k hk
        simp only [Bool.not_eq_true', decide_eq_false_iff_not]
        omega
      simp [ha, hall]
    . simpa [ha] using ih (ordered_cons_iff.mp h).2

end Numbered
