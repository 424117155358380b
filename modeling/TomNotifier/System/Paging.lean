import Mathlib.Data.List.Nodup
import Mathlib.Tactic.Common

/-!
This module contains the pages of a list: its consecutive cuts of one size, counted from 0.
-/

namespace Paging

universe u

variable {α : Type u}

def page (size idx : Nat) (xs : List α) : List α := (xs.drop (idx * size)).take size

section

variable {size idx idx' i : Nat} {xs : List α} {x : α}

theorem length_page_le : (page size idx xs).length ≤ size := by
  exact List.length_take_le _ _

theorem getElem?_page (h : i < size) : (page size idx xs)[i]? = xs[idx * size + i]? := by
  rw [page, List.getElem?_take_of_lt h, List.getElem?_drop]

theorem mem_page_iff : x ∈ page size idx xs
    ↔ ∃ i, idx * size ≤ i ∧ i < (idx + 1) * size ∧ xs[i]? = some x := by
  rw [List.mem_iff_getElem?]
  constructor
  . rintro ⟨i, hi⟩
    have hlt : i < size := by
      have hlength := (List.getElem?_eq_some_iff.mp hi).1
      exact Nat.lt_of_lt_of_le hlength length_page_le
    rw [getElem?_page hlt] at hi
    refine ⟨idx * size + i, Nat.le_add_right _ _, ?_, hi⟩
    rw [Nat.succ_mul]
    omega
  . rintro ⟨i, hle, hlt, hi⟩
    rw [Nat.succ_mul] at hlt
    refine ⟨i - idx * size, ?_⟩
    rw [getElem?_page (by omega)]
    rwa [Nat.add_sub_cancel' hle]

theorem getElem_mem_page (hsize : size ≠ 0) (hi : i < xs.length)
    : xs[i] ∈ page size (i / size) xs := by
  rw [mem_page_iff]
  refine ⟨i, Nat.div_mul_le_self i size, ?_, List.getElem?_eq_getElem hi⟩
  rw [Nat.mul_comm]
  exact Nat.lt_mul_div_succ i (Nat.pos_of_ne_zero hsize)

theorem disjoint_page (hnodup : xs.Nodup) (hne : idx ≠ idx')
    : (page size idx xs).Disjoint (page size idx' xs) := by
  intro x hx hx'
  rcases mem_page_iff.mp hx with ⟨i, hle, hlt, hi⟩
  rcases mem_page_iff.mp hx' with ⟨i', hle', hlt', hi'⟩
  rcases List.getElem?_eq_some_iff.mp hi with ⟨hlength, hget⟩
  have heq : i = i' := (List.getElem?_inj hlength hnodup).mp (hi.trans hi'.symm)
  subst heq
  rcases Nat.lt_or_gt_of_ne hne with h | h
  . have hmul : (idx + 1) * size ≤ idx' * size := Nat.mul_le_mul_right size h
    omega
  . have hmul : (idx' + 1) * size ≤ idx * size := Nat.mul_le_mul_right size h
    omega

/--
A cut that starts too early is the page only where there is nothing left to cut.
-/
theorem take_drop_eq_page_iff {skip : Nat} (hnodup : xs.Nodup) (hsize : size ≠ 0)
    (hskip : skip ≤ idx * size)
    : (xs.drop skip).take size = page size idx xs ↔ skip = idx * size ∨ xs.length ≤ skip := by
  constructor
  . intro heq
    by_contra hnot
    rw [not_or, Nat.not_le] at hnot
    have hget : xs[skip]? = xs[idx * size]? := by
      have := congrArg (·[0]?) heq
      have hpos := Nat.pos_of_ne_zero hsize
      simpa [page, List.getElem?_take_of_lt hpos] using this
    exact hnot.1 ((List.getElem?_inj hnot.2 hnodup).mp hget)
  . intro h
    cases h with
    | inl heq => rw [heq, page]
    | inr hle =>
      rw [page, List.drop_of_length_le hle, List.drop_of_length_le (Nat.le_trans hle hskip)]

theorem drop_eq_page_append : xs.drop (idx * size) = page size idx xs ++ xs.drop ((idx + 1) * size) := by
  rw [page, Nat.succ_mul, ← List.drop_drop, List.take_append_drop]

theorem drop_eq_nil_of_length_page_lt (hlast : (page size idx xs).length < size)
    : xs.drop ((idx + 1) * size) = [] := by
  rw [List.drop_eq_nil_iff, Nat.succ_mul]
  rw [page, List.length_take, List.length_drop] at hlast
  omega

theorem flatMap_page (size : Nat) (xs : List α) (last : Nat)
    : xs = (List.range last).flatMap (fun idx => page size idx xs) ++ xs.drop (last * size) := by
  induction last with
  | zero => simp
  | succ last ih =>
    rw [List.range_succ, List.flatMap_append, List.flatMap_singleton, List.append_assoc,
      ← drop_eq_page_append]
    exact ih

/--
Of a list that grows while its pages are looked at one after another, nothing that was there from the
start is missed until a page is not full.
-/
theorem exists_mem_page_of_sublist {xss : Nat → List α} {last : Nat}
    (hgrows : ∀ idx, idx < last → (xss idx).Sublist (xss (idx + 1)))
    (hlast : (page size last (xss last)).length < size)
    : ∀ x ∈ xss 0, ∃ idx, idx ≤ last ∧ x ∈ page size idx (xss idx) := by
  intro x hx
  have hahead : ∀ idx, idx ≤ last →
      (∃ idx', idx' ≤ idx ∧ x ∈ page size idx' (xss idx')) ∨ x ∈ (xss idx).drop ((idx + 1) * size) := by
    intro idx
    induction idx with
    | zero =>
      intro _
      have hzero : x ∈ (xss 0).drop (0 * size) := by
        simpa using hx
      rw [drop_eq_page_append, List.mem_append] at hzero
      exact hzero.imp (fun hpage => ⟨0, Nat.le_refl 0, hpage⟩) id
    | succ idx ih =>
      intro hle
      rcases ih (Nat.le_of_succ_le hle) with ⟨idx', hidx', hpage⟩ | hdrop
      . exact .inl ⟨idx', Nat.le_succ_of_le hidx', hpage⟩
      . -- What is ahead stays ahead, others may have got in before it.
        have hnext := ((hgrows idx hle).drop ((idx + 1) * size)).mem hdrop
        rw [drop_eq_page_append, List.mem_append] at hnext
        exact hnext.imp (fun hpage => ⟨idx + 1, Nat.le_refl _, hpage⟩) id
  rcases hahead last (Nat.le_refl last) with hpage | hdrop
  . exact hpage
  . rw [drop_eq_nil_of_length_page_lt hlast] at hdrop
    contradiction

end

end Paging
