import Mathlib.Data.List.Perm.Basic
import Mathlib.Tactic.Common

/-!
This module contains what is in a list of parties after one more has joined at its end, or one of them
has moved on to another state.
-/

namespace TomNotifier

open scoped List

variable {α β : Type} {l : List α} {k : Nat} {a a' : α}

theorem exists_set_eq (h : l[k]? = some a)
    : ∃ before after, l = before ++ a :: after ∧ ∀ a', l.set k a' = before ++ a' :: after := by
  rcases List.getElem?_eq_some_iff.mp h with ⟨hk, rfl⟩
  refine ⟨l.take k, l.drop (k + 1), ?_, ?_⟩
  . rw [List.getElem_cons_drop, List.take_append_drop]
  . intro a'
    rw [List.set_eq_take_append_cons_drop, if_pos hk]

theorem getElem?_set_cases {i : Nat} {c : α} (h : (l.set k a')[i]? = some c)
    : i = k ∧ c = a' ∨ i ≠ k ∧ l[i]? = some c := by
  rw [List.getElem?_set] at h
  split at h
  . next heq =>
    split at h
    . exact Or.inl ⟨heq.symm, (Option.some.inj h).symm⟩
    . contradiction
  . next hne => exact Or.inr ⟨Ne.symm hne, h⟩

theorem getElem?_append_singleton_cases {i : Nat} {c : α} (h : (l ++ [a])[i]? = some c)
    : l[i]? = some c ∨ (i = l.length ∧ c = a) := by
  rw [List.getElem?_append] at h
  split at h
  . exact .inl h
  . rw [List.getElem?_singleton, Option.ite_none_right_eq_some, Option.some.injEq] at h
    exact .inr ⟨by omega, h.2.symm⟩

theorem map_set_of_eq {f : α → β} (h : l[k]? = some a) (hf : f a' = f a)
    : (l.set k a').map f = l.map f := by
  rcases exists_set_eq h with ⟨before, after, hl, hset⟩
  rw [hset, hl]
  simp [hf]

theorem filterMap_set_of_eq {f : α → Option β} (h : l[k]? = some a) (hf : f a' = f a)
    : (l.set k a').filterMap f = l.filterMap f := by
  rcases exists_set_eq h with ⟨before, after, hl, hset⟩
  rw [hset, hl]
  simp only [List.filterMap_append, List.filterMap_cons, hf]

theorem filterMap_set_perm (f : α → Option β) (h : l[k]? = some a) (a' : α)
    : ((f a').toList ++ l.filterMap f).Perm ((f a).toList ++ (l.set k a').filterMap f) := by
  rcases exists_set_eq h with ⟨before, after, hl, hset⟩
  have hcons : ∀ a, (before ++ a :: after).filterMap f
      = before.filterMap f ++ ((f a).toList ++ after.filterMap f) := by
    intro a
    rw [List.filterMap_append, List.filterMap_cons]
    cases f a <;> rfl
  rw [hset, hl, hcons, hcons]
  calc
    _ ~ (f a').toList ++ ((f a).toList ++ (before.filterMap f ++ after.filterMap f)) :=
      (List.perm_append_comm_assoc _ _ _).append_left _
    _ ~ (f a).toList ++ ((f a').toList ++ (before.filterMap f ++ after.filterMap f)) :=
      List.perm_append_comm_assoc _ _ _
    _ ~ _ := (List.perm_append_comm_assoc _ _ _).append_left _

end TomNotifier
