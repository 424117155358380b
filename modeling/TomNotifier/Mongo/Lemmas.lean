import TomNotifier.Mongo.Basic
import Mathlib.Data.List.Sort
import Mathlib.Data.List.Nodup

/-!
This module contains what the operations of a collection do to its documents and counters.
-/

namespace Mongo

universe u v w

variable {D : Type u} {E : Type v} {α : Type w}

namespace Query

variable {d : D}

@[simp]
theorem and_nil : and [] d = true := by
  rfl

@[simp]
theorem and_cons (q : Query D) (qs : List (Query D)) : and (q :: qs) d = (q d && and qs d) := by
  rfl

@[simp]
theorem or_nil : or [] d = false := by
  rfl

@[simp]
theorem or_cons (q : Query D) (qs : List (Query D)) : or (q :: qs) d = (q d || or qs d) := by
  rfl

@[simp]
theorem not_apply (q : Query D) : not q d = !q d := by
  rfl

@[simp]
theorem eq_apply [DecidableEq α] (field : D → α) (value : α)
    : eq field value d = decide (field d = value) := by
  rfl

@[simp]
theorem mem_apply [DecidableEq α] (field : D → α) (values : List α)
    : mem field values d = decide (field d ∈ values) := by
  rfl

@[simp]
theorem contains_apply [DecidableEq α] (field : D → List α) (value : α)
    : contains field value d = decide (value ∈ field d) := by
  rfl

@[simp]
theorem size_apply (field : D → List α) (n : Nat)
    : size field n d = decide ((field d).length = n) := by
  rfl

@[simp]
theorem isNull_apply (field : D → Option α) : isNull field d = (field d).isNone := by
  rfl

@[simp]
theorem gt_apply [LT α] [DecidableLT α] (field : D → Option α) (value : α)
    : gt field value d = (field d).any (fun x => decide (value < x)) := by
  rfl

@[simp]
theorem elemMatch_apply (field : D → List E) (q : Query E)
    : elemMatch field q d = (field d).any q := by
  rfl

end Query

section UpdateFirst

variable {q : Query E} {f : E → E} {es : List E}

theorem map_updateFirst {key : E → α} (h : ∀ e ∈ es, key (f e) = key e)
    : (updateFirst q f es).map key = es.map key := by
  induction es with
  | nil => rfl
  | cons e es ih =>
    simp only [updateFirst]
    split
    . simp [h e (by simp)]
    . simp only [List.map_cons, List.cons.injEq, true_and]
      apply ih
      intro e' he'
      exact h e' (by simp [he'])

theorem filter_updateFirst {p : E → Bool} (h : ∀ e ∈ es, q e = true → p e = false ∧ p (f e) = false)
    : (updateFirst q f es).filter p = es.filter p := by
  induction es with
  | nil => rfl
  | cons e es ih =>
    simp only [updateFirst]
    split
    . next hq =>
      have := h e (by simp) hq
      simp [this]
    . rw [List.filter_cons, List.filter_cons, ih]
      intro e' he'
      exact h e' (by simp [he'])

theorem mem_updateFirst {e : E} (h : e ∈ updateFirst q f es)
    : e ∈ es ∨ ∃ e' ∈ es, q e' = true ∧ e = f e' := by
  induction es with
  | nil => simp [updateFirst] at h
  | cons e' es ih =>
    simp only [updateFirst] at h
    split at h
    . next hq =>
      rcases List.mem_cons.mp h with rfl | h
      . exact Or.inr ⟨e', by simp, hq, rfl⟩
      . exact Or.inl (by simp [h])
    . rcases List.mem_cons.mp h with rfl | h
      . exact Or.inl (by simp)
      . rcases ih h with h | ⟨e'', he'', hq, rfl⟩
        . exact Or.inl (by simp [h])
        . exact Or.inr ⟨e'', by simp [he''], hq, rfl⟩

theorem updateFirst_eq_self_iff : updateFirst q f es = es ↔ ∀ e, es.find? q = some e → f e = e := by
  induction es with
  | nil => simp [updateFirst]
  | cons e es ih =>
    simp only [updateFirst, List.find?_cons]
    split
    . next hq => simp [hq]
    . next hq => simpa [hq] using ih

/--
Looking up the element the update is about finds its updated form, for any lookup `p` that the
update does not disturb and that can only find what the update is about.
-/
theorem find?_updateFirst {p : E → Bool} (hf : ∀ e ∈ es, p (f e) = p e)
    (hq : ∀ e, es.find? p = some e → q e = true) (hpq : ∀ e ∈ es, q e = true → p e = true)
    : (updateFirst q f es).find? p = (es.find? p).map f := by
  induction es with
  | nil => rfl
  | cons e es ih =>
    simp only [updateFirst, List.find?_cons]
    split
    . next hqe =>
      have hpe := hpq e (by simp) hqe
      simp [hf e (by simp), hpe]
    . next hqe =>
      have hpe : p e = false := by
        cases hpe : p e with
        | false => rfl
        | true =>
          have := hq e (by simp [hpe])
          contradiction
      simp only [List.find?_cons, hpe]
      apply ih
      . intro e' he'
        exact hf e' (by simp [he'])
      . intro e' he'
        apply hq e'
        simp [hpe, he']
      . intro e' he'
        exact hpq e' (by simp [he'])

theorem find?_updateFirst_of_disjoint {p : E → Bool}
    (h : ∀ e ∈ es, q e = true → p e = false ∧ p (f e) = false)
    : (updateFirst q f es).find? p = es.find? p := by
  rw [← List.head?_filter, ← List.head?_filter, filter_updateFirst h]

end UpdateFirst

section Update

variable [DecidableEq D] {q : Query D} {f : D → D} {ds : List D}

theorem updateOne_eq_map (h : ds.Pairwise (fun d d' => ¬(q d = true ∧ q d' = true)))
    : (updateOne q f ds).1 = ds.map (fun d => if q d then f d else d) := by
  induction ds with
  | nil => rfl
  | cons d ds ih =>
    rw [List.pairwise_cons] at h
    simp only [updateOne, List.map_cons]
    split
    . next hq =>
      simp only [List.cons.injEq, true_and]
      rw [← List.map_id ds, List.map_map]
      apply List.map_congr_left
      intro d' hd'
      have := h.1 d' hd'
      simp_all
    . simp only [List.cons.injEq, true_and]
      exact ih h.2

theorem updateOne_snd
    : (updateOne q f ds).2
        =
      match ds.find? q with
      | none => ⟨0, 0⟩
      | some d => ⟨1, if f d = d then 0 else 1⟩ := by
  induction ds with
  | nil => rfl
  | cons d ds ih =>
    simp only [updateOne, List.find?_cons]
    split
    . next hq => simp [hq]
    . next hq => simp [hq, ih]

theorem updateOne_matchedCount_eq_one_iff
    : (updateOne q f ds).2.matchedCount = 1 ↔ ∃ d ∈ ds, q d = true := by
  rw [updateOne_snd, ← List.find?_isSome]
  cases ds.find? q with
  | none => simp
  | some d => simp

theorem updateOne_modifiedCount_pos_iff
    : 0 < (updateOne q f ds).2.modifiedCount ↔ ∃ d, ds.find? q = some d ∧ f d ≠ d := by
  rw [updateOne_snd]
  cases ds.find? q with
  | none => simp
  | some d =>
    simp only [Option.some.injEq]
    split
    . next h => simp [h]
    . next h => simp [h]

variable (q f ds) in
theorem updateOne_modifiedCount_le_one : (updateOne q f ds).2.modifiedCount ≤ 1 := by
  rw [updateOne_snd]
  cases ds.find? q with
  | none => simp
  | some d =>
    dsimp
    split
    . omega
    . omega

theorem updateOne_modifiedCount_eq_one_iff
    : (updateOne q f ds).2.modifiedCount = 1 ↔ ∃ d, ds.find? q = some d ∧ f d ≠ d := by
  rw [← updateOne_modifiedCount_pos_iff]
  have := updateOne_modifiedCount_le_one q f ds
  omega

theorem updateOne_fst_of_find?_eq_none (h : ds.find? q = none) : (updateOne q f ds).1 = ds := by
  induction ds with
  | nil => rfl
  | cons d ds ih =>
    rw [List.find?_cons] at h
    simp only [updateOne]
    split at h
    . contradiction
    . next hq => simp [hq, ih h]

theorem updateOne_fst_of_modifiedCount_eq_zero (h : (updateOne q f ds).2.modifiedCount = 0)
    : (updateOne q f ds).1 = ds := by
  induction ds with
  | nil => rfl
  | cons d ds ih =>
    simp only [updateOne] at h ⊢
    split
    . next hq =>
      simp only [hq, if_true] at h
      split at h
      . next hf => simp [hf]
      . simp at h
    . next hq =>
      simp only [hq, Bool.false_eq_true, if_false] at h
      simp [ih h]

theorem updateOne_fst_of_matchedCount_ne_one (h : (updateOne q f ds).2.matchedCount ≠ 1)
    : (updateOne q f ds).1 = ds := by
  rw [ne_eq, updateOne_matchedCount_eq_one_iff] at h
  apply updateOne_fst_of_find?_eq_none
  rw [List.find?_eq_none]
  intro d hd hq
  exact h ⟨d, hd, hq⟩

theorem updateOne_fst_of_modifiedCount_ne_one (h : (updateOne q f ds).2.modifiedCount ≠ 1)
    : (updateOne q f ds).1 = ds := by
  apply updateOne_fst_of_modifiedCount_eq_zero
  have := updateOne_modifiedCount_le_one q f ds
  omega

end Update

section Find

variable {q p : Query D} {f : D → D} {ds : List D}

theorem pairwise_of_nodup_map {key : D → α} (value : α) (hnodup : (ds.map key).Nodup)
    (hq : ∀ d ∈ ds, q d = true → key d = value)
    : ds.Pairwise (fun d d' => ¬(q d = true ∧ q d' = true)) := by
  rw [List.nodup_iff_pairwise_ne, List.pairwise_map] at hnodup
  apply hnodup.imp_of_mem
  intro d d' hd hd' hne hqs
  apply hne
  rw [hq d hd hqs.1, hq d' hd' hqs.2]

theorem find?_eq_some_of_nodup_map {key : D → α} (value : α) {d : D}
    (hnodup : (ds.map key).Nodup) (hq : ∀ d ∈ ds, q d = true → key d = value) (hd : d ∈ ds)
    (hqd : q d = true)
    : ds.find? q = some d := by
  cases hfind : ds.find? q with
  | none =>
    rw [List.find?_eq_none] at hfind
    exact absurd hqd (hfind d hd)
  | some d' =>
    have hd' := List.mem_of_find?_eq_some hfind
    have hqd' := List.find?_some hfind
    have : key d' = key d := by rw [hq d hd hqd, hq d' hd' hqd']
    rw [List.inj_on_of_nodup_map hnodup hd' hd this]

end Find

section Unique

variable {key : D → α} {ds : List D} {d : D}

theorem nodup_map_concat (h : (ds.map key).Nodup) (hfresh : ∀ d' ∈ ds, key d' ≠ key d)
    : ((ds ++ [d]).map key).Nodup := by
  rw [List.map_append, List.map_singleton, List.nodup_append]
  refine ⟨h, List.nodup_singleton _, ?_⟩
  intro a ha b hb
  rcases List.mem_map.mp ha with ⟨d', hd', rfl⟩
  rw [List.mem_singleton.mp hb]
  exact hfresh d' hd'

end Unique

section Sorted

variable {r : D → D → Prop} [DecidableRel r] {q : Query D} {d : D} {ds : List D}

theorem orderedInsert_of_forall_rel (h : ∀ d' ∈ ds, r d d') : ds.orderedInsert r d = d :: ds := by
  cases ds with
  | nil => rfl
  | cons d' ds => exact List.orderedInsert_cons_of_le r ds (h d' List.mem_cons_self)

theorem filter_orderedInsert [IsTrans D r] (hsorted : ds.Pairwise r)
    : (ds.orderedInsert r d).filter q
        =
      if q d then (ds.filter q).orderedInsert r d else ds.filter q := by
  induction ds with
  | nil => simp [List.filter_cons]
  | cons d' ds ih =>
    rw [List.pairwise_cons] at hsorted
    by_cases hrel : r d d'
    . have hhead : ∀ e ∈ (d' :: ds).filter q, r d e := by
        intro e he
        rcases List.mem_cons.mp (List.mem_of_mem_filter he) with rfl | he
        . exact hrel
        . exact IsTrans.trans d d' e hrel (hsorted.1 e he)
      rw [List.orderedInsert_cons_of_le r ds hrel, orderedInsert_of_forall_rel hhead]
      rw [List.filter_cons]
    . rw [List.orderedInsert_of_not_le r ds hrel, List.filter_cons, ih hsorted.2]
      cases hd' : q d' with
      | true =>
        cases hd : q d with
        | true => simp [hd', hrel]
        | false => simp [hd']
      | false => simp [hd']

/--
Sorting is stable, so it does not matter whether a query is applied before or after it.
-/
theorem filter_insertionSort [IsTrans D r] [Std.Total r]
    : (ds.insertionSort r).filter q = (ds.filter q).insertionSort r := by
  induction ds with
  | nil => rfl
  | cons d ds ih =>
    rw [List.insertionSort_cons, filter_orderedInsert (List.pairwise_insertionSort r ds), ih]
    cases hd : q d with
    | true => simp [hd]
    | false => simp [hd]

end Sorted

end Mongo
