import Mathlib.Data.List.Induction
import Mathlib.Data.List.Basic
import Mathlib.Logic.Function.Basic
import Mathlib.Order.Lattice

/-!
This module contains the map that keeps the greatest time it has seen for every key, and which
elements of a sequence are the latest of their key at the time they are presented to it. The keys
are of an arbitrary type, the times of an arbitrary linear order.
-/

namespace LatestWins

universe u v w

variable {K : Type u} {T : Type v} {X : Type w} [DecidableEq K] [LinearOrder T]

def Accepts (m : K → Option T) (k : K) (t : T) : Prop := ∀ t' ∈ m k, t' < t

instance (m : K → Option T) (k : K) (t : T) : Decidable (Accepts m k t) :=
  match h : m k with
  | none => isTrue (by simp [Accepts, h])
  | some t' => decidable_of_iff (t' < t) (by simp [Accepts, h])

def present (m : K → Option T) (k : K) (t : T) : K → Option T :=
  if Accepts m k t then Function.update m k (some t) else m

section

variable (key : X → K) (time : X → T)

def presentAll (m : K → Option T) (xs : List X) : K → Option T :=
  xs.foldl (fun m x => present m (key x) (time x)) m

/-- The elements that were the latest of their key when they were presented. -/
def accepted (m : K → Option T) : List X → List X
  | [] => []
  | x :: xs =>
    let rest := accepted (present m (key x) (time x)) xs
    if Accepts m (key x) (time x) then x :: rest else rest

end

section

variable {m : K → Option T} {k k' : K} {t t' : T} {key : X → K} {time : X → T} {x : X} {xs : List X}

theorem accepts_present_iff
    : Accepts (present m k t) k' t' ↔ Accepts m k' t' ∧ (k = k' → t < t') := by
  unfold present
  by_cases hk : k = k'
  . subst hk
    split
    . next h =>
      have hupdate : Accepts (Function.update m k (some t)) k t' ↔ t < t' := by simp [Accepts]
      rw [hupdate]
      constructor
      . intro hlt
        exact ⟨fun u hu => lt_trans (h u hu) hlt, fun _ => hlt⟩
      . rintro ⟨_, hlt⟩
        exact hlt rfl
    . next h =>
      unfold Accepts at h
      push Not at h
      rcases h with ⟨u, hu, hle⟩
      constructor
      . intro h'
        exact ⟨h', fun _ => lt_of_le_of_lt hle (h' u hu)⟩
      . intro h'
        exact h'.1
  . split
    . simp [Accepts, Function.update_of_ne (Ne.symm hk), hk]
    . simp [hk]

theorem not_accepts_present_self : ¬Accepts (present m k t) k t := by
  rw [accepts_present_iff]
  intro h
  exact lt_irrefl t (h.2 rfl)

theorem not_accepts_present (h : ¬Accepts m k' t') : ¬Accepts (present m k t) k' t' := by
  rw [accepts_present_iff]
  intro h'
  exact h h'.1

omit [DecidableEq K] in
theorem lt_of_accepts (h : ¬Accepts m k t) (h' : Accepts m k t') : t < t' := by
  unfold Accepts at h
  push Not at h
  rcases h with ⟨u, hu, hle⟩
  exact lt_of_le_of_lt hle (h' u hu)

theorem accepts_presentAll_iff
    : Accepts (presentAll key time m xs) k t
        ↔
      Accepts m k t ∧ ∀ x ∈ xs, key x = k → time x < t := by
  induction xs generalizing m with
  | nil => simp [presentAll]
  | cons x xs ih =>
    rw [presentAll, List.foldl_cons, ← presentAll, ih, accepts_present_iff]
    simp only [List.mem_cons, forall_eq_or_imp, and_assoc]

theorem accepted_append {ys : List X}
    : accepted key time m (xs ++ ys)
        =
      accepted key time m xs ++ accepted key time (presentAll key time m xs) ys := by
  induction xs generalizing m with
  | nil => rfl
  | cons x xs ih =>
    simp only [List.cons_append, accepted, ih, presentAll, List.foldl_cons]
    split <;> rfl

theorem accepted_sublist : (accepted key time m xs).Sublist xs := by
  induction xs generalizing m with
  | nil => exact List.Sublist.refl _
  | cons x xs ih =>
    rw [accepted]
    split
    . exact ih.cons_cons x
    . exact ih.cons x

theorem accepted_append_singleton
    : accepted key time m (xs ++ [x])
        =
      accepted key time m xs
        ++ if Accepts (presentAll key time m xs) (key x) (time x) then [x] else [] := by
  rw [accepted_append]
  rfl

end

section Order

variable {m : K → Option T} {key : X → K} {time : X → T} {x : X} {xs : List X}

theorem accepts_of_mem_accepted (h : x ∈ accepted key time m xs) : Accepts m (key x) (time x) := by
  induction xs generalizing m with
  | nil => simp [accepted] at h
  | cons y xs ih =>
    have hrest : x ∈ accepted key time (present m (key y) (time y)) xs → Accepts m (key x) (time x) := by
      intro hmem
      exact (accepts_present_iff.mp (ih hmem)).1
    rw [accepted] at h
    split at h
    . next hy =>
      rcases List.mem_cons.mp h with rfl | hmem
      . exact hy
      . exact hrest hmem
    . exact hrest h

theorem pairwise_accepted
    : (accepted key time m xs).Pairwise (fun x y => key x = key y → time x < time y) := by
  induction xs generalizing m with
  | nil => exact List.Pairwise.nil
  | cons x xs ih =>
    rw [accepted]
    split
    . rw [List.pairwise_cons]
      refine ⟨?_, ih⟩
      intro y hy
      exact (accepts_present_iff.mp (accepts_of_mem_accepted hy)).2
    . exact ih

end Order

section Pruned

variable {m full : K → Option T} {k : K} {c c' t : T}

/-- A map that has forgotten only times up to the cutoff. -/
def Pruned (c : T) (m full : K → Option T) : Prop :=
  ∀ k, m k = full k ∨ (m k = none ∧ ∀ t ∈ full k, t ≤ c)

omit [DecidableEq K] in
theorem Pruned.refl : Pruned c m m := by
  intro k
  exact .inl rfl

omit [DecidableEq K] in
theorem Pruned.mono (h : Pruned c m full) (hle : c ≤ c') : Pruned c' m full := by
  intro k
  rcases h k with heq | ⟨hnone, hold⟩
  . exact .inl heq
  . exact .inr ⟨hnone, fun t ht => le_trans (hold t ht) hle⟩

omit [DecidableEq K] in
theorem Pruned.accepts_iff (h : Pruned c m full) (ht : c < t) : Accepts m k t ↔ Accepts full k t := by
  unfold Accepts
  rcases h k with heq | ⟨hnone, hold⟩
  . rw [heq]
  . rw [hnone]
    constructor
    . intro _ t' ht'
      exact lt_of_le_of_lt (hold t' ht') ht
    . simp

theorem Pruned.present (h : Pruned c m full) (ht : c < t)
    : Pruned c (present m k t) (present full k t) := by
  intro k'
  unfold LatestWins.present
  rw [if_congr (h.accepts_iff ht) rfl rfl]
  split
  . by_cases hk : k' = k
    . subst hk
      exact .inl (by simp)
    . rw [Function.update_of_ne hk, Function.update_of_ne hk]
      exact h k'
  . exact h k'

omit [DecidableEq K] in
theorem Pruned.filter (h : Pruned c m full) (hle : c' ≤ c)
    : Pruned c (fun k => (m k).filter (fun t => decide (c' < t))) full := by
  intro k
  rcases h k with heq | ⟨hnone, hold⟩
  . cases hfull : full k with
    | none => exact .inl (by simp [heq, hfull])
    | some t =>
      by_cases ht : c' < t
      . exact .inl (by simp [heq, hfull, ht])
      . refine .inr ⟨by simpa [heq, hfull] using not_lt.mp ht, ?_⟩
        rintro _ ⟨⟩
        exact le_trans (not_lt.mp ht) hle
  . exact .inr ⟨by simp [hnone], hold⟩

end Pruned

section Filter

variable {m : K → Option T} {key : X → K} {time : X → T} {p : X → Bool} {x : X} {xs : List X}

theorem accepts_presentAll_filter (h : Accepts (presentAll key time m xs) (key x) (time x))
    : Accepts (presentAll key time m (xs.filter p)) (key x) (time x) := by
  rw [accepts_presentAll_iff] at h ⊢
  refine ⟨h.1, ?_⟩
  intro y hy
  exact h.2 y (List.mem_of_mem_filter hy)

theorem filter_accepted_sublist
    : ((accepted key time m xs).filter p).Sublist (accepted key time m (xs.filter p)) := by
  induction xs using List.reverseRecOn with
  | nil => exact List.Sublist.refl _
  | append_singleton xs x ih =>
    rw [accepted_append_singleton, List.filter_append, List.filter_append]
    cases hp : p x with
    | true =>
      rw [List.filter_singleton, hp]
      simp only [cond_true]
      rw [accepted_append_singleton]
      apply ih.append
      split
      . next h => simp [accepts_presentAll_filter h, hp]
      . simp
    | false =>
      rw [List.filter_singleton, hp]
      simp only [cond_false, List.append_nil]
      split
      . simpa [hp] using ih
      . simpa using ih

omit [DecidableEq K] [LinearOrder T] in
theorem append_eq_append_iff_of_sublist {as bs cs ds : List X} (h : as.Sublist bs)
    (h' : cs.Sublist ds) : as ++ cs = bs ++ ds ↔ as = bs ∧ cs = ds := by
  constructor
  . intro heq
    have hlen := congrArg List.length heq
    rw [List.length_append, List.length_append] at hlen
    have hle := h.length_le
    have hle' := h'.length_le
    exact ⟨h.eq_of_length (by omega), h'.eq_of_length (by omega)⟩
  . rintro ⟨has, hcs⟩
    rw [has, hcs]

omit [DecidableEq K] [LinearOrder T] in
theorem forall_split_append_singleton_iff {P : List X → X → Prop}
    : (∀ before y after, xs ++ [x] = before ++ y :: after → P before y)
        ↔
      (∀ before y after, xs = before ++ y :: after → P before y) ∧ P xs x := by
  constructor
  . intro h
    refine ⟨?_, h xs x [] rfl⟩
    intro before y after heq
    apply h before y (after ++ [x])
    simp [heq]
  . rintro ⟨h, hx⟩ before y after heq
    rcases List.eq_nil_or_concat after with rfl | ⟨after', z, rfl⟩
    . rcases List.append_inj' heq rfl with ⟨rfl, hy⟩
      rw [List.cons.injEq] at hy
      rwa [← hy.1]
    . have heq' : xs ++ [x] = (before ++ y :: after') ++ [z] := by simpa using heq
      exact h before y after' (List.append_inj' heq' rfl).1

/--
Leaving out elements changes nothing for the others exactly when none of these is the latest of its
key among the others without being the latest of its key among all.
-/
theorem filter_accepted_eq_iff
    : (accepted key time m xs).filter p = accepted key time m (xs.filter p)
        ↔
      ∀ before x after, xs = before ++ x :: after → p x = true →
        Accepts (presentAll key time m (before.filter p)) (key x) (time x) →
          Accepts (presentAll key time m before) (key x) (time x) := by
  -- The induction is on the last element, the only one that is not presented to either map before.
  induction xs using List.reverseRecOn with
  | nil => simp [accepted]
  | append_singleton xs x ih =>
    rw [forall_split_append_singleton_iff, ← ih, accepted_append_singleton, List.filter_append,
      List.filter_append]
    cases hp : p x with
    | true =>
      rw [List.filter_singleton, hp]
      simp only [cond_true]
      rw [accepted_append_singleton]
      by_cases hall : Accepts (presentAll key time m xs) (key x) (time x)
      . simp [hall, accepts_presentAll_filter hall, hp]
      . rw [append_eq_append_iff_of_sublist filter_accepted_sublist (by simp [hall])]
        by_cases hothers : Accepts (presentAll key time m (xs.filter p)) (key x) (time x)
        . simp [hall, hothers]
        . simp [hall, hothers]
    | false =>
      rw [List.filter_singleton, hp]
      simp only [cond_false, List.append_nil]
      split
      . simp [hp]
      . simp

end Filter

end LatestWins
