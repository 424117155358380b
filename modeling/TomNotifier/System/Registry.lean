import Mathlib.Logic.Function.Basic

/-!
This module contains registries of rooms. A key has at most one current room, found or created by the
members who join under the key, and forgotten when the key is closed or when a clean up finds nobody
in it. Leaving a room and cleaning up after that are steps of their own.
-/

namespace Registry

universe u

inductive Phase where
  | joined
  | left
  | gone
  deriving DecidableEq

structure Member (κ : Type u) where
  key : κ
  room : Nat
  -- history: the key has not been closed since
  opened : Bool
  phase : Phase

structure State (κ : Type u) where
  current : κ → Option Nat
  rooms : Nat
  members : List (Member κ)

inductive Event (κ : Type u) where
  | join (key : κ)
  | close (key : κ)
  | leave (i : Nat)
  | cleanUp (i : Nat)

variable {κ : Type u}

def Member.close [DecidableEq κ] (key : κ) (m : Member κ) : Member κ :=
  { m with opened := m.opened && decide (m.key ≠ key) }

namespace State

def Occupied (s : State κ) (room : Nat) : Prop := ∃ m ∈ s.members, m.room = room ∧ m.phase = .joined

def occupants (s : State κ) (room : Nat) : Nat :=
  s.members.countP (fun m => decide (m.phase = .joined ∧ m.room = room))

def Abandoned (s : State κ) (key : κ) : Prop :=
  ∃ room, s.current key = some room ∧ ¬s.Occupied room

structure Consistent (s : State κ) : Prop where
  room_lt : ∀ m ∈ s.members, m.room < s.rooms
  current_lt : ∀ key room, s.current key = some room → room < s.rooms
  current_inj : ∀ key key' room, s.current key = some room → s.current key' = some room → key = key'
  owner : ∀ m ∈ s.members, ∀ key, s.current key = some m.room → m.key = key
  opened : ∀ m ∈ s.members, m.opened → m.phase = .joined → s.current m.key = some m.room
  current : ∀ m ∈ s.members, s.current m.key = some m.room → m.opened
  pending : ∀ key, s.Abandoned key → ∃ m ∈ s.members, m.key = key ∧ m.phase = .left

variable {s s' : State κ} {key key' : κ} {room : Nat} {m : Member κ} {i : Nat} {phase : Phase}

theorem Occupied.mono (h : s.Occupied room) (hmembers : ∀ m ∈ s.members, m ∈ s'.members)
    : s'.Occupied room := by
  rcases h with ⟨m, hm, hroom, hphase⟩
  exact ⟨m, hmembers m hm, hroom, hphase⟩

theorem occupants_pos_iff : 0 < s.occupants room ↔ s.Occupied room := by
  unfold occupants Occupied
  simp [List.countP_pos_iff, and_comm]

theorem occupants_append (hmembers : s'.members = s.members ++ [m])
    : s'.occupants room
        =
      s.occupants room + if m.phase = .joined ∧ m.room = room then 1 else 0 := by
  unfold occupants
  simp [hmembers, List.countP_singleton]

theorem occupants_set {m' : Member κ} (hi : s.members[i]? = some m)
    (hmembers : s'.members = s.members.set i m') (room : Nat)
    : s'.occupants room
        =
      s.occupants room - (if m.phase = .joined ∧ m.room = room then 1 else 0)
        + if m'.phase = .joined ∧ m'.room = room then 1 else 0 := by
  rcases List.getElem?_eq_some_iff.mp hi with ⟨hlt, rfl⟩
  unfold occupants
  simp [hmembers, List.countP_set hlt]

theorem mem_set_of_ne {α : Type u} {l : List α} {a b x : α} (h : l[i]? = some a) (hb : b ∈ l)
    (hne : b ≠ a) : b ∈ l.set i x := by
  rw [List.mem_iff_getElem?] at hb ⊢
  rcases hb with ⟨j, hj⟩
  refine ⟨j, ?_⟩
  have hij : i ≠ j := by
    rintro rfl
    rw [h, Option.some.injEq] at hj
    exact hne hj.symm
  rw [List.getElem?_set_ne hij, hj]

theorem Consistent.occupants_eq_zero (h : s.Consistent) (hroom : s.rooms ≤ room)
    : s.occupants room = 0 := by
  apply Nat.eq_zero_of_not_pos
  rw [occupants_pos_iff]
  rintro ⟨m, hm, rfl, _⟩
  exact absurd (h.room_lt m hm) (Nat.not_lt.mpr hroom)

-- A member who leaves or has cleaned up keeps everything apart from the rooms that become empty.
theorem Consistent.setPhase (h : s.Consistent) (hi : s.members[i]? = some m) (hphase : phase ≠ .joined)
    (hpending : ∀ key, Abandoned { s with members := s.members.set i { m with phase } } key →
      ∃ m' ∈ s.members.set i { m with phase }, m'.key = key ∧ m'.phase = .left)
    : Consistent { s with members := s.members.set i { m with phase } } := by
  have hm := List.mem_of_getElem? hi
  have hcases : ∀ m' ∈ s.members.set i { m with phase }, m' ∈ s.members ∨ m' = { m with phase } :=
    fun _ hm' => List.mem_or_eq_of_mem_set hm'
  constructor
  . intro m' hm'
    rcases hcases m' hm' with hm' | rfl
    . exact h.room_lt m' hm'
    . exact h.room_lt m hm
  . exact h.current_lt
  . exact h.current_inj
  . intro m' hm'
    rcases hcases m' hm' with hm' | rfl
    . exact h.owner m' hm'
    . exact h.owner m hm
  . intro m' hm' hopened hjoined
    rcases hcases m' hm' with hm' | rfl
    . exact h.opened m' hm' hopened hjoined
    . exact absurd hjoined hphase
  . intro m' hm'
    rcases hcases m' hm' with hm' | rfl
    . exact h.current m' hm'
    . exact h.current m hm
  . exact hpending

theorem Consistent.leave (h : s.Consistent) (hi : s.members[i]? = some m) (hjoined : m.phase = .joined)
    : Consistent { s with members := s.members.set i { m with phase := .left } } := by
  apply h.setPhase hi (by simp)
  rintro key ⟨room, hroom, hempty⟩
  have hlt := (List.getElem?_eq_some_iff.mp hi).1
  by_cases howner : m.key = key
  . exact ⟨_, List.mem_set hlt _, howner, rfl⟩
  -- The member's room is not the one of another key, which has been empty before.
  . have hempty' : ¬s.Occupied room := by
      rintro ⟨m', hm', hroom', hphase'⟩
      have hne : m' ≠ m := by
        rintro rfl
        exact howner (h.owner m' hm' key (hroom' ▸ hroom))
      exact hempty ⟨m', mem_set_of_ne hi hm' hne, hroom', hphase'⟩
    rcases h.pending key ⟨room, hroom, hempty'⟩ with ⟨m', hm', hkey, hphase'⟩
    have hne : m' ≠ m := by
      rintro rfl
      exact howner hkey
    exact ⟨m', mem_set_of_ne hi hm' hne, hkey, hphase'⟩

theorem Consistent.cleanUp (h : s.Consistent) (hi : s.members[i]? = some m) (hleft : m.phase = .left)
    (hkeep : ¬s.Abandoned m.key)
    : Consistent { s with members := s.members.set i { m with phase := .gone } } := by
  apply h.setPhase hi (by simp)
  rintro key ⟨room, hroom, hempty⟩
  have habandoned : s.Abandoned key := by
    refine ⟨room, hroom, ?_⟩
    rintro ⟨m', hm', hroom', hphase'⟩
    have hne : m' ≠ m := by
      rintro rfl
      simp [hleft] at hphase'
    exact hempty ⟨m', mem_set_of_ne hi hm' hne, hroom', hphase'⟩
  rcases h.pending key habandoned with ⟨m', hm', hkey, hphase'⟩
  have hne : m' ≠ m := by
    rintro rfl
    exact hkeep (hkey ▸ habandoned)
  exact ⟨m', mem_set_of_ne hi hm' hne, hkey, hphase'⟩

/-- Without a pending clean up the keys with a room are those with a member who may stay in it. -/
theorem Consistent.current_isSome_iff (h : s.Consistent) (hidle : ∀ m ∈ s.members, m.phase ≠ .left)
    : (s.current key).isSome ↔ ∃ m ∈ s.members, m.key = key ∧ m.opened ∧ m.phase = .joined := by
  constructor
  . intro hsome
    rcases Option.isSome_iff_exists.mp hsome with ⟨room, hroom⟩
    have hoccupied : s.Occupied room := by
      by_contra hempty
      rcases h.pending key ⟨room, hroom, hempty⟩ with ⟨m, hm, _, hphase⟩
      exact hidle m hm hphase
    rcases hoccupied with ⟨m, hm, rfl, hphase⟩
    have hkey := h.owner m hm key hroom
    exact ⟨m, hm, hkey, h.current m hm (hkey ▸ hroom), hphase⟩
  . rintro ⟨m, hm, rfl, hopened, hphase⟩
    rw [h.opened m hm hopened hphase]
    rfl

variable [DecidableEq κ]

theorem update_none_eq_some {f : κ → Option Nat}
    : Function.update f key none key' = some room ↔ key' ≠ key ∧ f key' = some room := by
  by_cases h : key' = key
  . simp [h]
  . simp [h]

theorem update_some_eq_some {f : κ → Option Nat} {room' : Nat}
    : Function.update f key (some room) key' = some room'
        ↔
      key' = key ∧ room = room' ∨ key' ≠ key ∧ f key' = some room' := by
  by_cases h : key' = key
  . subst h
    simp
  . simp [h]

theorem Consistent.forget (h : s.Consistent) (key : κ)
    (hjoined : ∀ m ∈ s.members, m.key = key → m.phase = .joined → m.opened = false)
    : Consistent { s with current := Function.update s.current key none } := by
  constructor
  . exact h.room_lt
  . intro key' room hcurrent
    exact h.current_lt key' room (update_none_eq_some.mp hcurrent).2
  . intro key₁ key₂ room h₁ h₂
    exact h.current_inj key₁ key₂ room (update_none_eq_some.mp h₁).2 (update_none_eq_some.mp h₂).2
  . intro m hm key' hcurrent
    exact h.owner m hm key' (update_none_eq_some.mp hcurrent).2
  . intro m hm hopened hphase
    refine update_none_eq_some.mpr ⟨?_, h.opened m hm hopened hphase⟩
    intro hkey
    simp [hjoined m hm hkey hphase] at hopened
  . intro m hm hcurrent
    exact h.current m hm (update_none_eq_some.mp hcurrent).2
  . rintro key' ⟨room, hroom, hempty⟩
    exact h.pending key' ⟨room, (update_none_eq_some.mp hroom).2, hempty⟩

theorem Consistent.close (h : s.Consistent) (key : κ)
    : Consistent { s with
        current := Function.update s.current key none
        members := s.members.map (Member.close key) } := by
  have hmem : ∀ m ∈ s.members.map (Member.close key), ∃ m' ∈ s.members, m = m'.close key := by
    intro m hm
    rcases List.mem_map.mp hm with ⟨m', hm', rfl⟩
    exact ⟨m', hm', rfl⟩
  constructor
  . intro m hm
    rcases hmem m hm with ⟨m', hm', rfl⟩
    exact h.room_lt m' hm'
  . intro key' room hcurrent
    exact h.current_lt key' room (update_none_eq_some.mp hcurrent).2
  . intro key₁ key₂ room h₁ h₂
    exact h.current_inj key₁ key₂ room (update_none_eq_some.mp h₁).2 (update_none_eq_some.mp h₂).2
  . intro m hm key' hcurrent
    rcases hmem m hm with ⟨m', hm', rfl⟩
    exact h.owner m' hm' key' (update_none_eq_some.mp hcurrent).2
  . intro m hm hopened hphase
    rcases hmem m hm with ⟨m', hm', rfl⟩
    simp only [Member.close, Bool.and_eq_true, decide_eq_true_eq] at hopened
    exact update_none_eq_some.mpr ⟨hopened.2, h.opened m' hm' hopened.1 hphase⟩
  . intro m hm hcurrent
    rcases hmem m hm with ⟨m', hm', rfl⟩
    rcases update_none_eq_some.mp hcurrent with ⟨hne, hcurrent'⟩
    simp only [Member.close, Bool.and_eq_true, decide_eq_true_eq]
    exact ⟨h.current m' hm' hcurrent', hne⟩
  . rintro key' ⟨room, hroom, hempty⟩
    have hempty' : ¬s.Occupied room := by
      rintro ⟨m, hm, hroom', hphase⟩
      exact hempty ⟨m.close key, List.mem_map_of_mem hm, hroom', hphase⟩
    rcases h.pending key' ⟨room, (update_none_eq_some.mp hroom).2, hempty'⟩ with ⟨m, hm, hkey, hphase⟩
    exact ⟨m.close key, List.mem_map_of_mem hm, hkey, hphase⟩

/-- The room is the current one of the key, or a new one. -/
def Joinable (s : State κ) (key : κ) (room : Nat) : Prop :=
  s.current key = some room ∨ s.current key = none ∧ s.rooms ≤ room

theorem Consistent.join (h : s.Consistent) {rooms : Nat} (hfound : s.Joinable key room)
    (hle : s.rooms ≤ rooms) (hlt : room < rooms)
    : Consistent {
        current := Function.update s.current key (some room)
        rooms
        members := s.members ++ [⟨key, room, true, .joined⟩] } := by
  have hmem : ∀ m ∈ s.members ++ [⟨key, room, true, .joined⟩],
      m ∈ s.members ∨ m = ⟨key, room, true, .joined⟩ := by
    simp
  have hother : ∀ key', key' ≠ key → s.current key' ≠ some room := by
    intro key' hkey' hroom
    rcases hfound with hfound | ⟨_, hnew⟩
    . exact hkey' (h.current_inj key' key room hroom hfound)
    . exact absurd (h.current_lt key' room hroom) (Nat.not_lt.mpr hnew)
  have hmember : ∀ m ∈ s.members, m.room = room → m.key = key ∧ m.opened := by
    intro m hm hroom
    rcases hfound with hfound | ⟨_, hnew⟩
    . have howner := h.owner m hm key (hroom ▸ hfound)
      exact ⟨howner, h.current m hm (by rw [howner, hroom, hfound])⟩
    . exact absurd (hroom ▸ h.room_lt m hm) (Nat.not_lt.mpr hnew)
  constructor
  . intro m hm
    rcases hmem m hm with hm | rfl
    . exact Nat.lt_of_lt_of_le (h.room_lt m hm) hle
    . exact hlt
  . intro key' room' hroom'
    rcases update_some_eq_some.mp hroom' with ⟨_, rfl⟩ | ⟨_, hroom'⟩
    . exact hlt
    . exact Nat.lt_of_lt_of_le (h.current_lt key' room' hroom') hle
  . intro key₁ key₂ room' h₁ h₂
    rcases update_some_eq_some.mp h₁ with ⟨hkey₁, hroom₁⟩ | ⟨hne₁, h₁'⟩
    . rcases update_some_eq_some.mp h₂ with ⟨hkey₂, _⟩ | ⟨hne₂, h₂'⟩
      . rw [hkey₁, hkey₂]
      . exact absurd (hroom₁ ▸ h₂') (hother key₂ hne₂)
    . rcases update_some_eq_some.mp h₂ with ⟨_, hroom₂⟩ | ⟨_, h₂'⟩
      . exact absurd (hroom₂ ▸ h₁') (hother key₁ hne₁)
      . exact h.current_inj key₁ key₂ room' h₁' h₂'
  . intro m hm key' hroom'
    rcases update_some_eq_some.mp hroom' with ⟨hkey', hroom⟩ | ⟨hne, hcurrent⟩
    . rcases hmem m hm with hm | rfl
      . rw [hkey', (hmember m hm hroom.symm).1]
      . exact hkey'.symm
    . rcases hmem m hm with hm | rfl
      . exact h.owner m hm key' hcurrent
      . exact absurd hcurrent (hother key' hne)
  . intro m hm hopened hphase
    rcases hmem m hm with hm | rfl
    . have hcurrent := h.opened m hm hopened hphase
      by_cases hkey : m.key = key
      -- A member of the key who is still there is in the room that is joined.
      . rcases hfound with hfound | ⟨hnone, _⟩
        . rw [hkey, hfound, Option.some.injEq] at hcurrent
          exact update_some_eq_some.mpr (.inl ⟨hkey, hcurrent⟩)
        . simp [hkey, hnone] at hcurrent
      . exact update_some_eq_some.mpr (.inr ⟨hkey, hcurrent⟩)
    . exact update_some_eq_some.mpr (.inl ⟨rfl, rfl⟩)
  . intro m hm hroom'
    rcases hmem m hm with hm | rfl
    . rcases update_some_eq_some.mp hroom' with ⟨_, hroom⟩ | ⟨_, hroom'⟩
      . exact (hmember m hm hroom.symm).2
      . exact h.current m hm hroom'
    . rfl
  . rintro key' ⟨room', hroom', hempty⟩
    have hmono : ∀ m ∈ s.members, m ∈ s.members ++ [⟨key, room, true, .joined⟩] := by
      intro m hm
      exact List.mem_append_left _ hm
    rcases update_some_eq_some.mp hroom' with ⟨_, rfl⟩ | ⟨_, hroom'⟩
    . exact absurd ⟨_, List.mem_append_right _ List.mem_cons_self, rfl, rfl⟩ hempty
    . rcases h.pending key' ⟨room', hroom', fun hoccupied => hempty (hoccupied.mono hmono)⟩
        with ⟨m, hm, hkey⟩
      exact ⟨m, hmono m hm, hkey⟩

inductive Step (s : State κ) : Event κ → State κ → Prop where
  | join (key : κ) (room rooms : Nat) (found : s.Joinable key room) (le : s.rooms ≤ rooms)
    (lt : room < rooms)
    : Step s (.join key) {
        current := Function.update s.current key (some room)
        rooms
        members := s.members ++ [⟨key, room, true, .joined⟩]
      }
  | close (key : κ)
    : Step s (.close key) { s with
        current := Function.update s.current key none
        members := s.members.map (Member.close key)
      }
  | leave (i : Nat) (m : Member κ) (member : s.members[i]? = some m) (phase : m.phase = .joined)
    : Step s (.leave i) { s with members := s.members.set i { m with phase := .left } }
  | cleanUp (i : Nat) (m : Member κ) (member : s.members[i]? = some m) (phase : m.phase = .left)
    (abandoned : s.Abandoned m.key)
    : Step s (.cleanUp i) { s with
        current := Function.update s.current m.key none
        members := s.members.set i { m with phase := .gone }
      }
  | keep (i : Nat) (m : Member κ) (member : s.members[i]? = some m) (phase : m.phase = .left)
    (occupied : ¬s.Abandoned m.key)
    : Step s (.cleanUp i) { s with members := s.members.set i { m with phase := .gone } }

theorem Consistent.step {e : Event κ} (h : s.Consistent) (hstep : s.Step e s') : s'.Consistent := by
  cases hstep with
  | join key room rooms found le lt => exact h.join found le lt
  | close key => exact h.close key
  | leave i m member phase => exact h.leave member phase
  | cleanUp i m member phase abandoned =>
    rcases abandoned with ⟨room, hroom, hempty⟩
    have hforget := h.forget m.key (by
      intro m' hm' hkey hjoined
      rw [← Bool.not_eq_true]
      intro hopened
      have hcurrent := h.opened m' hm' hopened hjoined
      rw [hkey, hroom, Option.some.injEq] at hcurrent
      exact hempty ⟨m', hm', hcurrent.symm, hjoined⟩)
    apply hforget.cleanUp member phase
    rintro ⟨room', hroom', _⟩
    simp at hroom'
  | keep i m member phase occupied => exact h.cleanUp member phase occupied

end State

end Registry
