/-!
This module contains a party that works with its own copy of a value that others publish from time
to time. A mark tells it that there is a value it has not seen, and it goes and reads the value when
it looks at the mark. There may be no value, then it waits for one.
-/

namespace Follower

universe u

inductive Phase where
  | working
  -- about to read the value
  | reading
  -- has read that there is no value
  | waiting
  deriving DecidableEq

end Follower

structure Follower (α : Type u) where
  published : Option α
  unseen : Bool
  stored : Option α
  phase : Follower.Phase

namespace Follower

variable {α : Type u} {f f' : Follower α} {value : Option α}

def publish (value : Option α) (f : Follower α) : Follower α :=
  { f with published := value, unseen := true }

/-- A step of the follower's own. -/
inductive Moves (f : Follower α) : Follower α → Prop where
  | stay : Moves f f
  | notice (hunseen : f.unseen = true) : Moves f { f with unseen := false, phase := .reading }
  | read (hphase : f.phase = .reading)
    : Moves f { f with
        unseen := false
        stored := f.published
        phase := if f.published.isSome then .working else .waiting
      }

/-- The follower has a value when it works, and nothing has escaped it unless the mark says so. -/
structure Informed (f : Follower α) : Prop where
  stored : f.phase = .working → f.stored.isSome
  working : f.phase = .working → f.published ≠ f.stored → f.unseen = true
  waiting : f.phase = .waiting → f.published.isSome → f.unseen = true

theorem Moves.of_eq (h : f' = f) : Moves f f' := by
  rw [h]
  exact .stay

theorem Moves.published_eq (h : Moves f f') : f'.published = f.published := by
  cases h <;> rfl

theorem Moves.eq_of_working (h : Moves f f') (hworking : f.phase = .working)
    : f' = f ∨ f'.phase = .reading := by
  cases h with
  | stay => exact .inl rfl
  | notice hunseen => exact .inr rfl
  | read hphase =>
    rw [hworking] at hphase
    contradiction

theorem Informed.publish (h : f.Informed) : (f.publish value).Informed where
  stored := h.stored
  working _ _ := rfl
  waiting _ _ := rfl

theorem Informed.moves (h : f.Informed) (hmoves : Moves f f') : f'.Informed := by
  cases hmoves with
  | stay => exact h
  | notice hunseen => constructor <;> simp
  | read hphase =>
    cases hpublished : f.published with
    | none => constructor <;> simp
    | some a => constructor <;> simp

end Follower
