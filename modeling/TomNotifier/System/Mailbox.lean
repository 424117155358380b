import Mathlib.Data.List.Basic

/-!
This module contains mailboxes: letters are posted to all open boxes of a key, a box that has been
shut gets no more, and nobody takes a letter out.
-/

universe u v

structure Mailbox (κ : Type u) (μ : Type v) where
  key : κ
  isOpen : Bool
  letters : List μ

namespace Mailbox

variable {κ : Type u} {μ : Type v}

/-- What happens to the boxes themselves before letters are posted. -/
inductive Change (κ : Type u) where
  | keep
  | rent (key : κ)
  | shutAll (key : κ)
  | shut (i : Nat)

def shut (box : Mailbox κ μ) : Mailbox κ μ := { box with isOpen := false }

def post (letters : κ → List μ) (box : Mailbox κ μ) : Mailbox κ μ :=
  if box.isOpen then { box with letters := box.letters ++ letters box.key } else box

variable [DecidableEq κ]

def change (boxes : List (Mailbox κ μ)) : Change κ → List (Mailbox κ μ)
  | .keep => boxes
  | .rent key => boxes ++ [⟨key, true, []⟩]
  | .shutAll key => boxes.map (fun box => if box.key = key then box.shut else box)
  | .shut i => boxes.modify i shut

def turn (boxes : List (Mailbox κ μ)) (c : Change κ) (letters : κ → List μ)
    : List (Mailbox κ μ) :=
  (change boxes c).map (post letters)

def Change.shuts (i : Nat) (key : κ) : Change κ → Bool
  | .shutAll key' => decide (key = key')
  | .shut j => decide (j = i)
  | _ => false

variable {boxes : List (Mailbox κ μ)} {box : Mailbox κ μ} {i : Nat} {c : Change κ}
variable {letters : κ → List μ} {key : κ}

theorem getElem?_change (h : boxes[i]? = some box)
    : (change boxes c)[i]? = some { box with isOpen := box.isOpen && !c.shuts i box.key } := by
  have hlt := (List.getElem?_eq_some_iff.mp h).1
  cases c with
  | keep => simp [change, Change.shuts, h]
  | rent key => simp [change, Change.shuts, List.getElem?_append_left hlt, h]
  | shutAll key =>
    rw [change, List.getElem?_map, h, Option.map_some]
    by_cases hkey : box.key = key
    . simp [Change.shuts, hkey, shut]
    . simp [Change.shuts, hkey]
  | shut j =>
    rw [change, List.getElem?_modify, h]
    by_cases hij : j = i
    . simp [Change.shuts, hij, shut]
    . simp [Change.shuts, hij]

/-- A box that is there stays its key's, and gets its letters exactly if it is still open. -/
theorem getElem?_turn (h : boxes[i]? = some box)
    : (turn boxes c letters)[i]? = some {
        key := box.key
        isOpen := box.isOpen && !c.shuts i box.key
        letters := box.letters
          ++ if box.isOpen && !c.shuts i box.key then letters box.key else []
      } := by
  rw [turn, List.getElem?_map, getElem?_change h, Option.map_some]
  cases hopen : (box.isOpen && !c.shuts i box.key) with
  | true => simp [post]
  | false => simp [post]

theorem getElem?_turn_rent
    : (turn boxes (.rent key) letters)[boxes.length]? = some ⟨key, true, letters key⟩ := by
  rw [turn, change, List.getElem?_map, List.getElem?_concat_length]
  rfl

theorem length_turn
    : (turn boxes c letters).length
        =
      boxes.length + match c with | .rent _ => 1 | _ => 0 := by
  cases c with
  | keep => simp [turn, change]
  | rent key => simp [turn, change]
  | shutAll key => simp [turn, change]
  | shut i => simp [turn, change]

end Mailbox
