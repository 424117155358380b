import TomNotifier.Core.Repository.Outcome

/-!
This module contains the status of a notification for a user as the whole store has it, and what a
step of the store does to it.
-/

namespace TomNotifier.Core

open Mongo

def Store.status (store : Store) (id : ObjectId) (userId : Uuid) : Status :=
  match store.docs.find? (fun n => decide (n.id = id)) with
  | none => .undelivered
  | some n => n.status userId

section

variable {store : Store} {op : Op} {id : ObjectId} {userId : Uuid}

theorem Store.find?_apply
    : (store.apply op).docs.find? (fun n => decide (n.id = id))
        =
      ((store.docs.find? (fun n => decide (n.id = id))).map op.onDocument).or
        ((op.inserted store.docs).find? (fun n => decide (n.id = id))) := by
  have hid : (fun n : NotificationEntity => decide (n.id = id)) ∘ op.onDocument
      = fun n => decide (n.id = id) := by
    funext n
    simp
  rw [docs_apply, List.find?_append, List.find?_map, hid]

theorem Store.status_apply
    : (store.apply op).status id userId
        =
      (store.status id userId).apply
        ((store.docs.find? (fun n => decide (n.id = id))).bind (op.event? · userId)) := by
  rw [status, find?_apply, status]
  cases hfind : store.docs.find? (fun n => decide (n.id = id)) with
  | none =>
    rcases op.inserted_cases store.docs with hnil | ⟨n, hn, hconf, _⟩
    . simp [hnil]
    . rw [hn]
      by_cases hid : n.id = id
      . simp [hid, NotificationEntity.status, NotificationEntity.confirmationOf, hconf]
      . simp [hid]
  | some n =>
    have hvalid := store.valid n (List.mem_of_find?_eq_some hfind)
    simpa using hvalid.status_onDocument op userId

theorem Store.status_apply_of_error {e : RepositoryError} (h : (op.apply store.docs).1 = .error e)
    : (store.apply op).status id userId = store.status id userId := by
  have hdocs : (store.apply op).docs = store.docs := Op.apply_snd_of_error h
  rw [status, status, hdocs]

theorem Status.apply_confirm {s : Status} (h : s ≠ .undelivered) : s.apply (some .confirm) = s := by
  cases s with
  | undelivered => contradiction
  | delivered seen => rfl
  | deleted => rfl

theorem Store.status_apply_of_ne_undelivered (h : store.status id userId ≠ .undelivered)
    (hseen : ∀ seen, op ≠ .updateConfirmationSeen id userId seen) (hdelete : op ≠ .delete id userId)
    : (store.apply op).status id userId = store.status id userId := by
  rw [status_apply]
  cases hfind : store.docs.find? (fun n => decide (n.id = id)) with
  | none => rfl
  | some n =>
    have hid : n.id = id := by simpa using List.find?_some hfind
    subst hid
    have hevent : op.event? n userId = none ∨ op.event? n userId = some .confirm := by
      cases op with
      | insert => exact Or.inl rfl
      | updateInvalidateAt => exact Or.inl rfl
      | insertConfirmation => simp only [Op.event?]; split <;> simp
      | insertManyConfirmations => simp only [Op.event?]; split <;> simp
      | insertManyConfirmationsAt => simp only [Op.event?]; split <;> simp
      | updateConfirmationSeen id userId' seen =>
        refine Or.inl (if_neg ?_)
        rintro ⟨rfl, rfl⟩
        exact hseen seen rfl
      | delete id userId' =>
        refine Or.inl (if_neg ?_)
        rintro ⟨rfl, rfl⟩
        exact hdelete rfl
    rcases hevent with hevent | hevent
    . simp [hevent]
    . simp [hevent, Status.apply_confirm h]

theorem Store.find?_eq_some_of_mem {n : NotificationEntity} (hn : n ∈ store.docs) (hid : n.id = id)
    : store.docs.find? (fun n => decide (n.id = id)) = some n := by
  apply find?_eq_some_of_nodup_map id store.ids_nodup
  . intro n _
    simp
  . exact hn
  . simpa using hid

theorem Store.status_eq_of_mem {n : NotificationEntity} (hn : n ∈ store.docs) (hid : n.id = id)
    : store.status id userId = n.status userId := by
  rw [status, find?_eq_some_of_mem hn hid]

end

end TomNotifier.Core
