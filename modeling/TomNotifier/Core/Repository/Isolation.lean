import TomNotifier.Core.Repository.Outcome

/-!
This module contains what one user can see of the notifications collection, and that nothing done on
behalf of another user changes it.
-/

namespace TomNotifier.Core

open Mongo

/--
What a user can see of a document: none of the other users' confirmations.
-/
def NotificationEntity.view (userId : Uuid) (n : NotificationEntity) : NotificationEntity :=
  { n with confirmations := n.confirmations.filter (fun c => decide (c.userId = userId)) }

section

variable {userId userId' : Uuid} {n : NotificationEntity} {q : Query NotificationConfirmation}

theorem NotificationEntity.any_view (hq : ∀ c, q c = true → c.userId = userId)
    : (n.view userId).confirmations.any q = n.confirmations.any q := by
  rw [view, List.any_filter]
  congr 1
  funext c
  cases hqc : q c with
  | false => simp
  | true => simp [hq c hqc]

theorem NotificationEntity.find?_view (hq : ∀ c, q c = true → c.userId = userId)
    : (n.view userId).confirmations.find? q = n.confirmations.find? q := by
  rw [view, List.find?_filter]
  congr 1
  funext c
  cases hqc : q c with
  | false => simp
  | true => simp [hq c hqc]

namespace NotificationsRepository

theorem projectDelivered_view (hq : ∀ c, q c = true → c.userId = userId)
    : projectDelivered q (n.view userId) = projectDelivered q n := by
  simp only [projectDelivered, projectFirst, NotificationEntity.find?_view hq]
  rfl

theorem elemMatchQuery_view {id : ObjectId} (hq : ∀ c, q c = true → c.userId = userId)
    : elemMatchQuery id q (n.view userId) = elemMatchQuery id q n := by
  rw [elemMatchQuery_apply, elemMatchQuery_apply, NotificationEntity.any_view hq]
  rfl

theorem userId_of_notDeletedQuery {c : NotificationConfirmation}
    (h : notDeletedQuery userId c = true) : c.userId = userId := by
  simp at h
  exact h.1

theorem userId_of_confirmationFilter {filters : NotificationFilters} {c : NotificationConfirmation}
    (h : confirmationFilter userId filters c = true) : c.userId = userId := by
  cases hseen : filters.seen with
  | none =>
    simp only [confirmationFilter, hseen] at h
    exact userId_of_notDeletedQuery h
  | some seen =>
    simp only [confirmationFilter, hseen, Query.and_cons, Query.eq_apply, Bool.and_eq_true,
      decide_eq_true_eq] at h
    exact h.1

theorem notConfirmedQuery_view
    : notConfirmedQuery userId (n.view userId) = notConfirmedQuery userId n := by
  have := @NotificationEntity.any_view userId n (.eq (·.userId) userId) (by simp)
  simp only [notConfirmedQuery, Query.not, Query.elemMatch, this]

theorem map_limit {α β : Type} {f : α → β} {k : Nat} {xs : List α}
    : (limit k xs).map f = limit k (xs.map f) := by
  unfold limit
  split
  . rfl
  . exact List.map_take

section

variable {docs : Notifications}

theorem findDelivered_view {id : ObjectId}
    : findDelivered id userId (docs.map (.view userId)) = findDelivered id userId docs := by
  have hquery : elemMatchQuery id (notDeletedQuery userId) ∘ NotificationEntity.view userId
      = elemMatchQuery id (notDeletedQuery userId) := by
    funext n
    exact elemMatchQuery_view (fun c => userId_of_notDeletedQuery)
  simp only [findDelivered, List.find?_map, hquery, Option.map_map]
  congr 1
  funext n
  simp only [Function.comp_apply]
  rw [projectDelivered_view (fun c => userId_of_notDeletedQuery)]

theorem findManyDelivered_view {pagination : Pagination} {filters : NotificationFilters}
    : findManyDelivered userId pagination filters (docs.map (.view userId))
        =
      findManyDelivered userId pagination filters docs := by
  have hquery : Query.elemMatch (·.confirmations) (confirmationFilter userId filters)
        ∘ NotificationEntity.view userId
      = Query.elemMatch (·.confirmations) (confirmationFilter userId filters) := by
    funext n
    exact NotificationEntity.any_view (fun c => userId_of_confirmationFilter)
  have hproject : projectDelivered (confirmationFilter userId filters)
        ∘ NotificationEntity.view userId
      = projectDelivered (confirmationFilter userId filters) := by
    funext n
    exact projectDelivered_view (fun c => userId_of_confirmationFilter)
  simp only [findManyDelivered, List.filter_map, hquery]
  rw [← List.map_insertionSort (r := fun n n' : NotificationEntity => n.createdAt ≥ n'.createdAt)]
  . rw [← List.map_drop, ← map_limit, List.map_map (g := projectDelivered _), hproject]
  . intro n _ n' _
    rfl

theorem findManyUndelivered_view {now : OffsetDateTime}
    : findManyUndelivered userId now (docs.map (.view userId))
        =
      findManyUndelivered userId now docs := by
  have hquery : undeliveredQuery userId (DateTime.ofOffsetDateTime now)
        ∘ NotificationEntity.view userId
      = undeliveredQuery userId (DateTime.ofOffsetDateTime now) := by
    funext n
    simp only [Function.comp_apply, undeliveredQuery, Query.and_cons, notConfirmedQuery_view]
    rfl
  simp only [findManyUndelivered, List.filter_map, hquery]
  rw [← List.map_insertionSort (r := fun n n' : NotificationEntity => n.createdAt ≤ n'.createdAt)]
  . rw [List.map_map (g := projectUndelivered)]
    rfl
  . intro n _ n' _
    rfl

end

end NotificationsRepository

theorem NotificationEntity.view_pushConfirmation {t : DateTime} (hne : userId' ≠ userId)
    : (NotificationsRepository.pushConfirmation userId t n).view userId' = n.view userId' := by
  simp [view, NotificationsRepository.pushConfirmation, hne.symm]

end

namespace Op

variable {op : Op} {userId userId' : Uuid}

theorem inserted_of_userId? (h : op.userId? = some userId) (docs : Notifications)
    : op.inserted docs = [] := by
  cases op with
  | insert => contradiction
  | updateInvalidateAt => contradiction
  | insertConfirmation => rfl
  | insertManyConfirmations => rfl
  | insertManyConfirmationsAt => rfl
  | updateConfirmationSeen => rfl
  | delete => rfl

theorem onDocument_invalidateAt (h : op.userId? = some userId) (n : NotificationEntity)
    : (op.onDocument n).invalidateAt = n.invalidateAt := by
  cases op with
  | insert => contradiction
  | updateInvalidateAt => contradiction
  | insertConfirmation => dsimp only [onDocument]; split <;> rfl
  | insertManyConfirmations => dsimp only [onDocument]; split <;> rfl
  | insertManyConfirmationsAt => dsimp only [onDocument]; split <;> rfl
  | updateConfirmationSeen => dsimp only [onDocument]; split <;> rfl
  | delete => dsimp only [onDocument]; split <;> rfl

theorem onDocument_eq (h : op.userId? = some userId) (n : NotificationEntity)
    : op.onDocument n = { n with confirmations := (op.onDocument n).confirmations } := by
  have hinvalidate := onDocument_invalidateAt h n
  rcases op.exists_onDocument_eq n with ⟨invalidateAt, confirmations, heq⟩
  rw [heq] at hinvalidate ⊢
  rw [← hinvalidate]

theorem view_onDocument (h : op.userId? = some userId) (hne : userId' ≠ userId)
    (n : NotificationEntity) : (op.onDocument n).view userId' = n.view userId' := by
  rcases op.onDocument_cases n with ⟨userId'', _, hpush, _, heq⟩ | heq | ⟨_, q, f, huser, heq, hq, hf, _⟩
  . have huser := hpush.userId?_eq
    rw [h, Option.some.injEq] at huser
    rw [heq, ← huser]
    exact NotificationEntity.view_pushConfirmation hne
  . rw [onDocument_eq h n, heq]
  . rw [h, Option.some.injEq] at huser
    rw [onDocument_eq h n, heq, NotificationEntity.view, NotificationEntity.view]
    congr 1
    apply filter_updateFirst
    intro c _ hqc
    simp [hf, hq c hqc, ← huser, hne.symm]

theorem map_view_apply (h : op.userId? = some userId) (hne : userId' ≠ userId) (store : Store)
    : (op.apply store.docs).2.map (NotificationEntity.view userId')
        =
      store.docs.map (NotificationEntity.view userId') := by
  rw [op.apply_snd store.ids_nodup, inserted_of_userId? h, List.append_nil, List.map_map]
  apply List.map_congr_left
  intro n _
  exact view_onDocument h hne n

theorem onDocument_eq_self (h : op.userId? = some userId) {n : NotificationEntity}
    (hvalid : n.Valid) (hrec : ¬n.IsRecipient userId) : op.onDocument n = n := by
  rcases op.onDocument_cases n with ⟨_, _, hpush, haccepts, _⟩ | heq | ⟨_, q, f, huser, heq, hq, _⟩
  . have huser := hpush.userId?_eq
    rw [h, Option.some.injEq] at huser
    exact absurd (huser ▸ haccepts.1) hrec
  . rw [onDocument_eq h n, heq]
  . rw [h, Option.some.injEq] at huser
    have hself : updateFirst q f n.confirmations = n.confirmations := by
      rw [updateFirst_eq_self_iff]
      intro c hc
      have hrec' := hvalid.isRecipient c (List.mem_of_find?_eq_some hc)
      rw [hq c (List.find?_some hc), ← huser] at hrec'
      exact absurd hrec' hrec
    rw [onDocument_eq h n, heq, hself]

end Op

namespace NotificationsRepository

variable {userId : Uuid} {store : Store} {m : Notification}

theorem isRecipient_of_findDelivered {id : ObjectId}
    (h : findDelivered id userId store.docs = some m)
    : m.id = id ∧ ∃ n ∈ store.docs, n.id = m.id ∧ n.IsRecipient userId := by
  simp only [findDelivered, Option.map_map, Option.map_eq_some_iff] at h
  rcases h with ⟨n, hfind, rfl⟩
  have hmem := List.mem_of_find?_eq_some hfind
  have hq := List.find?_some hfind
  simp only [elemMatchQuery_apply, Bool.and_eq_true, decide_eq_true_eq, List.any_eq_true] at hq
  rcases hq with ⟨hid, c, hc, hqc⟩
  refine ⟨hid, n, hmem, rfl, ?_⟩
  rw [← userId_of_notDeletedQuery hqc]
  exact (store.valid n hmem).isRecipient c hc

theorem mem_of_mem_limit {α : Type} {k : Nat} {x : α} {xs : List α} (h : x ∈ limit k xs)
    : x ∈ xs := by
  unfold limit at h
  split at h
  . exact h
  . exact List.mem_of_mem_take h

theorem isRecipient_of_mem_findManyDelivered {pagination : Pagination}
    {filters : NotificationFilters}
    (h : m ∈ findManyDelivered userId pagination filters store.docs)
    : ∃ n ∈ store.docs, n.id = m.id ∧ n.IsRecipient userId := by
  simp only [findManyDelivered, List.map_map, List.mem_map] at h
  rcases h with ⟨n, hn, rfl⟩
  have hn := List.mem_of_mem_drop (mem_of_mem_limit hn)
  rw [List.mem_insertionSort, List.mem_filter, Query.elemMatch_apply, List.any_eq_true] at hn
  rcases hn with ⟨hmem, c, hc, hqc⟩
  refine ⟨n, hmem, rfl, ?_⟩
  rw [← userId_of_confirmationFilter hqc]
  exact (store.valid n hmem).isRecipient c hc

theorem mem_findManyUndelivered_iff {now : OffsetDateTime} {docs : Notifications}
    : m ∈ findManyUndelivered userId now docs
        ↔
      ∃ n ∈ docs, n.Accepts userId now ∧ Notification.ofFindEntity (projectUndelivered n) = m := by
  simp only [findManyUndelivered, List.map_map, List.mem_map, List.mem_insertionSort,
    List.mem_filter, undeliveredQuery_eq_true_iff, and_assoc, Function.comp_apply]

end NotificationsRepository

section

variable {store : Store} {n : NotificationEntity} {userId : Uuid}

theorem Store.not_isRecipient_of_id_eq (hn : n ∈ store.docs) (hrec : ¬n.IsRecipient userId)
    {n' : NotificationEntity} (hn' : n' ∈ store.docs) (hid : n'.id = n.id)
    : ¬n'.IsRecipient userId := by
  rwa [Store.eq_of_id_eq hn' hn hid]

theorem Store.not_found_of_not_isRecipient (hn : n ∈ store.docs) (hrec : ¬n.IsRecipient userId)
    : (∀ now, ∀ m ∈ NotificationsRepository.findManyUndelivered userId now store.docs,
        m.id ≠ n.id)
      ∧ (∀ id, ∀ m ∈ NotificationsRepository.findDelivered id userId store.docs, m.id ≠ n.id)
      ∧ ∀ pagination filters,
        ∀ m ∈ NotificationsRepository.findManyDelivered userId pagination filters store.docs,
          m.id ≠ n.id := by
  refine ⟨?_, ?_, ?_⟩
  . intro now m hm hid
    rcases NotificationsRepository.mem_findManyUndelivered_iff.mp hm with ⟨n', hn', haccepts, rfl⟩
    exact Store.not_isRecipient_of_id_eq hn hrec hn' hid haccepts.1
  . intro id m hm hid
    rcases (NotificationsRepository.isRecipient_of_findDelivered hm).2 with ⟨n', hn', hid', hrec'⟩
    exact Store.not_isRecipient_of_id_eq hn hrec hn' (hid'.trans hid) hrec'
  . intro pagination filters m hm hid
    rcases NotificationsRepository.isRecipient_of_mem_findManyDelivered hm with
      ⟨n', hn', hid', hrec'⟩
    exact Store.not_isRecipient_of_id_eq hn hrec hn' (hid'.trans hid) hrec'

theorem Store.refused_of_not_isRecipient (hn : n ∈ store.docs) (hrec : ¬n.IsRecipient userId)
    : (∀ now, (NotificationsRepository.insertConfirmation n.id userId now store.docs).1
        = .error .noDocumentUpdated)
      ∧ (∀ seen, (NotificationsRepository.updateConfirmationSeen n.id userId seen store.docs).1
        = .error .noDocumentUpdated)
      ∧ (NotificationsRepository.delete n.id userId store.docs).1 = .error .noDocumentUpdated := by
  have hdelivered : ¬∃ n' ∈ store.docs, n'.id = n.id ∧ n'.IsDelivered userId := by
    rw [Store.exists_isDelivered_iff]
    rintro ⟨n', hn', hid, hrec', _⟩
    exact Store.not_isRecipient_of_id_eq hn hrec hn' hid hrec'
  refine ⟨?_, ?_, ?_⟩
  . intro now
    apply NotificationsRepository.documentUpdated_of_ne_ok
    intro hok
    rcases NotificationsRepository.insertConfirmation_fst_eq_ok_iff.mp hok with
      ⟨n', hn', hid, haccepts⟩
    exact Store.not_isRecipient_of_id_eq hn hrec hn' hid haccepts.1
  . intro seen
    apply NotificationsRepository.documentUpdated_of_ne_ok
    intro hok
    exact hdelivered (NotificationsRepository.updateConfirmationSeen_fst_eq_ok_iff.mp hok)
  . apply NotificationsRepository.documentUpdated_of_ne_ok
    intro hok
    exact hdelivered ((NotificationsRepository.delete_fst_eq_ok_iff store).mp hok)

end

/--
Users do not interfere: nobody sees what is done on behalf of another user, and a notification that
is not addressed to a user is neither found nor changed on behalf of that user.
-/
theorem exec_users_isolated (ops : List Op)
    : (∀ op : Op, ∀ userId userId', op.userId? = some userId → userId ≠ userId' →
        (∀ now,
          NotificationsRepository.findManyUndelivered userId' now (op.apply (exec ops [])).2
            = NotificationsRepository.findManyUndelivered userId' now (exec ops []))
        ∧ (∀ id,
          NotificationsRepository.findDelivered id userId' (op.apply (exec ops [])).2
            = NotificationsRepository.findDelivered id userId' (exec ops []))
        ∧ ∀ pagination filters,
          NotificationsRepository.findManyDelivered userId' pagination filters
              (op.apply (exec ops [])).2
            = NotificationsRepository.findManyDelivered userId' pagination filters (exec ops []))
      ∧ ∀ n ∈ exec ops [], ∀ userId, n.userIds ≠ [] → userId ∉ n.userIds →
        (∀ now, ∀ m ∈ NotificationsRepository.findManyUndelivered userId now (exec ops []),
          m.id ≠ n.id)
        ∧ (∀ id, ∀ m ∈ NotificationsRepository.findDelivered id userId (exec ops []), m.id ≠ n.id)
        ∧ (∀ pagination filters,
          ∀ m ∈ NotificationsRepository.findManyDelivered userId pagination filters (exec ops []),
            m.id ≠ n.id)
        ∧ (∀ now, (NotificationsRepository.insertConfirmation n.id userId now (exec ops [])).1
            = .error .noDocumentUpdated)
        ∧ (∀ seen, (NotificationsRepository.updateConfirmationSeen n.id userId seen (exec ops [])).1
            = .error .noDocumentUpdated)
        ∧ (NotificationsRepository.delete n.id userId (exec ops [])).1 = .error .noDocumentUpdated
        ∧ ∀ op : Op, op.userId? = some userId → n ∈ (op.apply (exec ops [])).2 := by
  have hdocs := Store.docs_ofOps ops
  rw [← hdocs]
  constructor
  . intro op userId userId' huser hne
    have hview := Op.map_view_apply huser hne.symm (Store.ofOps ops)
    refine ⟨?_, ?_, ?_⟩
    . intro now
      rw [← NotificationsRepository.findManyUndelivered_view, hview]
      exact NotificationsRepository.findManyUndelivered_view
    . intro id
      rw [← NotificationsRepository.findDelivered_view, hview]
      exact NotificationsRepository.findDelivered_view
    . intro pagination filters
      rw [← NotificationsRepository.findManyDelivered_view, hview]
      exact NotificationsRepository.findManyDelivered_view
  . intro n hn userId hmulti hnot
    have hvalid := (Store.ofOps ops).valid n hn
    have hrec : ¬n.IsRecipient userId := fun h => h.elim hmulti hnot
    rcases Store.not_found_of_not_isRecipient hn hrec with ⟨hundelivered, hdelivered, hmany⟩
    rcases Store.refused_of_not_isRecipient hn hrec with ⟨hinsert, hupdate, hdelete⟩
    refine ⟨hundelivered, hdelivered, hmany, hinsert, hupdate, hdelete, ?_⟩
    intro op huser
    rw [op.apply_snd (Store.ofOps ops).ids_nodup]
    apply List.mem_append_left
    exact List.mem_map.mpr ⟨n, hn, Op.onDocument_eq_self huser hvalid hrec⟩

end TomNotifier.Core
