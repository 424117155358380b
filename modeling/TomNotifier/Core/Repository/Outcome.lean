import TomNotifier.Core.Repository.Lifecycle

/-!
This module contains when the calls of the repository succeed, what a failed call leaves behind and,
from both, the life of every (notification, recipient) pair over whole runs.
-/

namespace TomNotifier.Core

open Mongo

namespace NotificationsRepository

variable {docs : Notifications} {id : ObjectId} {userId : Uuid} {now : OffsetDateTime}

theorem documentUpdated_eq_ok_iff {updated : Bool}
    : documentUpdated updated = .ok () ↔ updated = true := by
  cases updated <;> simp [documentUpdated]

theorem documentUpdated_eq_error_iff {updated : Bool} {e : RepositoryError}
    : documentUpdated updated = .error e ↔ updated = false ∧ e = .noDocumentUpdated := by
  cases updated <;> simp [documentUpdated, eq_comm]

theorem documentUpdated_of_ne_ok {updated : Bool} (h : documentUpdated updated ≠ .ok ())
    : documentUpdated updated = .error .noDocumentUpdated := by
  cases updated with
  | false => rfl
  | true => contradiction

theorem insert_snd_of_error {userIds : List Uuid} {createdAt : OffsetDateTime}
    {invalidateAt : Option OffsetDateTime} {producerId : Uuid} {producerNotificationId : Int64}
    {contentType : String} {content : Bytes} {e : RepositoryError}
    (h : (insert id userIds createdAt invalidateAt producerId producerNotificationId contentType
      content docs).1 = .error e)
    : (insert id userIds createdAt invalidateAt producerId producerNotificationId contentType content
        docs).2 = docs := by
  unfold insert at h ⊢
  dsimp only at h ⊢
  split
  . rfl
  . next heq => simp [heq] at h

theorem updateInvalidateAt_fst_eq_ok_iff {producerId : Uuid} {invalidateAt : Option OffsetDateTime}
    : (updateInvalidateAt id producerId invalidateAt docs).1 = .ok ()
        ↔
      ∃ n ∈ docs, n.id = id ∧ n.producerId = producerId := by
  rw [updateInvalidateAt, documentUpdated_eq_ok_iff, decide_eq_true_eq]
  rw [updateOne_matchedCount_eq_one_iff]
  simp

theorem updateInvalidateAt_snd_of_error {producerId : Uuid} {invalidateAt : Option OffsetDateTime}
    {e : RepositoryError} (h : (updateInvalidateAt id producerId invalidateAt docs).1 = .error e)
    : (updateInvalidateAt id producerId invalidateAt docs).2 = docs := by
  rw [updateInvalidateAt, documentUpdated_eq_error_iff, decide_eq_false_iff_not] at h
  apply updateOne_fst_of_matchedCount_ne_one
  exact h.1

theorem pushConfirmation_ne {t : DateTime} {n : NotificationEntity}
    : pushConfirmation userId t n ≠ n := by
  intro h
  have := congrArg (fun n => n.confirmations.length) h
  simp [pushConfirmation] at this

theorem insertConfirmation_fst_eq_ok_iff
    : (insertConfirmation id userId now docs).1 = .ok ()
        ↔
      ∃ n ∈ docs, n.id = id ∧ n.Accepts userId now := by
  rw [insertConfirmation, documentUpdated_eq_ok_iff, decide_eq_true_eq, gt_iff_lt]
  rw [updateOne_modifiedCount_pos_iff]
  simp only [pushConfirmation_ne, ne_eq, not_false_eq_true, and_true]
  rw [← Option.isSome_iff_exists, List.find?_isSome]
  simp only [insertConfirmationQuery_eq_true_iff]

theorem insertConfirmation_snd_of_error {e : RepositoryError}
    (h : (insertConfirmation id userId now docs).1 = .error e)
    : (insertConfirmation id userId now docs).2 = docs := by
  rw [insertConfirmation, documentUpdated_eq_error_iff, decide_eq_false_iff_not] at h
  apply updateOne_fst_of_modifiedCount_eq_zero
  omega

theorem updateConfirmationSeen_fst_eq_ok_iff {seen : Bool}
    : (updateConfirmationSeen id userId seen docs).1 = .ok ()
        ↔
      ∃ n ∈ docs, n.id = id ∧ n.IsDelivered userId := by
  rw [updateConfirmationSeen, documentUpdated_eq_ok_iff, decide_eq_true_eq]
  rw [updateOne_matchedCount_eq_one_iff]
  simp [NotificationEntity.IsDelivered]

theorem updateConfirmationSeen_snd_of_error {seen : Bool} {e : RepositoryError}
    (h : (updateConfirmationSeen id userId seen docs).1 = .error e)
    : (updateConfirmationSeen id userId seen docs).2 = docs := by
  rw [updateConfirmationSeen, documentUpdated_eq_error_iff, decide_eq_false_iff_not] at h
  apply updateOne_fst_of_matchedCount_ne_one
  exact h.1

theorem setPositional_eq_self_iff {q : Query NotificationConfirmation}
    {f : NotificationConfirmation → NotificationConfirmation} {n : NotificationEntity}
    : setPositional q f n = n ↔ ∀ c, n.confirmations.find? q = some c → f c = c := by
  rw [← updateFirst_eq_self_iff]
  constructor
  . intro h
    exact congrArg (·.confirmations) h
  . intro h
    rw [setPositional, h]

/--
`delete` does not look at the deleted flag. Setting it again is no modification, so the call is
refused all the same.
-/
theorem delete_fst_eq_ok_iff (store : Store)
    : (delete id userId store.docs).1 = .ok ()
        ↔
      ∃ n ∈ store.docs, n.id = id ∧ n.IsDelivered userId := by
  rw [delete, documentUpdated_eq_ok_iff, decide_eq_true_eq]
  rw [updateOne_modifiedCount_eq_one_iff]
  have hid : ∀ n ∈ store.docs, elemMatchQuery id (.and [.eq (·.userId) userId]) n = true → n.id = id
      := by
    intro n _ hq
    simp only [elemMatchQuery_apply, Bool.and_eq_true, decide_eq_true_eq] at hq
    exact hq.1
  constructor
  . rintro ⟨n, hfind, hne⟩
    have hmem := List.mem_of_find?_eq_some hfind
    rw [ne_eq, setPositional_eq_self_iff, not_forall] at hne
    rcases hne with ⟨c, hne⟩
    rw [Classical.not_imp] at hne
    refine ⟨n, hmem, hid n hmem (List.find?_some hfind), c, ?_, ?_, ?_⟩
    . exact List.mem_of_find?_eq_some hne.1
    . simpa using List.find?_some hne.1
    . cases hdel : c.notificationDeleted with
      | false => rfl
      | true => exact absurd (by rw [← hdel]) hne.2
  . rintro ⟨n, hmem, hn, c, hc, huser, hdel⟩
    have hfind : n.confirmations.find? (Query.and [.eq (·.userId) userId]) = some c := by
      apply find?_eq_some_of_nodup_map userId (store.valid n hmem).nodup
      . intro c' _
        simp
      . exact hc
      . simpa using huser
    refine ⟨n, ?_, ?_⟩
    . apply find?_eq_some_of_nodup_map id store.ids_nodup hid hmem
      simp only [elemMatchQuery_apply, hn, decide_true, Bool.true_and, List.any_eq_true]
      exact ⟨c, hc, by simp [huser]⟩
    . -- the flag changes, so the document counts as modified
      rw [ne_eq, setPositional_eq_self_iff]
      intro h
      have := congrArg (·.notificationDeleted) (h c hfind)
      simp [hdel] at this

theorem delete_snd_of_error {e : RepositoryError} (h : (delete id userId docs).1 = .error e)
    : (delete id userId docs).2 = docs := by
  rw [delete, documentUpdated_eq_error_iff, decide_eq_false_iff_not] at h
  apply updateOne_fst_of_modifiedCount_ne_one
  exact h.1

end NotificationsRepository

theorem Op.apply_snd_of_error {op : Op} {docs : Notifications} {e : RepositoryError}
    (h : (op.apply docs).1 = .error e) : (op.apply docs).2 = docs := by
  cases op with
  | insert id userIds createdAt invalidateAt producerId producerNotificationId contentType content =>
    dsimp only [apply] at h ⊢
    cases hres : (NotificationsRepository.insert id userIds createdAt invalidateAt producerId
      producerNotificationId contentType content docs).1 with
    | ok inserted =>
      rw [hres] at h
      contradiction
    | error e' => exact NotificationsRepository.insert_snd_of_error hres
  | updateInvalidateAt => exact NotificationsRepository.updateInvalidateAt_snd_of_error h
  | insertConfirmation => exact NotificationsRepository.insertConfirmation_snd_of_error h
  | insertManyConfirmations => contradiction
  | insertManyConfirmationsAt => contradiction
  | updateConfirmationSeen => exact NotificationsRepository.updateConfirmationSeen_snd_of_error h
  | delete => exact NotificationsRepository.delete_snd_of_error h

section

variable {n n' : NotificationEntity} {userId : Uuid}

/--
After the epoch the comparison of truncated clock readings loses nothing.
-/
theorem NotificationEntity.unexpired_iff {now : OffsetDateTime} (hnow : 0 ≤ now)
    : n.Unexpired now ↔ ∀ t ∈ n.invalidateAt, now < OffsetDateTime.ofDateTime t := by
  simp only [NotificationEntity.Unexpired, DateTime.ofOffsetDateTime_lt_iff hnow]

theorem NotificationEntity.Valid.confirmed_cases (h : n.Valid)
    : (¬n.IsConfirmed userId ∧ ¬n.IsDelivered userId ∧ ¬n.IsDeleted userId)
      ∨ (n.IsConfirmed userId ∧ n.IsDelivered userId ∧ ¬n.IsDeleted userId)
      ∨ (n.IsConfirmed userId ∧ ¬n.IsDelivered userId ∧ n.IsDeleted userId) := by
  have hconf : n.IsConfirmed userId ↔ n.status userId ≠ .undelivered := by
    rw [ne_eq, NotificationEntity.status_eq_undelivered_iff, not_not]
  rw [h.isDelivered_iff, h.isDeleted_iff, hconf]
  cases n.status userId with
  | undelivered => simp
  | delivered seen => simp
  | deleted => simp

theorem Status.exists_run_apply (s : Status) (e : Option Event)
    : ∃ events, System.run Status.next s events = some (s.apply e) := by
  cases e with
  | none => exact ⟨[], rfl⟩
  | some e =>
    cases hnext : s.next e with
    | none => exact ⟨[], by simp [Status.apply, hnext]⟩
    | some s' => exact ⟨[e], by simp [Status.apply, hnext]⟩

/--
`n'` is `n` later on: the same notification, its life having moved on for every user by events that
were enabled.
-/
def NotificationEntity.Continues (n n' : NotificationEntity) : Prop :=
  n'.id = n.id
    ∧ n'.userIds = n.userIds
    ∧ ∀ userId, ∃ events,
        System.run Status.next (n.status userId) events = some (n'.status userId)

theorem NotificationEntity.Continues.refl (n : NotificationEntity) : n.Continues n :=
  ⟨rfl, rfl, fun _ => ⟨[], rfl⟩⟩

theorem NotificationEntity.Continues.trans {n'' : NotificationEntity} (h : n.Continues n')
    (h' : n'.Continues n'') : n.Continues n'' := by
  refine ⟨h'.1.trans h.1, h'.2.1.trans h.2.1, ?_⟩
  intro userId
  rcases h.2.2 userId with ⟨events, hrun⟩
  rcases h'.2.2 userId with ⟨events', hrun'⟩
  exact ⟨events ++ events', System.run_append_eq_some.mpr ⟨_, hrun, hrun'⟩⟩

theorem NotificationEntity.Valid.continues_onDocument (h : n.Valid) (op : Op)
    : n.Continues (op.onDocument n) := by
  refine ⟨op.onDocument_id n, op.onDocument_userIds n, ?_⟩
  intro userId
  rw [h.status_onDocument op userId]
  exact Status.exists_run_apply _ _

theorem Status.stage_le_of_run {s s' : Status} {events : List Event}
    (hrun : System.run Status.next s events = some s') : s.stage ≤ s'.stage := by
  apply System.run_rel (R := fun s s' => s.stage ≤ s'.stage) _ _ _ hrun
  . intro s
    exact Nat.le_refl _
  . intro s t u
    exact Nat.le_trans
  . intro s e s' hstep
    have := stage_le_stage_apply s (some e)
    simpa [apply, hstep] using this

theorem NotificationEntity.Continues.isConfirmed (h : n.Continues n')
    (hconf : n.IsConfirmed userId) : n'.IsConfirmed userId := by
  rcases h.2.2 userId with ⟨events, hrun⟩
  by_contra hconf'
  have hle := Status.stage_le_of_run hrun
  rw [status_eq_undelivered_iff.mpr hconf'] at hle
  have hne := mt status_eq_undelivered_iff.mp (not_not.mpr hconf)
  cases hstatus : n.status userId with
  | undelivered => contradiction
  | delivered seen => simp [hstatus, Status.stage] at hle
  | deleted => simp [hstatus, Status.stage] at hle

theorem NotificationEntity.Continues.isDeleted (h : n.Continues n') (hvalid : n.Valid)
    (hvalid' : n'.Valid) (hdel : n.IsDeleted userId) : n'.IsDeleted userId := by
  rcases h.2.2 userId with ⟨events, hrun⟩
  have hle := Status.stage_le_of_run hrun
  rw [hvalid.isDeleted_iff] at hdel
  rw [hvalid'.isDeleted_iff]
  cases hstatus : n'.status userId with
  | undelivered => simp [hdel, hstatus, Status.stage] at hle
  | delivered seen => simp [hdel, hstatus, Status.stage] at hle
  | deleted => rfl

end

theorem Store.exists_continues (store : Store) (ops : List Op)
    : ∀ n ∈ store.docs, ∃ n' ∈ (store.exec ops).docs, n.Continues n' := by
  induction ops generalizing store with
  | nil =>
    intro n hn
    exact ⟨n, hn, .refl n⟩
  | cons op ops ih =>
    intro n hn
    rcases ih (store.apply op) _ (onDocument_mem_docs_apply hn op) with ⟨n', hn', hcont⟩
    exact ⟨n', hn', ((store.valid n hn).continues_onDocument op).trans hcont⟩

theorem Store.exec_append (store : Store) (ops ops' : List Op)
    : store.exec (ops ++ ops') = (store.exec ops).exec ops' := by
  exact List.foldl_append

theorem Store.docs_exec_ofOps (ops ops' : List Op)
    : ((ofOps ops).exec ops').docs = Core.exec (ops ++ ops') [] := by
  rw [← docs_ofOps, ofOps, ofOps, exec_append]

theorem Store.exists_unique_continues (store : Store) (ops : List Op)
    : ∀ n ∈ store.docs, ∃ n' ∈ (store.exec ops).docs,
        n.Continues n'
          ∧ (∀ n'' ∈ (store.exec ops).docs, n''.id = n.id → n'' = n')
          ∧ ∀ userId,
              (n.IsConfirmed userId → n'.IsConfirmed userId)
                ∧ (n.IsDeleted userId → n'.IsDeleted userId) := by
  intro n hn
  rcases store.exists_continues ops n hn with ⟨n', hn', hcont⟩
  refine ⟨n', hn', hcont, ?_, ?_⟩
  . intro n'' hn'' hid
    exact Store.eq_of_id_eq hn'' hn' (hid.trans hcont.1.symm)
  . intro userId
    exact ⟨hcont.isConfirmed, hcont.isDeleted (store.valid n hn) ((store.exec ops).valid n' hn')⟩

theorem NotificationEntity.Valid.isRecipient_of_isDelivered {n : NotificationEntity} (h : n.Valid)
    {userId : Uuid} (hdel : n.IsDelivered userId) : n.IsRecipient userId := by
  rcases hdel with ⟨c, hc, huser, _⟩
  rw [← huser]
  exact h.isRecipient c hc

theorem Store.exists_isDelivered_iff {store : Store} {id : ObjectId} {userId : Uuid}
    : (∃ n ∈ store.docs, n.id = id ∧ n.IsDelivered userId)
        ↔
      ∃ n ∈ store.docs, n.id = id ∧ n.IsRecipient userId ∧ n.IsDelivered userId := by
  constructor
  . rintro ⟨n, hn, hid, h⟩
    exact ⟨n, hn, hid, (store.valid n hn).isRecipient_of_isDelivered h, h⟩
  . rintro ⟨n, hn, hid, _, h⟩
    exact ⟨n, hn, hid, h⟩

/--
`n'` is `n` after a step in the life of the notification `id` for the user. The pair has taken that
step, and everything else about any notification is what it was.
-/
def NotificationEntity.Moves (id : ObjectId) (userId : Uuid) (e : Event)
    (n n' : NotificationEntity) : Prop :=
  if n.id = id then
    (n.status userId).next e = some (n'.status userId)
      ∧ (∀ userId', userId' ≠ userId → n'.status userId' = n.status userId')
      ∧ n' = { n with confirmations := n'.confirmations }
  else
    n' = n

theorem NotificationEntity.Valid.moves_onDocument {n : NotificationEntity} (h : n.Valid) {op : Op}
    {id : ObjectId} {userId : Uuid} {e : Event} {s : Status}
    (hnext : n.id = id → (n.status userId).next e = some s)
    (hevent : n.id = id → op.event? n userId = some e)
    (hother : ∀ userId', userId' ≠ userId → op.event? n userId' = none)
    (hinvalidateAt : (op.onDocument n).invalidateAt = n.invalidateAt)
    (hne : n.id ≠ id → op.onDocument n = n) : n.Moves id userId e (op.onDocument n) := by
  unfold Moves
  split
  . next hid =>
    refine ⟨?_, ?_, ?_⟩
    . rw [h.status_onDocument, hevent hid, hnext hid, Status.apply, Option.bind_some, hnext hid]
      rfl
    . intro userId' huser
      rw [h.status_onDocument, hother userId' huser, Status.apply_none]
    . rcases op.exists_onDocument_eq n with ⟨invalidateAt, confirmations, heq⟩
      rw [heq] at hinvalidateAt ⊢
      rw [← hinvalidateAt]
  . next hid => exact hne hid

section

variable {store : Store} {op : Op} {id : ObjectId} {userId : Uuid}

theorem Store.forall₂_apply {R : NotificationEntity → NotificationEntity → Prop} (op : Op)
    (hinserted : op.inserted store.docs = []) (h : ∀ n ∈ store.docs, R n (op.onDocument n))
    : List.Forall₂ R store.docs (op.apply store.docs).2 := by
  rw [op.apply_snd store.ids_nodup, hinserted, List.append_nil, List.forall₂_map_right_iff]
  exact List.forall₂_same.mpr h

theorem Store.moves_insertConfirmation {now : OffsetDateTime}
    (h : (NotificationsRepository.insertConfirmation id userId now store.docs).1 = .ok ())
    : List.Forall₂ (NotificationEntity.Moves id userId .confirm) store.docs
        (NotificationsRepository.insertConfirmation id userId now store.docs).2 := by
  rw [NotificationsRepository.insertConfirmation_fst_eq_ok_iff] at h
  rcases h with ⟨n, hn, hid, hrec, hexp, hconf⟩
  apply Store.forall₂_apply (.insertConfirmation id userId now) rfl
  intro n' hn'
  have heq : n'.id = id → n' = n := by
    intro hid'
    exact Store.eq_of_id_eq hn' hn (hid'.trans hid.symm)
  apply (store.valid n' hn').moves_onDocument (s := .delivered false)
  . intro hid'
    rw [heq hid', NotificationEntity.status_eq_undelivered_iff.mpr hconf]
    rfl
  . intro hid'
    rw [heq hid']
    exact if_pos ⟨hid, rfl, hrec, hexp⟩
  . intro userId' huser
    exact if_neg (fun h => huser h.2.1)
  . dsimp only [Op.onDocument]
    split <;> rfl
  . intro hid'
    exact if_neg (fun h => hid' h.1)

theorem Store.moves_updateConfirmationSeen {seen : Bool}
    (h : (NotificationsRepository.updateConfirmationSeen id userId seen store.docs).1 = .ok ())
    : List.Forall₂ (NotificationEntity.Moves id userId (.see seen)) store.docs
        (NotificationsRepository.updateConfirmationSeen id userId seen store.docs).2 := by
  rw [NotificationsRepository.updateConfirmationSeen_fst_eq_ok_iff] at h
  rcases h with ⟨n, hn, hid, hdel⟩
  rcases (store.valid n hn).isDelivered_iff.mp hdel with ⟨seen', hstatus⟩
  apply Store.forall₂_apply (.updateConfirmationSeen id userId seen) rfl
  intro n' hn'
  apply (store.valid n' hn').moves_onDocument (s := .delivered seen)
  . intro hid'
    rw [Store.eq_of_id_eq hn' hn (hid'.trans hid.symm), hstatus]
    rfl
  . intro hid'
    exact if_pos ⟨hid', rfl⟩
  . intro userId' huser
    exact if_neg (fun h => huser h.2)
  . dsimp only [Op.onDocument]
    split <;> rfl
  . intro hid'
    exact if_neg hid'

theorem Store.moves_delete (h : (NotificationsRepository.delete id userId store.docs).1 = .ok ())
    : List.Forall₂ (NotificationEntity.Moves id userId .delete) store.docs
        (NotificationsRepository.delete id userId store.docs).2 := by
  rw [NotificationsRepository.delete_fst_eq_ok_iff] at h
  rcases h with ⟨n, hn, hid, hdel⟩
  rcases (store.valid n hn).isDelivered_iff.mp hdel with ⟨seen, hstatus⟩
  apply Store.forall₂_apply (.delete id userId) rfl
  intro n' hn'
  apply (store.valid n' hn').moves_onDocument (s := .deleted)
  . intro hid'
    rw [Store.eq_of_id_eq hn' hn (hid'.trans hid.symm), hstatus]
    rfl
  . intro hid'
    exact if_pos ⟨hid', rfl⟩
  . intro userId' huser
    exact if_neg (fun h => huser h.2)
  . dsimp only [Op.onDocument]
    split <;> rfl
  . intro hid'
    exact if_neg hid'

theorem Store.updateInvalidateAt_snd_of_ok {producerId : Uuid}
    {invalidateAt : Option OffsetDateTime}
    (h : (NotificationsRepository.updateInvalidateAt id producerId invalidateAt store.docs).1
      = .ok ())
    : List.Forall₂
        (fun n n' : NotificationEntity =>
          n' = if n.id = id then
              { n with invalidateAt := invalidateAt.map DateTime.ofOffsetDateTime }
            else
              n)
        store.docs
        (NotificationsRepository.updateInvalidateAt id producerId invalidateAt store.docs).2 := by
  rw [NotificationsRepository.updateInvalidateAt_fst_eq_ok_iff] at h
  rcases h with ⟨n, hn, hid, hproducer⟩
  apply Store.forall₂_apply (.updateInvalidateAt id producerId invalidateAt) rfl
  intro n' hn'
  by_cases hid' : n'.id = id
  . have heq := Store.eq_of_id_eq hn' hn (hid'.trans hid.symm)
    simp [Op.onDocument, heq, hid, hproducer]
  . simp [Op.onDocument, hid']

end

/--
The life of every (notification, recipient) pair in every reachable store and over every run, and
the calls that drive it: when they succeed, and that one that has succeeded has taken the step of its
own pair and of no other.
-/
theorem exec_lifecycle (ops : List Op)
    : (∀ n ∈ exec ops [], ∀ userId, n.IsRecipient userId →
        (¬n.IsConfirmed userId ∧ ¬n.IsDelivered userId ∧ ¬n.IsDeleted userId)
        ∨ (n.IsConfirmed userId ∧ n.IsDelivered userId ∧ ¬n.IsDeleted userId)
        ∨ (n.IsConfirmed userId ∧ ¬n.IsDelivered userId ∧ n.IsDeleted userId))
      ∧ (∀ ops', ∀ n ∈ exec ops [], ∃ n' ∈ exec (ops ++ ops') [],
          n.Continues n'
            ∧ (∀ n'' ∈ exec (ops ++ ops') [], n''.id = n.id → n'' = n')
            ∧ ∀ userId,
                (n.IsConfirmed userId → n'.IsConfirmed userId)
                  ∧ (n.IsDeleted userId → n'.IsDeleted userId))
      ∧ (∀ id userId now,
          (NotificationsRepository.insertConfirmation id userId now (exec ops [])).1 = .ok ()
            ↔
          ∃ n ∈ exec ops [],
            n.id = id ∧ n.IsRecipient userId ∧ n.Unexpired now ∧ ¬n.IsConfirmed userId)
      ∧ (∀ id userId seen,
          (NotificationsRepository.updateConfirmationSeen id userId seen (exec ops [])).1 = .ok ()
            ↔
          ∃ n ∈ exec ops [], n.id = id ∧ n.IsRecipient userId ∧ n.IsDelivered userId)
      ∧ (∀ id userId,
          (NotificationsRepository.delete id userId (exec ops [])).1 = .ok ()
            ↔
          ∃ n ∈ exec ops [], n.id = id ∧ n.IsRecipient userId ∧ n.IsDelivered userId)
      ∧ (∀ id producerId invalidateAt,
          (NotificationsRepository.updateInvalidateAt id producerId invalidateAt (exec ops [])).1
              = .ok ()
            ↔
          ∃ n ∈ exec ops [], n.id = id ∧ n.producerId = producerId)
      ∧ (∀ op : Op,
          (op.apply (exec ops [])).1 = .error .noDocumentUpdated →
            (op.apply (exec ops [])).2 = exec ops [])
      ∧ (∀ id userId now,
          (NotificationsRepository.insertConfirmation id userId now (exec ops [])).1 = .ok () →
            List.Forall₂ (NotificationEntity.Moves id userId .confirm) (exec ops [])
              (NotificationsRepository.insertConfirmation id userId now (exec ops [])).2)
      ∧ (∀ id userId seen,
          (NotificationsRepository.updateConfirmationSeen id userId seen (exec ops [])).1 = .ok () →
            List.Forall₂ (NotificationEntity.Moves id userId (.see seen)) (exec ops [])
              (NotificationsRepository.updateConfirmationSeen id userId seen (exec ops [])).2)
      ∧ (∀ id userId,
          (NotificationsRepository.delete id userId (exec ops [])).1 = .ok () →
            List.Forall₂ (NotificationEntity.Moves id userId .delete) (exec ops [])
              (NotificationsRepository.delete id userId (exec ops [])).2)
      ∧ ∀ id producerId invalidateAt,
          (NotificationsRepository.updateInvalidateAt id producerId invalidateAt (exec ops [])).1
              = .ok () →
            List.Forall₂
              (fun n n' : NotificationEntity =>
                n' = if n.id = id then
                    { n with invalidateAt := invalidateAt.map DateTime.ofOffsetDateTime }
                  else
                    n)
              (exec ops [])
              (NotificationsRepository.updateInvalidateAt id producerId invalidateAt
                (exec ops [])).2 := by
  have hdocs := Store.docs_ofOps ops
  refine ⟨?_, ?_, ?_, ?_, ?_, ?_, ?_, ?_, ?_, ?_, ?_⟩
  . intro n hn userId _
    rw [← hdocs] at hn
    exact ((Store.ofOps ops).valid n hn).confirmed_cases
  . intro ops'
    rw [← hdocs, ← Store.docs_exec_ofOps]
    exact (Store.ofOps ops).exists_unique_continues ops'
  . intro id userId now
    exact NotificationsRepository.insertConfirmation_fst_eq_ok_iff
  . intro id userId seen
    rw [NotificationsRepository.updateConfirmationSeen_fst_eq_ok_iff, ← hdocs]
    exact Store.exists_isDelivered_iff
  . intro id userId
    rw [← hdocs, NotificationsRepository.delete_fst_eq_ok_iff]
    exact Store.exists_isDelivered_iff
  . intro id producerId invalidateAt
    exact NotificationsRepository.updateInvalidateAt_fst_eq_ok_iff
  . intro op
    exact Op.apply_snd_of_error
  . intro id userId now
    rw [← hdocs]
    exact Store.moves_insertConfirmation
  . intro id userId seen
    rw [← hdocs]
    exact Store.moves_updateConfirmationSeen
  . intro id userId
    rw [← hdocs]
    exact Store.moves_delete
  . intro id producerId invalidateAt
    rw [← hdocs]
    exact Store.updateInvalidateAt_snd_of_ok

end TomNotifier.Core
