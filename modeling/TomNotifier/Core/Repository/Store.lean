import TomNotifier.Core.Repository.Impl
import TomNotifier.Mongo.Lemmas

/-!
This module contains the atomic steps of the notifications collection and what each of them does to
every single document.
-/

namespace TomNotifier.Core

open Mongo

namespace NotificationEntity

def IsRecipient (n : NotificationEntity) (userId : Uuid) : Prop :=
  -- A broadcast has no recipients listed.
  n.userIds = [] ∨ userId ∈ n.userIds

def Unexpired (n : NotificationEntity) (now : OffsetDateTime) : Prop :=
  ∀ t ∈ n.invalidateAt, DateTime.ofOffsetDateTime now < t

def IsConfirmed (n : NotificationEntity) (userId : Uuid) : Prop :=
  ∃ c ∈ n.confirmations, c.userId = userId

def Accepts (n : NotificationEntity) (userId : Uuid) (now : OffsetDateTime) : Prop :=
  n.IsRecipient userId ∧ n.Unexpired now ∧ ¬n.IsConfirmed userId

instance (n : NotificationEntity) (userId : Uuid) : Decidable (n.IsRecipient userId) :=
  inferInstanceAs (Decidable (_ ∨ _))

instance (n : NotificationEntity) (now : OffsetDateTime) : Decidable (n.Unexpired now) :=
  inferInstanceAs (Decidable (∀ t ∈ n.invalidateAt, _))

instance (n : NotificationEntity) (userId : Uuid) : Decidable (n.IsConfirmed userId) :=
  inferInstanceAs (Decidable (∃ c ∈ n.confirmations, _))

instance (n : NotificationEntity) (userId : Uuid) (now : OffsetDateTime)
    : Decidable (n.Accepts userId now) :=
  inferInstanceAs (Decidable (_ ∧ _ ∧ _))

end NotificationEntity

/--
The atomic steps of the collection. `insertManyConfirmations` is the bulk update when nothing runs
in between its single-document updates `insertManyConfirmationsAt`.
-/
inductive Op where
  | insert (id : ObjectId) (userIds : List Uuid) (createdAt : OffsetDateTime)
      (invalidateAt : Option OffsetDateTime) (producerId : Uuid) (producerNotificationId : Int64)
      (contentType : String) (content : Bytes)
  | updateInvalidateAt (id : ObjectId) (producerId : Uuid) (invalidateAt : Option OffsetDateTime)
  | insertConfirmation (id : ObjectId) (userId : Uuid) (now : OffsetDateTime)
  | insertManyConfirmations (ids : List ObjectId) (userId : Uuid) (now : OffsetDateTime)
  | insertManyConfirmationsAt (id : ObjectId) (ids : List ObjectId) (userId : Uuid)
      (now : OffsetDateTime)
  | updateConfirmationSeen (id : ObjectId) (userId : Uuid) (seen : Bool)
  | delete (id : ObjectId) (userId : Uuid)

namespace Op

open NotificationsRepository in
def apply (op : Op) (docs : Notifications) : Except RepositoryError Unit × Notifications :=
  match op with
  | .insert id userIds createdAt invalidateAt producerId producerNotificationId contentType content =>
    let res := NotificationsRepository.insert id userIds createdAt invalidateAt producerId
      producerNotificationId contentType content docs
    (res.1.map (fun _ => ()), res.2)
  | .updateInvalidateAt id producerId invalidateAt =>
    NotificationsRepository.updateInvalidateAt id producerId invalidateAt docs
  | .insertConfirmation id userId now =>
    NotificationsRepository.insertConfirmation id userId now docs
  | .insertManyConfirmations ids userId now =>
    NotificationsRepository.insertManyConfirmations ids userId now docs
  | .insertManyConfirmationsAt id ids userId now =>
    (.ok (), NotificationsRepository.insertManyConfirmationsAt id ids userId now docs)
  | .updateConfirmationSeen id userId seen =>
    NotificationsRepository.updateConfirmationSeen id userId seen docs
  | .delete id userId =>
    NotificationsRepository.delete id userId docs

def onDocument (op : Op) (n : NotificationEntity) : NotificationEntity :=
  match op with
  | .insert .. => n
  | .updateInvalidateAt id producerId invalidateAt =>
    if n.id = id ∧ n.producerId = producerId then
      { n with invalidateAt := invalidateAt.map DateTime.ofOffsetDateTime }
    else
      n
  | .insertConfirmation id userId now =>
    if n.id = id ∧ n.Accepts userId now then
      NotificationsRepository.pushConfirmation userId (DateTime.ofOffsetDateTime now) n
    else
      n
  | .insertManyConfirmations ids userId now =>
    if n.id ∈ ids ∧ n.Accepts userId now then
      NotificationsRepository.pushConfirmation userId (DateTime.ofOffsetDateTime now) n
    else
      n
  | .insertManyConfirmationsAt id ids userId now =>
    if n.id = id ∧ n.id ∈ ids ∧ n.Accepts userId now then
      NotificationsRepository.pushConfirmation userId (DateTime.ofOffsetDateTime now) n
    else
      n
  | .updateConfirmationSeen id userId seen =>
    if n.id = id then
      NotificationsRepository.setPositional (NotificationsRepository.notDeletedQuery userId)
        (fun c => { c with notificationSeen := seen }) n
    else
      n
  | .delete id userId =>
    if n.id = id then
      NotificationsRepository.setPositional (.and [.eq (·.userId) userId])
        (fun c => { c with notificationDeleted := true }) n
    else
      n

def inserted (op : Op) (docs : Notifications) : Notifications :=
  match op with
  | .insert id userIds createdAt invalidateAt producerId producerNotificationId contentType content =>
    let n := {
      id
      createdAt := DateTime.ofOffsetDateTime createdAt
      invalidateAt := invalidateAt.map DateTime.ofOffsetDateTime
      userIds
      producerId
      producerNotificationId
      contentType
      content
      confirmations := []
    }
    if docs.any (NotificationsRepository.conflict n) then [] else [n]
  | .updateInvalidateAt .. => []
  | .insertConfirmation .. => []
  | .insertManyConfirmations .. => []
  | .insertManyConfirmationsAt .. => []
  | .updateConfirmationSeen .. => []
  | .delete .. => []

def userId? : Op → Option Uuid
  | .insert .. => none
  | .updateInvalidateAt .. => none
  | .insertConfirmation _ userId _ => some userId
  | .insertManyConfirmations _ userId _ => some userId
  | .insertManyConfirmationsAt _ _ userId _ => some userId
  | .updateConfirmationSeen _ userId _ => some userId
  | .delete _ userId => some userId

end Op

def exec (ops : List Op) (docs : Notifications) : Notifications :=
  ops.foldl (fun docs op => (op.apply docs).2) docs

@[simp]
theorem exec_nil (docs : Notifications) : exec [] docs = docs := by
  rfl

@[simp]
theorem exec_cons (op : Op) (ops : List Op) (docs : Notifications)
    : exec (op :: ops) docs = exec ops (op.apply docs).2 := by
  rfl

@[simp]
theorem exec_append (ops ops' : List Op) (docs : Notifications)
    : exec (ops ++ ops') docs = exec ops' (exec ops docs) := by
  simp [exec]

namespace NotificationsRepository

theorem recipientQuery_eq_true_iff {userId : Uuid} {n : NotificationEntity}
    : recipientQuery userId n = true ↔ n.IsRecipient userId := by
  simp [recipientQuery, NotificationEntity.IsRecipient, or_comm]

theorem notInvalidatedQuery_eq_true_iff {now : OffsetDateTime} {n : NotificationEntity}
    : notInvalidatedQuery (DateTime.ofOffsetDateTime now) n = true ↔ n.Unexpired now := by
  unfold NotificationEntity.Unexpired
  cases h : n.invalidateAt with
  | none => simp [notInvalidatedQuery, h]
  | some t => simp [notInvalidatedQuery, h]

theorem notConfirmedQuery_eq_true_iff {userId : Uuid} {n : NotificationEntity}
    : notConfirmedQuery userId n = true ↔ ¬n.IsConfirmed userId := by
  simp [notConfirmedQuery, NotificationEntity.IsConfirmed]

theorem insertConfirmationQuery_eq_true_iff {id : ObjectId} {userId : Uuid} {now : OffsetDateTime}
    {n : NotificationEntity}
    : insertConfirmationQuery id userId (DateTime.ofOffsetDateTime now) n = true
        ↔
      n.id = id ∧ n.Accepts userId now := by
  simp only [insertConfirmationQuery, Query.and_cons, Query.eq_apply, Query.and_nil, Bool.and_true,
    Bool.and_eq_true, decide_eq_true_eq, recipientQuery_eq_true_iff, notInvalidatedQuery_eq_true_iff,
    notConfirmedQuery_eq_true_iff, NotificationEntity.Accepts]
  tauto

theorem insertManyConfirmationsQuery_eq_true_iff {ids : List ObjectId} {userId : Uuid}
    {now : OffsetDateTime} {n : NotificationEntity}
    : insertManyConfirmationsQuery ids userId (DateTime.ofOffsetDateTime now) n = true
        ↔
      n.id ∈ ids ∧ n.Accepts userId now := by
  simp only [insertManyConfirmationsQuery, Query.and_cons, Query.mem_apply, Query.and_nil,
    Bool.and_true, Bool.and_eq_true, decide_eq_true_eq, recipientQuery_eq_true_iff,
    notInvalidatedQuery_eq_true_iff, notConfirmedQuery_eq_true_iff, NotificationEntity.Accepts]
  tauto

theorem undeliveredQuery_eq_true_iff {userId : Uuid} {now : OffsetDateTime} {n : NotificationEntity}
    : undeliveredQuery userId (DateTime.ofOffsetDateTime now) n = true ↔ n.Accepts userId now := by
  have hor : Query.or [.gt (·.invalidateAt) (DateTime.ofOffsetDateTime now), .isNull (·.invalidateAt)] n
      = notInvalidatedQuery (DateTime.ofOffsetDateTime now) n := by
    simp [notInvalidatedQuery, Bool.or_comm]
  simp only [undeliveredQuery, Query.and_cons, Query.and_nil, Bool.and_true, Bool.and_eq_true, hor,
    recipientQuery_eq_true_iff, notInvalidatedQuery_eq_true_iff, notConfirmedQuery_eq_true_iff,
    NotificationEntity.Accepts]
  tauto

@[simp]
theorem elemMatchQuery_apply {id : ObjectId} {q : Query NotificationConfirmation}
    {n : NotificationEntity}
    : elemMatchQuery id q n = (decide (n.id = id) && n.confirmations.any q) := by
  simp [elemMatchQuery]

@[simp]
theorem notDeletedQuery_apply {userId : Uuid} {c : NotificationConfirmation}
    : notDeletedQuery userId c
        =
      (decide (c.userId = userId) && decide (c.notificationDeleted = false)) := by
  simp [notDeletedQuery]

theorem setPositional_eq_ite {id : ObjectId} {q : Query NotificationConfirmation}
    {f : NotificationConfirmation → NotificationConfirmation} (n : NotificationEntity)
    : (if elemMatchQuery id q n then setPositional q f n else n)
        =
      if n.id = id then setPositional q f n else n := by
  by_cases hid : n.id = id
  . cases hany : n.confirmations.any q with
    | true => simp [hid, hany]
    | false =>
      have hself : updateFirst q f n.confirmations = n.confirmations := by
        rw [updateFirst_eq_self_iff]
        intro c hc
        have hq := List.find?_some hc
        have := List.any_eq_false.mp hany c (List.mem_of_find?_eq_some hc)
        contradiction
      simp [elemMatchQuery_apply, hany, setPositional, hself]
  . simp [hid]

section

variable {docs : Notifications} {id : ObjectId} {userId : Uuid} {now : OffsetDateTime}

theorem updateOne_fst_eq_map (id : ObjectId) {q : Query NotificationEntity}
    {f g : NotificationEntity → NotificationEntity} (hnodup : (docs.map (·.id)).Nodup)
    (hq : ∀ n, q n = true → n.id = id) (hg : ∀ n, (if q n then f n else n) = g n)
    : (updateOne q f docs).1 = docs.map g := by
  rw [updateOne_eq_map]
  . simp only [hg]
  . apply pairwise_of_nodup_map id hnodup
    intro n _ hn
    exact hq n hn

theorem insert_snd {userIds : List Uuid} {createdAt : OffsetDateTime}
    {invalidateAt : Option OffsetDateTime} {producerId : Uuid} {producerNotificationId : Int64}
    {contentType : String} {content : Bytes}
    : (insert id userIds createdAt invalidateAt producerId producerNotificationId contentType content
        docs).2
        =
      docs ++ (Op.insert id userIds createdAt invalidateAt producerId producerNotificationId
        contentType content).inserted docs := by
  simp only [insert, insertOne, Op.inserted]
  split
  . next h =>
    split at h
    . next hany => simp [hany]
    . simp at h
  . next h =>
    split at h
    . simp at h
    . next hany =>
      rw [Option.some.injEq] at h
      simp [hany, ← h]

theorem updateInvalidateAt_snd {producerId : Uuid} {invalidateAt : Option OffsetDateTime}
    (hnodup : (docs.map (·.id)).Nodup)
    : (updateInvalidateAt id producerId invalidateAt docs).2
        =
      docs.map (Op.updateInvalidateAt id producerId invalidateAt).onDocument := by
  apply updateOne_fst_eq_map id hnodup
  . intro n
    simp +contextual
  . intro n
    simp [Op.onDocument]

theorem insertConfirmation_snd (hnodup : (docs.map (·.id)).Nodup)
    : (insertConfirmation id userId now docs).2
        =
      docs.map (Op.insertConfirmation id userId now).onDocument := by
  apply updateOne_fst_eq_map id hnodup
  . intro n hn
    exact (insertConfirmationQuery_eq_true_iff.mp hn).1
  . intro n
    simp only [insertConfirmationQuery_eq_true_iff, Op.onDocument]

theorem insertManyConfirmations_snd {ids : List ObjectId}
    : (insertManyConfirmations ids userId now docs).2
        =
      docs.map (Op.insertManyConfirmations ids userId now).onDocument := by
  apply List.map_congr_left
  intro n _
  simp only [insertManyConfirmationsQuery_eq_true_iff, Op.onDocument]

theorem insertManyConfirmationsAt_eq_map {ids : List ObjectId} (hnodup : (docs.map (·.id)).Nodup)
    : insertManyConfirmationsAt id ids userId now docs
        =
      docs.map (Op.insertManyConfirmationsAt id ids userId now).onDocument := by
  apply updateOne_fst_eq_map id hnodup
  . intro n
    simp +contextual
  . intro n
    simp [insertManyConfirmationsQuery_eq_true_iff, Op.onDocument]

theorem updateConfirmationSeen_snd {seen : Bool} (hnodup : (docs.map (·.id)).Nodup)
    : (updateConfirmationSeen id userId seen docs).2
        =
      docs.map (Op.updateConfirmationSeen id userId seen).onDocument := by
  apply updateOne_fst_eq_map id hnodup
  . intro n
    simp +contextual
  . exact setPositional_eq_ite

theorem delete_snd (hnodup : (docs.map (·.id)).Nodup)
    : (delete id userId docs).2 = docs.map (Op.delete id userId).onDocument := by
  apply updateOne_fst_eq_map id hnodup
  . intro n
    simp +contextual
  . exact setPositional_eq_ite

end

end NotificationsRepository

/--
A step rewrites every stored document on its own and then adds the inserted one.
-/
theorem Op.apply_snd (op : Op) {docs : Notifications} (hnodup : (docs.map (·.id)).Nodup)
    : (op.apply docs).2 = docs.map op.onDocument ++ op.inserted docs := by
  cases op with
  | insert =>
    change _ = docs.map (fun n => n) ++ _
    rw [List.map_id']
    exact NotificationsRepository.insert_snd
  | updateInvalidateAt =>
    rw [inserted, List.append_nil]
    exact NotificationsRepository.updateInvalidateAt_snd hnodup
  | insertConfirmation =>
    rw [inserted, List.append_nil]
    exact NotificationsRepository.insertConfirmation_snd hnodup
  | insertManyConfirmations =>
    rw [inserted, List.append_nil]
    exact NotificationsRepository.insertManyConfirmations_snd
  | insertManyConfirmationsAt =>
    rw [inserted, List.append_nil]
    exact NotificationsRepository.insertManyConfirmationsAt_eq_map hnodup
  | updateConfirmationSeen =>
    rw [inserted, List.append_nil]
    exact NotificationsRepository.updateConfirmationSeen_snd hnodup
  | delete =>
    rw [inserted, List.append_nil]
    exact NotificationsRepository.delete_snd hnodup

end TomNotifier.Core
