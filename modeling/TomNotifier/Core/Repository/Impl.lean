import TomNotifier.Core.Repository.Basic
import TomNotifier.Mongo.Basic
import Mathlib.Data.List.Sort

/-!
This module contains `NotificationsRepositoryImpl`: its queries, projections and updates. A clock
reading the source takes inside a function is an argument here, and so is the `_id` the driver
generates.
-/

namespace TomNotifier.Core

open Mongo

namespace NotificationsRepository

def conflict (d d' : NotificationEntity) : Bool :=
  -- The index on `_id` and `unique_index_producer_id_producer_notification_id`.
  decide (d.id = d'.id)
    || decide (d.producerId = d'.producerId ∧ d.producerNotificationId = d'.producerNotificationId)

def insert (id : ObjectId) (userIds : List Uuid) (createdAt : OffsetDateTime)
    (invalidateAt : Option OffsetDateTime) (producerId : Uuid) (producerNotificationId : Int64)
    (contentType : String) (content : Bytes) (docs : Notifications)
    : Except RepositoryError InsertedNotification × Notifications :=
  let insertEntity : NotificationEntity := {
    id
    createdAt := DateTime.ofOffsetDateTime createdAt
    invalidateAt := invalidateAt.map DateTime.ofOffsetDateTime
    userIds
    producerId
    producerNotificationId
    contentType
    content
    confirmations := []
  }
  match insertOne conflict insertEntity docs with
  | none => (.error .insertUniqueViolation, docs)
  | some docs =>
    let inserted := {
      id
      createdAt
      invalidateAt
      userIds
      producerId
      producerNotificationId
      contentType := insertEntity.contentType
      content := insertEntity.content
    }
    (.ok inserted, docs)

def documentUpdated (updated : Bool) : Except RepositoryError Unit :=
  match updated with
  | true => .ok ()
  | false => .error .noDocumentUpdated

def updateInvalidateAt (id : ObjectId) (producerId : Uuid) (invalidateAt : Option OffsetDateTime)
    (docs : Notifications) : Except RepositoryError Unit × Notifications :=
  let invalidateAt := invalidateAt.map DateTime.ofOffsetDateTime
  let res := updateOne
    (.and [.eq (·.id) id, .eq (·.producerId) producerId])
    (fun n => { n with invalidateAt })
    docs
  (documentUpdated (res.2.matchedCount = 1), res.1)

def recipientQuery (userId : Uuid) : Query NotificationEntity :=
  .or [.contains (·.userIds) userId, .size (·.userIds) 0]

def notInvalidatedQuery (now : DateTime) : Query NotificationEntity :=
  .or [.isNull (·.invalidateAt), .gt (·.invalidateAt) now]

def notConfirmedQuery (userId : Uuid) : Query NotificationEntity :=
  .not (.elemMatch (·.confirmations) (.eq (·.userId) userId))

def pushConfirmation (userId : Uuid) (now : DateTime) (n : NotificationEntity)
    : NotificationEntity :=
  let confirmation := {
    userId
    notificationDeliveredAt := now
    notificationSeen := false
    notificationDeleted := false
  }
  { n with confirmations := n.confirmations ++ [confirmation] }

def insertConfirmationQuery (id : ObjectId) (userId : Uuid) (now : DateTime)
    : Query NotificationEntity :=
  .and [
    .eq (·.id) id,
    .and [recipientQuery userId, notInvalidatedQuery now],
    notConfirmedQuery userId
  ]

def insertConfirmation (id : ObjectId) (userId : Uuid) (now : OffsetDateTime) (docs : Notifications)
    : Except RepositoryError Unit × Notifications :=
  let now := DateTime.ofOffsetDateTime now
  let res := updateOne (insertConfirmationQuery id userId now) (pushConfirmation userId now) docs
  (documentUpdated (res.2.modifiedCount > 0), res.1)

def insertManyConfirmationsQuery (ids : List ObjectId) (userId : Uuid) (now : DateTime)
    : Query NotificationEntity :=
  .and [
    .mem (·.id) ids,
    .and [recipientQuery userId, notInvalidatedQuery now],
    notConfirmedQuery userId
  ]

def insertManyConfirmations (ids : List ObjectId) (userId : Uuid) (now : OffsetDateTime)
    (docs : Notifications) : Except RepositoryError Unit × Notifications :=
  let now := DateTime.ofOffsetDateTime now
  let res := updateMany
    (insertManyConfirmationsQuery ids userId now)
    (pushConfirmation userId now)
    docs
  (.ok (), res.1)

/--
`update_many` is atomic for each document only. This is its update of the single document `id`.
-/
def insertManyConfirmationsAt (id : ObjectId) (ids : List ObjectId) (userId : Uuid)
    (now : OffsetDateTime) (docs : Notifications) : Notifications :=
  let now := DateTime.ofOffsetDateTime now
  let res := updateOne
    (.and [.eq (·.id) id, insertManyConfirmationsQuery ids userId now])
    (pushConfirmation userId now)
    docs
  res.1

def elemMatchQuery (id : ObjectId) (confirmation : Query NotificationConfirmation)
    : Query NotificationEntity :=
  .and [.eq (·.id) id, .elemMatch (·.confirmations) confirmation]

def setPositional (confirmation : Query NotificationConfirmation)
    (set : NotificationConfirmation → NotificationConfirmation) (n : NotificationEntity)
    : NotificationEntity :=
  { n with confirmations := updateFirst confirmation set n.confirmations }

def notDeletedQuery (userId : Uuid) : Query NotificationConfirmation :=
  .and [.eq (·.userId) userId, .eq (·.notificationDeleted) false]

def updateConfirmationSeen (id : ObjectId) (userId : Uuid) (seen : Bool) (docs : Notifications)
    : Except RepositoryError Unit × Notifications :=
  let confirmation := notDeletedQuery userId
  let res := updateOne
    (elemMatchQuery id confirmation)
    (setPositional confirmation (fun c => { c with notificationSeen := seen }))
    docs
  -- matched instead of modified: replacing false with false is no modification
  (documentUpdated (res.2.matchedCount = 1), res.1)

def delete (id : ObjectId) (userId : Uuid) (docs : Notifications)
    : Except RepositoryError Unit × Notifications :=
  let confirmation : Query NotificationConfirmation := .and [.eq (·.userId) userId]
  let res := updateOne
    (elemMatchQuery id confirmation)
    (setPositional confirmation (fun c => { c with notificationDeleted := true }))
    docs
  (documentUpdated (res.2.modifiedCount = 1), res.1)

def projectDelivered (confirmation : Query NotificationConfirmation) (n : NotificationEntity)
    : NotificationFindEntity where
  id := n.id
  createdAt := n.createdAt
  producerId := n.producerId
  contentType := n.contentType
  content := n.content
  confirmations := (projectFirst confirmation n.confirmations).map (⟨·.notificationSeen⟩)

def projectUndelivered (n : NotificationEntity) : NotificationFindEntity where
  id := n.id
  createdAt := n.createdAt
  producerId := n.producerId
  contentType := n.contentType
  content := n.content
  confirmations := []

def findDelivered (id : ObjectId) (userId : Uuid) (docs : Notifications) : Option Notification :=
  let confirmation := notDeletedQuery userId
  let entity := docs.find? (elemMatchQuery id confirmation)
  (entity.map (projectDelivered confirmation)).map Notification.ofFindEntity

def limit {α : Type} (n : Nat) (xs : List α) : List α :=
  -- 0 stands for no limit.
  if n = 0 then xs else xs.take n

def confirmationFilter (userId : Uuid) (filters : NotificationFilters)
    : Query NotificationConfirmation :=
  match filters.seen with
  | none => notDeletedQuery userId
  | some seen =>
    .and [.eq (·.userId) userId, .eq (·.notificationDeleted) false, .eq (·.notificationSeen) seen]

/--
The sort is stable with respect to the natural order, so ties are broken alike in every query. The
product of the page size and index is computed in 32 bits before it is widened.
-/
def findManyDelivered (userId : Uuid) (pagination : Pagination) (filters : NotificationFilters)
    (docs : Notifications) : List Notification :=
  let confirmation := confirmationFilter userId filters
  let cursor := docs.filter (Query.elemMatch (·.confirmations) confirmation)
  let cursor := cursor.insertionSort (fun n n' => n.createdAt ≥ n'.createdAt)
  let cursor := cursor.drop (pagination.pageSize * pagination.pageIdx).toNat
  let cursor := limit pagination.pageSize.toNat cursor
  (cursor.map (projectDelivered confirmation)).map Notification.ofFindEntity

def undeliveredQuery (userId : Uuid) (now : DateTime) : Query NotificationEntity :=
  .and [
    .and [recipientQuery userId, .or [.gt (·.invalidateAt) now, .isNull (·.invalidateAt)]],
    notConfirmedQuery userId
  ]

def findManyUndelivered (userId : Uuid) (now : OffsetDateTime) (docs : Notifications)
    : List Notification :=
  let now := DateTime.ofOffsetDateTime now
  let cursor := docs.filter (undeliveredQuery userId now)
  let cursor := cursor.insertionSort (fun n n' => n.createdAt ≤ n'.createdAt)
  (cursor.map projectUndelivered).map Notification.ofFindEntity

end NotificationsRepository

end TomNotifier.Core
