import TomNotifier.Common.Basic

/-!
This module contains the data model of the notifications collection: the stored documents and what
the repository hands out.
-/

namespace TomNotifier.Core

structure NotificationConfirmation where
  userId : Uuid
  notificationDeliveredAt : DateTime
  notificationSeen : Bool
  notificationDeleted : Bool
  deriving DecidableEq, Repr

structure NotificationEntity where
  id : ObjectId
  createdAt : DateTime
  invalidateAt : Option DateTime
  userIds : List Uuid
  producerId : Uuid
  producerNotificationId : Int64
  contentType : String
  content : Bytes
  confirmations : List NotificationConfirmation
  deriving DecidableEq

structure NotificationConfirmationFindEntity where
  notificationSeen : Bool
  deriving DecidableEq, Repr

/--
What a find query returns of a document, `confirmations` being empty when it is not projected.
-/
structure NotificationFindEntity where
  id : ObjectId
  createdAt : DateTime
  producerId : Uuid
  contentType : String
  content : Bytes
  confirmations : List NotificationConfirmationFindEntity
  deriving DecidableEq

structure Notification where
  id : ObjectId
  createdAt : OffsetDateTime
  producerId : Uuid
  seen : Bool
  contentType : String
  content : Bytes
  deriving DecidableEq

structure InsertedNotification where
  id : ObjectId
  createdAt : OffsetDateTime
  invalidateAt : Option OffsetDateTime
  userIds : List Uuid
  producerId : Uuid
  producerNotificationId : Int64
  contentType : String
  content : Bytes
  deriving DecidableEq

/--
`repository::Error`, where `mongo` stands for any error of the driver. The repository itself only
answers the other two, the systems above decide when the driver fails.
-/
inductive RepositoryError where
  | insertUniqueViolation
  | noDocumentUpdated
  | mongo
  deriving DecidableEq, Repr

structure Pagination where
  pageIdx : UInt32
  pageSize : UInt32
  deriving DecidableEq, Repr

structure NotificationFilters where
  seen : Option Bool
  deriving DecidableEq, Repr

abbrev Notifications := List NotificationEntity

def Notification.ofFindEntity (entity : NotificationFindEntity) : Notification where
  id := entity.id
  createdAt := OffsetDateTime.ofDateTime entity.createdAt
  producerId := entity.producerId
  seen := (entity.confirmations.head?.map (·.notificationSeen)).getD false
  contentType := entity.contentType
  content := entity.content

end TomNotifier.Core
