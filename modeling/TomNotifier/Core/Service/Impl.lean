import TomNotifier.Core.Repository.Impl

/-!
This module contains the parts of `NotificationsServiceImpl` that do not wait for anything: its
validations, how it maps the repository's errors, and what it hands to the producer service.
-/

namespace TomNotifier.Core

structure InputNotification where
  invalidateAt : Option OffsetDateTime
  userIds : List Uuid
  producerNotificationId : Int64
  contentType : String
  content : Bytes
  deriving DecidableEq

structure NotificationsServiceConfig where
  maxContentLen : Nat

/-- `crate::error::Error`, without the roles the endpoints check before they call the service. -/
inductive Error where
  | notificationNotExist
  | validation (message : String)
  | notificationAlreadySaved
  | validationNotificationTooLarge (size : Nat) (maxSize : Nat)
  | database (err : RepositoryError)
  deriving DecidableEq

inductive ProducedNotification where
  | new (userIds : List Uuid) (id : ObjectId) (timestamp : OffsetDateTime) (createdBy : Uuid)
      (seen : Bool) (contentType : String) (content : Bytes)
  | updated (userId : Uuid) (id : ObjectId) (seen : Bool) (timestamp : OffsetDateTime)
  | deleted (userId : Uuid) (id : ObjectId) (timestamp : OffsetDateTime)
  deriving DecidableEq

namespace ProducedNotification

/-- The users it is for, nobody's name means that it is for everybody. -/
def userIds : ProducedNotification → List Uuid
  | .new userIds _ _ _ _ _ _ => userIds
  | .updated userId _ _ _ => [userId]
  | .deleted userId _ _ => [userId]

def id : ProducedNotification → ObjectId
  | .new _ id _ _ _ _ _ => id
  | .updated _ id _ _ => id
  | .deleted _ id _ => id

def timestamp : ProducedNotification → OffsetDateTime
  | .new _ _ timestamp _ _ _ _ => timestamp
  | .updated _ _ _ timestamp => timestamp
  | .deleted _ _ timestamp => timestamp

end ProducedNotification

namespace NotificationsService

def validateInvalidateAtNotPassed (invalidateAt : Option OffsetDateTime) (now : OffsetDateTime)
    : Except Error Unit :=
  match invalidateAt with
  | some invalidateAt =>
    if invalidateAt ≤ now then
      .error (.validation "invalidate_at already passed")
    else
      .ok ()
  | none => .ok ()

def validateContentNotTooLong (config : NotificationsServiceConfig) (content : Bytes)
    : Except Error Unit :=
  if content.length > config.maxContentLen then
    .error (.validationNotificationTooLarge content.length config.maxContentLen)
  else
    .ok ()

def validateSaveNotification (config : NotificationsServiceConfig) (notification : InputNotification)
    (now : OffsetDateTime) : Except Error Unit := do
  validateInvalidateAtNotPassed notification.invalidateAt now
  validateContentNotTooLong config notification.content

def mapInsertError : RepositoryError → Error
  | .insertUniqueViolation => .notificationAlreadySaved
  | err => .database err

def mapUpdateError : RepositoryError → Error
  | .noDocumentUpdated => .notificationNotExist
  | err => .database err

def sendNew (inserted : InsertedNotification) : ProducedNotification :=
  .new inserted.userIds inserted.id inserted.createdAt inserted.producerId false inserted.contentType
    inserted.content

end NotificationsService

end TomNotifier.Core
