import TomNotifier.Common.Protobuf
import TomNotifier.Core.Service.Impl
import TomNotifier.Rabbitmq.Basic

/-!
This module contains `NotificationsProducerServiceImpl`, which turns what the notifications service
hands to it into messages for the exchange.
-/

namespace TomNotifier.Core.NotificationsProducerService

def send (routingKey : String) (encodedMessage : Bytes) : Rabbitmq.Message where
  routingKey
  basicProperties := { persistence := true }
  content := encodedMessage

/-- The `Timestamp` every one of the messages is built with. -/
def timestampOf (timestamp : OffsetDateTime) : Timestamp where
  seconds := timestamp.unixTimestamp
  nanos := timestamp.nanosecond.toInt32

/-- What the messages of `send_new`, `send_updated` and `send_deleted` have in common. -/
def messageOf (codec : Codec) (userIds : List Uuid) (id : ObjectId)
    (status : NotificationStatusProtobuf) (timestamp : OffsetDateTime) (createdBy : Option Uuid)
    (seen : Option Bool) (contentType : Option String) (content : Option Bytes)
    : RabbitmqNotificationProtobuf where
  userIds := userIds.map codec.uuidToString
  notification := some {
    id := codec.objectIdToHex id
    status := status.toInt32
    timestamp := some (timestampOf timestamp)
    createdBy := createdBy.map codec.uuidToString
    seen
    contentType
    content
  }

def newMessage (codec : Codec) (userIds : List Uuid) (id : ObjectId) (timestamp : OffsetDateTime)
    (createdBy : Uuid) (seen : Bool) (contentType : String) (content : Bytes)
    : RabbitmqNotificationProtobuf :=
  messageOf codec userIds id .new timestamp (some createdBy) (some seen) (some contentType)
    (some content)

def updatedMessage (codec : Codec) (userId : Uuid) (id : ObjectId) (seen : Bool)
    (timestamp : OffsetDateTime) : RabbitmqNotificationProtobuf :=
  messageOf codec [userId] id .updated timestamp none (some seen) none none

def deletedMessage (codec : Codec) (userId : Uuid) (id : ObjectId) (timestamp : OffsetDateTime)
    : RabbitmqNotificationProtobuf :=
  messageOf codec [userId] id .deleted timestamp none none none none

def sendNew (codec : Codec) (userIds : List Uuid) (id : ObjectId) (timestamp : OffsetDateTime)
    (createdBy : Uuid) (seen : Bool) (contentType : String) (content : Bytes) : Rabbitmq.Message :=
  let message := newMessage codec userIds id timestamp createdBy seen contentType content
  send "NEW" (codec.encodeRabbitmqNotification message)

def sendUpdated (codec : Codec) (userId : Uuid) (id : ObjectId) (seen : Bool)
    (timestamp : OffsetDateTime) : Rabbitmq.Message :=
  let message := updatedMessage codec userId id seen timestamp
  send "UPDATED" (codec.encodeRabbitmqNotification message)

def sendDeleted (codec : Codec) (userId : Uuid) (id : ObjectId) (timestamp : OffsetDateTime)
    : Rabbitmq.Message :=
  let message := deletedMessage codec userId id timestamp
  send "DELETED" (codec.encodeRabbitmqNotification message)

def message (codec : Codec) : ProducedNotification → RabbitmqNotificationProtobuf
  | .new userIds id timestamp createdBy seen contentType content =>
    newMessage codec userIds id timestamp createdBy seen contentType content
  | .updated userId id seen timestamp => updatedMessage codec userId id seen timestamp
  | .deleted userId id timestamp => deletedMessage codec userId id timestamp

/-- The method the notifications service has called. -/
def produce (codec : Codec) : ProducedNotification → Rabbitmq.Message
  | .new userIds id timestamp createdBy seen contentType content =>
    sendNew codec userIds id timestamp createdBy seen contentType content
  | .updated userId id seen timestamp => sendUpdated codec userId id seen timestamp
  | .deleted userId id timestamp => sendDeleted codec userId id timestamp

variable {codec : Codec} {notification : ProducedNotification}

theorem produce_content
    : (produce codec notification).content
        =
      codec.encodeRabbitmqNotification (message codec notification) := by
  cases notification <;> rfl

theorem message_eq (codec : Codec) (notification : ProducedNotification)
    : ∃ status createdBy seen contentType content,
        message codec notification
          =
        messageOf codec notification.userIds notification.id status notification.timestamp createdBy
          seen contentType content := by
  cases notification with
  | new userIds id timestamp createdBy seen contentType content =>
    exact ⟨.new, some createdBy, some seen, some contentType, some content, rfl⟩
  | updated userId id seen timestamp => exact ⟨.updated, none, some seen, none, none, rfl⟩
  | deleted userId id timestamp => exact ⟨.deleted, none, none, none, none, rfl⟩

end TomNotifier.Core.NotificationsProducerService
