import TomNotifier.Common.Basic

/-!
This module contains the messages the servers exchange, and the functions of third-party crates that
turn them and the identifiers in them to and from bytes and strings.
-/

namespace TomNotifier

structure Timestamp where
  seconds : Int64
  nanos : Int32
  deriving DecidableEq

inductive NotificationStatusProtobuf where
  | new
  | updated
  | deleted
  deriving DecidableEq, Repr

structure NotificationProtobuf where
  id : String
  status : Int32
  timestamp : Option Timestamp
  createdBy : Option String
  seen : Option Bool
  contentType : Option String
  content : Option Bytes
  deriving DecidableEq

structure RabbitmqNotificationProtobuf where
  userIds : List String
  notification : Option NotificationProtobuf
  deriving DecidableEq

structure RabbitmqConfirmationProtobuf where
  userId : String
  id : String
  deriving DecidableEq

inductive NetworkStatusProtobuf where
  | ok
  | error
  deriving DecidableEq, Repr

structure WebSocketNotificationProtobuf where
  messageId : String
  messageTimestamp : Option Timestamp
  networkStatus : Int32
  notification : Option NotificationProtobuf
  deriving DecidableEq

structure WebSocketConfirmationProtobuf where
  messageId : String
  deriving DecidableEq

namespace NotificationStatusProtobuf

def toInt32 : NotificationStatusProtobuf → Int32
  | .new => 0
  | .updated => 1
  | .deleted => 2

def ofInt32? (n : Int32) : Option NotificationStatusProtobuf :=
  if n = 0 then
    some .new
  else if n = 1 then
    some .updated
  else if n = 2 then
    some .deleted
  else
    none

end NotificationStatusProtobuf

def NotificationProtobuf.statusOrDefault (notification : NotificationProtobuf)
    : NotificationStatusProtobuf :=
  -- The generated getter: an unknown number is the first variant.
  (NotificationStatusProtobuf.ofInt32? notification.status).getD .new

def NetworkStatusProtobuf.toInt32 : NetworkStatusProtobuf → Int32
  | .ok => 0
  | .error => 1

/--
The functions of `prost`, `uuid` and `bson` the servers call, and the range of `time`, which depends on
how the crate is built. Nothing is assumed about them here.
-/
structure Codec where
  encodeRabbitmqNotification : RabbitmqNotificationProtobuf → Bytes
  decodeRabbitmqNotification : Bytes → Option RabbitmqNotificationProtobuf
  encodeRabbitmqConfirmation : RabbitmqConfirmationProtobuf → Bytes
  decodeRabbitmqConfirmation : Bytes → Option RabbitmqConfirmationProtobuf
  uuidToString : Uuid → String
  uuidFromStr : String → Option Uuid
  objectIdToHex : ObjectId → String
  objectIdFromStr : String → Option ObjectId
  minSeconds : Int64
  maxSeconds : Int64

namespace OffsetDateTime

def unixTimestamp (t : OffsetDateTime) : Int64 := Int64.ofInt (t / 1000000000)

def nanosecond (t : OffsetDateTime) : UInt32 := UInt32.ofNat (t % 1000000000).toNat

end OffsetDateTime

end TomNotifier
