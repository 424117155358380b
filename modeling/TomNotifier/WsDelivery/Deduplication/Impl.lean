import Mathlib.Data.Int.Order.Basic
import TomNotifier.Common.Protobuf
import TomNotifier.System.LatestWins
import TomNotifier.WsDelivery.Error

/-!
This module contains `NotificationStatusUpdate` and `NotificationsDeduplicationServiceImpl` with its
garbage collector.
-/

namespace TomNotifier.WsDelivery

structure NotificationStatusUpdate where
  id : ObjectId
  timestamp : OffsetDateTime
  deriving DecidableEq

namespace NotificationStatusUpdate

def parseTimestamp (codec : Codec) (timestamp : Timestamp) : Except String OffsetDateTime :=
  if timestamp.seconds < codec.minSeconds ∨ codec.maxSeconds < timestamp.seconds then
    .error "notification invalid: invalid timestamp: invalid seconds"
  else
    -- The cast to `u32` turns negative nanoseconds into ones that are too large.
    let nanos := timestamp.nanos.toUInt32
    if 999999999 < nanos then
      .error "notification invalid: invalid timestamp: invalid nanos"
    else
      .ok (timestamp.seconds.toInt * 1000000000 + nanos.toNat)

/--
`NotificationStatusUpdate::try_from`. The crates' own descriptions of their errors, which the source
appends to these messages, are left out.
-/
def tryFrom (codec : Codec) (value : NotificationProtobuf) : Except String NotificationStatusUpdate :=
  match codec.objectIdFromStr value.id with
  | none => .error "notification invalid: invalid object id"
  | some id =>
    match value.timestamp with
    | none => .error "notification invalid: missing timestamp field"
    | some timestamp =>
      match parseTimestamp codec timestamp with
      | .error err => .error err
      | .ok timestamp => .ok { id, timestamp }

end NotificationStatusUpdate

abbrev LastUpdates := ObjectId → Option OffsetDateTime

structure NotificationsDeduplicationServiceConfig where
  notificationLifespan : Duration

namespace NotificationsDeduplicationService

def new : LastUpdates := fun _ => none

def deduplicate (notification : NotificationStatusUpdate) (lastUpdates : LastUpdates)
    : Except Error Unit × LastUpdates :=
  match lastUpdates notification.id with
  | some datetime =>
    if datetime < notification.timestamp then
      (.ok (), Function.update lastUpdates notification.id (some notification.timestamp))
    else
      (.error .duplicate, lastUpdates)
  | none => (.ok (), Function.update lastUpdates notification.id (some notification.timestamp))

/-- One pass of the garbage collector, which has read the clock before it took the lock. -/
def collect (config : NotificationsDeduplicationServiceConfig) (now : OffsetDateTime)
    (lastUpdates : LastUpdates) : LastUpdates :=
  let minTimestamp := now - (config.notificationLifespan : Int)
  fun id => (lastUpdates id).filter (fun timestamp => minTimestamp < timestamp)

open LatestWins

theorem deduplicate_eq {notification : NotificationStatusUpdate} {lastUpdates : LastUpdates}
    : deduplicate notification lastUpdates
        =
      (if Accepts lastUpdates notification.id notification.timestamp then
        .ok ()
      else
        .error .duplicate,
       present lastUpdates notification.id notification.timestamp) := by
  unfold deduplicate present
  split
  . next datetime h =>
    by_cases hlt : datetime < notification.timestamp
    . simp [Accepts, h, hlt]
    . simp [Accepts, h, hlt]
  . next h => simp [Accepts, h]

end NotificationsDeduplicationService

end TomNotifier.WsDelivery
