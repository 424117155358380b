import TomNotifier.WsDelivery.Deduplication.Impl
import TomNotifier.WsDelivery.WebSockets.Impl

/-!
This module contains `DeliveryCallback` of the notifications consumer and the two services it calls.
-/

namespace TomNotifier.WsDelivery

structure ConsumeError where
  requeue : Bool
  deriving DecidableEq

structure DeliveryCallback where
  lastUpdates : LastUpdates
  websocketsService : WebSocketsServiceImpl

namespace DeliveryCallback

def parseUserIds (codec : Codec) : List String → Option (List Uuid)
  | [] => some []
  | uuidStr :: userIds =>
    match codec.uuidFromStr uuidStr with
    | none => none
    | some uuid => (parseUserIds codec userIds).map (uuid :: ·)

structure Request where
  userIds : List Uuid
  notification : NotificationProtobuf
  update : NotificationStatusUpdate

def parse (codec : Codec) (content : Bytes) : Except ConsumeError Request :=
  match codec.decodeRabbitmqNotification content with
  | none => .error { requeue := false }
  | some message =>
    match message.notification with
    | none => .error { requeue := false }
    | some notification =>
      match parseUserIds codec message.userIds with
      | none => .error { requeue := false }
      | some userIds =>
        match NotificationStatusUpdate.tryFrom codec notification with
        | .error _ => .error { requeue := false }
        | .ok update => .ok { userIds, notification, update }

theorem parse_eq_ok_iff {codec : Codec} {content : Bytes} {request : Request}
    : parse codec content = .ok request
        ↔
      ∃ message, codec.decodeRabbitmqNotification content = some message
        ∧ message.notification = some request.notification
        ∧ parseUserIds codec message.userIds = some request.userIds
        ∧ NotificationStatusUpdate.tryFrom codec request.notification = .ok request.update := by
  constructor
  . intro h
    unfold parse at h
    split at h
    . contradiction
    . next message hmessage =>
      split at h
      . contradiction
      . next notification hnotification =>
        split at h
        . contradiction
        . next userIds huserIds =>
          split at h
          . contradiction
          . next update hupdate =>
            rw [Except.ok.injEq] at h
            subst h
            exact ⟨message, hmessage, hnotification, huserIds, hupdate⟩
  . rintro ⟨message, hmessage, hnotification, huserIds, hupdate⟩
    simp only [parse, hmessage, hnotification, huserIds, hupdate]

def requeues : Error → Bool
  | .database _ => true
  | _ => false

def execute (codec : Codec) (content : Bytes) (now : OffsetDateTime) (messageId : Uuid)
    (s : DeliveryCallback) : Except ConsumeError Unit × DeliveryCallback :=
  match parse codec content with
  | .error err => (.error err, s)
  | .ok request =>
    match NotificationsDeduplicationService.deduplicate request.update s.lastUpdates with
    | (.ok (), lastUpdates) =>
      let websocketsService :=
        s.websocketsService.send codec request.userIds request.notification now messageId
      (.ok (), { s with lastUpdates, websocketsService })
    | (.error .duplicate, lastUpdates) => (.ok (), { s with lastUpdates })
    | (.error err, lastUpdates) => (.error { requeue := requeues err }, { s with lastUpdates })

end DeliveryCallback

end TomNotifier.WsDelivery
