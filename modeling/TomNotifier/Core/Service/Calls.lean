import TomNotifier.Core.Service.Impl
import TomNotifier.Core.Repository.Outcome

/-!
This module contains calls of `save_notification`, `delete_notification` and
`update_notification_seen` running next to each other over one shared store. Every wait of a call
(a command of the repository, a clock reading that is used after one, the message handed to the
producer) ends a step.
-/

namespace TomNotifier.Core

inductive Request where
  | saveNotification (producerId : Uuid) (notification : InputNotification)
  | deleteNotification (id : ObjectId) (userId : Uuid)
  | updateNotificationSeen (id : ObjectId) (userId : Uuid) (seen : Bool)
  deriving DecidableEq

/--
How far a call has come. `validated` and `inserted` only occur in `save_notification`, `updated` and
`stamped` only in the other two.
-/
inductive Progress where
  | started
  | validated (createdAt : OffsetDateTime)
  | inserted (notification : InsertedNotification)
  | updated
  | stamped (timestamp : OffsetDateTime)
  | returned (result : Except Error (Option ObjectId))

structure Call where
  request : Request
  progress : Progress

/--
`updates` and `stamps` are history: the requests whose update of the store was applied, in that
order, and the requests that read the clock for their message, in that order.
-/
structure Service where
  store : Store
  calls : List Call
  messages : List ProducedNotification
  updates : List Request
  stamps : List (Request × OffsetDateTime)

namespace Service

def init (store : Store) : Service where
  store
  calls := []
  messages := []
  updates := []
  stamps := []

end Service

def Call.op? (id : ObjectId) : Call → Option Op
  | ⟨.saveNotification producerId notification, .validated createdAt⟩ =>
    some (.insert id notification.userIds createdAt notification.invalidateAt producerId
      notification.producerNotificationId notification.contentType notification.content)
  | ⟨.deleteNotification id userId, .started⟩ => some (.delete id userId)
  | ⟨.updateNotificationSeen id userId seen, .started⟩ => some (.updateConfirmationSeen id userId seen)
  | _ => none

def Request.message? (timestamp : OffsetDateTime) : Request → Option ProducedNotification
  | .saveNotification .. => none
  | .deleteNotification id userId => some (.deleted userId id timestamp)
  | .updateNotificationSeen id userId seen => some (.updated userId id seen timestamp)

/--
`lost i id applied` is a command of the repository that fails with an error of the driver, after the
database has applied it or not. `repository op` is anything else that happens to the store; only
calls write the seen and the deleted flag.
-/
inductive Label where
  | call (request : Request)
  | validate (i : Nat) (now : OffsetDateTime) (createdAt : OffsetDateTime)
  | insert (i : Nat) (id : ObjectId)
  | update (i : Nat)
  | lost (i : Nat) (id : ObjectId) (applied : Bool)
  | stamp (i : Nat) (now : OffsetDateTime)
  | send (i : Nat)
  | repository (op : Op)

def Label.readings : Label → List OffsetDateTime
  | .validate _ now createdAt => [now, createdAt]
  | .stamp _ now => [now]
  | _ => []

namespace Service

def progress (s : Service) (i : Nat) (request : Request) (progress : Progress) : Service :=
  { s with calls := s.calls.set i ⟨request, progress⟩ }

def apply (s : Service) (request : Request) (op : Op) : Service :=
  { s with
    store := s.store.apply op
    updates := s.updates ++ if (op.apply s.store.docs).1 = .ok () then [request] else [] }

open NotificationsService in
def step (config : NotificationsServiceConfig) (s : Service) (label : Label) : Option Service :=
  match label with
  | .call request => some { s with calls := s.calls ++ [⟨request, .started⟩] }
  | .validate i now createdAt =>
    match s.calls[i]? with
    | some ⟨.saveNotification producerId notification, .started⟩ =>
      let request := .saveNotification producerId notification
      match validateSaveNotification config notification now with
      | .error err => some (s.progress i request (.returned (.error err)))
      | .ok () => some (s.progress i request (.validated createdAt))
    | _ => none
  | .insert i id =>
    match s.calls[i]? with
    | some ⟨.saveNotification producerId notification, .validated createdAt⟩ =>
      let request := .saveNotification producerId notification
      let res := NotificationsRepository.insert id notification.userIds createdAt
        notification.invalidateAt producerId notification.producerNotificationId
        notification.contentType notification.content s.store.docs
      let op := .insert id notification.userIds createdAt notification.invalidateAt producerId
        notification.producerNotificationId notification.contentType notification.content
      match res.1 with
      | .error err =>
        some ((s.apply request op).progress i request (.returned (.error (mapInsertError err))))
      | .ok inserted => some ((s.apply request op).progress i request (.inserted inserted))
    | _ => none
  | .update i =>
    match s.calls[i]? with
    | some ⟨.deleteNotification id userId, .started⟩ =>
      let request := .deleteNotification id userId
      let op := .delete id userId
      match (NotificationsRepository.delete id userId s.store.docs).1 with
      | .error err =>
        some ((s.apply request op).progress i request (.returned (.error (mapUpdateError err))))
      | .ok () => some ((s.apply request op).progress i request .updated)
    | some ⟨.updateNotificationSeen id userId seen, .started⟩ =>
      let request := .updateNotificationSeen id userId seen
      let op := .updateConfirmationSeen id userId seen
      match (NotificationsRepository.updateConfirmationSeen id userId seen s.store.docs).1 with
      | .error err =>
        some ((s.apply request op).progress i request (.returned (.error (mapUpdateError err))))
      | .ok () => some ((s.apply request op).progress i request .updated)
    | _ => none
  | .lost i id applied =>
    match s.calls[i]? with
    | some call =>
      match call.op? id with
      | some op =>
        let s := if applied then s.apply call.request op else s
        some (s.progress i call.request (.returned (.error (.database .mongo))))
      | none => none
    | none => none
  | .stamp i now =>
    match s.calls[i]? with
    | some ⟨request, .updated⟩ =>
      some ({ s with stamps := s.stamps ++ [(request, now)] }.progress i request (.stamped now))
    | _ => none
  | .send i =>
    match s.calls[i]? with
    | some ⟨request, .inserted inserted⟩ =>
      some ({ s with messages := s.messages ++ [sendNew inserted] }.progress i request
        (.returned (.ok (some inserted.id))))
    | some ⟨request, .stamped timestamp⟩ =>
      some ({ s with messages := s.messages ++ (request.message? timestamp).toList }.progress i request
        (.returned (.ok none)))
    | _ => none
  | .repository op =>
    match op with
    | .updateConfirmationSeen .. => none
    | .delete .. => none
    | op => some { s with store := s.store.apply op }

end Service

end TomNotifier.Core
