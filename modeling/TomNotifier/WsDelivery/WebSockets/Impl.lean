import Mathlib.Data.List.AList
import Mathlib.Data.Nat.Log
import TomNotifier.Common.Protobuf

/-!
This module contains `WebSocketsServiceImpl`: the registry of the users' broadcast channels and what
its methods do to it under its lock.
-/

namespace TomNotifier.WsDelivery

structure WebSocketsServiceConfig where
  pingInterval : Duration
  retryMaxCount : UInt8
  retryInterval : Duration
  connectionBufferSize : UInt8

abbrev FlagId := Nat

abbrev ChannelId := Nat

structure WebSocketConfirmationCallback where
  wasCalled : FlagId
  id : String
  deriving DecidableEq

/-- `execute` up to the point where it hands the confirmation to the confirmations service. -/
def WebSocketConfirmationCallback.execute (codec : Codec) (userId : Uuid) (flags : List Bool)
    (callback : WebSocketConfirmationCallback) : Option RabbitmqConfirmationProtobuf × List Bool :=
  let wasCalled := flags.getD callback.wasCalled false
  let flags := flags.set callback.wasCalled true
  if wasCalled then
    (none, flags)
  else
    (some { userId := codec.uuidToString userId, id := callback.id }, flags)

structure WebSocketMessage where
  messageId : Uuid
  payload : WebSocketNotificationProtobuf
  deliveredCallback : Option WebSocketConfirmationCallback
  deriving DecidableEq

/--
A tokio broadcast channel. Its ring retains the last `capacity` of the messages queued to it.
-/
structure Channel where
  capacity : Nat
  queued : List WebSocketMessage
  receivers : Nat
  deriving DecidableEq

structure Receiver where
  channel : ChannelId
  next : Nat
  deriving DecidableEq

inductive RecvError where
  | lagged (count : Nat)
  | closed
  deriving DecidableEq

namespace Channel

def new (capacity : Nat) : Channel where
  -- tokio rounds the capacity up to a power of two
  capacity := Nat.pow 2 (Nat.clog 2 capacity)
  queued := []
  receivers := 1

def subscribe (channel : Channel) : Channel := { channel with receivers := channel.receivers + 1 }

def unsubscribe (channel : Channel) : Channel := { channel with receivers := channel.receivers - 1 }

def send (message : WebSocketMessage) (channel : Channel) : Channel :=
  if channel.receivers = 0 then
    channel
  else
    { channel with queued := channel.queued ++ [message] }

/-- `Receiver::recv`, `none` as long as it has to wait. -/
def recv (closed : Bool) (rx : Receiver) (channel : Channel)
    : Option (Except RecvError WebSocketMessage × Receiver) :=
  let oldest := channel.queued.length - channel.capacity
  if rx.next < oldest then
    some (.error (.lagged (oldest - rx.next)), { rx with next := oldest })
  else
    match channel.queued[rx.next]? with
    | some message => some (.ok message, { rx with next := rx.next + 1 })
    | none => if closed then some (.error .closed, rx) else none

@[simp]
theorem send_receivers {message : WebSocketMessage} {channel : Channel}
    : (channel.send message).receivers = channel.receivers := by
  unfold send
  split <;> rfl

end Channel

/--
The channels that have been created so far, and the map that says which of them still has a sender.
A sender belongs to one user.
-/
structure WebSocketsServiceImpl where
  networkStatusOk : Bool
  usersConnections : AList (fun _ : Uuid => ChannelId)
  channels : List Channel
  -- the `was_called` flags of all callbacks
  flags : List Bool
  lookup_lt : ∀ {userId : Uuid} {tx : ChannelId},
    usersConnections.lookup userId = some tx → tx < channels.length
  lookup_inj : ∀ {userId userId' : Uuid} {tx : ChannelId},
    usersConnections.lookup userId = some tx → usersConnections.lookup userId' = some tx →
      userId = userId'

namespace WebSocketsServiceImpl

def new : WebSocketsServiceImpl where
  networkStatusOk := true
  usersConnections := ∅
  channels := []
  flags := []
  lookup_lt := by simp
  lookup_inj := by simp

def createMessage (codec : Codec) (now : OffsetDateTime) (messageId : Uuid)
    (networkStatus : NetworkStatusProtobuf) (notification : Option NotificationProtobuf)
    (s : WebSocketsServiceImpl) : WebSocketMessage × WebSocketsServiceImpl :=
  let deliveredCallback :=
    (notification.filter (fun notification => notification.statusOrDefault = .new)).map
      fun notification => { wasCalled := s.flags.length, id := notification.id }
  let websocketMessage : WebSocketNotificationProtobuf := {
    messageId := codec.uuidToString messageId
    messageTimestamp := some {
      seconds := Int64.ofInt (now / 1000000000)
      nanos := Int32.ofInt (now % 1000000000)
    }
    networkStatus := networkStatus.toInt32
    notification
  }
  let message := { messageId, payload := websocketMessage, deliveredCallback }
  (message, { s with flags := s.flags ++ (deliveredCallback.map fun _ => false).toList })

def setChannels (s : WebSocketsServiceImpl) (channels : List Channel)
    (h : s.channels.length ≤ channels.length) : WebSocketsServiceImpl :=
  { s with channels, lookup_lt := fun hlookup => Nat.lt_of_lt_of_le (s.lookup_lt hlookup) h }

def sendAll (message : WebSocketMessage) (txs : List ChannelId) (channels : List Channel)
    : List Channel :=
  txs.foldl (fun channels tx => channels.modify tx (·.send message)) channels

@[simp]
theorem length_sendAll {message : WebSocketMessage} {txs : List ChannelId} {channels : List Channel}
    : (sendAll message txs channels).length = channels.length := by
  unfold sendAll
  induction txs generalizing channels with
  | nil => rfl
  | cons tx txs ih => rw [List.foldl_cons, ih, List.length_modify]

def sendMulticast (userIds : List Uuid) (message : WebSocketMessage) (s : WebSocketsServiceImpl)
    : WebSocketsServiceImpl :=
  let txs := userIds.filterMap (fun userId => s.usersConnections.lookup userId)
  s.setChannels (sendAll message txs s.channels) (by simp)

def sendBroadcast (message : WebSocketMessage) (s : WebSocketsServiceImpl)
    : WebSocketsServiceImpl :=
  let txs := s.usersConnections.entries.map (·.2)
  s.setChannels (sendAll message txs s.channels) (by simp)

def addUser (userId : Uuid) (channel : Channel) (s : WebSocketsServiceImpl)
    : WebSocketsServiceImpl :=
  { s with
    usersConnections := s.usersConnections.insert userId s.channels.length
    channels := s.channels ++ [channel]
    lookup_lt := by
      intro userId' tx h
      rw [List.length_append, List.length_singleton]
      by_cases huser : userId' = userId
      . subst huser
        rw [AList.lookup_insert, Option.some.injEq] at h
        exact h ▸ Nat.lt_succ_self _
      . rw [AList.lookup_insert_ne huser] at h
        exact Nat.lt_succ_of_lt (s.lookup_lt h)
    lookup_inj := by
      intro userId₁ userId₂ tx h₁ h₂
      by_cases huser₁ : userId₁ = userId
      . by_cases huser₂ : userId₂ = userId
        . rw [huser₁, huser₂]
        . subst huser₁
          rw [AList.lookup_insert, Option.some.injEq] at h₁
          rw [AList.lookup_insert_ne huser₂] at h₂
          exact absurd h₁ (Nat.ne_of_gt (s.lookup_lt h₂))
      . rw [AList.lookup_insert_ne huser₁] at h₁
        by_cases huser₂ : userId₂ = userId
        . subst huser₂
          rw [AList.lookup_insert, Option.some.injEq] at h₂
          exact absurd h₂ (Nat.ne_of_gt (s.lookup_lt h₁))
        . rw [AList.lookup_insert_ne huser₂] at h₂
          exact s.lookup_inj h₁ h₂ }

def removeUser (userId : Uuid) (s : WebSocketsServiceImpl) : WebSocketsServiceImpl :=
  -- The channel stays with its receivers.
  { s with
    usersConnections := s.usersConnections.erase userId
    lookup_lt := by
      intro userId' tx h
      by_cases huser : userId' = userId
      . subst huser
        simp at h
      . rw [AList.lookup_erase_ne huser] at h
        exact s.lookup_lt h
    lookup_inj := by
      intro userId₁ userId₂ tx h₁ h₂
      by_cases huser₁ : userId₁ = userId
      . subst huser₁
        simp at h₁
      . by_cases huser₂ : userId₂ = userId
        . subst huser₂
          simp at h₂
        . rw [AList.lookup_erase_ne huser₁] at h₁
          rw [AList.lookup_erase_ne huser₂] at h₂
          exact s.lookup_inj h₁ h₂ }

/-- `handle_client` up to the network status. `none` is the panic of `broadcast::channel(0)`. -/
def findOrCreateChannel (config : WebSocketsServiceConfig) (userId : Uuid)
    (s : WebSocketsServiceImpl) : Option (Receiver × WebSocketsServiceImpl) :=
  match h : s.usersConnections.lookup userId with
  | some tx =>
    let channel := s.channels.get ⟨tx, s.lookup_lt h⟩
    let rx := { channel := tx, next := channel.queued.length }
    some (rx, s.setChannels (s.channels.modify tx Channel.subscribe) (by simp))
  | none =>
    if config.connectionBufferSize = 0 then
      none
    else
      let rx := { channel := s.channels.length, next := 0 }
      some (rx, s.addUser userId (Channel.new config.connectionBufferSize.toNat))

def handleClient (config : WebSocketsServiceConfig) (codec : Codec) (userId : Uuid)
    (now : OffsetDateTime) (messageId : Uuid) (s : WebSocketsServiceImpl)
    : Option (Receiver × WebSocketsServiceImpl) :=
  match s.findOrCreateChannel config userId with
  | none => none
  | some (rx, s) =>
    if s.networkStatusOk then
      some (rx, s)
    else
      let (message, s) := s.createMessage codec now messageId .error none
      some (rx, s.setChannels (sendAll message [rx.channel] s.channels) (by simp))

def dropReceiver (rx : Receiver) (s : WebSocketsServiceImpl) : WebSocketsServiceImpl :=
  s.setChannels (s.channels.modify rx.channel Channel.unsubscribe) (by simp)

def cleanUp (userId : Uuid) (s : WebSocketsServiceImpl) : WebSocketsServiceImpl :=
  match h : s.usersConnections.lookup userId with
  | some tx => if (s.channels.get ⟨tx, s.lookup_lt h⟩).receivers = 0 then s.removeUser userId else s
  | none => s

theorem cleanUp_fields (s : WebSocketsServiceImpl) (userId : Uuid)
    : (s.cleanUp userId).flags = s.flags ∧ (s.cleanUp userId).channels = s.channels := by
  unfold cleanUp
  split
  . split <;> exact ⟨rfl, rfl⟩
  . exact ⟨rfl, rfl⟩

def closeConnections (userId : Uuid) (s : WebSocketsServiceImpl) : WebSocketsServiceImpl :=
  s.removeUser userId

def send (codec : Codec) (userIds : List Uuid) (notification : NotificationProtobuf)
    (now : OffsetDateTime) (messageId : Uuid) (s : WebSocketsServiceImpl) : WebSocketsServiceImpl :=
  let (message, s) := s.createMessage codec now messageId .ok (some notification)
  match userIds.isEmpty with
  | true => s.sendBroadcast message
  | false => s.sendMulticast userIds message

/-- The first half of `update_network_status`, which takes no lock. -/
def storeNetworkStatus (status : NetworkStatusProtobuf) (s : WebSocketsServiceImpl)
    : WebSocketsServiceImpl :=
  { s with networkStatusOk := decide (status = .ok) }

def broadcastNetworkStatus (codec : Codec) (status : NetworkStatusProtobuf) (now : OffsetDateTime)
    (messageId : Uuid) (s : WebSocketsServiceImpl) : WebSocketsServiceImpl :=
  let (message, s) := s.createMessage codec now messageId status none
  s.sendBroadcast message

def isClosed (tx : ChannelId) (s : WebSocketsServiceImpl) : Bool :=
  -- A channel is closed once its last sender is gone.
  decide (tx ∉ s.usersConnections.entries.map (·.2))

end WebSocketsServiceImpl

end TomNotifier.WsDelivery
