import TomNotifier.System.Run
import TomNotifier.WsDelivery.WebSockets.Connection
import TomNotifier.WsDelivery.WebSockets.Send

/-!
This module contains the websockets service together with the tasks of its connections as one system,
whose steps are the calls of the service and what the tasks do between two awaits.
-/

namespace TomNotifier.WsDelivery

inductive TaskState where
  | running
  -- in `callback.execute`, with a confirmation of that message to hand over
  | confirming (messageId : Uuid) (confirmation : RabbitmqConfirmationProtobuf)
  -- the loop has ended, the receiver is still there
  | closing
  -- the receiver has been dropped
  | ended
  | finished
  deriving DecidableEq

structure ConnectionTask where
  connection : WebSocketConnection
  state : TaskState
  deriving DecidableEq

structure Server where
  websocketsService : WebSocketsServiceImpl
  tasks : List ConnectionTask
  -- the calls of the confirmations service, with the message each of them is about
  handed : List (Uuid × RabbitmqConfirmationProtobuf)
  -- history: every message that has been created
  messages : List WebSocketMessage
  -- history: the ids of the queued messages the users have confirmed, with the user
  answers : List (Uuid × Uuid)

inductive ServerLabel where
  | handleClient (userId : Uuid) (now : OffsetDateTime) (instant : Instant) (messageId : Uuid)
  | closeConnections (userId : Uuid)
  | send (userIds : List Uuid) (notification : NotificationProtobuf) (now : OffsetDateTime)
    (messageId : Uuid)
  | storeNetworkStatus (status : NetworkStatusProtobuf)
  | broadcastNetworkStatus (status : NetworkStatusProtobuf) (now : OffsetDateTime) (messageId : Uuid)
  | ping (i : Nat) (now : Instant) (sent : Except String Unit)
  | incomming (i : Nat) (now : Instant) (message : Option (Except String Message))
  | message (i : Nat) (now : Instant) (sent : Except String Unit)
  | retry (i : Nat) (now : Instant) (sent : Except String Unit)
  | hand (i : Nat)
  | drop (i : Nat)
  | cleanUp (i : Nat)

namespace Server

def init : Server where
  websocketsService := .new
  tasks := []
  handed := []
  messages := []
  answers := []

def running (s : Server) (i : Nat) : Option WebSocketConnection :=
  match s.tasks[i]? with
  | some ⟨connection, .running⟩ => some connection
  | _ => none

@[simp]
theorem running_eq_some {s : Server} {i : Nat} {c : WebSocketConnection}
    : s.running i = some c ↔ s.tasks[i]? = some ⟨c, .running⟩ := by
  unfold running
  split
  . next connection h => simp [h]
  . next h =>
    simp only [reduceCtorEq, false_iff]
    intro h'
    exact h c h'

def setTask (s : Server) (i : Nat) (connection : WebSocketConnection) (state : TaskState) : Server :=
  { s with tasks := s.tasks.set i ⟨connection, state⟩ }

def settle (s : Server) (i : Nat) (connection : WebSocketConnection)
    (result : Except ConnectionError WebSocketConnection) : Server :=
  match result with
  | .ok connection => s.setTask i connection .running
  | .error _ => s.setTask i connection .closing

def confirm (codec : Codec) (s : Server) (i : Nat) (connection : WebSocketConnection)
    (message : WebSocketMessage) : Server :=
  let s := { s with answers := s.answers ++ [(message.messageId, connection.userId)] }
  match message.deliveredCallback with
  | none => s.setTask i connection .running
  | some callback =>
    let (confirmation, flags) := callback.execute codec connection.userId s.websocketsService.flags
    let s := { s with websocketsService := { s.websocketsService with flags } }
    match confirmation with
    | none => s.setTask i connection .running
    | some confirmation => s.setTask i connection (.confirming message.messageId confirmation)

def fresh (s : Server) (messageId : Uuid) : Bool :=
  -- Random ids do not repeat.
  decide (messageId ∉ s.messages.map (·.messageId))

section

variable (config : WebSocketsServiceConfig) (codec : WebSocketCodec)

def stepHandleClient (s : Server) (userId : Uuid) (now : OffsetDateTime) (instant : Instant)
    (messageId : Uuid) : Option Server :=
  match s.websocketsService.handleClient config codec.toCodec userId now messageId with
  | none => none
  | some (rx, websocketsService) =>
    let connection := WebSocketConnection.new config userId rx instant
    let message := (s.websocketsService.createMessage codec.toCodec now messageId .error none).1
    some { s with
      websocketsService
      tasks := s.tasks ++ [⟨connection, .running⟩]
      messages := s.messages ++ if s.websocketsService.networkStatusOk then [] else [message]
    }

def stepSend (s : Server) (userIds : List Uuid) (notification : NotificationProtobuf)
    (now : OffsetDateTime) (messageId : Uuid) : Server :=
  let message :=
    (s.websocketsService.createMessage codec.toCodec now messageId .ok (some notification)).1
  { s with
    websocketsService := s.websocketsService.send codec.toCodec userIds notification now messageId
    messages := s.messages ++ [message]
  }

def stepBroadcastNetworkStatus (s : Server) (status : NetworkStatusProtobuf) (now : OffsetDateTime)
    (messageId : Uuid) : Server :=
  let message := (s.websocketsService.createMessage codec.toCodec now messageId status none).1
  { s with
    websocketsService :=
      s.websocketsService.broadcastNetworkStatus codec.toCodec status now messageId
    messages := s.messages ++ [message]
  }

def stepIncomming (s : Server) (i : Nat) (now : Instant) (message : Option (Except String Message))
    : Option Server :=
  match s.running i with
  | none => none
  | some connection =>
    match connection.processIncommingMessage config codec now message with
    | .error _ => some (s.setTask i connection .closing)
    | .ok (connection, none) => some (s.setTask i connection .running)
    | .ok (connection, some message) => some (s.confirm codec.toCodec i connection message)

def stepMessage (s : Server) (i : Nat) (now : Instant) (sent : Except String Unit)
    : Option Server :=
  match s.running i with
  | none => none
  | some connection =>
    let tx := connection.messagesRx.channel
    match s.websocketsService.channels[tx]? with
    | none => none
    | some channel =>
      match channel.recv (s.websocketsService.isClosed tx) connection.messagesRx with
      | none => none
      | some (message, messagesRx) =>
        let connection := { connection with messagesRx }
        some (s.settle i connection (connection.processMessage config now sent message))

def step (s : Server) : ServerLabel → Option Server
  | .handleClient userId now instant messageId =>
    if s.fresh messageId then s.stepHandleClient config codec userId now instant messageId else none
  | .closeConnections userId =>
    some { s with websocketsService := s.websocketsService.closeConnections userId }
  | .send userIds notification now messageId =>
    if s.fresh messageId then some (s.stepSend codec userIds notification now messageId) else none
  | .storeNetworkStatus status =>
    some { s with websocketsService := s.websocketsService.storeNetworkStatus status }
  | .broadcastNetworkStatus status now messageId =>
    if s.fresh messageId then
      some (s.stepBroadcastNetworkStatus codec status now messageId)
    else
      none
  | .ping i now sent =>
    match s.running i with
    | none => none
    | some connection =>
      if connection.pingTime ≤ now then
        some (s.settle i connection (connection.processPing config now sent))
      else
        none
  | .incomming i now message => s.stepIncomming config codec i now message
  | .message i now sent => s.stepMessage config i now sent
  | .retry i now sent =>
    match s.running i with
    | none => none
    | some connection =>
      (connection.processRetry config codec.toCodec now sent).map (s.settle i connection)
  | .hand i =>
    match s.tasks[i]? with
    | some ⟨connection, .confirming messageId confirmation⟩ =>
      some { s.setTask i connection .running with
        handed := s.handed ++ [(messageId, confirmation)]
      }
    | _ => none
  | .drop i =>
    match s.tasks[i]? with
    | some ⟨connection, .closing⟩ =>
      some { s.setTask i connection .ended with
        websocketsService := s.websocketsService.dropReceiver connection.messagesRx
      }
    | _ => none
  | .cleanUp i =>
    match s.tasks[i]? with
    | some ⟨connection, .ended⟩ =>
      some { s.setTask i connection .finished with
        websocketsService := s.websocketsService.cleanUp connection.userId
      }
    | _ => none

end

def sampleConfig : WebSocketsServiceConfig where
  pingInterval := 30000000000
  retryMaxCount := 2
  retryInterval := 15000000000
  connectionBufferSize := 8

def sampleNotification : NotificationProtobuf where
  id := "000000000000000000000007"
  status := NotificationStatusProtobuf.new.toInt32
  timestamp := some { seconds := 1, nanos := 0 }
  createdBy := some "producer"
  seen := some false
  contentType := some "utf-8"
  content := some [104, 105]

def sampleUuid (uuid : Uuid) : String :=
  if uuid = ⟨1⟩ then
    "00000000-0000-0000-0000-000000000001"
  else if uuid = ⟨2⟩ then
    "00000000-0000-0000-0000-000000000002"
  else
    "00000000-0000-0000-0000-000000000064"

def samplePayload : Bytes :=
  [10, 36] ++ (sampleUuid ⟨100⟩).toList.map (fun c => UInt8.ofNat c.toNat)

def sampleCodec : WebSocketCodec where
  encodeRabbitmqNotification _ := []
  decodeRabbitmqNotification _ := none
  encodeRabbitmqConfirmation _ := []
  decodeRabbitmqConfirmation _ := none
  uuidToString := sampleUuid
  uuidFromStr s := if s = sampleUuid ⟨100⟩ then some ⟨100⟩ else none
  objectIdToHex _ := ""
  objectIdFromStr _ := none
  minSeconds := -377705116800
  maxSeconds := 253402300799
  decodeWebSocketConfirmation payload :=
    if payload = samplePayload then some { messageId := sampleUuid ⟨100⟩ } else none

end Server

end TomNotifier.WsDelivery
