import TomNotifier.WsDelivery.WebSockets.Impl

/-!
This module contains `WebSocketConnection`: what the branches of its loop do with a message, a pong,
a timeout or a clock reading. An error ends the loop.
-/

namespace TomNotifier.WsDelivery

abbrev Instant := Nat

structure WebSocketUnconfirmedMessage where
  retryAt : Instant
  retriesRemaining : UInt8
  message : WebSocketMessage
  deriving DecidableEq

inductive Message where
  | text (text : String)
  | binary (payload : Bytes)
  | ping (payload : Bytes)
  | pong (payload : Bytes)
  | close
  deriving DecidableEq

/-- What the server writes, binary payloads again before `encode_to_vec`. -/
inductive Outgoing where
  | binary (payload : WebSocketNotificationProtobuf)
  | ping (payload : Bytes)
  deriving DecidableEq

inductive ConnectionError where
  | close (message : String)
  | anyhow (message : String)
  deriving DecidableEq

structure WebSocketCodec extends Codec where
  decodeWebSocketConfirmation : Bytes → Option WebSocketConfirmationProtobuf

structure WebSocketConnection where
  userId : Uuid
  messagesRx : Receiver
  -- what the sink has taken so far
  wsTx : List Outgoing
  unconfirmedMessages : List WebSocketUnconfirmedMessage
  pingTime : Instant
  pingMessage : UInt32
  pingsSent : UInt8
  deriving DecidableEq

def UInt32.toBeBytes (n : UInt32) : Bytes :=
  [(n >>> 24).toUInt8, (n >>> 16).toUInt8, (n >>> 8).toUInt8, n.toUInt8]

def UInt32.ofBeBytes? : Bytes → Option UInt32
  | [a, b, c, d] =>
    some ((a.toUInt32 <<< 24) ||| (b.toUInt32 <<< 16) ||| (c.toUInt32 <<< 8) ||| d.toUInt32)
  | _ => none

namespace WebSocketConnection

def new (config : WebSocketsServiceConfig) (userId : Uuid) (messagesRx : Receiver) (now : Instant)
    : WebSocketConnection where
  userId
  messagesRx
  wsTx := []
  unconfirmedMessages := []
  pingTime := now + config.pingInterval
  pingMessage := 0
  pingsSent := 0

/-- `ws_tx.send(..).await`, which the environment lets succeed or fail. -/
def write (c : WebSocketConnection) (message : Outgoing) (failure : String)
    : Except String Unit → Except ConnectionError WebSocketConnection
  | .ok () => .ok { c with wsTx := c.wsTx ++ [message] }
  | .error err => .error (.anyhow (failure ++ err))

def numberPing (c : WebSocketConnection) : WebSocketConnection :=
  -- The first ping of a heartbeat is sent with a new message.
  if c.pingsSent = 0 then { c with pingMessage := c.pingMessage + 1 } else c

def processPing (config : WebSocketsServiceConfig) (now : Instant) (sent : Except String Unit)
    (c : WebSocketConnection) : Except ConnectionError WebSocketConnection :=
  if 1 < c.pingsSent then
    .error (.anyhow "user unresponsive")
  else
    let c := c.numberPing
    match c.write (.ping (UInt32.toBeBytes c.pingMessage)) "failed to send ping: " sent with
    | .error err => .error err
    | .ok c => .ok { c with pingsSent := c.pingsSent + 1, pingTime := now + config.pingInterval }

/-- A confirmed message, whose callback is executed next, comes with the connection. -/
def processIncommingBinaryMessage (config : WebSocketsServiceConfig) (codec : WebSocketCodec)
    (now : Instant) (payload : Bytes) (c : WebSocketConnection)
    : Except ConnectionError (WebSocketConnection × Option WebSocketMessage) :=
  match codec.decodeWebSocketConfirmation payload with
  | none => .error (.anyhow "failed to decode confirmation")
  | some confirmation =>
    match codec.uuidFromStr confirmation.messageId with
    | none => .error (.anyhow "failed to decode confirmation: invalid message_id")
    | some messageId =>
      match c.unconfirmedMessages.find? (fun queued => queued.message.messageId = messageId) with
      | none => .ok (c, none)
      | some queued =>
        let unconfirmedMessages :=
          c.unconfirmedMessages.eraseP (fun queued => queued.message.messageId = messageId)
        let c := { c with
          pingTime := now + config.pingInterval
          pingsSent := 0
          unconfirmedMessages
        }
        .ok (c, some queued.message)

def processIncommingPongMessage (config : WebSocketsServiceConfig) (now : Instant) (payload : Bytes)
    (c : WebSocketConnection) : Except ConnectionError WebSocketConnection :=
  match UInt32.ofBeBytes? payload with
  | none =>
    .error (.anyhow ("pong payload length invalid: len " ++ toString payload.length ++ " expected 4"))
  | some pongMessage =>
    if c.pingsSent = 0 then
      .ok c
    else if pongMessage ≠ c.pingMessage then
      .ok c
    else
      .ok { c with pingTime := now + config.pingInterval, pingsSent := 0 }

def processIncommingMessage (config : WebSocketsServiceConfig) (codec : WebSocketCodec)
    (now : Instant) (message : Option (Except String Message)) (c : WebSocketConnection)
    : Except ConnectionError (WebSocketConnection × Option WebSocketMessage) :=
  match message with
  | some (.ok (.binary payload)) => processIncommingBinaryMessage config codec now payload c
  | some (.ok (.text _)) => .error (.anyhow "received text message")
  | some (.ok (.ping _)) => .ok (c, none)
  | some (.ok (.pong payload)) =>
    (processIncommingPongMessage config now payload c).map (·, none)
  | some (.ok .close) => .error (.close "received close message")
  | some (.error err) => .error (.anyhow ("failed to read incomming message: " ++ err))
  | none => .error (.anyhow "incomming messages stream closed")

def processMessage (config : WebSocketsServiceConfig) (now : Instant) (sent : Except String Unit)
    (message : Except RecvError WebSocketMessage) (c : WebSocketConnection)
    : Except ConnectionError WebSocketConnection :=
  match message with
  | .error (.lagged count) =>
    .error (.anyhow ("connection lagged. skipped messages: " ++ toString count))
  | .error .closed => .error (.close "connection forcefully closed")
  | .ok message =>
    match c.write (.binary message.payload) "sending message failed: " sent with
    | .error err => .error err
    | .ok c =>
      let unconfirmed := {
        retryAt := now + config.retryInterval
        retriesRemaining := config.retryMaxCount
        message
      }
      .ok { c with unconfirmedMessages := c.unconfirmedMessages ++ [unconfirmed] }

def processUnconfirmedMessage (config : WebSocketsServiceConfig) (codec : Codec) (now : Instant)
    (sent : Except String Unit) (unconfirmed : WebSocketUnconfirmedMessage) (c : WebSocketConnection)
    : Except ConnectionError WebSocketConnection :=
  if unconfirmed.retriesRemaining = 0 then
    .error (.anyhow ("user unresponsive: message " ++ codec.uuidToString unconfirmed.message.messageId
      ++ " not confirmed in time"))
  else
    let unconfirmed := { unconfirmed with
      retryAt := now + config.retryInterval
      retriesRemaining := unconfirmed.retriesRemaining - 1
    }
    match c.write (.binary unconfirmed.message.payload) "failed to resend message: " sent with
    | .error err => .error err
    | .ok c => .ok { c with unconfirmedMessages := c.unconfirmedMessages ++ [unconfirmed] }

def processRetry (config : WebSocketsServiceConfig) (codec : Codec) (now : Instant)
    (sent : Except String Unit) (c : WebSocketConnection)
    : Option (Except ConnectionError WebSocketConnection) :=
  match c.unconfirmedMessages with
  | [] => none
  | queued :: unconfirmedMessages =>
    if queued.retryAt ≤ now then
      some (processUnconfirmedMessage config codec now sent queued { c with unconfirmedMessages })
    else
      none

end WebSocketConnection

end TomNotifier.WsDelivery
