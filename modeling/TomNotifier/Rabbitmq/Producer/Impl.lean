import TomNotifier.Rabbitmq.Basic

/-!
This module contains the producer's `StateMachine`, state by state, together with the broker's side
of the channels it opens.
-/

namespace TomNotifier.Rabbitmq

inductive PublisherConfirmVariant where
  | ack
  | nack
  deriving DecidableEq, Repr

structure PublisherConfirm where
  deliveryTag : Nat
  multiple : Bool
  variant : PublisherConfirmVariant
  deriving DecidableEq

namespace Producer

inductive Recreating where
  | closing
  | opening
  | registering
  deriving DecidableEq

/-- `State`, with the local variables and the position within the state's function. -/
inductive State where
  | ok (flow blocked : Bool) (messageCount : Nat)
  -- `awaiting` the next change, after the connection was none
  | waitingForConnection (awaiting : Bool)
  -- `scheduling` the unconfirmed messages, after the confirms have been processed
  | processingPendingConfirmations (scheduling : Bool)
  | recreatingChannel (stage : Recreating)
  | restoringProducer
  deriving DecidableEq

structure StateMachine where
  connection : Option ConnectionId
  connectionRx : Watch (Option ConnectionId)
  channel : ChannelId
  unconfirmedMessages : List (Nat × BoxedMessage)
  -- the queue between `messages_tx` and `messages_rx`
  messages : List BoxedMessage
  -- the queue the channel callback feeds
  confirms : List PublisherConfirm
  flowRx : Watch Bool
  blockedRx : Watch Bool
  state : State
  deriving DecidableEq

structure BrokerChannel where
  -- also what is still published when the broker has closed the channel
  published : List (BoxedMessage × Option PublisherConfirmVariant)
  closed : Bool
  deriving DecidableEq

/-- The result of the call a state waits for. `received` matters for a publish. -/
inductive CallResult where
  | ok
  | err (received : Bool)
  deriving DecidableEq

namespace PublisherConfirm

def covers (confirm : PublisherConfirm) (tag : Nat) : Bool :=
  if confirm.multiple then decide (tag ≤ confirm.deliveryTag) else decide (tag = confirm.deliveryTag)

end PublisherConfirm

namespace BrokerChannel

def new : BrokerChannel := { published := [], closed := false }

def publish (message : BoxedMessage) (channel : BrokerChannel) : BrokerChannel :=
  { channel with published := channel.published ++ [(message, none)] }

def close (channel : BrokerChannel) : BrokerChannel := { channel with closed := true }

def confirm (confirm : PublisherConfirm) (channel : BrokerChannel) : BrokerChannel :=
  -- The publishes on a channel are numbered from 1 on.
  { channel with
    published := channel.published.mapIdx fun i publish =>
      if publish.2.isNone && PublisherConfirm.covers confirm (i + 1) then
        (publish.1, some confirm.variant)
      else
        publish
  }

def isOutstanding (channel : BrokerChannel) (tag : Nat) : Bool :=
  decide (0 < tag) && (channel.published[tag - 1]?).any (·.2.isNone)

end BrokerChannel

namespace StateMachine

def removeConfirmed (confirm : PublisherConfirm) (unconfirmedMessages : List (Nat × BoxedMessage))
    : List (Nat × BoxedMessage) × List (Nat × BoxedMessage) :=
  if confirm.multiple then
    -- The loop pops the front as long as it is not above the tag.
    (unconfirmedMessages.takeWhile (fun entry => entry.1 ≤ confirm.deliveryTag),
      unconfirmedMessages.dropWhile (fun entry => entry.1 ≤ confirm.deliveryTag))
  else
    match unconfirmedMessages.find? (fun entry => entry.1 = confirm.deliveryTag) with
    | some entry =>
      ([entry], unconfirmedMessages.eraseP (fun entry => entry.1 = confirm.deliveryTag))
    | none => ([], unconfirmedMessages)

def processConfirm (confirm : PublisherConfirm) (p : StateMachine) : StateMachine :=
  let (removed, unconfirmedMessages) := removeConfirmed confirm p.unconfirmedMessages
  match confirm.variant with
  | .ack => { p with unconfirmedMessages }
  | .nack => { p with unconfirmedMessages, messages := p.messages ++ removed.map (·.2) }

def enterOk (p : StateMachine) : StateMachine :=
  { p with
    flowRx := p.flowRx.markSeen
    blockedRx := p.blockedRx.markSeen
    state := .ok p.flowRx.value p.blockedRx.value 0
  }

def connectionChanged (p : StateMachine) : StateMachine :=
  { p with connectionRx := p.connectionRx.markSeen, state := .waitingForConnection false }

end StateMachine

structure World where
  producer : StateMachine
  channels : List BrokerChannel
  -- history: every message that was handed to `send`
  sent : List BoxedMessage
  deriving DecidableEq

inductive Label where
  | send (message : Message)
  -- the connection's task publishes a connection, or that there is none
  | connection (connection : Option ConnectionId)
  | flow (active : Bool)
  | blocked (blocked : Bool)
  -- the broker confirms an outstanding publish, the callback queues the confirm
  | confirm (channel : ChannelId) (confirm : PublisherConfirm)
  -- the broker closes a channel while the connection stays up, which the callback only logs
  | close (channel : ChannelId)
  -- the state machine runs up to its next await, a call it waits for having this result
  | poll (result : CallResult)
  deriving DecidableEq

namespace World

def init (connection : ConnectionId) (blocked : Bool) : World where
  producer := {
    connection := some connection
    connectionRx := { value := some connection, unseen := false }
    channel := 0
    unconfirmedMessages := []
    messages := []
    confirms := []
    flowRx := { value := true, unseen := false }
    blockedRx := { value := blocked, unseen := false }
    state := .ok true blocked 0
  }
  channels := [BrokerChannel.new]
  sent := []

def send (message : Message) (w : World) : World :=
  let boxed := { address := w.sent.length, message }
  { w with
    producer := { w.producer with messages := w.producer.messages ++ [boxed] }
    sent := w.sent ++ [boxed]
  }

def confirm (channel : ChannelId) (confirm : PublisherConfirm) (w : World) : Option World :=
  match w.channels[channel]? with
  | none => none
  | some broker =>
    if !broker.closed && broker.isOutstanding confirm.deliveryTag then
      some { w with
        producer := { w.producer with confirms := w.producer.confirms ++ [confirm] }
        channels := w.channels.modify channel (BrokerChannel.confirm confirm)
      }
    else
      none

/--
`basic_publish`. A confirm that arrives while it is awaited stays in its queue until the state machine
looks there again, so nothing is lost by making it one step.
-/
def publish (flow blocked : Bool) (messageCount : Nat) (message : BoxedMessage)
    (messages : List BoxedMessage) (result : CallResult) (w : World) : World :=
  let messageCount := messageCount + 1
  let p := { w.producer with messages }
  let received := w.channels.modify p.channel (BrokerChannel.publish message)
  match result with
  | .ok =>
    { w with
      producer := { p with
        unconfirmedMessages := p.unconfirmedMessages ++ [(messageCount, message)]
        state := .ok flow blocked messageCount
      }
      channels := received
    }
  | .err wasReceived =>
    { w with
      producer := { p with
        messages := messages ++ [message]
        state := .processingPendingConfirmations false
      }
      channels := if wasReceived then received else w.channels
    }

/-- One iteration of the loop of `ok_state`, whose `select!` prefers the earlier branches. -/
def pollOk (flow blocked : Bool) (messageCount : Nat) (result : CallResult) (w : World)
    : Option World :=
  let p := w.producer
  if p.connectionRx.unseen then
    some { w with producer := p.connectionChanged }
  else if p.flowRx.unseen then
    let state := .ok p.flowRx.value blocked messageCount
    some { w with producer := { p with flowRx := p.flowRx.markSeen, state } }
  else if p.blockedRx.unseen then
    let state := .ok flow p.blockedRx.value messageCount
    some { w with producer := { p with blockedRx := p.blockedRx.markSeen, state } }
  else
    match p.confirms with
    | confirm :: confirms =>
      some { w with producer := { p with confirms }.processConfirm confirm }
    | [] =>
      match p.messages with
      | [] => none
      | message :: messages =>
        if !blocked && flow then
          some (w.publish flow blocked messageCount message messages result)
        else
          none

def pollWaitingForConnection (awaiting : Bool) (w : World) : Option World :=
  let p := w.producer
  match awaiting with
  | true =>
    if p.connectionRx.unseen then
      some { w with producer := p.connectionChanged }
    else
      none
  | false =>
    let state := if p.connectionRx.value.isSome then
        .processingPendingConfirmations false
      else
        .waitingForConnection true
    some { w with
      producer := { p with
        connection := p.connectionRx.value
        connectionRx := p.connectionRx.markSeen
        state
      }
    }

def pollProcessingPendingConfirmations (scheduling : Bool) (w : World) : World :=
  let p := w.producer
  match scheduling with
  | false =>
    match p.confirms with
    | confirm :: confirms => { w with producer := { p with confirms }.processConfirm confirm }
    | [] => { w with producer := { p with state := .processingPendingConfirmations true } }
  | true =>
    match p.unconfirmedMessages with
    | (_, message) :: unconfirmedMessages =>
      { w with producer := { p with unconfirmedMessages, messages := p.messages ++ [message] } }
    | [] => { w with producer := { p with state := .recreatingChannel .closing } }

def pollRecreatingChannel (stage : Recreating) (result : CallResult) (w : World) : Option World :=
  let p := w.producer
  match stage with
  | .closing =>
    -- A failed close is not a problem, either way the call has returned.
    some { w with
      producer := { p with state := .recreatingChannel .opening }
      channels := w.channels.modify p.channel BrokerChannel.close
    }
  | .opening =>
    if p.connectionRx.unseen then
      some { w with producer := p.connectionChanged }
    else
      match p.connection, result with
      -- the panic of `unwrap`
      | none, _ => none
      | some _, .ok =>
        some { w with
          producer := { p with
            channel := w.channels.length
            flowRx := Watch.send true
            state := .recreatingChannel .registering
          }
          channels := w.channels ++ [BrokerChannel.new]
        }
      | some _, .err _ => some w
  | .registering =>
    if p.connectionRx.unseen then
      some { w with producer := p.connectionChanged }
    else
      match result with
      | .ok => some { w with producer := { p with state := .restoringProducer } }
      | .err _ => some w

def pollRestoringProducer (result : CallResult) (w : World) : World :=
  let p := w.producer
  if p.connectionRx.unseen then
    { w with producer := p.connectionChanged }
  else
    match result with
    | .ok => { w with producer := p.enterOk }
    | .err _ => { w with producer := { p with state := .recreatingChannel .closing } }

def poll (result : CallResult) (w : World) : Option World :=
  match w.producer.state with
  | .ok flow blocked messageCount => w.pollOk flow blocked messageCount result
  | .waitingForConnection awaiting => w.pollWaitingForConnection awaiting
  | .processingPendingConfirmations scheduling =>
    some (w.pollProcessingPendingConfirmations scheduling)
  | .recreatingChannel stage => w.pollRecreatingChannel stage result
  | .restoringProducer => some (w.pollRestoringProducer result)

def step (w : World) : Label → Option World
  | .send message => some (w.send message)
  | .connection connection =>
    some { w with producer := { w.producer with connectionRx := Watch.send connection } }
  | .flow active => some { w with producer := { w.producer with flowRx := Watch.send active } }
  | .blocked blocked =>
    some { w with producer := { w.producer with blockedRx := Watch.send blocked } }
  | .confirm channel confirm => w.confirm channel confirm
  | .close channel => some { w with channels := w.channels.modify channel BrokerChannel.close }
  | .poll result => w.poll result

end World

end Producer

end TomNotifier.Rabbitmq
