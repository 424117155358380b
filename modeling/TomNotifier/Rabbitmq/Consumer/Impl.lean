import TomNotifier.Rabbitmq.Basic

/-!
This module contains the consumer's `StateMachine`, state by state, together with the broker's side
of the channels it opens and their callbacks.
-/

namespace TomNotifier.Rabbitmq

inductive RabbitmqConsumerStatus where
  | consuming
  | recovering
  deriving DecidableEq, Repr

abbrev NotifyId := Nat

abbrev Permits := List Bool

namespace Consumer

inductive OkStage where
  -- the state machine has not run yet
  | entering
  | reporting
  | waiting
  deriving DecidableEq

inductive WaitingStage where
  | reporting
  | checking
  -- the next change, after the connection was none
  | awaiting
  deriving DecidableEq

inductive RecreatingStage where
  | closing
  | opening
  | registering
  deriving DecidableEq

inductive RestoringStage where
  | reporting
  | restoring
  -- the broker has accepted `basic_consume`, and the state machine has not gone on yet
  | restored
  deriving DecidableEq

/-- `State`, with the position within the state's function or the status callback after it. -/
inductive State where
  | ok (stage : OkStage)
  | waitingForConnection (stage : WaitingStage)
  | recreatingChannel (stage : RecreatingStage)
  | restoringConsumer (stage : RestoringStage)
  deriving DecidableEq

structure StateMachine where
  connection : Option ConnectionId
  connectionRx : Watch (Option ConnectionId)
  channel : ChannelId
  consumerCancelled : NotifyId
  state : State
  deriving DecidableEq

structure BrokerChannel where
  connection : ConnectionId
  -- the `consumer_cancelled_notify` of the registered callback
  callback : Option NotifyId
  closed : Bool
  consuming : Bool
  deriving DecidableEq

namespace ChannelCallback

def close (_consumerCancelledNotify : NotifyId) (permits : Permits) : Permits :=
  -- The callback only writes to the log.
  permits

def cancel (consumerCancelledNotify : NotifyId) (permits : Permits) : Permits :=
  -- `notify_one`
  permits.set consumerCancelledNotify true

end ChannelCallback

namespace StateMachine

def connectionChanged (stage : WaitingStage) (p : StateMachine) : StateMachine :=
  { p with connectionRx := p.connectionRx.markSeen, state := .waitingForConnection stage }

end StateMachine

structure World where
  consumer : StateMachine
  channels : List BrokerChannel
  permits : Permits
  -- history: the statuses the callback was called with
  statuses : List RabbitmqConsumerStatus
  deriving DecidableEq

inductive Label where
  -- the broker cancels the consumer of the channel, or closes the channel, and the callback is called
  | cancel (channel : ChannelId)
  | close (channel : ChannelId)
  -- the state machine runs up to its next await, the call it waits for having succeeded or failed
  | poll (succeeded : Bool)
  deriving DecidableEq

namespace World

/-- The state machine `RabbitmqConsumer::new` starts, with the receiver it has created. -/
def start (connection : ConnectionId) (connectionRx : Watch (Option ConnectionId)) : World where
  consumer := {
    connection := some connection
    connectionRx
    channel := 0
    consumerCancelled := 0
    state := .ok .entering
  }
  channels := [{ connection, callback := some 0, closed := false, consuming := true }]
  permits := [false]
  statuses := []

def publish (connection : Option ConnectionId) (w : World) : World :=
  { w with consumer := { w.consumer with connectionRx := Watch.send connection } }

def execute (status : RabbitmqConsumerStatus) (w : World) : World :=
  { w with statuses := w.statuses ++ [status] }

def cancel (channel : ChannelId) (w : World) : Option World :=
  match w.channels[channel]? with
  | none => none
  | some broker =>
    if broker.consuming && !broker.closed then
      some { w with
        channels := w.channels.set channel { broker with consuming := false }
        permits := (broker.callback.map (ChannelCallback.cancel · w.permits)).getD w.permits
      }
    else
      none

def close (channel : ChannelId) (w : World) : Option World :=
  match w.channels[channel]? with
  | none => none
  | some broker =>
    if broker.closed then
      none
    else
      some { w with
        channels := w.channels.set channel { broker with closed := true, consuming := false }
        permits := (broker.callback.map (ChannelCallback.close · w.permits)).getD w.permits
      }

/-- Two of the stages are the awaits of the status callback and of the `select!` in `ok_state`. -/
def pollOk (stage : OkStage) (w : World) : Option World :=
  let p := w.consumer
  match stage with
  | .entering => some ({ w with consumer := { p with state := .ok .reporting } }.execute .consuming)
  | .reporting => some { w with consumer := { p with state := .ok .waiting } }
  | .waiting =>
    if p.connectionRx.unseen then
      some ({ w with consumer := p.connectionChanged .reporting }.execute .recovering)
    else if w.permits[p.consumerCancelled]? = some true then
      let permits := w.permits.set p.consumerCancelled false
      let consumer := { p with state := .restoringConsumer .reporting }
      some ({ w with consumer, permits }.execute .recovering)
    else
      none

def pollWaitingForConnection (stage : WaitingStage) (w : World) : Option World :=
  let p := w.consumer
  match stage with
  | .reporting => some { w with consumer := { p with state := .waitingForConnection .checking } }
  | .checking =>
    let state := if p.connectionRx.value.isSome then
        .recreatingChannel .closing
      else
        .waitingForConnection .awaiting
    some { w with
      consumer := { p with
        connection := p.connectionRx.value
        connectionRx := p.connectionRx.markSeen
        state
      }
    }
  | .awaiting =>
    if p.connectionRx.unseen then
      some { w with consumer := p.connectionChanged .checking }
    else
      none

def pollRecreatingChannel (stage : RecreatingStage) (succeeded : Bool) (w : World) : Option World :=
  let p := w.consumer
  match stage with
  | .closing =>
    -- A failed close is not a problem, either way the call has returned.
    some { w with
      consumer := { p with state := .recreatingChannel .opening }
      channels := w.channels.modify p.channel ({ · with closed := true, consuming := false })
    }
  | .opening =>
    if p.connectionRx.unseen then
      some { w with consumer := p.connectionChanged .checking }
    else
      match p.connection with
      -- the panic of `unwrap`
      | none => none
      | some connection =>
        if succeeded then
          some { w with
            consumer := { p with
              channel := w.channels.length
              consumerCancelled := w.permits.length
              state := .recreatingChannel .registering
            }
            channels := w.channels
              ++ [{ connection, callback := none, closed := false, consuming := false }]
            permits := w.permits ++ [false]
          }
        else
          some w
  | .registering =>
    if p.connectionRx.unseen then
      some { w with consumer := p.connectionChanged .checking }
    else if succeeded then
      some { w with
        consumer := { p with state := .restoringConsumer .restoring }
        channels := w.channels.modify p.channel ({ · with callback := some p.consumerCancelled })
      }
    else
      some w

def pollRestoringConsumer (stage : RestoringStage) (succeeded : Bool) (w : World) : Option World :=
  let p := w.consumer
  match stage with
  | .reporting => some { w with consumer := { p with state := .restoringConsumer .restoring } }
  | .restoring =>
    if p.connectionRx.unseen then
      some { w with consumer := p.connectionChanged .checking }
    else if succeeded then
      match w.channels[p.channel]? with
      | none => none
      | some broker =>
        -- The broker accepts nothing on a channel it has closed.
        if broker.closed then
          none
        else
          some { w with
            consumer := { p with state := .restoringConsumer .restored }
            channels := w.channels.set p.channel { broker with consuming := true }
          }
    else
      some { w with consumer := { p with state := .recreatingChannel .closing } }
  | .restored =>
    if p.connectionRx.unseen then
      some { w with consumer := p.connectionChanged .checking }
    else
      some ({ w with consumer := { p with state := .ok .reporting } }.execute .consuming)

def poll (succeeded : Bool) (w : World) : Option World :=
  match w.consumer.state with
  | .ok stage => w.pollOk stage
  | .waitingForConnection stage => w.pollWaitingForConnection stage
  | .recreatingChannel stage => w.pollRecreatingChannel stage succeeded
  | .restoringConsumer stage => w.pollRestoringConsumer stage succeeded

def step (w : World) : Label → Option World
  | .cancel channel => w.cancel channel
  | .close channel => w.close channel
  | .poll succeeded => w.poll succeeded

end World

end Consumer

end TomNotifier.Rabbitmq
