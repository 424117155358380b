import TomNotifier.Rabbitmq.Connection.Impl
import TomNotifier.Rabbitmq.Consumer.Impl
import TomNotifier.Rabbitmq.Producer.Impl

/-!
This module contains the connection's state machine running next to the state machine of a producer
or a consumer, from the creation of the latter on.
-/

namespace TomNotifier.Rabbitmq

/-- What the producer's and the consumer's state machine have in common from outside. -/
structure Machine (ι σ α : Type) where
  start : ι → ConnectionId → Watch (Option ConnectionId) → σ
  publish : Option ConnectionId → σ → σ
  step : σ → α → Option σ

inductive Client (σ : Type) where
  | absent
  -- in `new`, which has read this connection from its receiver
  | creating (connection : ConnectionId) (connectionRx : Watch (Option ConnectionId))
  | running (machine : σ)

structure Link (σ : Type) where
  connection : Connection.StateMachine
  client : Client σ

inductive LinkLabel (ι α : Type) where
  | connection (label : Connection.Label)
  | create
  | start (input : ι)
  -- `new` has failed, or the state machine has been stopped
  | finish
  | client (label : α)

namespace Client

variable {ι σ α : Type}

def publish (machine : Machine ι σ α) (connection : Option ConnectionId) : Client σ → Client σ
  | .absent => .absent
  | .creating stored _ => .creating stored (Watch.send connection)
  | .running m => .running (machine.publish connection m)

end Client

namespace Link

variable {ι σ α : Type}

def init : Link σ where
  connection := .init
  client := .absent

def step (machine : Machine ι σ α) (s : Link σ) : LinkLabel ι α → Option (Link σ)
  | .connection label =>
    match s.connection.step label with
    | none => none
    | some (connection, none) => some { s with connection }
    | some (connection, some published) =>
      some { connection, client := s.client.publish machine published }
  | .create =>
    match s.client with
    | .absent =>
      match s.connection.connectionTx with
      -- `connection failed before creating producer`
      | none => some s
      | some connection =>
        let connectionRx := { value := some connection, unseen := false }
        some { s with client := .creating connection connectionRx }
    | _ => none
  | .start input =>
    match s.client with
    | .creating connection connectionRx =>
      some { s with client := .running (machine.start input connection connectionRx) }
    | _ => none
  | .finish => some { s with client := .absent }
  | .client label =>
    match s.client with
    | .running m => (machine.step m label).map fun m => { s with client := .running m }
    | _ => none

end Link

/-- The producer also gets a receiver of whether the connection is blocked. -/
def Producer.machine : Machine (Watch Bool) Producer.World Producer.Label where
  start blockedRx connection connectionRx :=
    let w := Producer.World.init connection blockedRx.value
    { w with producer := { w.producer with connectionRx, blockedRx } }
  publish connection w :=
    { w with producer := { w.producer with connectionRx := Watch.send connection } }
  step w
    -- published by the connection's task only
    | .connection _ => none
    | label => w.step label

def Consumer.machine : Machine Unit Consumer.World Consumer.Label where
  start _ := Consumer.World.start
  publish := Consumer.World.publish
  step := Consumer.World.step

end TomNotifier.Rabbitmq
