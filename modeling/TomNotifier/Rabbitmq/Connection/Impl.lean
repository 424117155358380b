import TomNotifier.Rabbitmq.Basic

/-!
This module contains the connection's `StateMachine`, state by state.
-/

namespace TomNotifier.Rabbitmq.Connection

/-- `State`, at the await of the state's function. -/
inductive State where
  | ok
  | closingConnection
  | restoringConnection
  -- with `registered` the callback is there, and the state machine has not gone on yet
  | restoringCallback (registered : Bool)
  deriving DecidableEq

structure StateMachine where
  connection : ConnectionId
  -- the value in the watch channel
  connectionTx : Option ConnectionId
  state : State
  -- history: how many connections have been opened, and those the callback was registered on
  opened : Nat
  registered : List ConnectionId
  deriving DecidableEq

inductive Label where
  -- `listen_network_io_failure` returns
  | ioFailure
  -- the state machine runs up to its next await, the call it waits for having succeeded or failed
  | poll (succeeded : Bool)
  deriving DecidableEq

namespace StateMachine

/-- The state machine `RabbitmqConnection::new` starts. -/
def init : StateMachine where
  connection := 0
  connectionTx := some 0
  state := .ok
  opened := 1
  registered := [0]

def ioFailure (s : StateMachine) : StateMachine × Option (Option ConnectionId) :=
  -- There is no await until `closing_connection_state` has published that there is no connection.
  ({ s with connectionTx := none, state := .closingConnection }, some none)

def pollRestoringConnection (succeeded : Bool) (s : StateMachine) : StateMachine :=
  if succeeded then
    { s with connection := s.opened, opened := s.opened + 1, state := .restoringCallback false }
  else
    s

def pollRestoringCallback (registered succeeded : Bool) (s : StateMachine)
    : StateMachine × Option (Option ConnectionId) :=
  match registered with
  | false =>
    if succeeded then
      let registered := s.registered ++ [s.connection]
      ({ s with registered, state := .restoringCallback true }, none)
    else
      (s, none)
  | true =>
    ({ s with connectionTx := some s.connection, state := .ok }, some (some s.connection))

/-- The second component is what is published, if anything is. -/
def step (s : StateMachine) : Label → Option (StateMachine × Option (Option ConnectionId))
  | .ioFailure =>
    match s.state with
    | .ok => some s.ioFailure
    | .restoringCallback _ => some s.ioFailure
    | _ => none
  | .poll succeeded =>
    match s.state with
    | .ok => none
    -- A failed close is not a problem, either way the call has returned.
    | .closingConnection => some ({ s with state := .restoringConnection }, none)
    | .restoringConnection => some (s.pollRestoringConnection succeeded, none)
    | .restoringCallback registered => some (s.pollRestoringCallback registered succeeded)

end StateMachine

end TomNotifier.Rabbitmq.Connection
