import TomNotifier.Common.Basic

/-!
This module contains what the state machines of the RabbitMQ client are made of: watch channels,
names of connections and channels, and messages.
-/

namespace TomNotifier.Rabbitmq

/--
A tokio watch channel with one receiver, for which a new value is unseen.
-/
structure Watch (α : Type) where
  value : α
  unseen : Bool
  deriving DecidableEq

namespace Watch

variable {α : Type}

def send (value : α) : Watch α := { value, unseen := true }

def markSeen (watch : Watch α) : Watch α := { watch with unseen := false }

end Watch

abbrev ConnectionId := Nat

abbrev ChannelId := Nat

structure BasicProperties where
  -- The one property the servers set.
  persistence : Bool
  deriving DecidableEq

structure Message where
  routingKey : String
  basicProperties : BasicProperties
  content : Bytes
  deriving DecidableEq

/-- A `Box<Message>`. The address tells messages with equal contents apart. -/
structure BoxedMessage where
  address : Nat
  message : Message
  deriving DecidableEq

end TomNotifier.Rabbitmq
