import TomNotifier.Rabbitmq.Basic

/-!
This module contains `AsyncConsumer`: the tasks it spawns to process deliveries, and the task that
answers them on the channel.
-/

namespace TomNotifier.Rabbitmq.Consumer

abbrev AmqpDeliveryTag := UInt64

structure ConsumeError where
  requeue : Bool
  deriving DecidableEq

inductive DeliveryResponse where
  | ack (deliveryTag : AmqpDeliveryTag)
  | nack (deliveryTag : AmqpDeliveryTag) (requeue : Bool)
  deriving DecidableEq

/-- The methods a channel answers with, and their arguments. -/
inductive Answer where
  | basicAck (deliveryTag : AmqpDeliveryTag) (multiple : Bool)
  | basicNack (deliveryTag : AmqpDeliveryTag) (multiple : Bool) (requeue : Bool)
  deriving DecidableEq

inductive ProcessingState where
  | executing
  -- the callback has returned, the sender is upgraded and not dropped yet
  | answering (result : Except ConsumeError Unit)
  | finished (result : Except ConsumeError Unit) (sent : Bool)

structure ProcessingTask where
  -- the consumer whose `response_tx` is downgraded
  consumer : Nat
  deliveryTag : AmqpDeliveryTag
  content : Bytes
  state : ProcessingState

/-- An `AsyncConsumer` with the `ResponseTask` it has spawned. -/
structure AsyncConsumer where
  channel : ChannelId
  -- not dropped yet, and `response_tx` with it
  alive : Bool
  -- `response_rx`, until the response task finishes
  responses : List DeliveryResponse
  running : Bool
  -- history: what the response task has answered, and whether that could be sent
  answered : List (Answer × Bool)

namespace ProcessingTask

def response (deliveryTag : AmqpDeliveryTag) (result : Except ConsumeError Unit)
    : DeliveryResponse :=
  match result with
  | .ok () => .ack deliveryTag
  | .error { requeue } => .nack deliveryTag requeue

def isAnswering (task : ProcessingTask) : Bool :=
  match task.state with
  | .executing => false
  | .answering _ => true
  | .finished _ _ => false

end ProcessingTask

namespace ResponseTask

def answer (response : DeliveryResponse) : Answer :=
  match response with
  | .ack deliveryTag => .basicAck deliveryTag false
  | .nack deliveryTag requeue => .basicNack deliveryTag false requeue

end ResponseTask

namespace AsyncConsumer

def new (channel : ChannelId) : AsyncConsumer where
  channel
  alive := true
  responses := []
  running := true
  answered := []

end AsyncConsumer

structure Deliveries where
  consumers : List AsyncConsumer
  tasks : List ProcessingTask

namespace Deliveries

inductive Label where
  -- `try_restore_consumer` creates a consumer, for a new channel or for the one it has
  | new (channel : ChannelId)
  -- the channel, or a failed `basic_consume`, drops it
  | drop (consumer : Nat)
  | consume (consumer : Nat) (deliveryTag : AmqpDeliveryTag) (content : Bytes)
  -- the callback of a task returns
  | returned (task : Nat) (result : Except ConsumeError Unit)
  | send (task : Nat)
  -- the response task answers, which succeeds or fails
  | respond (consumer : Nat) (sent : Bool)
  | finish (consumer : Nat)

def init : Deliveries where
  consumers := []
  tasks := []

def channelOf (s : Deliveries) (consumer : Nat) : Option ChannelId :=
  s.consumers[consumer]?.map (·.channel)

/-- The broker numbers the deliveries of each channel. -/
def delivered (s : Deliveries) : List (Option ChannelId × AmqpDeliveryTag) :=
  s.tasks.map (fun task => (s.channelOf task.consumer, task.deliveryTag))

/-- There is a sender that is not weak. -/
def isOpen (s : Deliveries) (consumer : Nat) : Bool :=
  s.consumers[consumer]?.any (·.alive)
    || s.tasks.any (fun task => decide (task.consumer = consumer) && task.isAnswering)

def drop (s : Deliveries) (i : Nat) : Option Deliveries :=
  match s.consumers[i]? with
  | none => none
  | some consumer => some { s with consumers := s.consumers.set i { consumer with alive := false } }

def consume (s : Deliveries) (i : Nat) (deliveryTag : AmqpDeliveryTag) (content : Bytes)
    : Option Deliveries :=
  match s.consumers[i]? with
  | none => none
  | some consumer =>
    if consumer.alive ∧ (some consumer.channel, deliveryTag) ∉ s.delivered then
      let task := { consumer := i, deliveryTag, content, state := .executing }
      some { s with tasks := s.tasks ++ [task] }
    else
      none

/-- `ProcessingTask::run` from the await of the callback to the upgrade of the sender. -/
def returned (s : Deliveries) (k : Nat) (result : Except ConsumeError Unit) : Option Deliveries :=
  match s.tasks[k]? with
  | none => none
  | some task =>
    match task.state with
    | .executing =>
      let state := if s.isOpen task.consumer then
          .answering result
        else
          -- It is not an error if the channel is closed.
          .finished result false
      some { s with tasks := s.tasks.set k { task with state } }
    | _ => none

/-- The rest of `ProcessingTask::run`. -/
def send (s : Deliveries) (k : Nat) : Option Deliveries :=
  match s.tasks[k]? with
  | none => none
  | some task =>
    match task.state, s.consumers[task.consumer]? with
    | .answering result, some consumer =>
      let tasks := s.tasks.set k { task with state := .finished result consumer.running }
      if consumer.running then
        let response := ProcessingTask.response task.deliveryTag result
        let consumer := { consumer with responses := consumer.responses ++ [response] }
        some { s with tasks, consumers := s.consumers.set task.consumer consumer }
      else
        some { s with tasks }
    | _, _ => none

/-- `ResponseTask::run` with a response received. -/
def respond (s : Deliveries) (i : Nat) (sent : Bool) : Option Deliveries :=
  match s.consumers[i]? with
  | none => none
  | some consumer =>
    match consumer.running, consumer.responses with
    | true, response :: responses =>
      let answered := consumer.answered ++ [(ResponseTask.answer response, sent)]
      some { s with consumers := s.consumers.set i { consumer with responses, answered } }
    | _, _ => none

/-- `ResponseTask::run` with nothing left to receive. -/
def finish (s : Deliveries) (i : Nat) : Option Deliveries :=
  match s.consumers[i]? with
  | none => none
  | some consumer =>
    if consumer.running ∧ consumer.responses = [] ∧ s.isOpen i = false then
      some { s with consumers := s.consumers.set i { consumer with running := false } }
    else
      none

def step (s : Deliveries) : Label → Option Deliveries
  | .new channel => some { s with consumers := s.consumers ++ [.new channel] }
  | .drop i => s.drop i
  | .consume i deliveryTag content => s.consume i deliveryTag content
  | .returned k result => s.returned k result
  | .send k => s.send k
  | .respond i sent => s.respond i sent
  | .finish i => s.finish i

end Deliveries

end TomNotifier.Rabbitmq.Consumer
