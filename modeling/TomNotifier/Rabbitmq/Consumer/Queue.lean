import TomNotifier.Rabbitmq.Consumer.Responses

/-!
This module contains the queue of a consumer: the broker's side of what is delivered to an
`AsyncConsumer` and of how it answers. The queue outlives the channels it is consumed on.
-/

namespace TomNotifier.Rabbitmq.Consumer

/-- A message of the queue, `number` tells it from others with the same content. -/
structure QueuedMessage where
  number : Nat
  content : Bytes
  deriving DecidableEq

structure Delivery where
  consumer : Nat
  channel : ChannelId
  deliveryTag : AmqpDeliveryTag
  message : QueuedMessage
  deriving DecidableEq

structure Queue where
  deliveries : Deliveries
  ready : List QueuedMessage
  -- delivered on a channel that is not closed, and not answered yet
  unacked : List Delivery
  closed : List ChannelId
  -- what the response tasks have written, on its way to the broker
  answering : List (ChannelId × Answer)
  -- history: the published messages, all deliveries, the answers that have arrived, and the deliveries
  -- whose message the broker has removed
  published : List QueuedMessage
  delivered : List Delivery
  answered : List (ChannelId × Answer)
  removed : List Delivery

inductive QueueLabel where
  | publish (content : Bytes)
  | deliver (consumer : Nat) (deliveryTag : AmqpDeliveryTag)
  -- the channel or its connection is closed, as far as the broker is concerned
  | close (channel : ChannelId)
  | receive (k : Nat)
  | client (label : Deliveries.Label)

def Delivery.isOn (channel : ChannelId) (d : Delivery) : Bool := decide (d.channel = channel)

def Delivery.isAnswered (channel : ChannelId) (answer : Answer) (d : Delivery) : Bool :=
  d.isOn channel && answer.covers d.deliveryTag

def Delivery.key (d : Delivery) : ChannelId × AmqpDeliveryTag := (d.channel, d.deliveryTag)

/-- What a consumer is handed of the delivery. -/
def Delivery.handed (d : Delivery) : Nat × AmqpDeliveryTag × Bytes :=
  (d.consumer, d.deliveryTag, d.message.content)

/-- Whether the broker puts the message back. -/
def Answer.requeues : Answer → Bool
  | .basicAck _ _ => false
  | .basicNack _ _ requeue => requeue

/-- What the response tasks have written to the channels that the client did not find closed. -/
def Deliveries.sent (s : Deliveries) : List (ChannelId × Answer) :=
  (s.answers.filter (·.2.2)).map (fun entry => (entry.1, entry.2.1))

/-- What a step of the consumers sends. -/
def Deliveries.sends (s : Deliveries) : Deliveries.Label → List (ChannelId × Answer)
  | .respond i true =>
    match s.consumers[i]? with
    | none => []
    | some consumer =>
      match consumer.responses with
      | [] => []
      | response :: _ => [(consumer.channel, ResponseTask.answer response)]
  | _ => []

namespace Queue

def init : Queue where
  deliveries := .init
  ready := []
  unacked := []
  closed := []
  answering := []
  published := []
  delivered := []
  answered := []
  removed := []

def publish (s : Queue) (content : Bytes) : Queue :=
  let message := { number := s.published.length, content }
  { s with ready := s.ready ++ [message], published := s.published ++ [message] }

def deliver (s : Queue) (i : Nat) (deliveryTag : AmqpDeliveryTag) : Option Queue :=
  match s.deliveries.consumers[i]?, s.ready with
  | some consumer, message :: ready =>
    -- The broker numbers the deliveries of each channel.
    if consumer.channel ∉ s.closed
        ∧ (consumer.channel, deliveryTag) ∉ s.delivered.map Delivery.key then
      let d := { consumer := i, channel := consumer.channel, deliveryTag, message }
      some { s with ready, unacked := s.unacked ++ [d], delivered := s.delivered ++ [d] }
    else
      none
  | _, _ => none

def close (s : Queue) (channel : ChannelId) : Queue :=
  { s with
    closed := channel :: s.closed
    ready := (s.unacked.filter (·.isOn channel)).map (·.message) ++ s.ready
    unacked := s.unacked.filter (fun d => !d.isOn channel)
  }

def settle (s : Queue) (channel : ChannelId) (answer : Answer) : Queue :=
  let settled := s.unacked.filter (·.isAnswered channel answer)
  let unacked := s.unacked.filter (fun d => !d.isAnswered channel answer)
  if settled = [] then
    -- `PRECONDITION_FAILED`, the delivery tag is not known
    s.close channel
  else if answer.requeues then
    { s with unacked, ready := settled.map (·.message) ++ s.ready }
  else
    { s with unacked, removed := s.removed ++ settled }

def arrive (s : Queue) (k : Nat) (entry : ChannelId × Answer) : Queue :=
  { s with answering := s.answering.eraseIdx k, answered := s.answered ++ [entry] }

def receive (s : Queue) (k : Nat) : Option Queue :=
  match s.answering[k]? with
  | none => none
  | some (channel, answer) =>
    let s := s.arrive k (channel, answer)
    -- The broker does not heed what arrives on a closed channel.
    some (if channel ∈ s.closed then s else s.settle channel answer)

def client (s : Queue) (label : Deliveries.Label) : Option Queue :=
  (s.deliveries.step label).map fun deliveries =>
    { s with deliveries, answering := s.answering ++ s.deliveries.sends label }

def step (s : Queue) : QueueLabel → Option Queue
  | .publish content => some (s.publish content)
  | .deliver i deliveryTag => s.deliver i deliveryTag
  | .close channel => some (s.close channel)
  | .receive k => s.receive k
  | .client (.consume i deliveryTag content) =>
    if (i, deliveryTag, content) ∈ s.delivered.map Delivery.handed then
      s.client (.consume i deliveryTag content)
    else
      none
  | .client label => s.client label

end Queue

end TomNotifier.Rabbitmq.Consumer
