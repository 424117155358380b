import TomNotifier.Core.Producer.Impl
import TomNotifier.Core.Service.Confirmations
import TomNotifier.Core.Service.Documents
import TomNotifier.Core.Service.Undelivered
import TomNotifier.WsDelivery.Consumer.Order

/-!
This module contains the core server, the servers that deliver over websockets and the broker between
them as one system. The broker hands every message that has been given to it to any server at any
time, repeatedly, in any order, or never.
-/

namespace TomNotifier

/-- A call of `find_undelivered_notifications`. -/
structure Poll where
  userId : Uuid
  progress : Core.FetchProgress
  -- history: the ids of the notifications the call has found
  found : List ObjectId

def Poll.step (store : Core.Store) (poll : Poll) (label : Core.FetchLabel)
    : Option (Core.Store × Poll) :=
  let fetch := { Core.Fetch.init store with progress := poll.progress }
  match fetch.step poll.userId label with
  | none => none
  | some fetch =>
    let found :=
      match label with
      | .find _ => fetch.notifications.map (·.id)
      | _ => poll.found
    some (fetch.store, { poll with progress := fetch.progress, found })

structure Deployment where
  core : Core.Service
  polls : List Poll
  nodes : List WsDelivery.NotificationsConsumerService

structure DeploymentConfig where
  notificationsService : Core.NotificationsServiceConfig
  websocketsService : WsDelivery.WebSocketsServiceConfig
  deduplicationService : WsDelivery.NotificationsDeduplicationServiceConfig

/--
`deliver j k` is a delivery of the `k`-th message core has produced to the `j`-th server, `confirm j k`
one of the `k`-th confirmation of the `j`-th server to core. What clients send to the servers is up to
them.
-/
inductive DeploymentLabel where
  | core (label : Core.Label)
  | find (userId : Uuid)
  | poll (i : Nat) (label : Core.FetchLabel)
  | start
  | deliver (j k : Nat)
  | node (j : Nat) (label : WsDelivery.ConsumerLabel)
  | collect (j : Nat) (now : OffsetDateTime)
  | confirm (j k : Nat) (label : Core.ConsumerLabel)

namespace Deployment

def init : Deployment where
  core := .init .empty
  polls := []
  nodes := []

def setStore (s : Deployment) (store : Core.Store) : Deployment :=
  { s with core := { s.core with store } }

def stepCore (config : DeploymentConfig) (s : Deployment) (label : Core.Label) : Option Deployment :=
  (s.core.step config.notificationsService label).map fun core => { s with core }

def stepPoll (s : Deployment) (i : Nat) (label : Core.FetchLabel) : Option Deployment :=
  match s.polls[i]? with
  | none => none
  | some poll =>
    (poll.step s.core.store label).map fun (store, poll) =>
      { s.setStore store with polls := s.polls.set i poll }

def stepNode (config : DeploymentConfig) (codec : WsDelivery.WebSocketCodec) (s : Deployment) (j : Nat)
    (label : WsDelivery.ConsumerLabel) : Option Deployment :=
  match s.nodes[j]? with
  | none => none
  | some node =>
    (node.step config.websocketsService codec label).map fun node =>
      { s with nodes := s.nodes.set j node }

def stepCollect (config : DeploymentConfig) (s : Deployment) (j : Nat) (now : OffsetDateTime)
    : Option Deployment :=
  s.nodes[j]?.map fun node =>
    let lastUpdates := WsDelivery.NotificationsDeduplicationService.collect
      config.deduplicationService now node.lastUpdates
    { s with nodes := s.nodes.set j { node with lastUpdates } }

def stepConfirm (codec : WsDelivery.WebSocketCodec) (s : Deployment) (j k : Nat)
    (label : Core.ConsumerLabel) : Option Deployment :=
  match s.nodes[j]? with
  | none => none
  | some node =>
    match node.server.handed[k]? with
    | none => none
    | some (_, confirmation) =>
      let content := codec.encodeRabbitmqConfirmation confirmation
      let consumer := Core.Consumer.init s.core.store [content]
      (consumer.step codec.toCodec label).map fun consumer => s.setStore consumer.store

def step (config : DeploymentConfig) (codec : WsDelivery.WebSocketCodec) (s : Deployment)
    : DeploymentLabel → Option Deployment
  | .core label =>
    match label with
    -- The other commands of the repository belong to the calls, the polls and the confirmations.
    | .repository (.updateInvalidateAt id producerId invalidateAt) =>
      s.stepCore config (.repository (.updateInvalidateAt id producerId invalidateAt))
    | .repository _ => none
    | label => s.stepCore config label
  | .find userId => some { s with polls := s.polls ++ [⟨userId, .started, []⟩] }
  | .poll i label =>
    match label with
    | .other _ => none
    | label => s.stepPoll i label
  | .start => some { s with nodes := s.nodes ++ [.init] }
  | .deliver j k =>
    match s.core.messages[k]? with
    | none => none
    | some notification =>
      let message := Core.NotificationsProducerService.produce codec.toCodec notification
      s.stepNode config codec j (.deliver message.content)
  | .node j label =>
    match label with
    | .deliver _ => none
    | label => s.stepNode config codec j label
  | .collect j now => s.stepCollect config j now
  | .confirm j k label => s.stepConfirm codec j k label

end Deployment

end TomNotifier
