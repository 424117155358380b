import TomNotifier.WsDelivery.Consumer.Suppression
import TomNotifier.WsDelivery.WebSockets.Recipients
import TomNotifier.WsDelivery.WebSockets.Registry

/-!
This module contains in which order the updates of one notification are queued, with one task for
every delivery.
-/

namespace TomNotifier.WsDelivery

inductive DeliveryState where
  | received
  -- `deduplicate` has accepted the update, which has not been sent yet
  | accepted
  | finished
  deriving DecidableEq

/-- A delivery `execute` does not refuse before it calls the deduplication service. -/
structure Delivery where
  request : DeliveryCallback.Request
  state : DeliveryState

structure NotificationsConsumerService where
  lastUpdates : LastUpdates
  server : Server
  deliveries : List Delivery

inductive ConsumerLabel where
  | deliver (content : Bytes)
  | deduplicate (i : Nat)
  | send (i : Nat) (now : OffsetDateTime) (messageId : Uuid)
  | server (label : ServerLabel)

namespace NotificationsConsumerService

def init : NotificationsConsumerService where
  lastUpdates := NotificationsDeduplicationService.new
  server := .init
  deliveries := []

section

variable (config : WebSocketsServiceConfig) (codec : WebSocketCodec)

def step (s : NotificationsConsumerService) : ConsumerLabel → Option NotificationsConsumerService
  | .deliver content =>
    match DeliveryCallback.parse codec.toCodec content with
    | .error _ => some s
    | .ok request => some { s with deliveries := s.deliveries ++ [⟨request, .received⟩] }
  | .deduplicate i =>
    match s.deliveries[i]? with
    | some ⟨request, .received⟩ =>
      match NotificationsDeduplicationService.deduplicate request.update s.lastUpdates with
      | (.ok (), lastUpdates) =>
        some { s with lastUpdates, deliveries := s.deliveries.set i ⟨request, .accepted⟩ }
      | (.error _, lastUpdates) =>
        some { s with lastUpdates, deliveries := s.deliveries.set i ⟨request, .finished⟩ }
    | _ => none
  | .send i now messageId =>
    match s.deliveries[i]? with
    | some ⟨request, .accepted⟩ =>
      (s.server.step config codec (.send request.userIds request.notification now messageId)).map
        fun server => { s with server, deliveries := s.deliveries.set i ⟨request, .finished⟩ }
    | _ => none
  | .server (.send _ _ _ _) => none
  | .server label => (s.server.step config codec label).map fun server => { s with server }

end

/-- The update of a notification the message is about, `none` for a network status. -/
def statusUpdate (codec : Codec) (message : WebSocketMessage) : Option NotificationStatusUpdate :=
  match message.payload.notification with
  | none => none
  | some notification => (NotificationStatusUpdate.tryFrom codec notification).toOption

def updates (codec : Codec) (channel : Channel) : List NotificationStatusUpdate :=
  channel.queued.filterMap (statusUpdate codec)

abbrev Increasing (queue : List NotificationStatusUpdate) : Prop :=
  queue.Pairwise (fun update update' => update.id = update'.id → update.timestamp < update'.timestamp)

def Ordered (codec : Codec) (s : NotificationsConsumerService) : Prop :=
  ∀ channel ∈ s.server.websocketsService.channels, Increasing (updates codec channel)

def Accepted (i : Nat) (request : DeliveryCallback.Request) (s : NotificationsConsumerService) : Prop :=
  s.deliveries[i]? = some ⟨request, .accepted⟩

def Addresses (request : DeliveryCallback.Request) (userId : Uuid) : Prop :=
  request.userIds = [] ∨ userId ∈ request.userIds

/--
What is sent reaches no connected user twice, nor before an older event of the notification that has
been accepted, too, and is for the same connected user.
-/
def InTurn (s : NotificationsConsumerService) : ConsumerLabel → Prop
  | .send i _ _ =>
    ∀ request userId, s.Accepted i request → s.server.websocketsService.Connected userId →
      request.userIds.count userId ≤ 1
        ∧ ∀ j request', s.Accepted j request' → request'.update.id = request.update.id →
          Addresses request userId → Addresses request' userId →
          request.update.timestamp ≤ request'.update.timestamp
  | _ => True

open LatestWins

structure QueueInOrder (tx : ChannelId) (queue : List NotificationStatusUpdate)
    (s : NotificationsConsumerService) : Prop where
  known : ∀ update ∈ queue, ¬Accepts s.lastUpdates update.id update.timestamp
  ahead : ∀ update ∈ queue, ∀ userId i request,
    s.server.websocketsService.usersConnections.lookup userId = some tx → s.Accepted i request →
      Addresses request userId → update.id = request.update.id →
      update.timestamp < request.update.timestamp
  increasing : Increasing queue

structure InOrder (codec : Codec) (s : NotificationsConsumerService) : Prop where
  parsed : ∀ delivery ∈ s.deliveries,
    NotificationStatusUpdate.tryFrom codec delivery.request.notification = .ok delivery.request.update
  known : ∀ i request, s.Accepted i request →
    ¬Accepts s.lastUpdates request.update.id request.update.timestamp
  distinct : ∀ i j request request', s.Accepted i request → s.Accepted j request' →
    request.update.id = request'.update.id →
      request.update.timestamp = request'.update.timestamp → i = j
  queues : ∀ tx channel, s.server.websocketsService.channels[tx]? = some channel →
    s.QueueInOrder tx (updates codec channel)

variable {config : WebSocketsServiceConfig} {codec : WebSocketCodec}
variable {s s' : NotificationsConsumerService} {tx : ChannelId}
variable {request request' : DeliveryCallback.Request}
variable {queue : List NotificationStatusUpdate} {i j : Nat} {state : DeliveryState}

theorem tryFrom_of_parse {content : Bytes}
    (h : DeliveryCallback.parse codec.toCodec content = .ok request)
    : NotificationStatusUpdate.tryFrom codec.toCodec request.notification = .ok request.update := by
  rcases DeliveryCallback.parse_eq_ok_iff.mp h with ⟨_, _, _, _, hupdate⟩
  exact hupdate

theorem QueueInOrder.nil : s.QueueInOrder tx [] := by
  exact ⟨by simp, by simp, .nil⟩

theorem QueueInOrder.frame (h : s.QueueInOrder tx queue)
    (hlast : s'.lastUpdates = s.lastUpdates)
    (hlookup : ∀ userId, s'.server.websocketsService.usersConnections.lookup userId = some tx →
      s.server.websocketsService.usersConnections.lookup userId = some tx)
    (haccepted : ∀ i request, s'.Accepted i request → s.Accepted i request)
    : s'.QueueInOrder tx queue := by
  refine ⟨?_, ?_, h.increasing⟩
  . rw [hlast]
    exact h.known
  . intro update hmem userId i request htx hrequest
    exact h.ahead update hmem userId i request (hlookup userId htx) (haccepted i request hrequest)

theorem accepted_of_append (h : (s.deliveries ++ [⟨request, .received⟩])[i]? = some ⟨request', .accepted⟩)
    : s.Accepted i request' := by
  rcases getElem?_append_singleton_cases h with hold | ⟨_, hnew⟩
  . exact hold
  . simp at hnew

theorem accepted_of_set (h : (s.deliveries.set i ⟨request, state⟩)[j]? = some ⟨request', .accepted⟩)
    : (j = i ∧ request' = request ∧ state = .accepted) ∨ (j ≠ i ∧ s.Accepted j request') := by
  rcases getElem?_set_cases h with ⟨hij, hsame⟩ | ⟨hij, hold⟩
  . cases hsame
    exact .inl ⟨hij, rfl, rfl⟩
  . exact .inr ⟨hij, hold⟩

theorem InOrder.frame (h : s.InOrder codec.toCodec)
    (hparsed : ∀ delivery ∈ s'.deliveries,
      NotificationStatusUpdate.tryFrom codec.toCodec delivery.request.notification
        = .ok delivery.request.update)
    (hlast : s'.lastUpdates = s.lastUpdates) (hserver : s'.server = s.server)
    (haccepted : ∀ i request, s'.Accepted i request → s.Accepted i request)
    : s'.InOrder codec.toCodec := by
  constructor
  . exact hparsed
  . intro i request hrequest
    rw [hlast]
    exact h.known i request (haccepted i request hrequest)
  . intro i j request request' hrequest hrequest'
    exact h.distinct i j request request' (haccepted i request hrequest) (haccepted j request' hrequest')
  . intro tx channel hchannel
    rw [hserver] at hchannel
    exact (h.queues tx channel hchannel).frame hlast (fun _ hlookup => hserver ▸ hlookup) haccepted

theorem InOrder.deliver (h : s.InOrder codec.toCodec)
    (hparse : NotificationStatusUpdate.tryFrom codec.toCodec request.notification = .ok request.update)
    : InOrder codec.toCodec { s with deliveries := s.deliveries ++ [⟨request, .received⟩] } := by
  refine h.frame ?_ rfl rfl (fun _ _ haccepted => accepted_of_append haccepted)
  intro delivery hdelivery
  rcases List.mem_append.mp hdelivery with hmem | hnew
  . exact h.parsed delivery hmem
  . rw [List.mem_singleton.mp hnew]
    exact hparse

theorem InOrder.parsed_set (h : s.InOrder codec.toCodec) {state' : DeliveryState}
    (hi : s.deliveries[i]? = some ⟨request, state'⟩)
    : ∀ delivery ∈ s.deliveries.set i ⟨request, state⟩,
        NotificationStatusUpdate.tryFrom codec.toCodec delivery.request.notification
          = .ok delivery.request.update := by
  intro delivery hdelivery
  rcases List.mem_or_eq_of_mem_set hdelivery with hmem | rfl
  . exact h.parsed delivery hmem
  . exact h.parsed ⟨request, state'⟩ (List.mem_of_getElem? hi)

theorem InOrder.finish (h : s.InOrder codec.toCodec) (hi : s.deliveries[i]? = some ⟨request, state⟩)
    : InOrder codec.toCodec { s with deliveries := s.deliveries.set i ⟨request, .finished⟩ } := by
  refine h.frame (h.parsed_set hi) rfl rfl ?_
  intro j request' haccepted
  rcases accepted_of_set haccepted with ⟨_, _, hstate⟩ | ⟨_, haccepted'⟩
  . simp at hstate
  . exact haccepted'

-- The accepted update is newer than all of its notification that have been accepted before.
theorem InOrder.accept (h : s.InOrder codec.toCodec) (hi : s.deliveries[i]? = some ⟨request, .received⟩)
    (haccepts : Accepts s.lastUpdates request.update.id request.update.timestamp)
    : InOrder codec.toCodec { s with
        lastUpdates := present s.lastUpdates request.update.id request.update.timestamp
        deliveries := s.deliveries.set i ⟨request, .accepted⟩ } := by
  constructor
  . exact h.parsed_set hi
  . intro j request' haccepted
    rcases accepted_of_set haccepted with ⟨_, rfl, _⟩ | ⟨_, haccepted'⟩
    . exact not_accepts_present_self
    . exact not_accepts_present (h.known j request' haccepted')
  . intro j k request₁ request₂ haccepted₁ haccepted₂ hid htimestamp
    rcases accepted_of_set haccepted₁ with ⟨rfl, rfl, _⟩ | ⟨_, haccepted₁'⟩
    . rcases accepted_of_set haccepted₂ with ⟨rfl, _, _⟩ | ⟨_, haccepted₂'⟩
      . rfl
      . rw [hid, htimestamp] at haccepts
        exact absurd haccepts (h.known k request₂ haccepted₂')
    . rcases accepted_of_set haccepted₂ with ⟨rfl, rfl, _⟩ | ⟨_, haccepted₂'⟩
      . rw [← hid, ← htimestamp] at haccepts
        exact absurd haccepts (h.known j request₁ haccepted₁')
      . exact h.distinct j k request₁ request₂ haccepted₁' haccepted₂' hid htimestamp
  . intro tx channel hchannel
    have hqueue := h.queues tx channel hchannel
    refine ⟨?_, ?_, hqueue.increasing⟩
    . intro update hmem
      exact not_accepts_present (hqueue.known update hmem)
    . intro update hmem userId j request' htx haccepted haddresses hid
      rcases accepted_of_set haccepted with ⟨_, rfl, _⟩ | ⟨_, haccepted'⟩
      . apply lt_of_accepts (hqueue.known update hmem)
        rw [hid]
        exact haccepts
      . exact hqueue.ahead update hmem userId j request' htx haccepted' haddresses hid

theorem InOrder.deduplicate (h : s.InOrder codec.toCodec)
    (hstep : step config codec s (.deduplicate i) = some s') : s'.InOrder codec.toCodec := by
  unfold step at hstep
  dsimp only at hstep
  split at hstep
  . next request hi =>
    rw [NotificationsDeduplicationService.deduplicate_eq] at hstep
    by_cases haccepts : Accepts s.lastUpdates request.update.id request.update.timestamp
    . simp only [haccepts, if_true, Option.some.injEq] at hstep
      rw [← hstep]
      exact h.accept hi haccepts
    . simp only [haccepts, if_false, present, Option.some.injEq] at hstep
      rw [← hstep]
      exact h.finish hi
  . simp at hstep

theorem updates_of_effect {server server' : Server} {label : ServerLabel} {channel' : Channel}
    (heffect : Server.Effect config codec server server' label)
    (hlabel : ∀ userIds notification now messageId, label ≠ .send userIds notification now messageId)
    (hchannel' : server'.websocketsService.channels[tx]? = some channel')
    : updates codec.toCodec channel' = []
        ∨
      ∃ channel, server.websocketsService.channels[tx]? = some channel
        ∧ updates codec.toCodec channel' = updates codec.toCodec channel := by
  rcases heffect.grown hchannel' with ⟨messages, hposts, hgrown⟩
  have hnone : messages.filterMap (statusUpdate codec.toCodec) = [] := by
    rw [List.filterMap_eq_nil_iff]
    intro message hmessage
    have hnotification : message.payload.notification = none := by
      have hpost := hposts message hmessage
      cases label with
      | handleClient userId now instant messageId => exact hpost
      | send userIds notification now messageId => exact absurd rfl (hlabel _ _ _ _)
      | broadcastNetworkStatus status now messageId => exact hpost
      | _ => exact absurd hpost (by simp [ServerLabel.posts])
    rw [statusUpdate, hnotification]
  cases hchannel : server.websocketsService.channels[tx]? with
  | none =>
    rw [hchannel] at hgrown
    refine .inl ?_
    rw [updates, hgrown, hnone]
  | some channel =>
    rw [hchannel] at hgrown
    refine .inr ⟨channel, rfl, ?_⟩
    rw [updates, hgrown.1, List.filterMap_append, hnone, List.append_nil]
    rfl

theorem InOrder.server (h : s.InOrder codec.toCodec) {server : Server} {label : ServerLabel}
    (heffect : Server.Effect config codec s.server server label)
    (hlabel : ∀ userIds notification now messageId, label ≠ .send userIds notification now messageId)
    : InOrder codec.toCodec { s with server } := by
  refine ⟨h.parsed, h.known, h.distinct, ?_⟩
  intro tx channel' hchannel'
  rcases updates_of_effect heffect hlabel hchannel' with hempty | ⟨channel, hchannel, hsame⟩
  . rw [hempty]
    exact .nil
  . rw [hsame]
    refine (h.queues tx channel hchannel).frame rfl ?_ (fun _ _ haccepted => haccepted)
    intro userId hlookup
    rcases heffect.lookup_cases hlookup with hlookup' | ⟨hnone, _⟩
    . exact hlookup'
    . rw [hnone] at hchannel
      simp at hchannel

theorem accepted_of_finish
    (h : Accepted j request' { s with deliveries := s.deliveries.set i ⟨request, .finished⟩ })
    : j ≠ i ∧ s.Accepted j request' := by
  rcases accepted_of_set h with ⟨_, _, hstate⟩ | haccepted
  . simp at hstate
  . exact haccepted

/-- The update that is sent comes after those in the channel, and before the accepted ones. -/
theorem InOrder.queue_sent (h : s.InOrder codec.toCodec) (hi : s.Accepted i request)
    {now : OffsetDateTime} {messageId : Uuid} (hturn : s.InTurn (.send i now messageId))
    {server : Server} {userId : Uuid} {channel : Channel}
    (hsame : server.websocketsService.usersConnections = s.server.websocketsService.usersConnections)
    (hlookup : s.server.websocketsService.usersConnections.lookup userId = some tx)
    (hchannel : s.server.websocketsService.channels[tx]? = some channel)
    (hreceivers : 0 < channel.receivers) (haddresses : Addresses request userId)
    : QueueInOrder tx (updates codec.toCodec channel ++ [request.update])
        { s with server, deliveries := s.deliveries.set i ⟨request, .finished⟩ } := by
  have hqueue := h.queues tx channel hchannel
  have hnext := (hturn request userId hi ⟨tx, channel, hlookup, hchannel, hreceivers⟩).2
  constructor
  . intro update hmem
    rcases List.mem_append.mp hmem with hold | hnew
    . exact hqueue.known update hold
    . rw [List.mem_singleton.mp hnew]
      exact h.known i request hi
  . intro update hmem userId' j request' hlookup' haccepted haddresses' hid
    rcases accepted_of_finish haccepted with ⟨hne, haccepted'⟩
    dsimp only at hlookup'
    rw [hsame] at hlookup'
    rcases List.mem_append.mp hmem with hold | hnew
    . exact hqueue.ahead update hold userId' j request' hlookup' haccepted' haddresses' hid
    . rw [List.mem_singleton.mp hnew] at hid ⊢
      have huser := s.server.websocketsService.lookup_inj hlookup' hlookup
      subst huser
      apply lt_of_le_of_ne (hnext j request' haccepted' hid.symm haddresses haddresses')
      intro htimestamp
      exact hne (h.distinct i j request request' hi haccepted' hid htimestamp).symm
  . rw [Increasing, List.pairwise_append]
    refine ⟨hqueue.increasing, List.pairwise_singleton _ _, ?_⟩
    intro update hold update' hnew hid
    rw [List.mem_singleton.mp hnew] at hid ⊢
    exact hqueue.ahead update hold userId i request hlookup hi haddresses hid

theorem InOrder.send (h : s.InOrder codec.toCodec) {now : OffsetDateTime} {messageId : Uuid}
    (hturn : s.InTurn (.send i now messageId))
    (hstep : step config codec s (.send i now messageId) = some s') : s'.InOrder codec.toCodec := by
  unfold step at hstep
  dsimp only at hstep
  split at hstep
  swap
  . simp at hstep
  . next request hi =>
    rw [Option.map_eq_some_iff] at hstep
    rcases hstep with ⟨server, hserver, rfl⟩
    have hfinish := h.finish hi
    refine ⟨hfinish.parsed, hfinish.known, hfinish.distinct, ?_⟩
    cases Server.effect_of_step hserver with
    | task label i c c' state state' message task? => simp [ServerLabel.task?] at task?
    | send userIds notification now messageId service tasks =>
      intro tx channel' hchannel'
      dsimp only at hchannel'
      rw [service] at hchannel'
      have hsame : server.websocketsService.usersConnections
          = s.server.websocketsService.usersConnections := by
        rw [service, WebSocketsServiceImpl.send_usersConnections]
      by_cases hreaches : s.server.websocketsService.Reaches request.userIds tx
      . rcases hreaches with ⟨userId, channel, hlookup, hchannel, hreceivers, haddresses⟩
        have hcount := (hturn request userId hi ⟨tx, channel, hlookup, hchannel, hreceivers⟩).1
        rw [WebSocketsServiceImpl.send_channels hlookup, hchannel, Option.map_some,
          WebSocketsServiceImpl.copies_eq_one haddresses hcount, Channel.sendMany_one hreceivers,
          Option.some.injEq] at hchannel'
        have hupdates : updates codec.toCodec channel'
            = updates codec.toCodec channel ++ [request.update] := by
          have hparsed := h.parsed _ (List.mem_of_getElem? hi)
          dsimp only at hparsed
          rw [← hchannel', updates, List.filterMap_append]
          simp only [List.filterMap_cons, List.filterMap_nil, statusUpdate,
            WebSocketsServiceImpl.createMessage_notification, hparsed]
          rfl
        rw [hupdates]
        exact h.queue_sent hi hturn hsame hlookup hchannel hreceivers haddresses
      . rw [WebSocketsServiceImpl.send_channels_of_not_reaches hreaches] at hchannel'
        refine (h.queues tx channel' hchannel').frame rfl ?_ ?_
        . intro userId hlookup
          rwa [← hsame]
        . intro j request' haccepted
          exact (accepted_of_finish haccepted).2

theorem InOrder.step (h : s.InOrder codec.toCodec) (label : ConsumerLabel) (hturn : s.InTurn label)
    (hstep : step config codec s label = some s') : s'.InOrder codec.toCodec := by
  cases label with
  | deliver content =>
    unfold NotificationsConsumerService.step at hstep
    dsimp only at hstep
    split at hstep
    . simp only [Option.some.injEq] at hstep
      exact hstep ▸ h
    . next request hparse =>
      simp only [Option.some.injEq] at hstep
      rw [← hstep]
      exact h.deliver (tryFrom_of_parse hparse)
  | deduplicate i => exact h.deduplicate hstep
  | send i now messageId => exact h.send hturn hstep
  | server label =>
    cases label with
    | send userIds notification now messageId => simp [NotificationsConsumerService.step] at hstep
    | _ =>
      simp only [NotificationsConsumerService.step, Option.map_eq_some_iff] at hstep
      rcases hstep with ⟨server, hserver, rfl⟩
      exact h.server (Server.effect_of_step hserver) (by simp)

/--
The events of one notification are queued in the order of their timestamps when every event is sent
in its turn.
-/
theorem ordered_of_in_turn (config : WebSocketsServiceConfig) (codec : WebSocketCodec)
    (labels : List ConsumerLabel) (s : NotificationsConsumerService)
    (hturn : System.Along (step config codec) InTurn init labels)
    (hrun : System.run (step config codec) init labels = some s) : s.Ordered codec.toCodec := by
  have hinit : init.InOrder codec.toCodec := by
    constructor
    all_goals simp [init, Accepted, Server.init, WebSocketsServiceImpl.new]
  have hinOrder := System.run_invariant_along (fun s label s' h hturn hstep => h.step label hturn hstep)
    hinit hturn hrun
  intro channel hchannel
  rcases List.getElem?_of_mem hchannel with ⟨tx, htx⟩
  exact (hinOrder.queues tx channel htx).increasing

/-- No other event waits, as it is when deliveries come one after another. -/
def Alone (s : NotificationsConsumerService) : ConsumerLabel → Prop
  | .send i _ _ =>
    (∀ delivery ∈ s.deliveries[i]?, delivery.request.userIds.Nodup)
      ∧ ∀ delivery ∈ s.deliveries.eraseIdx i, delivery.state ≠ .accepted
  | _ => True

instance (s : NotificationsConsumerService) (label : ConsumerLabel) : Decidable (s.Alone label) :=
  match label with
  | .deliver _ => isTrue trivial
  | .deduplicate _ => isTrue trivial
  | .send _ _ _ => inferInstanceAs (Decidable (_ ∧ _))
  | .server _ => isTrue trivial

theorem inTurn_of_alone {label : ConsumerLabel} (h : s.Alone label) : s.InTurn label := by
  cases label with
  | send i now messageId =>
    rintro request userId hi -
    refine ⟨List.nodup_iff_count_le_one.mp (h.1 _ hi) userId, ?_⟩
    intro j request' hj _ _ _
    by_cases hij : j = i
    . subst hij
      have heq := hi.symm.trans hj
      rw [Option.some.injEq, Delivery.mk.injEq] at heq
      rw [heq.1]
    . exact absurd rfl (h.2 _ (List.mem_eraseIdx_iff_getElem?.mpr ⟨j, hij, hj⟩))
  | _ => trivial

def sampleCodec : WebSocketCodec where
  toCodec := { DeliveryCallback.sampleCodec with
    decodeRabbitmqNotification := fun content =>
      if content = DeliveryCallback.sampleContent 1 1 then
        some (DeliveryCallback.sampleMessage 1 1)
      else if content = DeliveryCallback.sampleContent 1 2 then
        some (DeliveryCallback.sampleMessage 1 2)
      else
        none
  }
  decodeWebSocketConfirmation _ := none

def sampleDeliveries : List ConsumerLabel := [
  .server (.handleClient ⟨1⟩ 0 0 ⟨101⟩),
  .deliver (DeliveryCallback.sampleContent 1 1),
  .deliver (DeliveryCallback.sampleContent 1 2),
  .deduplicate 0
]

def inOrder : List ConsumerLabel :=
  sampleDeliveries ++ [.send 0 3000000000 ⟨102⟩, .deduplicate 1, .send 1 3000000000 ⟨103⟩]

def overtaking : List ConsumerLabel :=
  sampleDeliveries ++ [.deduplicate 1, .send 1 3000000000 ⟨102⟩, .send 0 3000000000 ⟨103⟩]

def queuedUpdates (codec : Codec) (s : NotificationsConsumerService)
    : List (List NotificationStatusUpdate) :=
  s.server.websocketsService.channels.map (updates codec)

theorem ordered_of_in_turn_sequential
    : ∃ s, System.run (step Server.sampleConfig sampleCodec) init inOrder = some s
        ∧ queuedUpdates sampleCodec.toCodec s = [[⟨⟨7⟩, 1000000000⟩, ⟨⟨7⟩, 2000000000⟩]]
        ∧ s.Ordered sampleCodec.toCodec := by
  have halone : System.Along (step Server.sampleConfig sampleCodec) Alone init inOrder := by
    decide +kernel
  have hturn := halone.imp (fun _ _ => inTurn_of_alone)
  refine ⟨_, rfl, by decide +kernel, ?_⟩
  exact ordered_of_in_turn Server.sampleConfig sampleCodec inOrder _ hturn rfl

/--
Both events are accepted in their order, and the newer one is sent first.
-/
theorem overtaken
    : ∃ s, System.run (step Server.sampleConfig sampleCodec) init overtaking = some s
        ∧ queuedUpdates sampleCodec.toCodec s = [[⟨⟨7⟩, 2000000000⟩, ⟨⟨7⟩, 1000000000⟩]]
        ∧ ¬s.Ordered sampleCodec.toCodec := by
  refine ⟨_, rfl, by decide +kernel, ?_⟩
  intro hordered
  have hqueue := hordered _ (List.mem_of_getElem? (i := 0) rfl)
  exact absurd hqueue (by decide +kernel)

end NotificationsConsumerService

end TomNotifier.WsDelivery
