import TomNotifier.Common.List
import TomNotifier.WsDelivery.WebSockets.Branches
import TomNotifier.WsDelivery.WebSockets.Server

/-!
This module contains what a step of the server does to the registry, the channels and the tasks.
-/

namespace TomNotifier.WsDelivery

namespace TaskState

def looping : TaskState → Bool
  | .running => true
  | .confirming _ _ => true
  | _ => false

/-- The task still holds its receiver. -/
def subscribed : TaskState → Bool
  | .ended => false
  | .finished => false
  | _ => true

theorem subscribed_of_looping {state : TaskState} (h : state.looping) : state.subscribed := by
  cases state <;> first | rfl | simp [looping] at h

end TaskState

def ServerLabel.task? : ServerLabel → Option Nat
  | .ping i _ _ => some i
  | .incomming i _ _ => some i
  | .message i _ _ => some i
  | .retry i _ _ => some i
  | .hand i => some i
  | .drop i => some i
  | .cleanUp i => some i
  | _ => none

/-- The channel holds what it has held before, if it has existed before, and the messages. -/
def Channel.Grown (before : Option Channel) (messages : List WebSocketMessage) (after : Channel)
    : Prop :=
  match before with
  | some channel => after.queued = channel.queued ++ messages ∧ after.capacity = channel.capacity
  | none => after.queued = messages

theorem Channel.Grown.refl {before : Option Channel} {channel : Channel} (h : before = some channel)
    : Channel.Grown before [] channel := by
  rw [h]
  exact ⟨(List.append_nil _).symm, rfl⟩

/-- The messages a step with the label may put into a channel. -/
def ServerLabel.posts (label : ServerLabel) (message : WebSocketMessage) : Prop :=
  match label with
  | .handleClient _ _ _ _ => message.payload.notification = none
  | .send _ notification _ _ => message.payload.notification = some notification
  | .broadcastNetworkStatus _ _ _ => message.payload.notification = none
  | _ => False

namespace WebSocketsServiceImpl

variable {s s' : WebSocketsServiceImpl} {config : WebSocketsServiceConfig} {codec : Codec}
variable {userId : Uuid} {rx : Receiver} {now : OffsetDateTime} {messageId : Uuid}

@[simp]
theorem createMessage_channels {status : NetworkStatusProtobuf}
    {notification : Option NotificationProtobuf}
    : (s.createMessage codec now messageId status notification).2.channels = s.channels := by
  rfl

theorem lookup_removeUser (s : WebSocketsServiceImpl) (userId : Uuid)
    : (fun userId' => (s.removeUser userId).usersConnections.lookup userId')
        =
      Function.update (fun userId' => s.usersConnections.lookup userId') userId none := by
  funext userId'
  by_cases huser : userId' = userId
  . subst huser
    rw [Function.update_self]
    exact AList.lookup_erase userId' s.usersConnections
  . rw [Function.update_of_ne huser]
    exact AList.lookup_erase_ne huser

theorem lookup_of_removeUser {userId' : Uuid} {tx : ChannelId}
    (h : (s.removeUser userId).usersConnections.lookup userId' = some tx)
    : userId' ≠ userId ∧ s.usersConnections.lookup userId' = some tx := by
  by_cases huser : userId' = userId
  . subst huser
    rw [removeUser, AList.lookup_erase] at h
    simp at h
  . rw [removeUser, AList.lookup_erase_ne huser] at h
    exact ⟨huser, h⟩

theorem cleanUp_cases (s : WebSocketsServiceImpl) (userId : Uuid)
    : (∃ tx channel, s.usersConnections.lookup userId = some tx
        ∧ s.channels[tx]? = some channel
        ∧ channel.receivers = 0
        ∧ s.cleanUp userId = s.removeUser userId)
        ∨
      (∀ tx channel, s.usersConnections.lookup userId = some tx →
        s.channels[tx]? = some channel → channel.receivers ≠ 0)
        ∧ s.cleanUp userId = s := by
  unfold cleanUp
  split
  . next tx hlookup =>
    have hchannel := List.getElem?_eq_getElem (s.lookup_lt hlookup)
    split
    . next hempty => exact .inl ⟨tx, _, hlookup, hchannel, hempty, rfl⟩
    . next hreceivers =>
      refine .inr ⟨?_, rfl⟩
      intro tx' channel' hlookup' hchannel'
      rw [hlookup, Option.some.injEq] at hlookup'
      subst hlookup'
      rw [hchannel, Option.some.injEq] at hchannel'
      rw [← hchannel']
      exact hreceivers
  . next hlookup => exact .inr ⟨by simp [hlookup], rfl⟩

structure SameRegistry (s s' : WebSocketsServiceImpl) : Prop where
  networkStatusOk : s'.networkStatusOk = s.networkStatusOk
  usersConnections : s'.usersConnections = s.usersConnections
  channels : s'.channels = s.channels

/--
What a client that connects finds: a channel that may have been created for it, and the greeting in
it.
-/
structure Joined (s s' : WebSocketsServiceImpl) (userId : Uuid) (rx : Receiver) (before : Channel)
    (greeting : List WebSocketMessage) : Prop where
  found : (s.usersConnections.lookup userId = some rx.channel
      ∧ s.channels[rx.channel]? = some before)
    ∨
    (s.usersConnections.lookup userId = none ∧ rx.channel = s.channels.length
      ∧ before.queued = [] ∧ before.receivers = 0)
  start : rx.next = before.queued.length
  channel : s'.channels[rx.channel]? = some { before with
    queued := before.queued ++ greeting
    receivers := before.receivers + 1 }
  length_le : s.channels.length ≤ s'.channels.length
  other : ∀ tx, tx ≠ rx.channel → s'.channels[tx]? = s.channels[tx]?
  lookup : s'.usersConnections.lookup userId = some rx.channel
  lookup_other : ∀ userId', userId' ≠ userId →
    s'.usersConnections.lookup userId' = s.usersConnections.lookup userId'
  networkStatusOk : s'.networkStatusOk = s.networkStatusOk

theorem Joined.grown {before : Channel} {greeting : List WebSocketMessage}
    (h : Joined s s' userId rx before greeting)
    : Channel.Grown (s.channels[rx.channel]?) greeting
        { before with queued := before.queued ++ greeting, receivers := before.receivers + 1 } := by
  rcases h.found with ⟨_, hfound⟩ | ⟨_, hnew, hempty, _⟩
  . rw [hfound]
    exact ⟨rfl, rfl⟩
  . rw [hnew, List.getElem?_eq_none (Nat.le_refl _)]
    simp [Channel.Grown, hempty]

theorem Sent.grown {message : WebSocketMessage} {txs : List ChannelId} {tx : ChannelId}
    {channel' : Channel} (h : Sent message txs s s') (hchannel : s'.channels[tx]? = some channel')
    : ∃ messages, (∀ message' ∈ messages, message' = message)
        ∧ Channel.Grown (s.channels[tx]?) messages channel' := by
  rw [h.getElem?, Option.map_eq_some_iff] at hchannel
  rcases hchannel with ⟨channel, hchannel, rfl⟩
  rw [hchannel]
  unfold Channel.sendMany
  split
  . exact ⟨[], by simp, .refl rfl⟩
  . exact ⟨_, fun _ hmessage => List.eq_of_mem_replicate hmessage, rfl, rfl⟩

theorem findOrCreateChannel_joined (h : s.findOrCreateChannel config userId = some (rx, s'))
    : ∃ before, Joined s s' userId rx before [] := by
  unfold findOrCreateChannel at h
  split at h
  . next tx hlookup =>
    simp only [Option.some.injEq, Prod.mk.injEq] at h
    rcases h with ⟨rfl, rfl⟩
    have htx := s.lookup_lt hlookup
    refine ⟨s.channels.get ⟨tx, htx⟩, ?_⟩
    constructor
    . exact .inl ⟨hlookup, by simp⟩
    . rfl
    . simp [setChannels, Channel.subscribe, htx]
    . simp [setChannels]
    . intro tx' htx'
      simp [setChannels, Ne.symm htx']
    . exact hlookup
    . intro _ _
      rfl
    . rfl
  . next hlookup =>
    split at h
    . simp at h
    . simp only [Option.some.injEq, Prod.mk.injEq] at h
      rcases h with ⟨rfl, rfl⟩
      refine ⟨{ Channel.new config.connectionBufferSize.toNat with receivers := 0 }, ?_⟩
      constructor
      . exact .inr ⟨hlookup, rfl, rfl, rfl⟩
      . rfl
      . simp [addUser, Channel.new]
      . simp [addUser]
      . intro tx htx
        by_cases hlt : tx < s.channels.length
        . simp [addUser, List.getElem?_append_left hlt]
        . have hlt' : s.channels.length < tx := Nat.lt_of_le_of_ne (Nat.not_lt.mp hlt) (Ne.symm htx)
          rw [List.getElem?_eq_none (Nat.not_lt.mp hlt)]
          simpa [addUser] using Nat.succ_le_of_lt hlt'
      . simp [addUser]
      . intro userId' huserId'
        simp [addUser, AList.lookup_insert_ne huserId']
      . rfl

theorem handleClient_joined (h : s.handleClient config codec userId now messageId = some (rx, s'))
    : ∃ before, Joined s s' userId rx before
        (if s.networkStatusOk then [] else [(s.createMessage codec now messageId .error none).1]) := by
  unfold handleClient at h
  split at h
  . simp at h
  . next rx' t hfind =>
    rcases findOrCreateChannel_joined hfind with ⟨before, hjoined⟩
    split at h
    . next hnetwork =>
      simp only [Option.some.injEq, Prod.mk.injEq] at h
      rcases h with ⟨rfl, rfl⟩
      rw [hjoined.networkStatusOk] at hnetwork
      rw [if_pos hnetwork]
      exact ⟨before, hjoined⟩
    . next hnetwork =>
      simp only [Option.some.injEq, Prod.mk.injEq] at h
      rcases h with ⟨rfl, rfl⟩
      rw [hjoined.networkStatusOk] at hnetwork
      rw [if_neg hnetwork]
      refine ⟨before, hjoined.found, hjoined.start, ?_, ?_, ?_, hjoined.lookup, hjoined.lookup_other,
        hjoined.networkStatusOk⟩
      . simp [setChannels, getElem?_sendAll, hjoined.channel, Channel.sendMany, createMessage]
      . simpa [setChannels] using hjoined.length_le
      . intro tx htx
        simp [setChannels, getElem?_sendAll, hjoined.other tx htx, Ne.symm htx]

end WebSocketsServiceImpl

/-- The same connection, which does not get its receiver back. -/
structure ConnectionTask.Continues (task task' : ConnectionTask) : Prop where
  userId : task'.connection.userId = task.connection.userId
  channel : task'.connection.messagesRx.channel = task.connection.messagesRx.channel
  subscribed : task'.state.subscribed → task.state.subscribed

theorem ConnectionTask.Continues.refl (task : ConnectionTask) : task.Continues task := by
  exact ⟨rfl, rfl, id⟩

namespace Server

/-- All a step can do apart from what concerns confirmations. -/
inductive Effect (config : WebSocketsServiceConfig) (codec : WebSocketCodec) (s s' : Server)
    : ServerLabel → Prop where
  | handleClient (userId : Uuid) (now : OffsetDateTime) (instant : Instant) (messageId : Uuid)
    (rx : Receiver)
    (service : s.websocketsService.handleClient config codec.toCodec userId now messageId
      = some (rx, s'.websocketsService))
    (tasks : s'.tasks = s.tasks ++ [⟨.new config userId rx instant, .running⟩])
    : Effect config codec s s' (.handleClient userId now instant messageId)
  | closeConnections (userId : Uuid)
    (service : s'.websocketsService = s.websocketsService.closeConnections userId)
    (tasks : s'.tasks = s.tasks)
    : Effect config codec s s' (.closeConnections userId)
  | send (userIds : List Uuid) (notification : NotificationProtobuf) (now : OffsetDateTime)
    (messageId : Uuid)
    (service : s'.websocketsService
      = s.websocketsService.send codec.toCodec userIds notification now messageId)
    (tasks : s'.tasks = s.tasks)
    : Effect config codec s s' (.send userIds notification now messageId)
  | storeNetworkStatus (status : NetworkStatusProtobuf)
    (service : s'.websocketsService = s.websocketsService.storeNetworkStatus status)
    (tasks : s'.tasks = s.tasks)
    : Effect config codec s s' (.storeNetworkStatus status)
  | broadcastNetworkStatus (status : NetworkStatusProtobuf) (now : OffsetDateTime)
    (messageId : Uuid)
    (service : s'.websocketsService
      = s.websocketsService.broadcastNetworkStatus codec.toCodec status now messageId)
    (tasks : s'.tasks = s.tasks)
    : Effect config codec s s' (.broadcastNetworkStatus status now messageId)
  | task (label : ServerLabel) (i : Nat) (c c' : WebSocketConnection) (state state' : TaskState)
    (message : ∀ now sent, label ≠ .message i now sent) (task? : label.task? = some i)
    (task : s.tasks[i]? = some ⟨c, state⟩) (looping : state.looping)
    (subscribed : state'.subscribed)
    (userId : c'.userId = c.userId) (messagesRx : c'.messagesRx = c.messagesRx)
    (tasks : s'.tasks = s.tasks.set i ⟨c', state'⟩)
    (service : s.websocketsService.SameRegistry s'.websocketsService)
    : Effect config codec s s' label
  | stop (i : Nat) (now : Instant) (sent : Except String Unit) (c : WebSocketConnection)
    (next : Nat)
    (task : s.tasks[i]? = some ⟨c, .running⟩)
    (tasks : s'.tasks
      = s.tasks.set i ⟨{ c with messagesRx := { c.messagesRx with next } }, .closing⟩)
    (service : s'.websocketsService = s.websocketsService)
    : Effect config codec s s' (.message i now sent)
  | transmit (i : Nat) (now : Instant) (sent : Except String Unit) (c c' : WebSocketConnection)
    (channel : Channel) (message : WebSocketMessage)
    (task : s.tasks[i]? = some ⟨c, .running⟩)
    (channel_eq : s.websocketsService.channels[c.messagesRx.channel]? = some channel)
    (retained : channel.queued.length ≤ c.messagesRx.next + channel.capacity)
    (message_eq : channel.queued[c.messagesRx.next]? = some message)
    (userId : c'.userId = c.userId)
    (messagesRx : c'.messagesRx = { c.messagesRx with next := c.messagesRx.next + 1 })
    (wsTx : c'.wsTx = c.wsTx ++ [.binary message.payload])
    (tasks : s'.tasks = s.tasks.set i ⟨c', .running⟩)
    (service : s'.websocketsService = s.websocketsService)
    : Effect config codec s s' (.message i now sent)
  | drop (i : Nat) (c : WebSocketConnection) (task : s.tasks[i]? = some ⟨c, .closing⟩)
    (tasks : s'.tasks = s.tasks.set i ⟨c, .ended⟩)
    (service : s'.websocketsService = s.websocketsService.dropReceiver c.messagesRx)
    : Effect config codec s s' (.drop i)
  | cleanUp (i : Nat) (c : WebSocketConnection) (task : s.tasks[i]? = some ⟨c, .ended⟩)
    (tasks : s'.tasks = s.tasks.set i ⟨c, .finished⟩)
    (service : s'.websocketsService = s.websocketsService.cleanUp c.userId)
    : Effect config codec s s' (.cleanUp i)

variable {config : WebSocketsServiceConfig} {codec : WebSocketCodec} {s s' : Server} {i : Nat}
variable {label : ServerLabel} {c c' : WebSocketConnection}

theorem settle_task (s : Server) (i : Nat) (c : WebSocketConnection)
    (result : Except ConnectionError WebSocketConnection)
    : ∃ c' state, (s.settle i c result).tasks = s.tasks.set i ⟨c', state⟩
        ∧ state.subscribed
        ∧ (result = .ok c' ∨ c' = c)
        ∧ (s.settle i c result).websocketsService = s.websocketsService := by
  cases result with
  | ok c' => exact ⟨c', .running, rfl, rfl, .inl rfl, rfl⟩
  | error err => exact ⟨c, .closing, rfl, rfl, .inr rfl, rfl⟩

theorem confirm_task (codec : Codec) (s : Server) (i : Nat) (c : WebSocketConnection)
    (message : WebSocketMessage)
    : ∃ state, (s.confirm codec i c message).tasks = s.tasks.set i ⟨c, state⟩
        ∧ state.subscribed
        ∧ s.websocketsService.SameRegistry (s.confirm codec i c message).websocketsService := by
  unfold confirm
  split
  . exact ⟨.running, rfl, rfl, rfl, rfl, rfl⟩
  . dsimp only
    split
    . exact ⟨.running, rfl, rfl, rfl, rfl, rfl⟩
    . exact ⟨_, rfl, rfl, rfl, rfl, rfl⟩

theorem effect_of_settle {result : Except ConnectionError WebSocketConnection}
    (hmessage : ∀ now sent, label ≠ .message i now sent) (htask? : label.task? = some i)
    (hi : s.running i = some c)
    (hresult : ∀ c', result = .ok c' → c'.userId = c.userId ∧ c'.messagesRx = c.messagesRx)
    : Effect config codec s (s.settle i c result) label := by
  rcases settle_task s i c result with ⟨c', state, htasks, hstate, hc', hservice⟩
  have hfields : c'.userId = c.userId ∧ c'.messagesRx = c.messagesRx := by
    rcases hc' with hc' | rfl
    . exact hresult c' hc'
    . exact ⟨rfl, rfl⟩
  have hregistry : s.websocketsService.SameRegistry (s.settle i c result).websocketsService := by
    rw [hservice]
    exact ⟨rfl, rfl, rfl⟩
  exact .task label i c c' .running state hmessage htask? (running_eq_some.mp hi) rfl hstate
    hfields.1 hfields.2 htasks hregistry

theorem effect_of_incomming {now : Instant} {message : Option (Except String Message)}
    (h : s.stepIncomming config codec i now message = some s')
    : Effect config codec s s' (.incomming i now message) := by
  unfold stepIncomming at h
  split at h
  . simp at h
  . next c hi =>
    rw [running_eq_some] at hi
    split at h
    . rw [← Option.some.inj h]
      exact .task _ i c c .running .closing (by simp) rfl hi rfl rfl rfl rfl rfl ⟨rfl, rfl, rfl⟩
    . next c' hprocess =>
      rw [← Option.some.inj h]
      have hfields := WebSocketConnection.processIncommingMessage_fields hprocess
      exact .task _ i c c' .running .running (by simp) rfl hi rfl rfl hfields.1 hfields.2 rfl
        ⟨rfl, rfl, rfl⟩
    . next c' message hprocess =>
      rw [← Option.some.inj h]
      have hfields := WebSocketConnection.processIncommingMessage_fields hprocess
      rcases confirm_task codec.toCodec s i c' message with ⟨state, htasks, hstate, hregistry⟩
      exact .task _ i c c' .running state (by simp) rfl hi rfl hstate hfields.1 hfields.2 htasks
        hregistry

theorem effect_of_message {now : Instant} {sent : Except String Unit}
    (h : s.stepMessage config i now sent = some s')
    : Effect config codec s s' (.message i now sent) := by
  unfold stepMessage at h
  split at h
  . simp at h
  . next c hi =>
    rw [running_eq_some] at hi
    dsimp only at h
    split at h
    . simp at h
    . next channel hchannel =>
      split at h
      . simp at h
      . next result rx hrecv =>
        rw [Option.some.injEq] at h
        generalize hprocess : WebSocketConnection.processMessage config now sent result _ = processed
          at h
        have hnext : ∃ next, rx = { c.messagesRx with next } := by
          rcases Channel.recv_cases hrecv with ⟨_, next, _, hrx⟩ | ⟨_, _, _, _, hrx⟩
          . exact ⟨next, hrx⟩
          . exact ⟨_, hrx⟩
        rcases hnext with ⟨next, rfl⟩
        rcases WebSocketConnection.processMessage_cases hprocess
          with ⟨_, _, rfl⟩ | ⟨_, rfl⟩ | ⟨_, _, rfl⟩ | ⟨message, hmessage, _, rfl⟩
        . rw [← h]
          exact .stop i now sent c next hi rfl rfl
        . rw [← h]
          exact .stop i now sent c next hi rfl rfl
        . rw [← h]
          exact .stop i now sent c next hi rfl rfl
        . rcases Channel.recv_cases hrecv
            with ⟨_, _, herror, _⟩ | ⟨message', hmessage', hretained, hqueued, hrx⟩
          . simp [hmessage] at herror
          . rw [hmessage, Except.ok.injEq] at hmessage'
            subst hmessage'
            rw [← h]
            refine .transmit i now sent c _ channel message hi hchannel hretained hqueued ?_ ?_ ?_
              rfl rfl
            . rfl
            . exact hrx
            . rfl

theorem effect_of_step (h : step config codec s label = some s')
    : Effect config codec s s' label := by
  cases label with
  | handleClient userId now instant messageId =>
    simp only [step, Option.ite_none_right_eq_some] at h
    have hclient := h.2
    unfold stepHandleClient at hclient
    split at hclient
    . simp at hclient
    . next rx websocketsService hhandle =>
      rw [← Option.some.inj hclient]
      exact .handleClient userId now instant messageId rx hhandle rfl
  | closeConnections userId =>
    rw [← Option.some.inj h]
    exact .closeConnections userId rfl rfl
  | send userIds notification now messageId =>
    simp only [step, Option.ite_none_right_eq_some, Option.some.injEq] at h
    rw [← h.2]
    exact .send userIds notification now messageId rfl rfl
  | storeNetworkStatus status =>
    rw [← Option.some.inj h]
    exact .storeNetworkStatus status rfl rfl
  | broadcastNetworkStatus status now messageId =>
    simp only [step, Option.ite_none_right_eq_some, Option.some.injEq] at h
    rw [← h.2]
    exact .broadcastNetworkStatus status now messageId rfl rfl
  | ping i now sent =>
    simp only [step] at h
    split at h
    . simp at h
    . next c hi =>
      simp only [Option.ite_none_right_eq_some, Option.some.injEq] at h
      rw [← h.2]
      exact effect_of_settle (by simp) rfl hi (fun c' hc' => WebSocketConnection.processPing_fields hc')
  | incomming i now message => exact effect_of_incomming h
  | message i now sent => exact effect_of_message h
  | retry i now sent =>
    simp only [step] at h
    split at h
    . simp at h
    . next c hi =>
      rw [Option.map_eq_some_iff] at h
      rcases h with ⟨result, hretry, rfl⟩
      exact effect_of_settle (by simp) rfl hi
        (fun c' hc' => WebSocketConnection.processRetry_fields (hc' ▸ hretry))
  | hand i =>
    simp only [step] at h
    split at h
    . next c messageId confirmation hi =>
      rw [← Option.some.inj h]
      exact .task _ i c c _ .running (by simp) rfl hi rfl rfl rfl rfl rfl ⟨rfl, rfl, rfl⟩
    . simp at h
  | drop i =>
    simp only [step] at h
    split at h
    . next c hi =>
      rw [← Option.some.inj h]
      exact .drop i c hi rfl rfl
    . simp at h
  | cleanUp i =>
    simp only [step] at h
    split at h
    . next c hi =>
      rw [← Option.some.inj h]
      exact .cleanUp i c hi rfl rfl
    . simp at h

namespace Effect

variable {tx : ChannelId} {channel channel' : Channel} {task task' : ConnectionTask} {userId : Uuid}

/-- A channel only grows, by messages of the kind the label stands for. -/
theorem grown (h : Effect config codec s s' label)
    (hchannel : s'.websocketsService.channels[tx]? = some channel')
    : ∃ messages, (∀ message ∈ messages, label.posts message)
        ∧ Channel.Grown (s.websocketsService.channels[tx]?) messages channel' := by
  have hsame : s'.websocketsService.channels = s.websocketsService.channels →
      ∃ messages, (∀ message ∈ messages, label.posts message)
        ∧ Channel.Grown (s.websocketsService.channels[tx]?) messages channel' := by
    intro heq
    exact ⟨[], by simp, .refl (heq ▸ hchannel)⟩
  cases h with
  | handleClient userId now instant messageId rx service tasks =>
    rcases WebSocketsServiceImpl.handleClient_joined service with ⟨before, hjoined⟩
    by_cases htx : tx = rx.channel
    . subst htx
      rw [hjoined.channel, Option.some.injEq] at hchannel
      refine ⟨_, ?_, hchannel ▸ hjoined.grown⟩
      intro message hmessage
      split at hmessage
      . simp at hmessage
      . rw [List.mem_singleton.mp hmessage]
        exact WebSocketsServiceImpl.createMessage_notification
    . rw [hjoined.other tx htx] at hchannel
      exact ⟨[], by simp, .refl hchannel⟩
  | closeConnections userId service tasks => exact hsame (service ▸ rfl)
  | send userIds notification now messageId service tasks =>
    rcases WebSocketsServiceImpl.send_sent (s := s.websocketsService) with ⟨txs, hsent⟩
    rw [service] at hchannel
    rcases hsent.grown hchannel with ⟨messages, hmessages, hgrown⟩
    refine ⟨messages, ?_, hgrown⟩
    intro message hmessage
    rw [hmessages message hmessage]
    exact WebSocketsServiceImpl.createMessage_notification
  | storeNetworkStatus status service tasks => exact hsame (service ▸ rfl)
  | broadcastNetworkStatus status now messageId service tasks =>
    rw [service] at hchannel
    rcases WebSocketsServiceImpl.broadcastNetworkStatus_sent.grown hchannel
      with ⟨messages, hmessages, hgrown⟩
    refine ⟨messages, ?_, hgrown⟩
    intro message hmessage
    rw [hmessages message hmessage]
    exact WebSocketsServiceImpl.createMessage_notification
  | task label i c c' state state' message task? task looping subscribed userId messagesRx tasks
      service =>
    exact hsame service.channels
  | stop i now sent c next task tasks service => exact hsame (service ▸ rfl)
  | transmit i now sent c c' channel message task channel_eq retained message_eq userId messagesRx
      wsTx tasks service =>
    exact hsame (service ▸ rfl)
  | drop i c task tasks service =>
    simp only [service, WebSocketsServiceImpl.dropReceiver, WebSocketsServiceImpl.setChannels,
      List.getElem?_modify, Option.map_eq_map, Option.map_eq_some_iff] at hchannel
    rcases hchannel with ⟨channel, hchannel, rfl⟩
    rw [hchannel]
    refine ⟨[], by simp, ?_⟩
    split <;> exact ⟨(List.append_nil _).symm, rfl⟩
  | cleanUp i c task tasks service =>
    rw [service, (WebSocketsServiceImpl.cleanUp_fields _ _).2] at hchannel
    exact ⟨[], by simp, .refl hchannel⟩

theorem length_channels_le (h : Effect config codec s s' label)
    : s.websocketsService.channels.length ≤ s'.websocketsService.channels.length := by
  cases h with
  | handleClient userId now instant messageId rx service tasks =>
    rcases WebSocketsServiceImpl.handleClient_joined service with ⟨before, hjoined⟩
    exact hjoined.length_le
  | closeConnections userId service tasks => exact (service ▸ Nat.le_refl _)
  | send userIds notification now messageId service tasks =>
    rcases WebSocketsServiceImpl.send_sent (s := s.websocketsService) with ⟨txs, hsent⟩
    rw [service, hsent.channels, WebSocketsServiceImpl.length_sendAll]
  | storeNetworkStatus status service tasks => exact (service ▸ Nat.le_refl _)
  | broadcastNetworkStatus status now messageId service tasks =>
    rw [service, WebSocketsServiceImpl.broadcastNetworkStatus_sent.channels,
      WebSocketsServiceImpl.length_sendAll]
  | task label i c c' state state' message task? task looping subscribed userId messagesRx tasks
      service =>
    rw [service.channels]
  | stop i now sent c next task tasks service => rw [service]
  | transmit i now sent c c' channel message task channel_eq retained message_eq userId messagesRx
      wsTx tasks service =>
    rw [service]
  | drop i c task tasks service =>
    rw [service]
    exact (List.length_modify ..).ge
  | cleanUp i c task tasks service => rw [service, (WebSocketsServiceImpl.cleanUp_fields _ _).2]

theorem exists_grown (h : Effect config codec s s' label)
    (hchannel : s.websocketsService.channels[tx]? = some channel)
    : ∃ channel' messages, s'.websocketsService.channels[tx]? = some channel'
        ∧ channel'.queued = channel.queued ++ messages
        ∧ channel'.capacity = channel.capacity := by
  have hlt := (List.getElem?_eq_some_iff.mp hchannel).1
  have hchannel' := List.getElem?_eq_getElem (Nat.lt_of_lt_of_le hlt h.length_channels_le)
  rcases h.grown hchannel' with ⟨messages, _, hgrown⟩
  rw [hchannel] at hgrown
  exact ⟨_, messages, hchannel', hgrown.1, hgrown.2⟩

theorem continues_of_set {j : Nat} {task₁ task₂ : ConnectionTask} (hi : s'.tasks[i]? = some task')
    (hj : s.tasks[j]? = some task₁) (htasks : s'.tasks = s.tasks.set j task₂)
    (hcontinues : task₁.Continues task₂)
    : ∃ task, s.tasks[i]? = some task ∧ task.Continues task' := by
  rw [htasks] at hi
  rcases getElem?_set_cases hi with ⟨rfl, rfl⟩ | ⟨_, hold⟩
  . exact ⟨task₁, hj, hcontinues⟩
  . exact ⟨task', hold, .refl task'⟩

theorem task_cases (h : Effect config codec s s' label) (hi : s'.tasks[i]? = some task')
    : (∃ task, s.tasks[i]? = some task ∧ task.Continues task')
        ∨
      (i = s.tasks.length
        ∧ ∃ userId now instant messageId, label = .handleClient userId now instant messageId) := by
  have hsame : s'.tasks = s.tasks → ∃ task, s.tasks[i]? = some task ∧ task.Continues task' := by
    intro heq
    exact ⟨task', heq ▸ hi, .refl task'⟩
  cases h with
  | handleClient userId now instant messageId rx service tasks =>
    rw [tasks] at hi
    rcases getElem?_append_singleton_cases hi with hold | ⟨hnew, _⟩
    . exact .inl ⟨task', hold, .refl task'⟩
    . exact .inr ⟨hnew, userId, now, instant, messageId, rfl⟩
  | closeConnections userId service tasks => exact .inl (hsame tasks)
  | send userIds notification now messageId service tasks => exact .inl (hsame tasks)
  | storeNetworkStatus status service tasks => exact .inl (hsame tasks)
  | broadcastNetworkStatus status now messageId service tasks => exact .inl (hsame tasks)
  | task label i c c' state state' message task? task looping subscribed userId messagesRx tasks
      service =>
    exact .inl (continues_of_set hi task tasks
      ⟨userId, by rw [messagesRx], fun _ => TaskState.subscribed_of_looping looping⟩)
  | stop i now sent c next task tasks service =>
    exact .inl (continues_of_set hi task tasks ⟨rfl, rfl, fun _ => rfl⟩)
  | transmit i now sent c c' channel message task channel_eq retained message_eq userId messagesRx
      wsTx tasks service =>
    exact .inl (continues_of_set hi task tasks ⟨userId, by rw [messagesRx], fun _ => rfl⟩)
  | drop i c task tasks service =>
    exact .inl (continues_of_set hi task tasks ⟨rfl, rfl, fun _ => rfl⟩)
  | cleanUp i c task tasks service =>
    exact .inl (continues_of_set hi task tasks ⟨rfl, rfl, id⟩)

theorem lookup_cases (h : Effect config codec s s' label)
    (hlookup : s'.websocketsService.usersConnections.lookup userId = some tx)
    : s.websocketsService.usersConnections.lookup userId = some tx
        ∨
      s.websocketsService.channels[tx]? = none
        ∧ ∃ now instant messageId, label = .handleClient userId now instant messageId := by
  have hremove : ∀ userId', s'.websocketsService = s.websocketsService.removeUser userId' →
      s.websocketsService.usersConnections.lookup userId = some tx := by
    intro userId' hservice
    rw [hservice] at hlookup
    exact (WebSocketsServiceImpl.lookup_of_removeUser hlookup).2
  cases h with
  | handleClient userId' now instant messageId rx service tasks =>
    rcases WebSocketsServiceImpl.handleClient_joined service with ⟨before, hjoined⟩
    by_cases huser : userId = userId'
    . subst huser
      rw [hjoined.lookup, Option.some.injEq] at hlookup
      subst hlookup
      rcases hjoined.found with ⟨hfound, _⟩ | ⟨_, hnew, _⟩
      . exact .inl hfound
      . exact .inr ⟨by rw [hnew, List.getElem?_eq_none (Nat.le_refl _)], now, instant, messageId, rfl⟩
    . rw [hjoined.lookup_other userId huser] at hlookup
      exact .inl hlookup
  | closeConnections userId' service tasks => exact .inl (hremove userId' service)
  | send userIds notification now messageId service tasks =>
    rw [service, WebSocketsServiceImpl.send_usersConnections] at hlookup
    exact .inl hlookup
  | storeNetworkStatus status service tasks =>
    rw [service] at hlookup
    exact .inl hlookup
  | broadcastNetworkStatus status now messageId service tasks =>
    rw [service] at hlookup
    exact .inl hlookup
  | task label i c c' state state' message task? task looping subscribed userId messagesRx tasks
      service =>
    rw [service.usersConnections] at hlookup
    exact .inl hlookup
  | stop i now sent c next task tasks service =>
    rw [service] at hlookup
    exact .inl hlookup
  | transmit i now sent c c' channel message task channel_eq retained message_eq userId messagesRx
      wsTx tasks service =>
    rw [service] at hlookup
    exact .inl hlookup
  | drop i c task tasks service =>
    rw [service] at hlookup
    exact .inl hlookup
  | cleanUp i c task tasks service =>
    rcases s.websocketsService.cleanUp_cases c.userId with ⟨_, _, _, _, _, hcleanUp⟩ | ⟨_, hkeep⟩
    . exact .inl (hremove c.userId (service.trans hcleanUp))
    . rw [service, hkeep] at hlookup
      exact .inl hlookup

end Effect

end Server

end TomNotifier.WsDelivery
