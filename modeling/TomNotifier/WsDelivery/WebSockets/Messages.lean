import TomNotifier.WsDelivery.WebSockets.Branches
import TomNotifier.WsDelivery.WebSockets.Server

/-!
This module contains where messages come from: whatever waits in a channel or for a confirmation is
a message the service has created.
-/

namespace TomNotifier.WsDelivery

theorem forall_mem_modify {α : Type} {l : List α} {i : Nat} {Q : α → Prop} {f : α → α}
    (h : ∀ a ∈ l, Q a) (hf : ∀ a, Q a → Q (f a)) : ∀ a ∈ l.modify i f, Q a := by
  intro a ha
  rw [List.mem_iff_getElem?] at ha
  rcases ha with ⟨j, hj⟩
  rw [List.getElem?_modify, Option.map_eq_map, Option.map_eq_some_iff] at hj
  rcases hj with ⟨c, hc, rfl⟩
  split
  . exact hf c (h c (List.mem_of_getElem? hc))
  . exact h c (List.mem_of_getElem? hc)

namespace Channel

variable {channel : Channel} {message : WebSocketMessage} {P : WebSocketMessage → Prop}

def Only (P : WebSocketMessage → Prop) (channel : Channel) : Prop := ∀ message ∈ channel.queued, P message

theorem Only.send (h : channel.Only P) (hmessage : P message) : (channel.send message).Only P := by
  unfold Channel.send
  split
  . exact h
  . intro message' hmessage'
    rw [List.mem_append, List.mem_singleton] at hmessage'
    rcases hmessage' with hmem | rfl
    . exact h message' hmem
    . exact hmessage

theorem Only.new {capacity : Nat} : (Channel.new capacity).Only P := by
  simp [Only, Channel.new]

theorem Only.recv {closed : Bool} {rx rx' : Receiver} (h : channel.Only P)
    (hrecv : channel.recv closed rx = some (.ok message, rx')) : P message := by
  rcases recv_cases hrecv with ⟨_, _, hresult, _⟩ | ⟨message', hresult, _, hqueued, _⟩
  . simp at hresult
  . rw [Except.ok.injEq] at hresult
    subst hresult
    exact h message (List.mem_of_getElem? hqueued)

end Channel

namespace WebSocketsServiceImpl

variable {s s' : WebSocketsServiceImpl} {message : WebSocketMessage} {P : WebSocketMessage → Prop}

def Only (P : WebSocketMessage → Prop) (s : WebSocketsServiceImpl) : Prop :=
  ∀ channel ∈ s.channels, channel.Only P

theorem Only.sendAll {txs : List ChannelId} {channels : List Channel}
    (h : ∀ channel ∈ channels, channel.Only P) (hmessage : P message)
    : ∀ channel ∈ sendAll message txs channels, channel.Only P := by
  unfold WebSocketsServiceImpl.sendAll
  induction txs generalizing channels with
  | nil => exact h
  | cons tx txs ih => exact ih (forall_mem_modify h (fun _ hchannel => hchannel.send hmessage))

theorem Only.mono {Q : WebSocketMessage → Prop} (h : s.Only P) (hPQ : ∀ message, P message → Q message)
    : s.Only Q := by
  intro channel hchannel message hmessage
  exact hPQ message (h channel hchannel message hmessage)

section

variable {config : WebSocketsServiceConfig} {codec : Codec} {userId : Uuid} {userIds : List Uuid}
variable {now : OffsetDateTime} {messageId : Uuid} {notification : NotificationProtobuf}
variable {status : NetworkStatusProtobuf} {rx : Receiver}

theorem Only.findOrCreateChannel (h : s.Only P)
    (hfind : s.findOrCreateChannel config userId = some (rx, s')) : s'.Only P := by
  unfold WebSocketsServiceImpl.findOrCreateChannel at hfind
  split at hfind
  . simp only [Option.some.injEq, Prod.mk.injEq] at hfind
    rw [← hfind.2]
    exact forall_mem_modify h (fun _ hchannel => hchannel)
  . split at hfind
    . simp at hfind
    . simp only [Option.some.injEq, Prod.mk.injEq] at hfind
      rw [← hfind.2]
      intro channel hchannel
      simp only [addUser, List.mem_append, List.mem_singleton] at hchannel
      rcases hchannel with hmem | rfl
      . exact h channel hmem
      . exact Channel.Only.new

theorem Only.send (h : s.Only P)
    (hmessage : P (s.createMessage codec now messageId .ok (some notification)).1)
    : (s.send codec userIds notification now messageId).Only P := by
  unfold WebSocketsServiceImpl.send
  cases userIds.isEmpty with
  | true => exact Only.sendAll h hmessage
  | false => exact Only.sendAll h hmessage

theorem findOrCreateChannel_fields (hfind : s.findOrCreateChannel config userId = some (rx, s'))
    : s'.flags = s.flags ∧ s'.networkStatusOk = s.networkStatusOk := by
  unfold findOrCreateChannel at hfind
  split at hfind
  . simp only [Option.some.injEq, Prod.mk.injEq] at hfind
    rw [← hfind.2]
    exact ⟨rfl, rfl⟩
  . split at hfind
    . simp at hfind
    . simp only [Option.some.injEq, Prod.mk.injEq] at hfind
      rw [← hfind.2]
      exact ⟨rfl, rfl⟩

theorem handleClient_cases (h : s.handleClient config codec userId now messageId = some (rx, s'))
    : s'.flags = s.flags
        ∧
      ∀ P, s.Only P →
        (s.networkStatusOk = false → P (s.createMessage codec now messageId .error none).1) →
          s'.Only P := by
  unfold handleClient at h
  split at h
  . simp at h
  . next rx' t hfind =>
    have hfields := findOrCreateChannel_fields hfind
    split at h
    . simp only [Option.some.injEq, Prod.mk.injEq] at h
      rw [← h.2]
      exact ⟨hfields.1, fun P hP _ => hP.findOrCreateChannel hfind⟩
    . next hnetwork =>
      simp only [createMessage, Option.some.injEq, Prod.mk.injEq] at h
      rw [← h.2]
      refine ⟨by simpa [setChannels] using hfields.1, ?_⟩
      intro P hP hmessage
      exact Only.sendAll (hP.findOrCreateChannel hfind) (hmessage (by simpa [hfields.2] using hnetwork))

theorem send_flags
    : (s.send codec userIds notification now messageId).flags
        =
      (s.createMessage codec now messageId .ok (some notification)).2.flags := by
  unfold send
  cases userIds.isEmpty <;> rfl

end

end WebSocketsServiceImpl

namespace WebSocketConnection

variable {c c' : WebSocketConnection} {P : WebSocketMessage → Prop} {config : WebSocketsServiceConfig}
variable {codec : WebSocketCodec} {now : Instant} {sent : Except String Unit}

def Only (P : WebSocketMessage → Prop) (c : WebSocketConnection) : Prop :=
  ∀ queued ∈ c.unconfirmedMessages, P queued.message

theorem Only.append {queued : WebSocketUnconfirmedMessage} (h : c.Only P) (hqueued : P queued.message)
    : Only P { c with unconfirmedMessages := c.unconfirmedMessages ++ [queued] } := by
  intro queued' hmem
  rw [List.mem_append, List.mem_singleton] at hmem
  rcases hmem with hmem | rfl
  . exact h queued' hmem
  . exact hqueued

theorem Only.processPing (h : c.Only P) (hping : c.processPing config now sent = .ok c')
    : c'.Only P := by
  rcases processPing_cases hping with ⟨_, hresult⟩ | ⟨_, _, hresult⟩ | ⟨_, _, hresult⟩
  . simp at hresult
  . simp at hresult
  . rw [Except.ok.inj hresult]
    exact h

theorem Only.processMessage {message : Except RecvError WebSocketMessage} (h : c.Only P)
    (hP : ∀ m, message = .ok m → P m) (hmessage : c.processMessage config now sent message = .ok c')
    : c'.Only P := by
  rcases processMessage_cases hmessage
    with ⟨_, _, hresult⟩ | ⟨_, hresult⟩ | ⟨_, _, hresult⟩ | ⟨m, hm, _, hresult⟩
  . simp at hresult
  . simp at hresult
  . simp at hresult
  . rw [Except.ok.inj hresult]
    exact h.append (hP m hm)

theorem Only.processRetry (h : c.Only P)
    (hretry : c.processRetry config codec.toCodec now sent = some (.ok c')) : c'.Only P := by
  rcases processRetry_cases hretry
    with ⟨queued, rest, hqueue, _, ⟨_, hresult⟩ | ⟨_, _, hresult⟩ | ⟨_, _, hresult⟩⟩
  . simp at hresult
  . simp at hresult
  . have hmem : ∀ queued' ∈ queued :: rest, P queued'.message := hqueue ▸ h
    have hrest : Only P { c with unconfirmedMessages := rest } := by
      intro queued' hqueued'
      exact hmem queued' (List.mem_cons_of_mem _ hqueued')
    rw [Except.ok.inj hresult]
    exact hrest.append (hmem queued List.mem_cons_self)

theorem Only.processIncommingMessage {incomming : Option (Except String Message)}
    {message : Option WebSocketMessage} (h : c.Only P)
    (hincomming : c.processIncommingMessage config codec now incomming = .ok (c', message))
    : c'.Only P ∧ ∀ m ∈ message, P m := by
  rcases processIncommingMessage_cases hincomming
    with ⟨rfl, rfl | rfl⟩ | ⟨messageId, queued, hfind, rfl, rfl⟩
  . exact ⟨h, by simp⟩
  . exact ⟨h, by simp⟩
  . constructor
    . intro queued' hqueued'
      exact h queued' (List.mem_of_mem_eraseP hqueued')
    . simpa using h queued (List.mem_of_find?_eq_some hfind)

end WebSocketConnection

namespace Server

variable {s s' : Server} {config : WebSocketsServiceConfig} {codec : WebSocketCodec}
variable {label : ServerLabel} {i : Nat} {c c' : WebSocketConnection}

def Named (message : WebSocketMessage) : Prop :=
  message.deliveredCallback.map (·.id)
    =
  (message.payload.notification.filter (fun notification => notification.statusOrDefault = .new)).map
    (·.id)

structure Stored (s : Server) : Prop where
  nodup : (s.messages.map (·.messageId)).Nodup
  named : ∀ message ∈ s.messages, Named message
  queued : s.websocketsService.Only (· ∈ s.messages)
  unconfirmed : ∀ task ∈ s.tasks, task.connection.Only (· ∈ s.messages)

theorem stored_init : init.Stored where
  nodup := List.nodup_nil
  named := by simp [init]
  queued := by simp [init, WebSocketsServiceImpl.Only, WebSocketsServiceImpl.new]
  unconfirmed := by simp [init]

theorem createMessage_named {websocketsService : WebSocketsServiceImpl} {codec : Codec}
    {now : OffsetDateTime} {messageId : Uuid} {status : NetworkStatusProtobuf}
    {notification : Option NotificationProtobuf}
    : Named (websocketsService.createMessage codec now messageId status notification).1 := by
  unfold Named WebSocketsServiceImpl.createMessage
  simp [Function.comp_def]

theorem Stored.setTask (h : s.Stored) {state : TaskState} (hc : c.Only (· ∈ s.messages))
    : (s.setTask i c state).Stored where
  nodup := h.nodup
  named := h.named
  queued := h.queued
  unconfirmed := by
    intro task htask
    rcases List.mem_or_eq_of_mem_set htask with hmem | rfl
    . exact h.unconfirmed task hmem
    . exact hc

theorem Stored.of_running (h : s.Stored) {state : TaskState} (hi : s.tasks[i]? = some ⟨c, state⟩)
    : c.Only (· ∈ s.messages) := by
  exact h.unconfirmed _ (List.mem_of_getElem? hi)

theorem Stored.settle (h : s.Stored) {result : Except ConnectionError WebSocketConnection}
    (hc : c.Only (· ∈ s.messages)) (hresult : ∀ c', result = .ok c' → c'.Only (· ∈ s.messages))
    : (s.settle i c result).Stored := by
  cases result with
  | ok c' => exact h.setTask (hresult c' rfl)
  | error err => exact h.setTask hc

theorem Stored.setService (h : s.Stored) {websocketsService : WebSocketsServiceImpl}
    (hqueued : websocketsService.Only (· ∈ s.messages)) : Stored { s with websocketsService } where
  nodup := h.nodup
  named := h.named
  queued := hqueued
  unconfirmed := h.unconfirmed

theorem Stored.connect (h : s.Stored) {userId : Uuid} {rx : Receiver} {instant : Instant}
    : Stored { s with
        tasks := s.tasks ++ [⟨WebSocketConnection.new config userId rx instant, .running⟩] } where
  nodup := h.nodup
  named := h.named
  queued := h.queued
  unconfirmed := by
    intro task htask
    rw [List.mem_append, List.mem_singleton] at htask
    rcases htask with hmem | rfl
    . exact h.unconfirmed task hmem
    . simp [WebSocketConnection.new, WebSocketConnection.Only]

theorem Stored.create (h : s.Stored) {websocketsService : WebSocketsServiceImpl}
    {message : WebSocketMessage} (hfresh : s.fresh message.messageId) (hnamed : Named message)
    (hqueued : websocketsService.Only (· ∈ s.messages ++ [message]))
    : Stored { s with websocketsService, messages := s.messages ++ [message] } where
  nodup := by
    rw [List.map_append, List.map_singleton, List.nodup_append_comm, List.singleton_append,
      List.nodup_cons]
    exact ⟨by simpa [fresh] using hfresh, h.nodup⟩
  named := by
    intro message' hmessage'
    rw [List.mem_append, List.mem_singleton] at hmessage'
    rcases hmessage' with hmem | rfl
    . exact h.named message' hmem
    . exact hnamed
  queued := hqueued
  unconfirmed := by
    intro task htask queued hmem
    exact List.mem_append_left _ (h.unconfirmed task htask queued hmem)

end Server

end TomNotifier.WsDelivery
