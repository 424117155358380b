import TomNotifier.WsDelivery.WebSockets.Registry

/-!
This module contains which network status the clients have been told last, with one task that updates
it and clients that connect meanwhile.
-/

namespace TomNotifier.WsDelivery

def lastStatus (start : Nat) (queued : List WebSocketMessage) : Option Int32 :=
  ((queued.drop start).filter (·.payload.notification.isNone)).getLast?.map (·.payload.networkStatus)

section

variable {start : Nat} {queued messages : List WebSocketMessage} {message : WebSocketMessage}

theorem lastStatus_append_of_isSome (hle : start ≤ queued.length)
    (h : ∀ message ∈ messages, message.payload.notification.isSome)
    : lastStatus start (queued ++ messages) = lastStatus start queued := by
  have hnil : messages.filter (·.payload.notification.isNone) = [] := by
    rw [List.filter_eq_nil_iff]
    intro message hmessage
    simpa [Option.isSome_iff_ne_none] using h message hmessage
  unfold lastStatus
  rw [List.drop_append_of_le_length hle, List.filter_append, hnil, List.append_nil]

theorem lastStatus_append_singleton (hle : start ≤ queued.length)
    (h : message.payload.notification = none)
    : lastStatus start (queued ++ [message]) = some message.payload.networkStatus := by
  unfold lastStatus
  rw [List.drop_append_of_le_length hle, List.filter_append,
    List.filter_cons_of_pos (by simp [h]), List.filter_nil, List.getLast?_concat, Option.map_some]

end

/-- The server, whose network status one task updates: it stores a status, and then broadcasts it. -/
structure Updater where
  server : Server
  pending : Option NetworkStatusProtobuf
  latest : NetworkStatusProtobuf
  -- history: where the connections started to read
  starts : List Nat

namespace Updater

def init : Updater where
  server := .init
  pending := none
  latest := .ok
  starts := []

section

variable (config : WebSocketsServiceConfig) (codec : WebSocketCodec)

def step (u : Updater) (label : ServerLabel) : Option Updater :=
  match u.server.step config codec label with
  | none => none
  | some server =>
    match label with
    | .storeNetworkStatus status =>
      if u.pending = none then
        some { u with server, pending := some status, latest := status }
      else
        none
    | .broadcastNetworkStatus status _ _ =>
      if u.pending = some status then some { u with server, pending := none } else none
    | .handleClient _ _ _ _ =>
      let start := server.tasks.getLast?.map (·.connection.messagesRx.next)
      some { u with server, starts := u.starts ++ start.toList }
    | _ => some { u with server }

end

/-- A connection on the channel its user is registered with, which it has read from there on. -/
def Listening (s : Server) (starts : List Nat) (i start : Nat) (channel : Channel) : Prop :=
  ∃ task, s.tasks[i]? = some task ∧ task.state.subscribed ∧ starts[i]? = some start
    ∧ s.websocketsService.usersConnections.lookup task.connection.userId
      = some task.connection.messagesRx.channel
    ∧ s.websocketsService.channels[task.connection.messagesRx.channel]? = some channel

def Told (latest : NetworkStatusProtobuf) (start : Nat) (queued : List WebSocketMessage) : Prop :=
  lastStatus start queued = some latest.toInt32 ∨ lastStatus start queued = none ∧ latest = .ok

structure Converges (u : Updater) : Prop where
  registered : ∃ entries, u.server.Registered entries
  length : u.starts.length = u.server.tasks.length
  start_le : ∀ (i : Nat) (task : ConnectionTask) (start : Nat) (channel : Channel),
    u.server.tasks[i]? = some task → u.starts[i]? = some start →
    u.server.websocketsService.channels[task.connection.messagesRx.channel]? = some channel →
      start ≤ channel.queued.length
  flag : u.server.websocketsService.networkStatusOk = decide (u.latest = .ok)
  pending : ∀ status, u.pending = some status → status = u.latest
  told : u.pending = none → ∀ i start channel, Listening u.server u.starts i start channel →
    Told u.latest start channel.queued

variable {s s' : Server} {config : WebSocketsServiceConfig} {codec : WebSocketCodec}
variable {label : ServerLabel} {labels : List ServerLabel} {entries : List (Uuid × Bool)}
variable {starts : List Nat} {i start : Nat} {channel channel' : Channel} {u u' : Updater}
variable {task task' : ConnectionTask}

theorem converges_init : init.Converges where
  registered := ⟨[], Server.registered_init⟩
  length := rfl
  start_le := by simp [init, Server.init]
  flag := rfl
  pending := by simp [init]
  told := by simp [init, Server.init, Listening]

theorem networkStatusOk_eq (h : Server.Effect config codec s s' label)
    (hstore : ∀ status, label ≠ .storeNetworkStatus status)
    : s'.websocketsService.networkStatusOk = s.websocketsService.networkStatusOk := by
  cases h with
  | handleClient userId now instant messageId rx service tasks =>
    rcases WebSocketsServiceImpl.handleClient_joined service with ⟨before, hjoined⟩
    exact hjoined.networkStatusOk
  | closeConnections userId service tasks => exact service ▸ rfl
  | send userIds notification now messageId service tasks =>
    rcases WebSocketsServiceImpl.send_sent (s := s.websocketsService) with ⟨txs, hsent⟩
    exact service ▸ hsent.networkStatusOk
  | storeNetworkStatus status service tasks => exact absurd rfl (hstore status)
  | broadcastNetworkStatus status now messageId service tasks => exact service ▸ rfl
  | task label i c c' state state' message task? task looping subscribed userId messagesRx tasks
      service =>
    exact service.networkStatusOk
  | stop i now sent c next task tasks service => exact service ▸ rfl
  | transmit i now sent c c' channel message task channel_eq retained message_eq userId messagesRx
      wsTx tasks service =>
    exact service ▸ rfl
  | drop i c task tasks service => exact service ▸ rfl
  | cleanUp i c task tasks service =>
    rcases s.websocketsService.cleanUp_cases c.userId with ⟨_, _, _, _, _, hremove⟩ | ⟨_, hkeep⟩
    . rw [service, hremove]
      rfl
    . rw [service, hkeep]

-- The channel of a connection that is already there has existed before the step.
theorem grown_of_continues (hregistered : s.Registered entries)
    (h : Server.Effect config codec s s' label) (hi : s.tasks[i]? = some task)
    (hcontinues : task.Continues task')
    (hchannel : s'.websocketsService.channels[task'.connection.messagesRx.channel]? = some channel')
    : ∃ channel messages,
        s.websocketsService.channels[task.connection.messagesRx.channel]? = some channel
          ∧ channel'.queued = channel.queued ++ messages
          ∧ ∀ message ∈ messages, label.posts message := by
  rcases h.grown hchannel with ⟨messages, hmessages, hgrown⟩
  have hsome := List.getElem?_eq_getElem (hregistered.channel_lt hi)
  rw [hcontinues.channel, hsome] at hgrown
  exact ⟨_, messages, hsome, hgrown.1, hmessages⟩

theorem listening_of_effect (hregistered : s.Registered entries)
    (h : Server.Effect config codec s s' label)
    (hlabel : ∀ userId now instant messageId, label ≠ .handleClient userId now instant messageId)
    (hlistening : Listening s' starts i start channel')
    : ∃ channel messages, Listening s starts i start channel
        ∧ channel'.queued = channel.queued ++ messages
        ∧ ∀ message ∈ messages, label.posts message := by
  rcases hlistening with ⟨task', hi', hsubscribed', hstart, hlookup', hchannel'⟩
  rcases h.task_cases hi' with ⟨task, hi, hcontinues⟩ | ⟨_, userId, now, instant, messageId, heq⟩
  . rcases grown_of_continues hregistered h hi hcontinues hchannel'
      with ⟨channel, messages, hchannel, hqueued, hmessages⟩
    rcases h.lookup_cases hlookup' with hlookup | ⟨_, now, instant, messageId, heq⟩
    . rw [hcontinues.userId, hcontinues.channel] at hlookup
      exact ⟨channel, messages, ⟨task, hi, hcontinues.subscribed hsubscribed', hstart, hlookup, hchannel⟩,
        hqueued, hmessages⟩
    . exact absurd heq (hlabel _ now instant messageId)
  . exact absurd heq (hlabel userId now instant messageId)

theorem length_tasks (h : Server.Effect config codec s s' label)
    (hlabel : ∀ userId now instant messageId, label ≠ .handleClient userId now instant messageId)
    : s'.tasks.length = s.tasks.length := by
  cases h with
  | handleClient userId now instant messageId rx service tasks =>
    exact absurd rfl (hlabel userId now instant messageId)
  | closeConnections userId service tasks => rw [tasks]
  | send userIds notification now messageId service tasks => rw [tasks]
  | storeNetworkStatus status service tasks => rw [tasks]
  | broadcastNetworkStatus status now messageId service tasks => rw [tasks]
  | task label i c c' state state' message task? task looping subscribed userId messagesRx tasks
      service =>
    rw [tasks, List.length_set]
  | stop i now sent c next task tasks service => rw [tasks, List.length_set]
  | transmit i now sent c c' channel message task channel_eq retained message_eq userId messagesRx
      wsTx tasks service =>
    rw [tasks, List.length_set]
  | drop i c task tasks service => rw [tasks, List.length_set]
  | cleanUp i c task tasks service => rw [tasks, List.length_set]

theorem service_of_broadcast {status : NetworkStatusProtobuf} {now : OffsetDateTime}
    {messageId : Uuid}
    (h : Server.Effect config codec s s' (.broadcastNetworkStatus status now messageId))
    : s'.tasks = s.tasks
        ∧
      s'.websocketsService
        = s.websocketsService.broadcastNetworkStatus codec.toCodec status now messageId := by
  cases h with
  | broadcastNetworkStatus status now messageId service tasks => exact ⟨tasks, service⟩
  | task label i c c' state state' message task? task looping subscribed userId messagesRx tasks
      service =>
    simp [ServerLabel.task?] at task?

-- A channel with a receiver gets one copy of what is broadcast.
theorem queued_of_broadcast {status : NetworkStatusProtobuf} {now : OffsetDateTime} {messageId : Uuid}
    (hregistered : s.Registered entries)
    (heffect : Server.Effect config codec s s' (.broadcastNetworkStatus status now messageId))
    (h : Listening s starts i start channel) (h' : Listening s' starts i start channel')
    : channel'.queued
        =
      channel.queued
        ++ [(s.websocketsService.createMessage codec.toCodec now messageId status none).1] := by
  rcases h with ⟨task, hi, hsubscribed, _, hlookup, hchannel⟩
  rcases h' with ⟨task', hi', _, _, _, hchannel'⟩
  rcases service_of_broadcast heffect with ⟨htasks, hservice⟩
  rw [htasks, hi, Option.some.injEq] at hi'
  subst hi'
  have hreceivers := hregistered.receivers_pos hi hsubscribed hchannel
  rw [hservice, WebSocketsServiceImpl.broadcastNetworkStatus_sent.getElem?, hchannel,
    WebSocketsServiceImpl.count_broadcast hlookup, Option.map_some, Option.some.injEq] at hchannel'
  rw [← hchannel', Channel.sendMany_one hreceivers]

theorem getElem?_append_both {α β : Type} {l : List α} {l' : List β} {a a' : α} {b b' : β}
    (hlength : l'.length = l.length) (h : (l ++ [a'])[i]? = some a) (h' : (l' ++ [b'])[i]? = some b)
    : (l[i]? = some a ∧ l'[i]? = some b) ∨ (a = a' ∧ b = b') := by
  rcases getElem?_append_singleton_cases h with hold | ⟨hnew, ha⟩
  . rcases getElem?_append_singleton_cases h' with hold' | ⟨hnew', _⟩
    . exact .inl ⟨hold, hold'⟩
    . have hlt := (List.getElem?_eq_some_iff.mp hold).1
      omega
  . rcases getElem?_append_singleton_cases h' with hold' | ⟨_, hb⟩
    . have hlt := (List.getElem?_eq_some_iff.mp hold').1
      omega
    . exact .inr ⟨ha, hb⟩

theorem listening_of_joined (hregistered : s.Registered entries) {userId : Uuid} {rx : Receiver}
    {before : Channel} {greeting : List WebSocketMessage} {connection : WebSocketConnection}
    (hlength : starts.length = s.tasks.length)
    (hjoined : s.websocketsService.Joined s'.websocketsService userId rx before greeting)
    (hrx : connection.messagesRx = rx) (htasks : s'.tasks = s.tasks ++ [⟨connection, .running⟩])
    (h : Listening s' (starts ++ [rx.next]) i start channel')
    : (start = before.queued.length ∧ channel'.queued = before.queued ++ greeting)
        ∨
      ∃ channel, Listening s starts i start channel
        ∧ (channel'.queued = channel.queued ∨ channel'.queued = channel.queued ++ greeting) := by
  rcases h with ⟨task, hi, hsubscribed, hstart, hlookup, hchannel⟩
  rw [htasks] at hi
  rcases getElem?_append_both hlength hi hstart with ⟨hi', hstart'⟩ | ⟨rfl, rfl⟩
  . have hlookup' : s.websocketsService.usersConnections.lookup task.connection.userId
        = some task.connection.messagesRx.channel := by
      by_cases huser : task.connection.userId = userId
      . rw [huser, hjoined.lookup, Option.some.injEq] at hlookup
        rcases hjoined.found with ⟨hfound, _⟩ | ⟨_, hnew, _⟩
        . rw [huser, hfound, hlookup]
        -- The task would be on a channel that did not exist.
        . exact absurd (hregistered.channel_lt hi') (by rw [← hlookup, hnew]; exact Nat.lt_irrefl _)
      . rwa [hjoined.lookup_other _ huser] at hlookup
    refine .inr ?_
    by_cases htx : task.connection.messagesRx.channel = rx.channel
    . rw [htx, hjoined.channel, Option.some.injEq] at hchannel
      rcases hjoined.found with ⟨_, hfound⟩ | ⟨_, hnew, _⟩
      . rw [← htx] at hfound
        exact ⟨before, ⟨task, hi', hsubscribed, hstart', hlookup', hfound⟩, .inr (by rw [← hchannel])⟩
      . exact absurd (hregistered.channel_lt hi') (by rw [htx, hnew]; exact Nat.lt_irrefl _)
    . rw [hjoined.other _ htx] at hchannel
      exact ⟨channel', ⟨task, hi', hsubscribed, hstart', hlookup', hchannel⟩, .inl rfl⟩
  . rw [hrx, hjoined.channel, Option.some.injEq] at hchannel
    exact .inl ⟨hjoined.start, by rw [← hchannel]⟩

-- The greeting is right for the one who joins, and for those who have been told the status before.
theorem told_greeting {ok : Bool} {latest : NetworkStatusProtobuf} {queued : List WebSocketMessage}
    {message : WebSocketMessage} (hok : ok = decide (latest = .ok)) (hle : start ≤ queued.length)
    (hmessage : message.payload.notification = none)
    (hstatus : message.payload.networkStatus = NetworkStatusProtobuf.error.toInt32)
    (h : start = queued.length ∨ Told latest start queued)
    : Told latest start (queued ++ if ok then [] else [message]) := by
  by_cases hlatest : latest = .ok
  . rw [hok, hlatest, decide_eq_true rfl, if_pos rfl, List.append_nil]
    rcases h with rfl | htold
    . exact .inr ⟨by simp [lastStatus], rfl⟩
    . exact hlatest ▸ htold
  . have herror : latest = .error := by
      cases latest with
      | ok => exact absurd rfl hlatest
      | error => rfl
    rw [hok, decide_eq_false hlatest, if_neg (by simp)]
    exact .inl (by rw [lastStatus_append_singleton hle hmessage, hstatus, herror])

namespace Converges

theorem listening_start_le (h : u.Converges) (hlistening : Listening u.server u.starts i start channel)
    : start ≤ channel.queued.length := by
  rcases hlistening with ⟨task, hi, _, hstart, _, hchannel⟩
  exact h.start_le i task start channel hi hstart hchannel

theorem start_le_of_continues (h : u.Converges)
    (heffect : Server.Effect config codec u.server s' label) (hi : u.server.tasks[i]? = some task)
    (hstart : u.starts[i]? = some start) (hcontinues : task.Continues task')
    (hchannel : s'.websocketsService.channels[task'.connection.messagesRx.channel]? = some channel')
    : start ≤ channel'.queued.length := by
  rcases h.registered with ⟨entries, hregistered⟩
  rcases grown_of_continues hregistered heffect hi hcontinues hchannel
    with ⟨channel, messages, hchannel, hqueued, _⟩
  rw [hqueued, List.length_append]
  exact Nat.le_add_right_of_le (h.start_le i task start channel hi hstart hchannel)

-- A step that lets nobody join keeps everything that is not about the status.
theorem step_of_effect (h : u.Converges) (heffect : Server.Effect config codec u.server s' label)
    (hlabel : ∀ userId now instant messageId, label ≠ .handleClient userId now instant messageId)
    {pending : Option NetworkStatusProtobuf} {latest : NetworkStatusProtobuf}
    (hflag : s'.websocketsService.networkStatusOk = decide (latest = .ok))
    (hpending : ∀ status, pending = some status → status = latest)
    (htold : pending = none → ∀ i start channel, Listening s' u.starts i start channel →
      Told latest start channel.queued)
    : Converges { u with server := s', pending, latest } := by
  rcases h.registered with ⟨entries, hregistered⟩
  refine ⟨⟨_, hregistered.step heffect⟩, ?_, ?_, hflag, hpending, htold⟩
  . rw [length_tasks heffect hlabel]
    exact h.length
  . intro i task' start channel' hi' hstart hchannel'
    rcases heffect.task_cases hi'
      with ⟨task, hi, hcontinues⟩ | ⟨_, userId, now, instant, messageId, heq⟩
    . exact h.start_le_of_continues heffect hi hstart hcontinues hchannel'
    . exact absurd heq (hlabel userId now instant messageId)

theorem other (h : u.Converges) (heffect : Server.Effect config codec u.server s' label)
    (hlabel : ∀ userId now instant messageId, label ≠ .handleClient userId now instant messageId)
    (hstore : ∀ status, label ≠ .storeNetworkStatus status)
    (hposts : ∀ message, label.posts message → message.payload.notification.isSome)
    : Converges { u with server := s' } := by
  apply h.step_of_effect heffect hlabel _ h.pending
  . intro hidle i start channel' hlistening'
    rcases h.registered with ⟨entries, hregistered⟩
    rcases listening_of_effect hregistered heffect hlabel hlistening'
      with ⟨channel, messages, hlistening, hqueued, hmessages⟩
    unfold Told
    rw [hqueued, lastStatus_append_of_isSome (h.listening_start_le hlistening)
      (fun message hmessage => hposts message (hmessages message hmessage))]
    exact h.told hidle i start channel hlistening
  . rw [networkStatusOk_eq heffect hstore]
    exact h.flag

theorem storeNetworkStatus (h : u.Converges) {status : NetworkStatusProtobuf}
    (heffect : Server.Effect config codec u.server s' (.storeNetworkStatus status))
    : Converges { u with server := s', pending := some status, latest := status } := by
  apply h.step_of_effect heffect (by simp)
  . cases heffect with
    | storeNetworkStatus status service tasks =>
      rw [service]
      rfl
    | task label i c c' state state' message task? task looping subscribed userId messagesRx tasks
        service =>
      simp [ServerLabel.task?] at task?
  . simp
  . simp

theorem broadcastNetworkStatus (h : u.Converges) {status : NetworkStatusProtobuf}
    {now : OffsetDateTime} {messageId : Uuid} (hpending : u.pending = some status)
    (heffect : Server.Effect config codec u.server s' (.broadcastNetworkStatus status now messageId))
    : Converges { u with server := s', pending := none } := by
  have hlatest := h.pending status hpending
  apply h.step_of_effect heffect (by simp)
  . rw [networkStatusOk_eq heffect (by simp)]
    exact h.flag
  . simp
  . intro _ i start channel' hlistening'
    rcases h.registered with ⟨entries, hregistered⟩
    rcases listening_of_effect hregistered heffect (by simp) hlistening'
      with ⟨channel, _, hlistening, _, _⟩
    have hqueued := queued_of_broadcast hregistered heffect hlistening hlistening'
    rw [hqueued, hlatest]
    exact .inl (lastStatus_append_singleton (h.listening_start_le hlistening)
      WebSocketsServiceImpl.createMessage_notification)

theorem handleClient (h : u.Converges) {userId : Uuid} {now : OffsetDateTime} {instant : Instant}
    {messageId : Uuid}
    (heffect : Server.Effect config codec u.server s' (.handleClient userId now instant messageId))
    : Converges { u with
        server := s'
        starts := u.starts ++ (s'.tasks.getLast?.map (·.connection.messagesRx.next)).toList } := by
  rcases h.registered with ⟨entries, hregistered⟩
  have hregistered' := hregistered.step heffect
  have hflag := networkStatusOk_eq heffect (by simp)
  have hle : ∀ {i : Nat} {task : ConnectionTask} {start : Nat} {channel' : Channel},
      u.server.tasks[i]? = some task → u.starts[i]? = some start →
      s'.websocketsService.channels[task.connection.messagesRx.channel]? = some channel' →
        start ≤ channel'.queued.length := by
    intro i task start channel' hi hstart hchannel
    exact h.start_le_of_continues heffect hi hstart (.refl task) hchannel
  cases heffect with
  | task label i c c' state state' message task? task looping subscribed userId messagesRx tasks
      service =>
    simp [ServerLabel.task?] at task?
  | handleClient userId now instant messageId rx service tasks =>
    rcases WebSocketsServiceImpl.handleClient_joined service with ⟨before, hjoined⟩
    have hstarts : (s'.tasks.getLast?.map (·.connection.messagesRx.next)).toList = [rx.next] := by
      simp [tasks, WebSocketConnection.new]
    rw [hstarts]
    refine ⟨⟨_, hregistered'⟩, ?_, ?_, ?_, h.pending, ?_⟩
    . simp [tasks, h.length]
    . intro i task start channel' hi hstart hchannel'
      rw [tasks] at hi
      rcases getElem?_append_both h.length hi hstart with ⟨hi', hstart'⟩ | ⟨rfl, rfl⟩
      . exact hle hi' hstart' hchannel'
      . rw [show (WebSocketConnection.new config userId rx instant).messagesRx = rx from rfl,
          hjoined.channel, Option.some.injEq] at hchannel'
        rw [hjoined.start, ← hchannel', List.length_append]
        exact Nat.le_add_right _ _
    . rw [hflag]
      exact h.flag
    . intro hidle i start channel' hlistening
      rcases listening_of_joined hregistered h.length hjoined rfl tasks hlistening
        with ⟨hstart, hqueued⟩ | ⟨channel, hlistening', hqueued | hqueued⟩
      . rw [hqueued]
        exact told_greeting h.flag hstart.le WebSocketsServiceImpl.createMessage_notification rfl
          (.inl hstart)
      . rw [hqueued]
        exact h.told hidle i start channel hlistening'
      . rw [hqueued]
        exact told_greeting h.flag (h.listening_start_le hlistening')
          WebSocketsServiceImpl.createMessage_notification rfl
          (.inr (h.told hidle i start channel hlistening'))

theorem step (h : u.Converges) (hstep : u.step config codec label = some u') : u'.Converges := by
  unfold Updater.step at hstep
  split at hstep
  . simp at hstep
  . next s' hserver =>
    have heffect := Server.effect_of_step hserver
    cases label with
    | handleClient userId now instant messageId =>
      rw [← Option.some.inj hstep]
      exact h.handleClient heffect
    | storeNetworkStatus status =>
      simp only [Option.ite_none_right_eq_some, Option.some.injEq] at hstep
      rw [← hstep.2]
      exact h.storeNetworkStatus heffect
    | broadcastNetworkStatus status now messageId =>
      simp only [Option.ite_none_right_eq_some, Option.some.injEq] at hstep
      rw [← hstep.2]
      exact h.broadcastNetworkStatus hstep.1 heffect
    | send userIds notification now messageId =>
      rw [← Option.some.inj hstep]
      apply h.other heffect (by simp) (by simp)
      intro message hmessage
      rw [show message.payload.notification = some notification from hmessage]
      rfl
    | closeConnections userId =>
      rw [← Option.some.inj hstep]
      exact h.other heffect (by simp) (by simp) (by simp [ServerLabel.posts])
    | ping i now sent =>
      rw [← Option.some.inj hstep]
      exact h.other heffect (by simp) (by simp) (by simp [ServerLabel.posts])
    | incomming i now message =>
      rw [← Option.some.inj hstep]
      exact h.other heffect (by simp) (by simp) (by simp [ServerLabel.posts])
    | message i now sent =>
      rw [← Option.some.inj hstep]
      exact h.other heffect (by simp) (by simp) (by simp [ServerLabel.posts])
    | retry i now sent =>
      rw [← Option.some.inj hstep]
      exact h.other heffect (by simp) (by simp) (by simp [ServerLabel.posts])
    | hand i =>
      rw [← Option.some.inj hstep]
      exact h.other heffect (by simp) (by simp) (by simp [ServerLabel.posts])
    | drop i =>
      rw [← Option.some.inj hstep]
      exact h.other heffect (by simp) (by simp) (by simp [ServerLabel.posts])
    | cleanUp i =>
      rw [← Option.some.inj hstep]
      exact h.other heffect (by simp) (by simp) (by simp [ServerLabel.posts])

end Converges

/--
Whenever no update is in progress, the last status message queued for a connection is about the latest
status. There may be none while the network has been fine since it subscribed.
-/
theorem network_status_converges (config : WebSocketsServiceConfig) (codec : WebSocketCodec)
    (labels : List ServerLabel) (hrun : System.run (step config codec) init labels = some u)
    (hidle : u.pending = none)
    : ∀ i start channel, Listening u.server u.starts i start channel →
        lastStatus start channel.queued = some u.latest.toInt32
          ∨ (lastStatus start channel.queued = none ∧ u.latest = .ok) := by
  have h : u.Converges := by
    apply System.run_invariant (P := Converges) _ converges_init hrun
    intro u label u' h hstep
    exact h.step hstep
  exact h.told hidle

open Server (sampleConfig sampleCodec)

def sampleUpdates : List ServerLabel :=
  [.handleClient ⟨1⟩ 0 0 ⟨101⟩, .storeNetworkStatus .error, .handleClient ⟨1⟩ 1 1 ⟨102⟩,
    .broadcastNetworkStatus .error 2 ⟨103⟩]

def sampleUpdater : Updater :=
  (System.run (step sampleConfig sampleCodec) init sampleUpdates).getD init

-- The second device joins between the two halves of the update, the first one is told twice.
theorem network_status_converges_joined
    : ∃ channel, Listening sampleUpdater.server sampleUpdater.starts 0 0 channel
        ∧ channel.queued.map (·.messageId) = [⟨102⟩, ⟨103⟩]
        ∧ lastStatus 0 channel.queued = some NetworkStatusProtobuf.error.toInt32 := by
  have hrun : System.run (step sampleConfig sampleCodec) init sampleUpdates = some sampleUpdater := by
    rfl
  have hlistening : Listening sampleUpdater.server sampleUpdater.starts 0 0
      (sampleUpdater.server.websocketsService.channels.getD 0 (Channel.new 8)) := by
    exact ⟨_, rfl, rfl, rfl, rfl, rfl⟩
  refine ⟨_, hlistening, rfl, ?_⟩
  rcases network_status_converges sampleConfig sampleCodec sampleUpdates hrun (by rfl) 0 0 _
    hlistening with htold | ⟨_, hok⟩
  . exact htold
  . exact absurd hok (by decide)

end Updater

end TomNotifier.WsDelivery
