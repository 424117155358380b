import TomNotifier.WsDelivery.WebSockets.Confirmations
import TomNotifier.WsDelivery.WebSockets.Mailboxes

/-!
This module contains what is written to whom: to a connection only what has been posted to its user,
and who confirms a message has been transmitted it.
-/

namespace TomNotifier.WsDelivery

namespace WebSocketConnection

/-- What is new to the sink was waiting for a confirmation or has been received. -/
structure Writes (received : WebSocketMessage → Prop) (c c' : WebSocketConnection) : Prop where
  userId : c'.userId = c.userId
  channel : c'.messagesRx.channel = c.messagesRx.channel
  wsTx : ∃ new, c'.wsTx = c.wsTx ++ new ∧ ∀ payload, .binary payload ∈ new →
    ∃ message, message.payload = payload
      ∧ (received message ∨ ∃ queued ∈ c.unconfirmedMessages, queued.message = message)
  unconfirmed : ∀ queued ∈ c'.unconfirmedMessages,
    .binary queued.message.payload ∈ c'.wsTx
      ∨ ∃ queued' ∈ c.unconfirmedMessages, queued'.message = queued.message

variable {received : WebSocketMessage → Prop} {c c' : WebSocketConnection}
variable {config : WebSocketsServiceConfig} {codec : WebSocketCodec} {now : Instant}
variable {sent : Except String Unit} {message : WebSocketMessage}

theorem Writes.of_eq (huser : c'.userId = c.userId)
    (hchannel : c'.messagesRx.channel = c.messagesRx.channel) (hwsTx : c'.wsTx = c.wsTx)
    (hunconfirmed : ∀ queued ∈ c'.unconfirmedMessages, queued ∈ c.unconfirmedMessages)
    : Writes received c c' where
  userId := huser
  channel := hchannel
  wsTx := ⟨[], by rw [hwsTx, List.append_nil], by simp⟩
  unconfirmed queued hqueued := .inr ⟨queued, hunconfirmed queued hqueued, rfl⟩

theorem Writes.refl : Writes received c c := by
  exact .of_eq rfl rfl rfl (fun _ h => h)

theorem writes_of_processPing (h : c.processPing config now sent = .ok c') : Writes received c c' := by
  rcases processPing_cases h with ⟨_, hc⟩ | ⟨_, _, hc⟩ | ⟨_, _, hc⟩
  . simp at hc
  . simp at hc
  . rw [Except.ok.inj hc]
    refine ⟨rfl, rfl, ⟨_, rfl, by simp⟩, ?_⟩
    intro queued hqueued
    exact .inr ⟨queued, hqueued, rfl⟩

theorem writes_of_processIncommingMessage {incomming : Option (Except String Message)}
    {confirmed : Option WebSocketMessage}
    (h : c.processIncommingMessage config codec now incomming = .ok (c', confirmed))
    : Writes received c c' := by
  rcases processIncommingMessage_cases h with ⟨_, rfl | rfl⟩ | ⟨_, _, _, _, rfl⟩
  . exact .refl
  . exact .of_eq rfl rfl rfl (fun _ h => h)
  . exact .of_eq rfl rfl rfl (fun _ h => List.mem_of_mem_eraseP h)

theorem mem_unconfirmedMessages_of_confirmed {incomming : Option (Except String Message)}
    (h : c.processIncommingMessage config codec now incomming = .ok (c', some message))
    : ∃ queued ∈ c.unconfirmedMessages, queued.message = message := by
  rcases processIncommingMessage_cases h with ⟨hnone, _⟩ | ⟨_, queued, hfind, hsome, _⟩
  . simp at hnone
  . exact ⟨queued, List.mem_of_find?_eq_some hfind, (Option.some.inj hsome).symm⟩

theorem writes_of_processMessage {result : Except RecvError WebSocketMessage}
    (hreceived : ∀ message, result = .ok message → received message)
    (h : c.processMessage config now sent result = .ok c') : Writes received c c' := by
  rcases processMessage_cases h with ⟨_, _, hc⟩ | ⟨_, hc⟩ | ⟨_, _, hc⟩ | ⟨m, hm, _, hc⟩
  . simp at hc
  . simp at hc
  . simp at hc
  . rw [Except.ok.inj hc]
    refine ⟨rfl, rfl, ⟨_, rfl, ?_⟩, ?_⟩
    . intro payload hpayload
      simp only [List.mem_singleton, Outgoing.binary.injEq] at hpayload
      exact ⟨m, hpayload.symm, .inl (hreceived m hm)⟩
    . intro queued hqueued
      simp only [List.mem_append, List.mem_singleton] at hqueued ⊢
      rcases hqueued with hold | rfl
      . exact .inr ⟨queued, hold, rfl⟩
      . exact .inl (.inr rfl)

theorem writes_of_processRetry (h : c.processRetry config codec.toCodec now sent = some (.ok c'))
    : Writes received c c' := by
  rcases processRetry_cases h with ⟨queued, rest, hqueue, _, ⟨_, hc⟩ | ⟨_, _, hc⟩ | ⟨_, _, hc⟩⟩
  . simp at hc
  . simp at hc
  . rw [Except.ok.inj hc]
    have hmem : queued ∈ c.unconfirmedMessages := hqueue ▸ List.mem_cons_self
    refine ⟨rfl, rfl, ⟨_, rfl, ?_⟩, ?_⟩
    . intro payload hpayload
      simp only [List.mem_singleton, Outgoing.binary.injEq] at hpayload
      exact ⟨queued.message, hpayload.symm, .inr ⟨queued, hmem, rfl⟩⟩
    . intro queued' hqueued'
      simp only [List.mem_append, List.mem_singleton] at hqueued'
      rcases hqueued' with hrest | rfl
      . exact .inr ⟨queued', hqueue ▸ List.mem_cons_of_mem _ hrest, rfl⟩
      . exact .inr ⟨queued, hmem, rfl⟩

end WebSocketConnection

namespace Server

variable {s s' : Server} {config : WebSocketsServiceConfig} {codec : WebSocketCodec}
variable {label : ServerLabel} {i j : Nat} {task task' : ConnectionTask} {c c' : WebSocketConnection}
variable {state state' : TaskState}

/-- The message is in the channel the connection reads. -/
def Receives (s : Server) (c : WebSocketConnection) (message : WebSocketMessage) : Prop :=
  ∃ channel, s.websocketsService.channels[c.messagesRx.channel]? = some channel
    ∧ message ∈ channel.queued

def Wrote (s : Server) (c c' : WebSocketConnection) : Prop := c.Writes (s.Receives c) c'

theorem wrote_of_set (hi : s'.tasks[i]? = some task') (hj : s.tasks[j]? = some ⟨c, state⟩)
    (htasks : s'.tasks = s.tasks.set j ⟨c', state'⟩) (hwrote : s.Wrote c c')
    : ∃ task, s.tasks[i]? = some task ∧ s.Wrote task.connection task'.connection := by
  rw [htasks] at hi
  rcases getElem?_set_cases hi with ⟨rfl, rfl⟩ | ⟨_, hold⟩
  . exact ⟨_, hj, hwrote⟩
  . exact ⟨task', hold, .refl⟩

theorem wrote_of_settle {result : Except ConnectionError WebSocketConnection}
    (hj : s.tasks[j]? = some ⟨c, state⟩) (hi : (s.settle j c' result).tasks[i]? = some task')
    (hwrote : s.Wrote c c') (hresult : ∀ c'', result = .ok c'' → s.Wrote c c'')
    : ∃ task, s.tasks[i]? = some task ∧ s.Wrote task.connection task'.connection := by
  cases result with
  | ok c'' => exact wrote_of_set hi hj rfl (hresult c'' rfl)
  | error err => exact wrote_of_set hi hj rfl hwrote

theorem wrote_of_incomming {now : Instant} {message : Option (Except String Message)}
    (hstep : s.stepIncomming config codec j now message = some s')
    (hi : s'.tasks[i]? = some task')
    : ∃ task, s.tasks[i]? = some task ∧ s.Wrote task.connection task'.connection := by
  unfold stepIncomming at hstep
  split at hstep
  . simp at hstep
  . next c hj =>
    rw [running_eq_some] at hj
    split at hstep
    . rw [← Option.some.inj hstep] at hi
      exact wrote_of_set hi hj rfl .refl
    . next c' hprocess =>
      rw [← Option.some.inj hstep] at hi
      exact wrote_of_set hi hj rfl (WebSocketConnection.writes_of_processIncommingMessage hprocess)
    . next c' message hprocess =>
      rw [← Option.some.inj hstep] at hi
      rcases confirm_task codec.toCodec s j c' message with ⟨state, htasks, _⟩
      exact wrote_of_set hi hj htasks
        (WebSocketConnection.writes_of_processIncommingMessage hprocess)

theorem wrote_of_message {now : Instant} {sent : Except String Unit}
    (hstep : s.stepMessage config j now sent = some s') (hi : s'.tasks[i]? = some task')
    : ∃ task, s.tasks[i]? = some task ∧ s.Wrote task.connection task'.connection := by
  unfold stepMessage at hstep
  split at hstep
  . simp at hstep
  . next c hj =>
    rw [running_eq_some] at hj
    dsimp only at hstep
    split at hstep
    . simp at hstep
    . next channel hchannel =>
      split at hstep
      . simp at hstep
      . next result rx hrecv =>
        rw [Option.some.injEq] at hstep
        subst hstep
        have hrx : rx.channel = c.messagesRx.channel := by
          rcases Channel.recv_cases hrecv with ⟨_, _, _, rfl⟩ | ⟨_, _, _, _, rfl⟩
          . rfl
          . rfl
        refine wrote_of_settle hj hi (.of_eq rfl hrx rfl (fun _ h => h)) ?_
        intro c'' hprocess
        have hreceived : ∀ message, result = .ok message → s.Receives c message := by
          intro message hmessage
          rcases Channel.recv_cases hrecv with ⟨_, _, herror, _⟩ | ⟨m, hm, _, hqueued, _⟩
          . simp [hmessage] at herror
          . rw [hmessage, Except.ok.injEq] at hm
            exact ⟨channel, hchannel, hm ▸ List.mem_of_getElem? hqueued⟩
        have hwrites := WebSocketConnection.writes_of_processMessage hreceived hprocess
        exact ⟨hwrites.userId, hwrites.channel.trans hrx, hwrites.wsTx, hwrites.unconfirmed⟩

/-- A connection that is not new writes what it has received or has written before. -/
theorem wrote_of_step (hstep : step config codec s label = some s')
    (hi : s'.tasks[i]? = some task')
    : (∃ task, s.tasks[i]? = some task ∧ s.Wrote task.connection task'.connection)
        ∨
      (s.tasks.length ≤ i ∧ ∃ userId rx instant, task'.connection = .new config userId rx instant) := by
  cases label with
  | handleClient userId now instant messageId =>
    cases effect_of_step hstep with
    | task label i c c' state state' message task? task looping subscribed userId messagesRx tasks
        service =>
      simp [ServerLabel.task?] at task?
    | handleClient userId now instant messageId rx service tasks =>
      rw [tasks] at hi
      rcases getElem?_append_singleton_cases hi with hold | ⟨hnew, rfl⟩
      . exact .inl ⟨task', hold, .refl⟩
      . exact .inr ⟨hnew.ge, userId, rx, instant, rfl⟩
  | closeConnections userId =>
    rw [← Option.some.inj hstep] at hi
    exact .inl ⟨task', hi, .refl⟩
  | send userIds notification now messageId =>
    simp only [step, Option.ite_none_right_eq_some, Option.some.injEq] at hstep
    rw [← hstep.2] at hi
    exact .inl ⟨task', hi, .refl⟩
  | storeNetworkStatus status =>
    rw [← Option.some.inj hstep] at hi
    exact .inl ⟨task', hi, .refl⟩
  | broadcastNetworkStatus status now messageId =>
    simp only [step, Option.ite_none_right_eq_some, Option.some.injEq] at hstep
    rw [← hstep.2] at hi
    exact .inl ⟨task', hi, .refl⟩
  | ping j now sent =>
    simp only [step] at hstep
    split at hstep
    . simp at hstep
    . next c hj =>
      simp only [Option.ite_none_right_eq_some, Option.some.injEq] at hstep
      rw [← hstep.2] at hi
      exact .inl (wrote_of_settle (running_eq_some.mp hj) hi .refl
        (fun _ hc => WebSocketConnection.writes_of_processPing hc))
  | incomming j now message => exact .inl (wrote_of_incomming hstep hi)
  | message j now sent => exact .inl (wrote_of_message hstep hi)
  | retry j now sent =>
    simp only [step] at hstep
    split at hstep
    . simp at hstep
    . next c hj =>
      rw [Option.map_eq_some_iff] at hstep
      rcases hstep with ⟨result, hretry, rfl⟩
      exact .inl (wrote_of_settle (running_eq_some.mp hj) hi .refl
        (fun _ hc => WebSocketConnection.writes_of_processRetry (hc ▸ hretry)))
  | hand j =>
    simp only [step] at hstep
    split at hstep
    . next c messageId confirmation hj =>
      rw [← Option.some.inj hstep] at hi
      exact .inl (wrote_of_set hi hj rfl .refl)
    . simp at hstep
  | drop j =>
    simp only [step] at hstep
    split at hstep
    . next c hj =>
      rw [← Option.some.inj hstep] at hi
      exact .inl (wrote_of_set hi hj rfl .refl)
    . simp at hstep
  | cleanUp j =>
    simp only [step] at hstep
    split at hstep
    . next c hj =>
      rw [← Option.some.inj hstep] at hi
      exact .inl (wrote_of_set hi hj rfl .refl)
    . simp at hstep

theorem exists_wrote (hstep : step config codec s label = some s') (hi : s.tasks[i]? = some task)
    : ∃ task', s'.tasks[i]? = some task' ∧ s.Wrote task.connection task'.connection := by
  rcases subscribed_of_step hstep hi with ⟨task', hi', _⟩
  refine ⟨task', hi', ?_⟩
  rcases wrote_of_step hstep hi' with ⟨task₁, hi₁, hwrote⟩ | ⟨hle, _⟩
  . rw [hi, Option.some.injEq] at hi₁
    rw [hi₁]
    exact hwrote
  . have hlt := (List.getElem?_eq_some_iff.mp hi).1
    omega

theorem confirm_answers {codec : Codec} {message : WebSocketMessage}
    : (s.confirm codec i c message).answers = s.answers ++ [(message.messageId, c.userId)] := by
  unfold confirm
  split
  . rfl
  . dsimp only
    split <;> rfl

/-- An answer is about a message its connection waits for. -/
theorem answers_of_step (hstep : step config codec s label = some s')
    : s'.answers = s.answers
        ∨
      ∃ task ∈ s.tasks, ∃ queued ∈ task.connection.unconfirmedMessages,
        s'.answers = s.answers ++ [(queued.message.messageId, task.connection.userId)] := by
  cases label with
  | handleClient userId now instant messageId =>
    simp only [step, Option.ite_none_right_eq_some] at hstep
    have hclient := hstep.2
    unfold stepHandleClient at hclient
    split at hclient
    . simp at hclient
    . exact .inl (Option.some.inj hclient ▸ rfl)
  | closeConnections userId => exact .inl (Option.some.inj hstep ▸ rfl)
  | send userIds notification now messageId =>
    simp only [step, Option.ite_none_right_eq_some, Option.some.injEq] at hstep
    exact .inl (hstep.2 ▸ rfl)
  | storeNetworkStatus status => exact .inl (Option.some.inj hstep ▸ rfl)
  | broadcastNetworkStatus status now messageId =>
    simp only [step, Option.ite_none_right_eq_some, Option.some.injEq] at hstep
    exact .inl (hstep.2 ▸ rfl)
  | ping j now sent =>
    simp only [step] at hstep
    split at hstep
    . simp at hstep
    . next c hj =>
      simp only [Option.ite_none_right_eq_some, Option.some.injEq] at hstep
      rw [← hstep.2]
      exact .inl (by cases c.processPing config now sent <;> rfl)
  | incomming j now message =>
    simp only [step] at hstep
    unfold stepIncomming at hstep
    split at hstep
    . simp at hstep
    . next c hj =>
      rw [running_eq_some] at hj
      split at hstep
      . exact .inl (Option.some.inj hstep ▸ rfl)
      . exact .inl (Option.some.inj hstep ▸ rfl)
      . next c' message hprocess =>
        rcases WebSocketConnection.mem_unconfirmedMessages_of_confirmed hprocess
          with ⟨queued, hqueued, rfl⟩
        refine .inr ⟨_, List.mem_of_getElem? hj, queued, hqueued, ?_⟩
        rw [← Option.some.inj hstep, confirm_answers,
          (WebSocketConnection.processIncommingMessage_fields hprocess).1]
  | message j now sent =>
    simp only [step] at hstep
    unfold stepMessage at hstep
    split at hstep
    . simp at hstep
    . next c hj =>
      dsimp only at hstep
      split at hstep
      . simp at hstep
      . split at hstep
        . simp at hstep
        . next result rx hrecv =>
          rw [← Option.some.inj hstep]
          generalize WebSocketConnection.processMessage config now sent result _ = processed
          exact .inl (by cases processed <;> rfl)
  | retry j now sent =>
    simp only [step] at hstep
    split at hstep
    . simp at hstep
    . next c hj =>
      rw [Option.map_eq_some_iff] at hstep
      rcases hstep with ⟨result, _, rfl⟩
      exact .inl (by cases result <;> rfl)
  | hand j =>
    simp only [step] at hstep
    split at hstep
    . exact .inl (Option.some.inj hstep ▸ rfl)
    . simp at hstep
  | drop j =>
    simp only [step] at hstep
    split at hstep
    . exact .inl (Option.some.inj hstep ▸ rfl)
    . simp at hstep
  | cleanUp j =>
    simp only [step] at hstep
    split at hstep
    . exact .inl (Option.some.inj hstep ▸ rfl)
    . simp at hstep

/-- Nobody waits for, or gets, a confirmation of a message that has not been transmitted. -/
structure Transmitted (s : Server) : Prop where
  unconfirmed : ∀ task ∈ s.tasks, ∀ queued ∈ task.connection.unconfirmedMessages,
    .binary queued.message.payload ∈ task.connection.wsTx
  answered : ∀ messageId userId, (messageId, userId) ∈ s.answers →
    ∃ message ∈ s.messages, message.messageId = messageId
      ∧ ∃ task ∈ s.tasks, task.connection.userId = userId
        ∧ .binary message.payload ∈ task.connection.wsTx

theorem transmitted_init : init.Transmitted where
  unconfirmed := by simp [init]
  answered := by simp [init]

theorem Stored.messages_subset (h : s.Stored)
    (hstep : Server.step config codec s label = some s') : s.messages ⊆ s'.messages := by
  cases (h.step hstep).2 with
  | quiet messages answers handed flags pendings => exact messages ▸ List.Subset.refl _
  | create message fresh flag messages answers handed flags pendings =>
    exact messages ▸ List.subset_append_left _ _
  | ignore message userId mem callback messages answers handed flags pendings =>
    exact messages ▸ List.Subset.refl _
  | confirm message userId callback mem callback_eq messages answers handed flags pendings =>
    exact messages ▸ List.Subset.refl _
  | hand entry messages answers handed flags pendings => exact messages ▸ List.Subset.refl _

theorem Transmitted.step (h : s.Transmitted) (hstored : s.Stored)
    (hstep : Server.step config codec s label = some s') : s'.Transmitted := by
  constructor
  . intro task' htask' queued hqueued
    rcases List.mem_iff_getElem?.mp htask' with ⟨i, hi⟩
    rcases wrote_of_step hstep hi with ⟨task, htask, hwrote⟩ | ⟨_, userId, rx, instant, hnew⟩
    . rcases hwrote.unconfirmed queued hqueued with hwritten | ⟨queued', hqueued', hmessage⟩
      . exact hwritten
      . have hold := h.unconfirmed task (List.mem_of_getElem? htask) queued' hqueued'
        rcases hwrote.wsTx with ⟨new, hwsTx, _⟩
        rw [hwsTx, ← hmessage]
        exact List.mem_append_left _ hold
    . rw [hnew] at hqueued
      simp [WebSocketConnection.new] at hqueued
  . -- A connection that has been transmitted a message is still there.
    have hkeep : ∀ message ∈ s.messages, ∀ task ∈ s.tasks,
        .binary message.payload ∈ task.connection.wsTx →
          ∃ message' ∈ s'.messages, message'.messageId = message.messageId
            ∧ ∃ task' ∈ s'.tasks, task'.connection.userId = task.connection.userId
              ∧ .binary message'.payload ∈ task'.connection.wsTx := by
      intro message hmessage task htask hwritten
      rcases List.mem_iff_getElem?.mp htask with ⟨i, hi⟩
      rcases exists_wrote hstep hi with ⟨task', hi', hwrote⟩
      rcases hwrote.wsTx with ⟨new, hwsTx, _⟩
      refine ⟨message, hstored.messages_subset hstep hmessage, rfl, task', List.mem_of_getElem? hi',
        hwrote.userId, ?_⟩
      rw [hwsTx]
      exact List.mem_append_left _ hwritten
    intro messageId userId hanswer
    have hold : (messageId, userId) ∈ s.answers →
        ∃ message ∈ s'.messages, message.messageId = messageId
          ∧ ∃ task ∈ s'.tasks, task.connection.userId = userId
            ∧ .binary message.payload ∈ task.connection.wsTx := by
      intro hmem
      rcases h.answered messageId userId hmem with ⟨message, hmessage, rfl, task, htask, rfl, hwritten⟩
      exact hkeep message hmessage task htask hwritten
    rcases answers_of_step hstep with hsame | ⟨task, htask, queued, hqueued, hanswers⟩
    . exact hold (hsame ▸ hanswer)
    . rw [hanswers, List.mem_append, List.mem_singleton, Prod.mk.injEq] at hanswer
      rcases hanswer with hmem | ⟨rfl, rfl⟩
      . exact hold hmem
      . exact hkeep queued.message (hstored.unconfirmed task htask queued hqueued) task htask
          (h.unconfirmed task htask queued hqueued)

section Confined

variable {Q : Uuid → WebSocketNotificationProtobuf → Prop} {entries : List (Uuid × Bool)}
variable {userId : Uuid} {tx : ChannelId} {channel channel' : Channel}

/-- The user finds the channel, or has a connection that reads it. -/
def Owns (s : Server) (userId : Uuid) (tx : ChannelId) : Prop :=
  s.websocketsService.usersConnections.lookup userId = some tx
    ∨ ∃ task ∈ s.tasks, task.connection.userId = userId ∧ task.connection.messagesRx.channel = tx

/-- What a user gets is what may be posted to the user. -/
structure Confined (Q : Uuid → WebSocketNotificationProtobuf → Prop) (s : Server) : Prop where
  queued : ∀ tx channel userId, s.websocketsService.channels[tx]? = some channel →
    s.Owns userId tx → ∀ message ∈ channel.queued, Q userId message.payload
  written : ∀ task ∈ s.tasks, ∀ payload, .binary payload ∈ task.connection.wsTx →
    Q task.connection.userId payload

theorem confined_init : init.Confined Q where
  queued := by simp [init, WebSocketsServiceImpl.new]
  written := by simp [init]

theorem Owns.lt (h : s.Owns userId tx) (hregistered : s.Registered entries)
    : tx < s.websocketsService.channels.length := by
  rcases h with hlookup | ⟨task, htask, _, rfl⟩
  . exact s.websocketsService.lookup_lt hlookup
  . rcases List.mem_iff_getElem?.mp htask with ⟨i, hi⟩
    exact hregistered.channel_lt hi

theorem Owns.eq (h : s.Owns userId tx) (hregistered : s.Registered entries) {userId' : Uuid}
    (hlookup : s.websocketsService.usersConnections.lookup userId' = some tx) : userId = userId' := by
  rcases h with hlookup' | ⟨task, htask, rfl, rfl⟩
  . exact s.websocketsService.lookup_inj hlookup' hlookup
  . rcases List.mem_iff_getElem?.mp htask with ⟨i, hi⟩
    exact hregistered.lookup_eq_userId hi hlookup

/-- A user has owned the channel before, or it is created for the user. -/
theorem Owns.cases (h : s'.Owns userId tx) (heffect : Effect config codec s s' label)
    : s.Owns userId tx
        ∨
      s.websocketsService.channels[tx]? = none
        ∧ ∃ now instant messageId, label = .handleClient userId now instant messageId := by
  rcases h with hlookup | ⟨task', htask', rfl, rfl⟩
  . rcases heffect.lookup_cases hlookup with hold | hnew
    . exact .inl (.inl hold)
    . exact .inr hnew
  . rcases List.mem_iff_getElem?.mp htask' with ⟨i, hi'⟩
    rcases heffect.task_cases hi' with
      ⟨task, hi, hcontinues⟩ | ⟨rfl, userId, now, instant, messageId, rfl⟩
    . exact .inl (.inr ⟨task, List.mem_of_getElem? hi, hcontinues.userId.symm, hcontinues.channel.symm⟩)
    . cases heffect with
      | task label i c c' state state' message task? task looping subscribed userId messagesRx tasks
          service =>
        simp [ServerLabel.task?] at task?
      | handleClient userId now instant messageId rx service tasks =>
        rw [tasks, List.getElem?_concat_length, Option.some.injEq] at hi'
        subst hi'
        rcases WebSocketsServiceImpl.handleClient_joined service with ⟨before, hjoined⟩
        rcases hjoined.found with ⟨hlookup, _⟩ | ⟨_, hnew, _⟩
        . exact .inl (.inl hlookup)
        . refine .inr ⟨?_, now, instant, messageId, rfl⟩
          exact List.getElem?_eq_none (by rw [← hnew]; exact Nat.le_refl _)

/-- The messages that are new to a channel are posted to its user. -/
theorem Owns.grown (howns : s'.Owns userId tx) (hregistered : s.Registered entries)
    (heffect : Effect config codec s s' label)
    (hchannel' : s'.websocketsService.channels[tx]? = some channel')
    : ∀ message ∈ channel'.queued,
        (s.Owns userId tx ∧ ∃ channel, s.websocketsService.channels[tx]? = some channel
          ∧ message ∈ channel.queued)
          ∨
        message.payload ∈ label.posted codec.toCodec s.websocketsService.networkStatusOk userId := by
  intro message hmessage
  rcases howns.cases heffect with hold | ⟨hnone, now, instant, messageId, rfl⟩
  . have hchannel := List.getElem?_eq_getElem (hold.lt hregistered)
    by_cases hfound : ∃ userId', s.websocketsService.usersConnections.lookup userId' = some tx
    . rcases hfound with ⟨userId', hlookup⟩
      have huser := hold.eq hregistered hlookup
      subst huser
      rcases heffect.posted_cases hlookup hchannel
        with ⟨channel₁, messages, hchannel₁, hqueued, hposted⟩
      rw [hchannel', Option.some.injEq] at hchannel₁
      rw [hchannel₁, hqueued, List.mem_append] at hmessage
      rcases hmessage with hqueued' | hnew
      . exact .inl ⟨hold, _, hchannel, hqueued'⟩
      . rcases hposted with hposted | ⟨_, hnil⟩
        . exact .inr (hposted ▸ List.mem_map_of_mem hnew)
        . simp [hnil] at hnew
    . rw [not_exists] at hfound
      have hsevered : s.Severed tx (s.websocketsService.channels.get ⟨tx, hold.lt hregistered⟩).queued :=
        ⟨hfound, _, hchannel, rfl⟩
      rcases (hsevered.step heffect).channel with ⟨channel₁, hchannel₁, hqueued⟩
      rw [hchannel', Option.some.injEq] at hchannel₁
      rw [hchannel₁, hqueued] at hmessage
      exact .inl ⟨hold, _, hchannel, hmessage⟩
  . cases heffect with
    | task label i c c' state state' message task? task looping subscribed userId messagesRx tasks
        service =>
      simp [ServerLabel.task?] at task?
    | handleClient userId now instant messageId rx service tasks =>
      rcases WebSocketsServiceImpl.handleClient_joined service with ⟨before, hjoined⟩
      have htx : tx = rx.channel := by
        by_contra hne
        rw [hjoined.other tx hne, hnone] at hchannel'
        simp at hchannel'
      subst htx
      have hempty : before.queued = [] := by
        rcases hjoined.found with ⟨_, hfound⟩ | ⟨_, _, hempty, _⟩
        . simp [hnone] at hfound
        . exact hempty
      rw [hjoined.channel, Option.some.injEq] at hchannel'
      rw [← hchannel', hempty, List.nil_append] at hmessage
      refine .inr ?_
      cases hok : s.websocketsService.networkStatusOk with
      | true => simp [hok] at hmessage
      | false =>
        rw [hok, if_neg (by simp), List.mem_singleton] at hmessage
        simp [ServerLabel.posted, hmessage, createMessage_payload]

theorem Confined.step (h : s.Confined Q) (hregistered : s.Registered entries)
    (htransmitted : s.Transmitted) (hstep : Server.step config codec s label = some s')
    (hposted : ∀ userId,
      ∀ payload ∈ label.posted codec.toCodec s.websocketsService.networkStatusOk userId,
        Q userId payload)
    : s'.Confined Q := by
  constructor
  . intro tx channel' userId hchannel' howns message hmessage
    rcases howns.grown hregistered (effect_of_step hstep) hchannel' message hmessage
      with ⟨hold, channel, hchannel, hqueued⟩ | hnew
    . exact h.queued tx channel userId hchannel hold message hqueued
    . exact hposted userId _ hnew
  . intro task' htask' payload hpayload
    rcases List.mem_iff_getElem?.mp htask' with ⟨i, hi⟩
    rcases wrote_of_step hstep hi with ⟨task, htask, hwrote⟩ | ⟨_, userId, rx, instant, hnew⟩
    . have hmem := List.mem_of_getElem? htask
      rcases hwrote.wsTx with ⟨new, hwsTx, hmessages⟩
      rw [hwsTx, List.mem_append] at hpayload
      rw [hwrote.userId]
      rcases hpayload with hold | hpayload
      . exact h.written task hmem payload hold
      . rcases hmessages payload hpayload
          with ⟨message, rfl, ⟨channel, hchannel, hqueued⟩ | ⟨queued, hqueued, rfl⟩⟩
        . exact h.queued _ channel _ hchannel (.inr ⟨task, hmem, rfl, rfl⟩) message hqueued
        . exact h.written task hmem _ (htransmitted.unconfirmed task hmem queued hqueued)
    . rw [hnew] at hpayload
      simp [WebSocketConnection.new] at hpayload

end Confined

end Server

end TomNotifier.WsDelivery
