import TomNotifier.WsDelivery.WebSockets.Registry

/-!
This module contains which messages a connection transmits for the first time, and in which order.
-/

namespace TomNotifier.WsDelivery

section Read

variable {α : Type} {l l' : List α} {start n : Nat} {a : α}

theorem take_drop_append (hn : n ≤ l.length)
    : ((l ++ l').drop start).take (n - start) = (l.drop start).take (n - start) := by
  rw [List.drop_append, List.take_append_of_le_length]
  rw [List.length_drop]
  omega

theorem take_drop_succ (hstart : start ≤ n) (h : l[n]? = some a)
    : (l.drop start).take (n + 1 - start) = (l.drop start).take (n - start) ++ [a] := by
  have hindex : (l.drop start)[n - start]? = some a := by
    rw [List.getElem?_drop, Nat.add_sub_cancel' hstart, h]
  rw [Nat.sub_add_comm hstart, List.take_add_one, hindex, Option.toList_some]

end Read

namespace Server

def written (i : Nat) (s : Server) : List Outgoing :=
  match s.tasks[i]? with
  | none => []
  | some task => task.connection.wsTx

/-- What a task writes when it has received a message, and not as a retry or as a ping. -/
def firstTransmissions (config : WebSocketsServiceConfig) (codec : WebSocketCodec) (i : Nat)
    (s : Server) : List ServerLabel → List Outgoing
  | [] => []
  | label :: labels =>
    match step config codec s label with
    | none => []
    | some s' =>
      let new :=
        match label with
        | .message j _ _ => if j = i then (written i s').drop (written i s).length else []
        | _ => []
      new ++ firstTransmissions config codec i s' labels

def outgoing (queued : List WebSocketMessage) : List Outgoing :=
  queued.map (fun message => .binary message.payload)

/-- The connection has transmitted what it has received, or it has ended and transmits no more. -/
structure Reading (i : Nat) (rx : Receiver) (sent : List Outgoing) (s : Server) : Prop where
  task : ∃ (task : ConnectionTask) (channel : Channel), s.tasks[i]? = some task
    ∧ task.connection.messagesRx.channel = rx.channel
    ∧ s.websocketsService.channels[rx.channel]? = some channel
    ∧ sent <+: outgoing (channel.queued.drop rx.next)
    ∧ (task.state.looping → rx.next ≤ task.connection.messagesRx.next
      ∧ task.connection.messagesRx.next ≤ channel.queued.length
      ∧ sent = outgoing ((channel.queued.drop rx.next).take
        (task.connection.messagesRx.next - rx.next)))

/-- The connection is over, or its next message has been overwritten. -/
def Lagging (i : Nat) (s : Server) : Prop :=
  ∃ (task : ConnectionTask) (channel : Channel), s.tasks[i]? = some task
    ∧ s.websocketsService.channels[task.connection.messagesRx.channel]? = some channel
    ∧ (task.state.looping →
      task.connection.messagesRx.next < channel.queued.length - channel.capacity)

variable {s s' : Server} {config : WebSocketsServiceConfig} {codec : WebSocketCodec}
variable {label : ServerLabel} {labels : List ServerLabel} {i : Nat} {rx : Receiver}
variable {sent : List Outgoing} {task : ConnectionTask}

/-- The receiver of a connection that goes on has not moved. -/
structure Still (task task' : ConnectionTask) : Prop where
  channel : task'.connection.messagesRx.channel = task.connection.messagesRx.channel
  looping : task'.state.looping →
    task.state.looping ∧ task'.connection.messagesRx = task.connection.messagesRx

theorem Still.refl (task : ConnectionTask) : Still task task := by
  exact ⟨rfl, fun hlooping => ⟨hlooping, rfl⟩⟩

theorem still_of_set {j : Nat} {task₁ task₂ : ConnectionTask} (hi : s.tasks[i]? = some task)
    (hj : s.tasks[j]? = some task₁) (htasks : s'.tasks = s.tasks.set j task₂)
    (hstill : j = i → Still task₁ task₂) : ∃ task', s'.tasks[i]? = some task' ∧ Still task task' := by
  have hlt := (List.getElem?_eq_some_iff.mp hi).1
  rw [htasks, List.getElem?_set]
  by_cases hij : j = i
  . subst hij
    rw [hi, Option.some.injEq] at hj
    rw [if_pos rfl, if_pos hlt, hj]
    exact ⟨task₂, rfl, hstill rfl⟩
  . rw [if_neg hij]
    exact ⟨task, hi, .refl task⟩

-- Only the connection's own message steps move its receiver.
theorem Effect.still (h : Effect config codec s s' label)
    (hlabel : ∀ now sent, label ≠ .message i now sent) (hi : s.tasks[i]? = some task)
    : ∃ task', s'.tasks[i]? = some task' ∧ Still task task' := by
  have hlt := (List.getElem?_eq_some_iff.mp hi).1
  have hsame : s'.tasks = s.tasks → ∃ task', s'.tasks[i]? = some task' ∧ Still task task' := by
    intro heq
    exact ⟨task, heq ▸ hi, .refl task⟩
  cases h with
  | handleClient userId now instant messageId rx service tasks =>
    rw [tasks, List.getElem?_append_left hlt]
    exact ⟨task, hi, .refl task⟩
  | closeConnections userId service tasks => exact hsame tasks
  | send userIds notification now messageId service tasks => exact hsame tasks
  | storeNetworkStatus status service tasks => exact hsame tasks
  | broadcastNetworkStatus status now messageId service tasks => exact hsame tasks
  | task label j c c' state state' message task? task looping subscribed userId messagesRx tasks
      service =>
    exact still_of_set hi task tasks
      (fun _ => ⟨by rw [messagesRx], fun _ => ⟨looping, messagesRx⟩⟩)
  | stop j now sent c next task tasks service =>
    refine still_of_set hi task tasks ?_
    rintro rfl
    exact absurd rfl (hlabel now sent)
  | transmit j now sent c c' channel message task channel_eq retained message_eq userId messagesRx
      wsTx tasks service =>
    refine still_of_set hi task tasks ?_
    rintro rfl
    exact absurd rfl (hlabel now sent)
  | drop j c task tasks service =>
    exact still_of_set hi task tasks (fun _ => ⟨rfl, by simp [TaskState.looping]⟩)
  | cleanUp j c task tasks service =>
    exact still_of_set hi task tasks (fun _ => ⟨rfl, by simp [TaskState.looping]⟩)

theorem Reading.other (h : s.Reading i rx sent) (heffect : Effect config codec s s' label)
    (hlabel : ∀ now sent, label ≠ .message i now sent) : s'.Reading i rx sent := by
  rcases h.task with ⟨task, channel, hi, htx, hchannel, hprefix, hread⟩
  rcases heffect.still hlabel hi with ⟨task', hi', hstill⟩
  rcases heffect.exists_grown hchannel with ⟨channel', messages, hchannel', hqueued, _⟩
  refine ⟨task', channel', hi', hstill.channel.trans htx, hchannel', ?_, ?_⟩
  . rw [hqueued, outgoing, List.drop_append, List.map_append]
    exact hprefix.trans (List.prefix_append _ _)
  . intro hlooping
    rcases hstill.looping hlooping with ⟨hlooping', hrx⟩
    rcases hread hlooping' with ⟨hstart, hle, hsent⟩
    rw [hrx, hqueued, List.length_append, take_drop_append hle]
    exact ⟨hstart, Nat.le_add_right_of_le hle, hsent⟩

theorem getElem?_of_set {task' : ConnectionTask} (hi : s.tasks[i]? = some task)
    (htasks : s'.tasks = s.tasks.set i task') : s'.tasks[i]? = some task' := by
  rw [htasks, List.getElem?_set_self (List.getElem?_eq_some_iff.mp hi).1]

theorem written_eq (hi : s.tasks[i]? = some task) : written i s = task.connection.wsTx := by
  rw [written, hi]

theorem Reading.message (h : s.Reading i rx sent) {now : Instant} {result : Except String Unit}
    (heffect : Effect config codec s s' (.message i now result))
    : s'.Reading i rx (sent ++ (written i s').drop (written i s).length) := by
  rcases h.task with ⟨task, channel, hi, htx, hchannel, hprefix, hread⟩
  cases heffect with
  | task label j c c' state state' message task? task looping subscribed userId messagesRx tasks
      service =>
    simp only [ServerLabel.task?, Option.some.injEq] at task?
    exact absurd rfl (task? ▸ message now result)
  | stop i now result c next htask htasks service =>
    have hi' := getElem?_of_set htask htasks
    rw [htask, Option.some.injEq] at hi
    subst hi
    rw [written_eq htask, written_eq hi', List.drop_length, List.append_nil]
    exact ⟨_, channel, hi', htx, service ▸ hchannel, hprefix, by simp [TaskState.looping]⟩
  | transmit i now result c c' channel' message htask hchannel' retained message_eq userId messagesRx
      wsTx htasks service =>
    have hi' := getElem?_of_set htask htasks
    rw [htask, Option.some.injEq] at hi
    subst hi
    dsimp only at htx
    rw [htx, hchannel, Option.some.injEq] at hchannel'
    subst hchannel'
    rcases hread rfl with ⟨hstart, _, hsent⟩
    dsimp only at hstart hsent
    have hlt := (List.getElem?_eq_some_iff.mp message_eq).1
    have hnext : c'.messagesRx.next = c.messagesRx.next + 1 := by rw [messagesRx]
    have hsent' : sent ++ [.binary message.payload]
        = outgoing ((channel.queued.drop rx.next).take (c'.messagesRx.next - rx.next)) := by
      rw [hsent, hnext, take_drop_succ hstart message_eq, outgoing, outgoing, List.map_append,
        List.map_singleton]
    rw [written_eq htask, written_eq hi', wsTx, List.drop_left, hsent']
    refine ⟨_, channel, hi', by rw [messagesRx]; exact htx, service ▸ hchannel, ?_, ?_⟩
    . exact (List.take_prefix _ _).map _
    . intro _
      dsimp only
      rw [hnext]
      exact ⟨Nat.le_succ_of_le hstart, hlt, rfl⟩

theorem Reading.run (h : s.Reading i rx sent)
    (hrun : System.run (Server.step config codec) s labels = some s')
    : s'.Reading i rx (sent ++ firstTransmissions config codec i s labels) := by
  induction labels generalizing s sent with
  | nil =>
    rw [System.run_nil, Option.some.injEq] at hrun
    rw [← hrun, firstTransmissions, List.append_nil]
    exact h
  | cons label labels ih =>
    rw [System.run_cons_eq_some] at hrun
    rcases hrun with ⟨t, hstep, hrun⟩
    have heffect := effect_of_step hstep
    rw [firstTransmissions, hstep]
    dsimp only
    rw [← List.append_assoc]
    apply ih _ hrun
    split
    . next j now result =>
      split
      . next hij =>
        subst hij
        exact h.message heffect
      . next hij =>
        rw [List.append_nil]
        exact h.other heffect (by simp [hij])
    . next hlabel =>
      rw [List.append_nil]
      exact h.other heffect (fun now sent heq => hlabel i now sent heq)

theorem Lagging.other (h : s.Lagging i) (heffect : Effect config codec s s' label)
    (hlabel : ∀ now sent, label ≠ .message i now sent) : s'.Lagging i := by
  rcases h with ⟨task, channel, hi, hchannel, hlagging⟩
  rcases heffect.still hlabel hi with ⟨task', hi', hstill⟩
  rcases heffect.exists_grown hchannel with ⟨channel', messages, hchannel', hqueued, hcapacity⟩
  refine ⟨task', channel', hi', hstill.channel ▸ hchannel', ?_⟩
  intro hlooping
  rcases hstill.looping hlooping with ⟨hlooping', hrx⟩
  have := hlagging hlooping'
  rw [hrx, hqueued, hcapacity, List.length_append]
  omega

-- The message that comes next is not retained, so receiving fails.
theorem Lagging.message (h : s.Lagging i) {now : Instant} {result : Except String Unit}
    (heffect : Effect config codec s s' (.message i now result))
    : s'.Lagging i ∧ written i s' = written i s := by
  rcases h with ⟨task, channel, hi, hchannel, hlagging⟩
  cases heffect with
  | task label j c c' state state' message task? task looping subscribed userId messagesRx tasks
      service =>
    simp only [ServerLabel.task?, Option.some.injEq] at task?
    exact absurd rfl (task? ▸ message now result)
  | stop i now result c next htask htasks service =>
    have hi' := getElem?_of_set htask htasks
    rw [htask, Option.some.injEq] at hi
    subst hi
    rw [written_eq htask, written_eq hi']
    exact ⟨⟨_, channel, hi', service ▸ hchannel, by simp [TaskState.looping]⟩, rfl⟩
  | transmit i now result c c' channel' message htask hchannel' retained message_eq userId messagesRx
      wsTx htasks service =>
    rw [htask, Option.some.injEq] at hi
    subst hi
    rw [hchannel, Option.some.injEq] at hchannel'
    subst hchannel'
    have := hlagging rfl
    dsimp only at this
    omega

theorem firstTransmissions_of_lagging (h : s.Lagging i)
    : firstTransmissions config codec i s labels = [] := by
  induction labels generalizing s with
  | nil => rfl
  | cons label labels ih =>
    rw [firstTransmissions]
    split
    . rfl
    . next s' hstep =>
      have heffect := effect_of_step hstep
      dsimp only
      split
      . next j now result =>
        split
        . next hij =>
          subst hij
          rcases h.message heffect with ⟨h', hwritten⟩
          rw [hwritten, List.drop_length, ih h', List.nil_append]
        . next hij =>
          rw [ih (h.other heffect (by simp [hij])), List.nil_append]
      . next hlabel =>
        rw [ih (h.other heffect (fun now sent heq => hlabel i now sent heq)), List.nil_append]

theorem reading_of_handleClient {userId : Uuid} {now : OffsetDateTime} {instant : Instant}
    {messageId : Uuid}
    (heffect : Effect config codec s s' (.handleClient userId now instant messageId))
    : ∃ rx : Receiver, (s'.tasks[s.tasks.length]?).map (·.connection.messagesRx) = some rx
        ∧ rx.next = ((s.websocketsService.channels[rx.channel]?).map (·.queued.length)).getD 0
        ∧ s'.Reading s.tasks.length rx [] := by
  cases heffect with
  | task label i c c' state state' message task? task looping subscribed userId messagesRx tasks
      service =>
    simp [ServerLabel.task?] at task?
  | handleClient userId now instant messageId rx service tasks =>
    rcases WebSocketsServiceImpl.handleClient_joined service with ⟨before, hjoined⟩
    have hi : s'.tasks[s.tasks.length]? = some ⟨.new config userId rx instant, .running⟩ := by
      rw [tasks, List.getElem?_concat_length]
    refine ⟨rx, by rw [hi]; rfl, ?_, _, _, hi, rfl, hjoined.channel, List.nil_prefix, ?_⟩
    . rw [hjoined.start]
      rcases hjoined.found with ⟨_, hfound⟩ | ⟨_, hnew, hempty, _⟩
      . rw [hfound]
        rfl
      . rw [hnew, List.getElem?_eq_none (Nat.le_refl _), hempty]
        rfl
    . intro _
      simp only [WebSocketConnection.new, List.length_append, hjoined.start, Nat.sub_self,
        List.take_zero]
      exact ⟨Nat.le_refl _, Nat.le_add_right _ _, rfl⟩

/--
What a connection transmits for the first time is what has been queued since it subscribed, without
gaps up to where it has got, and nothing more once a message it has not read is overwritten.
-/
theorem no_gaps (config : WebSocketsServiceConfig) (codec : WebSocketCodec)
    (s₀ s₁ s : Server) (after : List ServerLabel) (userId : Uuid) (now : OffsetDateTime)
    (instant : Instant) (messageId : Uuid)
    (hclient : step config codec s₀ (.handleClient userId now instant messageId) = some s₁)
    (hafter : System.run (step config codec) s₁ after = some s)
    : ∃ (rx : Receiver) (channel : Channel),
        (s₁.tasks[s₀.tasks.length]?).map (·.connection.messagesRx) = some rx
          ∧ rx.next = ((s₀.websocketsService.channels[rx.channel]?).map (·.queued.length)).getD 0
          ∧ s.websocketsService.channels[rx.channel]? = some channel
          ∧ firstTransmissions config codec s₀.tasks.length s₁ after
            <+: outgoing (channel.queued.drop rx.next)
          ∧ ∀ after₁ after₂ t task channel, after = after₁ ++ after₂ →
            System.run (step config codec) s₁ after₁ = some t →
            t.tasks[s₀.tasks.length]? = some task →
            t.websocketsService.channels[task.connection.messagesRx.channel]? = some channel →
            task.connection.messagesRx.next < channel.queued.length - channel.capacity →
              firstTransmissions config codec s₀.tasks.length t after₂ = [] := by
  rcases reading_of_handleClient (effect_of_step hclient) with ⟨rx, hrx, hstart, hreading⟩
  rcases (hreading.run hafter).task with ⟨_, channel, _, _, hchannel, hprefix, _⟩
  refine ⟨rx, channel, hrx, hstart, hchannel, hprefix, ?_⟩
  intro after₁ after₂ t task channel' _ _ hi hchannel' hoverwritten
  exact firstTransmissions_of_lagging ⟨task, channel', hi, hchannel', fun _ => hoverwritten⟩

-- The ring holds one message, and two more come before the connection reads again.
def tinyConfig : WebSocketsServiceConfig := { sampleConfig with connectionBufferSize := 1 }

def sampleOverrun : List ServerLabel :=
  [.send [⟨1⟩] sampleNotification 1 ⟨100⟩, .message 0 1 (.ok ()),
    .send [⟨1⟩] sampleNotification 2 ⟨102⟩, .send [⟨1⟩] sampleNotification 3 ⟨103⟩,
    .message 0 3 (.ok ())]

def sampleSubscribed : Server :=
  (step tinyConfig sampleCodec init (.handleClient ⟨1⟩ 0 0 ⟨101⟩)).getD init

def sampleOverrunServer : Server :=
  (System.run (step tinyConfig sampleCodec) sampleSubscribed sampleOverrun).getD init

theorem no_gaps_overrun
    : ∃ (rx : Receiver) (channel : Channel),
        sampleOverrunServer.websocketsService.channels[rx.channel]? = some channel
          ∧ firstTransmissions tinyConfig sampleCodec 0 sampleSubscribed sampleOverrun
            <+: outgoing (channel.queued.drop rx.next)
          ∧ (firstTransmissions tinyConfig sampleCodec 0 sampleSubscribed sampleOverrun).length = 1 := by
  rcases no_gaps tinyConfig sampleCodec init sampleSubscribed sampleOverrunServer sampleOverrun ⟨1⟩ 0 0
    ⟨101⟩ rfl rfl with ⟨rx, channel, _, _, hchannel, hprefix, _⟩
  exact ⟨rx, channel, hchannel, hprefix, rfl⟩

end Server

end TomNotifier.WsDelivery
