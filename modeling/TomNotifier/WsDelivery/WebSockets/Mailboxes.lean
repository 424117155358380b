import TomNotifier.System.Mailbox
import TomNotifier.WsDelivery.WebSockets.Gaps
import TomNotifier.WsDelivery.WebSockets.NetworkStatus

/-!
This module contains what the websockets service is for: every connection has a mailbox of its own.
The channels the connections of a user share, and the map that finds them, refine these mailboxes.
-/

namespace TomNotifier.WsDelivery

/-- What `create_message` puts into the payload, whatever the state of the service. -/
def websocketNotification (codec : Codec) (now : OffsetDateTime) (messageId : Uuid)
    (networkStatus : NetworkStatusProtobuf) (notification : Option NotificationProtobuf)
    : WebSocketNotificationProtobuf :=
  (WebSocketsServiceImpl.new.createMessage codec now messageId networkStatus notification).1.payload

theorem createMessage_payload {codec : Codec} {now : OffsetDateTime} {messageId : Uuid}
    {status : NetworkStatusProtobuf} {notification : Option NotificationProtobuf}
    {s : WebSocketsServiceImpl}
    : (s.createMessage codec now messageId status notification).1.payload
        =
      websocketNotification codec now messageId status notification := by
  rfl

namespace ServerLabel

/-- Every connection that is accepted gets a mailbox. -/
def change : ServerLabel → Mailbox.Change Uuid
  | .handleClient userId _ _ _ => .rent userId
  | .closeConnections userId => .shutAll userId
  | .drop i => .shut i
  | _ => .keep

def drops (i : Nat) : ServerLabel → Bool
  | .drop j => decide (j = i)
  | _ => false

def closes (userId : Uuid) : ServerLabel → Bool
  | .closeConnections userId' => decide (userId = userId')
  | _ => false

theorem shuts_change {i : Nat} {userId : Uuid} {label : ServerLabel}
    : label.change.shuts i userId = (label.closes userId || label.drops i) := by
  cases label <;> simp [change, closes, drops, Mailbox.Change.shuts]

/-- What a step posts to each open mailbox of a user. -/
def posted (codec : Codec) (networkStatusOk : Bool) (label : ServerLabel) (userId : Uuid)
    : List WebSocketNotificationProtobuf :=
  match label with
  | .handleClient userId' now _ messageId =>
    if userId = userId' ∧ networkStatusOk = false then
      [websocketNotification codec now messageId .error none]
    else
      []
  | .send userIds notification now messageId =>
    List.replicate (WebSocketsServiceImpl.copies userIds userId)
      (websocketNotification codec now messageId .ok (some notification))
  | .broadcastNetworkStatus status now messageId =>
    [websocketNotification codec now messageId status none]
  | _ => []

end ServerLabel

/-- The websockets service without its channels. -/
structure PostOffice where
  networkStatusOk : Bool
  boxes : List (Mailbox Uuid WebSocketNotificationProtobuf)

namespace PostOffice

def init : PostOffice where
  networkStatusOk := true
  boxes := []

def step (codec : Codec) (p : PostOffice) (label : ServerLabel) : PostOffice where
  networkStatusOk :=
    match label with
    | .storeNetworkStatus status => decide (status = .ok)
    | _ => p.networkStatusOk
  boxes := Mailbox.turn p.boxes label.change (label.posted codec p.networkStatusOk)

def run (codec : Codec) (labels : List ServerLabel) : PostOffice :=
  labels.foldl (step codec) init

end PostOffice

namespace Server

variable {s s' : Server} {config : WebSocketsServiceConfig} {codec : WebSocketCodec}
variable {label : ServerLabel} {labels : List ServerLabel} {i : Nat} {rx : Receiver}
variable {sent : List Outgoing} {task task' : ConnectionTask} {entries : List (Uuid × Bool)}
variable {channel : Channel} {userId : Uuid} {tx : ChannelId}

theorem outgoing_append {queued queued' : List WebSocketMessage}
    : outgoing (queued ++ queued') = outgoing queued ++ outgoing queued' := by
  exact List.map_append

/-- The channel of a user gets what is posted to the user, unless nobody reads it. -/
theorem Effect.posted_cases (h : Effect config codec s s' label)
    (hlookup : s.websocketsService.usersConnections.lookup userId = some tx)
    (hchannel : s.websocketsService.channels[tx]? = some channel)
    : ∃ channel' messages, s'.websocketsService.channels[tx]? = some channel'
        ∧ channel'.queued = channel.queued ++ messages
        ∧ (messages.map (·.payload)
              = label.posted codec.toCodec s.websocketsService.networkStatusOk userId
            ∨ channel.receivers = 0 ∧ messages = []) := by
  have hsame : s'.websocketsService.channels = s.websocketsService.channels →
      (∀ ok, label.posted codec.toCodec ok userId = []) →
        ∃ channel' messages, s'.websocketsService.channels[tx]? = some channel'
          ∧ channel'.queued = channel.queued ++ messages
          ∧ (messages.map (·.payload)
                = label.posted codec.toCodec s.websocketsService.networkStatusOk userId
              ∨ channel.receivers = 0 ∧ messages = []) := by
    intro heq hposted
    rw [heq, hposted]
    exact ⟨channel, [], hchannel, (List.append_nil _).symm, .inl rfl⟩
  have hsent : ∀ {message : WebSocketMessage} {n : Nat},
      s'.websocketsService.channels[tx]? = some (channel.sendMany message n) →
      List.replicate n message.payload
        = label.posted codec.toCodec s.websocketsService.networkStatusOk userId →
        ∃ channel' messages, s'.websocketsService.channels[tx]? = some channel'
          ∧ channel'.queued = channel.queued ++ messages
          ∧ (messages.map (·.payload)
                = label.posted codec.toCodec s.websocketsService.networkStatusOk userId
              ∨ channel.receivers = 0 ∧ messages = []) := by
    intro message n hchannel' hposted
    by_cases hempty : channel.receivers = 0
    . refine ⟨_, [], hchannel', ?_, .inr ⟨hempty, rfl⟩⟩
      simp [Channel.sendMany, hempty]
    . refine ⟨_, _, hchannel', Channel.sendMany_queued (Nat.pos_of_ne_zero hempty), .inl ?_⟩
      rw [List.map_replicate, hposted]
  cases h with
  | handleClient userId' now instant messageId rx service tasks =>
    rcases WebSocketsServiceImpl.handleClient_joined service with ⟨before, hjoined⟩
    by_cases huser : userId = userId'
    . subst huser
      have hfound : rx.channel = tx ∧ before = channel := by
        rcases hjoined.found with ⟨hfound, hbefore⟩ | ⟨hnone, _⟩
        . rw [hlookup, Option.some.injEq] at hfound
          rw [← hfound, hchannel, Option.some.injEq] at hbefore
          exact ⟨hfound.symm, hbefore.symm⟩
        . simp [hlookup] at hnone
      rcases hfound with ⟨rfl, rfl⟩
      refine ⟨_, _, hjoined.channel, rfl, .inl ?_⟩
      cases hok : s.websocketsService.networkStatusOk with
      | true => simp [ServerLabel.posted]
      | false => simp [ServerLabel.posted, createMessage_payload]
    . have htx : tx ≠ rx.channel := by
        rintro rfl
        have hlookup' := hjoined.lookup_other userId huser
        rw [hlookup] at hlookup'
        exact huser (s'.websocketsService.lookup_inj hlookup' hjoined.lookup)
      refine ⟨channel, [], by rw [hjoined.other tx htx, hchannel], (List.append_nil _).symm, .inl ?_⟩
      simp [ServerLabel.posted, huser]
  | closeConnections userId' service tasks => exact hsame (service ▸ rfl) (fun _ => rfl)
  | send userIds notification now messageId service tasks =>
    apply hsent
    . rw [service, WebSocketsServiceImpl.send_channels hlookup, hchannel, Option.map_some]
    . rfl
  | storeNetworkStatus status service tasks => exact hsame (service ▸ rfl) (fun _ => rfl)
  | broadcastNetworkStatus status now messageId service tasks =>
    apply hsent
    . rw [service, WebSocketsServiceImpl.broadcastNetworkStatus_sent.getElem?,
        WebSocketsServiceImpl.count_broadcast hlookup, hchannel, Option.map_some]
    . rfl
  | task label i c c' state state' message task? task looping subscribed userId messagesRx tasks
      service =>
    apply hsame service.channels
    intro ok
    cases label <;> first | rfl | simp [ServerLabel.task?] at task?
  | stop i now sent c next task tasks service => exact hsame (service ▸ rfl) (fun _ => rfl)
  | transmit i now sent c c' channel message task channel_eq retained message_eq userId messagesRx
      wsTx tasks service =>
    exact hsame (service ▸ rfl) (fun _ => rfl)
  | drop i c task tasks service =>
    refine ⟨if c.messagesRx.channel = tx then channel.unsubscribe else channel, [], ?_, ?_, .inl rfl⟩
    . simp only [service, WebSocketsServiceImpl.dropReceiver, WebSocketsServiceImpl.setChannels,
        List.getElem?_modify, hchannel, Option.map_eq_map, Option.map_some]
    . split <;> exact (List.append_nil _).symm
  | cleanUp i c task tasks service =>
    exact hsame (service ▸ (WebSocketsServiceImpl.cleanUp_fields _ _).2) (fun _ => rfl)

theorem outgoing_eq {messages : List WebSocketMessage} {letters : List WebSocketNotificationProtobuf}
    (h : messages.map (·.payload) = letters) : outgoing messages = letters.map .binary := by
  rw [← h, List.map_map]
  rfl

/-- What the step of a connection that receives a message transmits. -/
def transmitted (i : Nat) (s s' : Server) : ServerLabel → List Outgoing
  | .message j _ _ => if j = i then (written i s').drop (written i s).length else []
  | _ => []

theorem firstTransmissions_append_singleton {t t' : Server}
    (hrun : System.run (Server.step config codec) s labels = some t)
    (hstep : step config codec t label = some t')
    : firstTransmissions config codec i s (labels ++ [label])
        =
      firstTransmissions config codec i s labels ++ transmitted i t t' label := by
  induction labels generalizing s with
  | nil =>
    rw [System.run_nil, Option.some.injEq] at hrun
    subst hrun
    rw [List.nil_append, firstTransmissions.eq_2, hstep]
    dsimp only
    rw [firstTransmissions, List.append_nil, firstTransmissions, List.nil_append]
    cases label <;> rfl
  | cons label' labels ih =>
    rw [System.run_cons_eq_some] at hrun
    rcases hrun with ⟨s', hstep', hrun⟩
    rw [List.cons_append, firstTransmissions, firstTransmissions, hstep']
    dsimp only
    rw [ih hrun, List.append_assoc]

theorem transmitted_of_ne (h : ∀ now result, label ≠ .message i now result)
    : transmitted i s s' label = [] := by
  cases label with
  | message j now result =>
    have hne : j ≠ i := by
      rintro rfl
      exact h now result rfl
    exact if_neg hne
  | _ => rfl

theorem Reading.step (h : s.Reading i rx sent) (heffect : Effect config codec s s' label)
    : s'.Reading i rx (sent ++ transmitted i s s' label) := by
  by_cases hlabel : ∃ now result, label = .message i now result
  . rcases hlabel with ⟨now, result, rfl⟩
    rw [transmitted, if_pos rfl]
    exact h.message heffect
  . push Not at hlabel
    rw [transmitted_of_ne hlabel, List.append_nil]
    exact h.other heffect hlabel

theorem transmitted_of_not_running (h : Effect config codec s s' label)
    (hi : ∀ c, s.tasks[i]? ≠ some ⟨c, .running⟩) : transmitted i s s' label = [] := by
  apply transmitted_of_ne
  rintro now result rfl
  cases h with
  | task label j c c' state state' message task? task looping subscribed userId messagesRx tasks
      service =>
    simp only [ServerLabel.task?, Option.some.injEq] at task?
    exact absurd rfl (task? ▸ message now result)
  | stop j now sent c next task tasks service => exact hi c task
  | transmit j now sent c c' channel message task channel_eq retained message_eq userId messagesRx
      wsTx tasks service =>
    exact hi c task

theorem subscribed_of_set {j : Nat} {task₁ task₂ : ConnectionTask} (hi : s.tasks[i]? = some task)
    (hj : s.tasks[j]? = some task₁) (htasks : s'.tasks = s.tasks.set j task₂)
    (huser : task₂.connection.userId = task₁.connection.userId)
    (hsubscribed : j = i → task₂.state.subscribed = (task₁.state.subscribed && !label.drops i))
    (hother : j ≠ i → label.drops i = false)
    : ∃ task', s'.tasks[i]? = some task' ∧ task'.connection.userId = task.connection.userId
        ∧ task'.state.subscribed = (task.state.subscribed && !label.drops i) := by
  have hlt := (List.getElem?_eq_some_iff.mp hi).1
  rw [htasks, List.getElem?_set]
  by_cases hij : j = i
  . subst hij
    rw [hi, Option.some.injEq] at hj
    rw [if_pos rfl, if_pos hlt, hj]
    exact ⟨task₂, rfl, huser, hsubscribed rfl⟩
  . rw [if_neg hij]
    exact ⟨task, hi, rfl, by simp [hother hij]⟩

-- A connection lets go of its receiver in one step only.
theorem subscribed_of_step (hstep : step config codec s label = some s')
    (hi : s.tasks[i]? = some task)
    : ∃ task', s'.tasks[i]? = some task' ∧ task'.connection.userId = task.connection.userId
        ∧ task'.state.subscribed = (task.state.subscribed && !label.drops i) := by
  have hlt := (List.getElem?_eq_some_iff.mp hi).1
  have hsame : s'.tasks = s.tasks → label.drops i = false →
      ∃ task', s'.tasks[i]? = some task' ∧ task'.connection.userId = task.connection.userId
        ∧ task'.state.subscribed = (task.state.subscribed && !label.drops i) := by
    intro htasks hdrops
    exact ⟨task, htasks ▸ hi, rfl, by simp [hdrops]⟩
  cases effect_of_step hstep with
  | handleClient userId now instant messageId rx service tasks =>
    rw [tasks, List.getElem?_append_left hlt]
    exact ⟨task, hi, rfl, by simp [ServerLabel.drops]⟩
  | closeConnections userId service tasks => exact hsame tasks rfl
  | send userIds notification now messageId service tasks => exact hsame tasks rfl
  | storeNetworkStatus status service tasks => exact hsame tasks rfl
  | broadcastNetworkStatus status now messageId service tasks => exact hsame tasks rfl
  | task label j c c' state state' message task? hj looping subscribed userId messagesRx tasks
      service =>
    have hdrops : label.drops i = false := by
      cases label with
      | drop k =>
        simp only [ServerLabel.task?, Option.some.injEq] at task?
        subst task?
        simp only [step, hj] at hstep
        cases state <;> simp [TaskState.looping] at looping hstep
      | _ => rfl
    refine subscribed_of_set hi hj tasks userId ?_ (fun _ => hdrops)
    intro _
    simp [hdrops, subscribed, TaskState.subscribed_of_looping looping]
  | stop j now sent c next task tasks service =>
    exact subscribed_of_set hi task tasks rfl (fun _ => rfl) (fun _ => rfl)
  | transmit j now sent c c' channel message task channel_eq retained message_eq userId messagesRx
      wsTx tasks service =>
    exact subscribed_of_set hi task tasks userId (fun _ => rfl) (fun _ => rfl)
  | drop j c task tasks service =>
    apply subscribed_of_set hi task tasks rfl
    . rintro rfl
      simp [ServerLabel.drops, TaskState.subscribed]
    . intro hne
      simp [ServerLabel.drops, hne]
  | cleanUp j c task tasks service =>
    exact subscribed_of_set hi task tasks rfl (fun _ => rfl) (fun _ => rfl)

theorem getElem?_register {opened : Bool} (h : entries[i]? = some (userId, opened))
    : (register entries label)[i]? = some (userId, opened && !label.closes userId) := by
  have hlt := (List.getElem?_eq_some_iff.mp h).1
  cases label with
  | handleClient => simp [register, ServerLabel.closes, List.getElem?_append_left hlt, h]
  | closeConnections userId' => simp [register, ServerLabel.closes, h]
  | _ => simp [register, ServerLabel.closes, h]

theorem Registered.unregistered (h : s.Registered entries) (hi : s.tasks[i]? = some task)
    (hentry : entries[i]? = some (task.connection.userId, false)) (userId : Uuid)
    : s.websocketsService.usersConnections.lookup userId
        ≠ some task.connection.messagesRx.channel := by
  intro hlookup
  have hm : (s.registry entries).members[i]? = some (member task (task.connection.userId, false)) := by
    rw [registry, List.getElem?_zipWith, hi, hentry]
  have hopened := h.consistent.current _ (List.mem_of_getElem? hm)
    (by rw [← h.lookup_eq_userId hi hlookup] at hlookup; exact hlookup)
  simp [member] at hopened

theorem posted_of_closes {codec : Codec} {ok : Bool} (h : label.closes userId = true)
    : label.posted codec ok userId = [] := by
  cases label <;> first | rfl | simp [ServerLabel.closes] at h

/-- The channel of a connection gets what the connection's mailbox gets. -/
theorem outgoing_grown {opened : Bool} (h : s.Registered entries) (hi : s.tasks[i]? = some task)
    (hentry : entries[i]? = some (task.connection.userId, opened)) (hsubscribed : task.state.subscribed)
    (hchannel : s.websocketsService.channels[task.connection.messagesRx.channel]? = some channel)
    (heffect : Effect config codec s s' label)
    : ∃ channel' messages,
        s'.websocketsService.channels[task.connection.messagesRx.channel]? = some channel'
          ∧ channel'.queued = channel.queued ++ messages
          ∧ outgoing messages
            = (if opened && !label.closes task.connection.userId then
                label.posted codec.toCodec s.websocketsService.networkStatusOk task.connection.userId
              else
                []).map .binary := by
  cases opened with
  | true =>
    have hlookup := h.lookup_of_opened hi hentry hsubscribed
    have hpos := h.receivers_pos hi hsubscribed hchannel
    rcases heffect.posted_cases hlookup hchannel
      with ⟨channel', messages, hchannel', hqueued, hposted | ⟨hempty, _⟩⟩
    swap
    . omega
    refine ⟨channel', messages, hchannel', hqueued, ?_⟩
    rw [outgoing_eq hposted]
    cases hcloses : label.closes task.connection.userId with
    | true => simp [posted_of_closes hcloses]
    | false => simp
  | false =>
    have hsevered : s.Severed task.connection.messagesRx.channel channel.queued :=
      ⟨h.unregistered hi hentry, channel, hchannel, rfl⟩
    rcases (hsevered.step heffect).channel with ⟨channel', hchannel', hqueued⟩
    exact ⟨channel', [], hchannel', by rw [hqueued, List.append_nil], by simp [outgoing]⟩

/--
The connection has transmitted a part of the letters in its mailbox, and the rest is in its channel.
-/
structure Served (entries : List (Uuid × Bool)) (i : Nat) (rx : Receiver) (sent : List Outgoing)
    (box : Mailbox Uuid WebSocketNotificationProtobuf) (s : Server) : Prop where
  reading : s.Reading i rx sent
  kept : ∃ (task : ConnectionTask) (channel : Channel) (opened : Bool), s.tasks[i]? = some task
    ∧ s.websocketsService.channels[rx.channel]? = some channel
    ∧ rx.next ≤ channel.queued.length
    ∧ entries[i]? = some (box.key, opened)
    ∧ box.key = task.connection.userId
    ∧ box.isOpen = (opened && task.state.subscribed)
    ∧ (task.state.subscribed →
      box.letters.map .binary = outgoing (channel.queued.drop rx.next))
  sent : sent <+: box.letters.map .binary

variable {box : Mailbox Uuid WebSocketNotificationProtobuf}

theorem Served.step (h : s.Served entries i rx sent box) (hregistered : s.Registered entries)
    (hstep : step config codec s label = some s')
    : s'.Served (register entries label) i rx (sent ++ transmitted i s s' label) {
        key := box.key
        isOpen := box.isOpen && !label.change.shuts i box.key
        letters := box.letters ++ if box.isOpen && !label.change.shuts i box.key then
          label.posted codec.toCodec s.websocketsService.networkStatusOk box.key else []
      } := by
  have heffect := effect_of_step hstep
  rcases h.kept with ⟨task, channel, opened, hi, hchannel, hle, hentry, hkey, hopen, hletters⟩
  rcases subscribed_of_step hstep hi with ⟨task', hi', huser, hsubscribed⟩
  rcases heffect.exists_grown hchannel with ⟨channel', messages, hchannel', hqueued, _⟩
  have hreading := h.reading.step heffect
  have hletters' : task'.state.subscribed →
      (box.letters ++ if box.isOpen && !label.change.shuts i box.key then
        label.posted codec.toCodec s.websocketsService.networkStatusOk box.key else []).map .binary
        = outgoing (channel'.queued.drop rx.next) := by
    intro hsubscribed'
    simp only [hsubscribed, Bool.and_eq_true, Bool.not_eq_true'] at hsubscribed'
    rcases h.reading.task with ⟨task₁, _, hi₁, htx, _⟩
    rw [hi, Option.some.injEq] at hi₁
    subst hi₁
    rw [← htx] at hchannel hchannel'
    rw [hkey] at hentry
    rcases outgoing_grown hregistered hi hentry hsubscribed'.1 hchannel heffect
      with ⟨channel₁, messages₁, hchannel₁, hqueued₁, houtgoing⟩
    rw [hchannel', Option.some.injEq] at hchannel₁
    subst hchannel₁
    rw [hqueued₁, List.drop_append_of_le_length hle, outgoing_append, houtgoing, List.map_append,
      hletters hsubscribed'.1, hopen, hsubscribed'.1, ServerLabel.shuts_change, hsubscribed'.2, hkey]
    simp
  refine ⟨hreading, ⟨task', channel', opened && !label.closes box.key, hi', hchannel', ?_,
    getElem?_register hentry, ?_, ?_, hletters'⟩, ?_⟩
  . rw [hqueued, List.length_append]
    exact Nat.le_add_right_of_le hle
  . rw [huser]
    exact hkey
  . dsimp only
    rw [hopen, hsubscribed, ServerLabel.shuts_change]
    cases opened <;> cases task.state.subscribed <;> simp
  . cases hsubscribed' : task'.state.subscribed with
    | true =>
      rcases hreading.task with ⟨task₁, channel₁, hi₁, _, hchannel₁, hprefix, _⟩
      rw [hchannel', Option.some.injEq] at hchannel₁
      subst hchannel₁
      rw [hletters' hsubscribed']
      exact hprefix
    | false =>
      have hnil : transmitted i s s' label = [] := by
        rw [hsubscribed, Bool.and_eq_false_iff] at hsubscribed'
        rcases hsubscribed' with hended | hdrops
        . apply transmitted_of_not_running heffect
          intro c hc
          rw [hi, Option.some.injEq] at hc
          simp [hc, TaskState.subscribed] at hended
        . apply transmitted_of_ne
          rintro now result rfl
          simp [ServerLabel.drops] at hdrops
      rw [hnil, List.append_nil, List.map_append]
      exact h.sent.trans (List.prefix_append _ _)

theorem served_of_handleClient {now : OffsetDateTime} {instant : Instant} {messageId : Uuid}
    (hregistered : s.Registered entries)
    (hstep : step config codec s (.handleClient userId now instant messageId) = some s')
    : ∃ rx, s'.Served (entries ++ [(userId, true)]) s.tasks.length rx [] {
        key := userId
        isOpen := true
        letters := ServerLabel.posted codec.toCodec s.websocketsService.networkStatusOk
          (.handleClient userId now instant messageId) userId
      } := by
  cases effect_of_step hstep with
  | task label i c c' state state' message task? task looping subscribed userId messagesRx tasks
      service =>
    simp [ServerLabel.task?] at task?
  | handleClient userId now instant messageId rx service tasks =>
    rcases WebSocketsServiceImpl.handleClient_joined service with ⟨before, hjoined⟩
    have hi : s'.tasks[s.tasks.length]? = some ⟨.new config userId rx instant, .running⟩ := by
      rw [tasks, List.getElem?_concat_length]
    have hlength : s.tasks.length = entries.length := by
      have := congrArg List.length hregistered.users
      simpa using this
    refine ⟨rx, ⟨_, _, hi, rfl, hjoined.channel, List.nil_prefix, ?_⟩, ⟨_, _, true, hi,
      hjoined.channel, ?_, ?_, rfl, rfl, ?_⟩, List.nil_prefix⟩
    . intro _
      simp only [WebSocketConnection.new, List.length_append, hjoined.start, Nat.sub_self,
        List.take_zero]
      exact ⟨Nat.le_refl _, Nat.le_add_right _ _, rfl⟩
    . rw [hjoined.start, List.length_append]
      exact Nat.le_add_right _ _
    . rw [hlength, List.getElem?_concat_length]
    . intro _
      dsimp only
      rw [hjoined.start, List.drop_left]
      cases s.websocketsService.networkStatusOk with
      | true => simp [ServerLabel.posted, outgoing]
      | false => simp [ServerLabel.posted, outgoing, createMessage_payload]

/-- Every connection is served from its mailbox. -/
structure Refined (config : WebSocketsServiceConfig) (codec : WebSocketCodec)
    (labels : List ServerLabel) (s : Server) : Prop where
  registered : s.Registered (registrations labels)
  networkStatusOk : (PostOffice.run codec.toCodec labels).networkStatusOk
    = s.websocketsService.networkStatusOk
  length : (PostOffice.run codec.toCodec labels).boxes.length = s.tasks.length
  new : ∀ i, s.tasks.length ≤ i → firstTransmissions config codec i init labels = []
  served : ∀ i box, (PostOffice.run codec.toCodec labels).boxes[i]? = some box →
    ∃ rx, s.Served (registrations labels) i rx (firstTransmissions config codec i init labels) box

theorem refined_init : init.Refined config codec [] where
  registered := registered_init
  networkStatusOk := rfl
  length := rfl
  new _ _ := rfl
  served := by simp [PostOffice.run, PostOffice.init]

theorem PostOffice.run_append_singleton {codec : Codec}
    : PostOffice.run codec (labels ++ [label]) = (PostOffice.run codec labels).step codec label := by
  rw [PostOffice.run, List.foldl_append]
  rfl

theorem PostOffice.boxes_run_append_singleton {codec : Codec}
    : (PostOffice.run codec (labels ++ [label])).boxes
        =
      Mailbox.turn (PostOffice.run codec labels).boxes label.change
        (label.posted codec (PostOffice.run codec labels).networkStatusOk) := by
  rw [PostOffice.run_append_singleton]
  rfl

theorem registrations_append_singleton
    : registrations (labels ++ [label]) = register (registrations labels) label := by
  rw [registrations, List.foldl_append]
  rfl

theorem networkStatusOk_step {p : PostOffice}
    (hok : p.networkStatusOk = s.websocketsService.networkStatusOk)
    (heffect : Effect config codec s s' label)
    : (p.step codec.toCodec label).networkStatusOk = s'.websocketsService.networkStatusOk := by
  by_cases hstore : ∃ status, label = .storeNetworkStatus status
  . rcases hstore with ⟨status, rfl⟩
    cases heffect with
    | storeNetworkStatus status service tasks =>
      rw [service]
      rfl
    | task label i c c' state state' message task? task looping subscribed userId messagesRx tasks
        service =>
      simp [ServerLabel.task?] at task?
  . push Not at hstore
    rw [Updater.networkStatusOk_eq heffect hstore, ← hok]
    cases label with
    | storeNetworkStatus status => exact absurd rfl (hstore status)
    | _ => rfl

-- A connection that is not there transmits nothing.
theorem Refined.firstTransmissions_step (h : s.Refined config codec labels)
    (hrun : System.run (Server.step config codec) init labels = some s)
    (hstep : Server.step config codec s label = some s') (hi : s.tasks.length ≤ i)
    : firstTransmissions config codec i init (labels ++ [label]) = [] := by
  rw [firstTransmissions_append_singleton hrun hstep, h.new i hi, List.nil_append]
  apply transmitted_of_not_running (effect_of_step hstep)
  intro c hc
  simp [List.getElem?_eq_none hi] at hc

theorem Refined.served_step (h : s.Refined config codec labels)
    (hrun : System.run (Server.step config codec) init labels = some s)
    (hstep : Server.step config codec s label = some s') (hi : i < s.tasks.length)
    (hbox : (PostOffice.run codec.toCodec (labels ++ [label])).boxes[i]? = some box)
    : ∃ rx, s'.Served (registrations (labels ++ [label])) i rx
        (firstTransmissions config codec i init (labels ++ [label])) box := by
  rw [← h.length] at hi
  have hold := List.getElem?_eq_getElem hi
  rcases h.served i _ hold with ⟨rx, hserved⟩
  rw [PostOffice.boxes_run_append_singleton, Mailbox.getElem?_turn hold,
    Option.some.injEq, h.networkStatusOk] at hbox
  rw [registrations_append_singleton, firstTransmissions_append_singleton hrun hstep, ← hbox]
  exact ⟨rx, hserved.step h.registered hstep⟩

theorem Refined.step (h : s.Refined config codec labels)
    (hrun : System.run (Server.step config codec) init labels = some s)
    (hstep : Server.step config codec s label = some s')
    : s'.Refined config codec (labels ++ [label]) := by
  have heffect := effect_of_step hstep
  have hregistered : s'.Registered (registrations (labels ++ [label])) := by
    rw [registrations_append_singleton]
    exact h.registered.step heffect
  have hok : (PostOffice.run codec.toCodec (labels ++ [label])).networkStatusOk
      = s'.websocketsService.networkStatusOk := by
    rw [PostOffice.run_append_singleton]
    exact networkStatusOk_step h.networkStatusOk heffect
  by_cases hclient : ∃ userId now instant messageId, label = .handleClient userId now instant messageId
  . rcases hclient with ⟨userId, now, instant, messageId, rfl⟩
    have htasks : s'.tasks.length = s.tasks.length + 1 := by
      cases heffect with
      | handleClient userId now instant messageId rx service tasks => simp [tasks]
      | task label i c c' state state' message task? task looping subscribed userId messagesRx tasks
          service =>
        simp [ServerLabel.task?] at task?
    refine ⟨hregistered, hok, ?_, ?_, ?_⟩
    . rw [PostOffice.boxes_run_append_singleton, Mailbox.length_turn, h.length, htasks]
      rfl
    . intro i hi
      exact h.firstTransmissions_step hrun hstep (by omega)
    . intro i box hbox
      by_cases hi : i < s.tasks.length
      . exact h.served_step hrun hstep hi hbox
      -- The mailbox is the one of the client that connects.
      . have hlt := (List.getElem?_eq_some_iff.mp hbox).1
        rw [PostOffice.boxes_run_append_singleton, Mailbox.length_turn, h.length] at hlt
        have hnew : i = s.tasks.length := by
          dsimp only [ServerLabel.change] at hlt
          omega
        rw [h.firstTransmissions_step hrun hstep (Nat.not_lt.mp hi), registrations_append_singleton]
        rw [hnew, ← h.length, PostOffice.boxes_run_append_singleton, ServerLabel.change,
          Mailbox.getElem?_turn_rent, Option.some.injEq, h.networkStatusOk] at hbox
        rw [hnew, ← hbox]
        exact served_of_handleClient h.registered hstep
  . have hlabel : ∀ userId now instant messageId,
        label ≠ .handleClient userId now instant messageId := by
      intro userId now instant messageId heq
      exact hclient ⟨userId, now, instant, messageId, heq⟩
    have htasks := Updater.length_tasks heffect hlabel
    have hboxes : (PostOffice.run codec.toCodec (labels ++ [label])).boxes.length
        = s'.tasks.length := by
      rw [PostOffice.boxes_run_append_singleton, Mailbox.length_turn, h.length, htasks]
      cases label with
      | handleClient userId now instant messageId =>
    exact absurd rfl (hlabel userId now instant messageId)
      | _ => rfl
    refine ⟨hregistered, hok, hboxes, ?_, ?_⟩
    . intro i hi
      exact h.firstTransmissions_step hrun hstep (by omega)
    . intro i box hbox
      have hlt := (List.getElem?_eq_some_iff.mp hbox).1
      exact h.served_step hrun hstep (by omega) hbox

theorem refined_of_run (hrun : System.run (Server.step config codec) init labels = some s)
    : s.Refined config codec labels := by
  apply System.run_induction (P := fun labels s => s.Refined config codec labels) refined_init _ hrun
  intro labels label t t' hbefore h hstep
  exact h.step hbefore hstep

theorem message_enabled (config : WebSocketsServiceConfig) (codec : WebSocketCodec) (now : Instant)
    {c : WebSocketConnection} {message : WebSocketMessage}
    (hi : s.tasks[i]? = some ⟨c, .running⟩)
    (hchannel : s.websocketsService.channels[c.messagesRx.channel]? = some channel)
    (hretained : channel.queued.length ≤ c.messagesRx.next + channel.capacity)
    (hmessage : channel.queued[c.messagesRx.next]? = some message)
    : ∃ s', step config codec s (.message i now (.ok ())) = some s'
        ∧ transmitted i s s' (.message i now (.ok ())) = [.binary message.payload] := by
  have hoverwritten : ¬c.messagesRx.next < channel.queued.length - channel.capacity := by
    omega
  have hstep : step config codec s (.message i now (.ok ()))
      = some (s.settle i { c with messagesRx := { c.messagesRx with next := c.messagesRx.next + 1 } }
          (WebSocketConnection.processMessage config now (.ok ()) (.ok message)
            { c with messagesRx := { c.messagesRx with next := c.messagesRx.next + 1 } })) := by
    simp only [step, stepMessage, running_eq_some.mpr hi, hchannel, Channel.recv, if_neg hoverwritten,
      hmessage]
  refine ⟨_, hstep, ?_⟩
  rw [transmitted, if_pos rfl, written_eq hi, written_eq (getElem?_of_set hi rfl)]
  exact List.drop_left

theorem Served.letters_eq (h : s.Served entries i rx sent box) (hi : s.tasks[i]? = some task)
    (hchannel : s.websocketsService.channels[task.connection.messagesRx.channel]? = some channel)
    (hlooping : task.state.looping)
    : box.letters.map .binary
        =
      sent ++ outgoing (channel.queued.drop task.connection.messagesRx.next) := by
  rcases h.reading.task with ⟨task₁, channel₁, hi₁, htx, hchannel₁, _, hread⟩
  rcases h.kept with ⟨task₂, channel₂, _, hi₂, hchannel₂, _, _, _, _, hletters⟩
  rw [hi, Option.some.injEq] at hi₁ hi₂
  subst hi₁
  subst hi₂
  rw [← htx, hchannel, Option.some.injEq] at hchannel₁ hchannel₂
  subst hchannel₁
  subst hchannel₂
  rcases hread hlooping with ⟨hstart, _, hsent⟩
  rw [hletters (TaskState.subscribed_of_looping hlooping), hsent, ← outgoing_append]
  have hdrop : channel.queued.drop task.connection.messagesRx.next
      = (channel.queued.drop rx.next).drop (task.connection.messagesRx.next - rx.next) := by
    rw [List.drop_drop, Nat.add_sub_cancel' hstart]
  rw [hdrop, List.take_append_drop]

/--
Whatever is shared behind it, every connection has a mailbox: it transmits the letters in the order
they were posted, none is lost while it goes on, and it can transmit the next one unless the ring has
overwritten it.
-/
theorem mailboxes_refined (config : WebSocketsServiceConfig) (codec : WebSocketCodec)
    (labels : List ServerLabel)
    (hrun : System.run (Server.step config codec) init labels = some s)
    : (PostOffice.run codec.toCodec labels).boxes.map (·.key) = s.tasks.map (·.connection.userId)
        ∧
      ∀ i task box channel, s.tasks[i]? = some task →
        (PostOffice.run codec.toCodec labels).boxes[i]? = some box →
        s.websocketsService.channels[task.connection.messagesRx.channel]? = some channel →
          firstTransmissions config codec i init labels <+: box.letters.map .binary
            ∧ (task.state.looping → box.letters.map .binary
              = firstTransmissions config codec i init labels
                ++ outgoing (channel.queued.drop task.connection.messagesRx.next))
            ∧ (task.state = .running →
              (firstTransmissions config codec i init labels).length < box.letters.length →
              channel.queued.length ≤ task.connection.messagesRx.next + channel.capacity →
              ∀ now, ∃ s', Server.step config codec s (.message i now (.ok ())) = some s'
                ∧ firstTransmissions config codec i init (labels ++ [.message i now (.ok ())])
                  = (box.letters.take
                    ((firstTransmissions config codec i init labels).length + 1)).map .binary) := by
  have h := refined_of_run hrun
  refine ⟨?_, ?_⟩
  . apply List.ext_getElem?
    intro i
    rw [List.getElem?_map, List.getElem?_map]
    by_cases hi : i < s.tasks.length
    . have hbox := List.getElem?_eq_getElem (h.length ▸ hi)
      rcases h.served i _ hbox with ⟨rx, hserved⟩
      rcases hserved.kept with ⟨task, _, _, htask, _, _, _, hkey, _⟩
      rw [hbox, htask, Option.map_some, Option.map_some, hkey]
    . rw [List.getElem?_eq_none (Nat.not_lt.mp hi),
        List.getElem?_eq_none (h.length ▸ Nat.not_lt.mp hi)]
      rfl
  . intro i task box channel hi hbox hchannel
    rcases h.served i box hbox with ⟨rx, hserved⟩
    refine ⟨hserved.sent, fun hlooping => hserved.letters_eq hi hchannel hlooping, ?_⟩
    intro hrunning hunread hretained now
    have hletters := hserved.letters_eq hi hchannel (by rw [hrunning]; rfl)
    have hlength := congrArg List.length hletters
    rw [List.length_map, List.length_append, outgoing, List.length_map, List.length_drop] at hlength
    have hnext : task.connection.messagesRx.next < channel.queued.length := by
      omega
    rcases task with ⟨c, state⟩
    subst hrunning
    rcases message_enabled config codec now hi hchannel hretained (List.getElem?_eq_getElem hnext)
      with ⟨s', hstep, htransmitted⟩
    refine ⟨s', hstep, ?_⟩
    rw [firstTransmissions_append_singleton hrun hstep, htransmitted, List.map_take, hletters,
      List.drop_eq_getElem_cons hnext, List.take_length_add_append]
    rfl

def sampleMail : List ServerLabel :=
  [.handleClient ⟨1⟩ 0 0 ⟨101⟩, .storeNetworkStatus .error, .handleClient ⟨1⟩ 1 1 ⟨102⟩,
    .message 0 2 (.ok ()), .closeConnections ⟨1⟩, .send [] sampleNotification 3 ⟨100⟩]

def sampleMailServer : Server :=
  (System.run (Server.step sampleConfig sampleCodec) init sampleMail).getD init

-- Both devices are greeted when the second one connects, and get nothing once they are closed.
theorem mailboxes_refined_closed
    : (PostOffice.run sampleCodec.toCodec sampleMail).boxes.map (fun box => (box.key, box.isOpen))
          = [(⟨1⟩, false), (⟨1⟩, false)]
        ∧ ∃ box : Mailbox Uuid WebSocketNotificationProtobuf,
          (PostOffice.run sampleCodec.toCodec sampleMail).boxes[0]? = some box
            ∧ box.letters.length = 1
            ∧ firstTransmissions sampleConfig sampleCodec 0 init sampleMail
              <+: box.letters.map .binary := by
  have hrun : System.run (Server.step sampleConfig sampleCodec) init sampleMail
      = some sampleMailServer := by
    rfl
  refine ⟨rfl, _, rfl, rfl, ?_⟩
  exact ((mailboxes_refined sampleConfig sampleCodec sampleMail hrun).2 0 _ _ _ rfl rfl rfl).1

end Server

end TomNotifier.WsDelivery
