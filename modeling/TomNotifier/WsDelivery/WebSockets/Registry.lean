import TomNotifier.System.Registry
import TomNotifier.WsDelivery.WebSockets.Effects

/-!
This module contains who is connected to which channel: the server's map of senders and its tasks
form a registry of rooms.
-/

namespace TomNotifier.WsDelivery

theorem zipWith_set {α β γ : Type} {f : α → β → γ} {l : List α} {l' : List β} {i : Nat} {a : α} {b : β}
    (h : l'[i]? = some b) : List.zipWith f (l.set i a) l' = (List.zipWith f l l').set i (f a b) := by
  induction l generalizing l' i with
  | nil => simp
  | cons c l ih =>
    cases l' with
    | nil => simp at h
    | cons d l' =>
      cases i with
      | zero =>
        rw [List.getElem?_cons_zero, Option.some.injEq] at h
        simp [h]
      | succ i =>
        rw [List.getElem?_cons_succ] at h
        simp [ih h]

theorem set_eq_self_of_getElem? {α : Type} {l : List α} {i : Nat} {a : α} (h : l[i]? = some a)
    : l.set i a = l := by
  rcases List.getElem?_eq_some_iff.mp h with ⟨hlt, rfl⟩
  exact List.set_getElem_self hlt

def TaskState.phase : TaskState → Registry.Phase
  | .ended => .left
  | .finished => .gone
  | _ => .joined

theorem TaskState.phase_eq_joined_iff {state : TaskState}
    : state.phase = .joined ↔ state.subscribed := by
  cases state <;> simp [phase, subscribed]

theorem TaskState.phase_eq_left_iff {state : TaskState} : state.phase = .left ↔ state = .ended := by
  cases state <;> simp [phase]

namespace Server

def register (registrations : List (Uuid × Bool)) : ServerLabel → List (Uuid × Bool)
  | .handleClient userId _ _ _ => registrations ++ [(userId, true)]
  | .closeConnections userId =>
    registrations.map (fun entry => (entry.1, entry.2 && decide (entry.1 ≠ userId)))
  | _ => registrations

/-- For every connection its user, and whether the user has not been closed since. -/
def registrations (labels : List ServerLabel) : List (Uuid × Bool) := labels.foldl register []

def member (task : ConnectionTask) (entry : Uuid × Bool) : Registry.Member Uuid where
  key := entry.1
  room := task.connection.messagesRx.channel
  opened := entry.2
  phase := task.state.phase

def registry (entries : List (Uuid × Bool)) (s : Server) : Registry.State Uuid where
  current userId := s.websocketsService.usersConnections.lookup userId
  rooms := s.websocketsService.channels.length
  members := List.zipWith member s.tasks entries

structure Registered (entries : List (Uuid × Bool)) (s : Server) : Prop where
  users : s.tasks.map (·.connection.userId) = entries.map (·.1)
  receivers : ∀ tx channel, s.websocketsService.channels[tx]? = some channel →
    channel.receivers = (s.registry entries).occupants tx
  consistent : (s.registry entries).Consistent

theorem registered_init : init.Registered [] where
  users := rfl
  receivers := by simp [init, WebSocketsServiceImpl.new]
  consistent := by
    constructor
    . simp [registry, init]
    . simp [registry, init, WebSocketsServiceImpl.new]
    . simp [registry, init, WebSocketsServiceImpl.new]
    . simp [registry, init]
    . simp [registry, init]
    . simp [registry, init]
    . rintro key ⟨room, hroom, _⟩
      simp [registry, init, WebSocketsServiceImpl.new] at hroom

namespace Registered

variable {entries : List (Uuid × Bool)} {s s' : Server} {config : WebSocketsServiceConfig}
variable {codec : WebSocketCodec} {label : ServerLabel} {i : Nat} {task task' : ConnectionTask}
variable {tx : ChannelId} {userId : Uuid} {channel : Channel}

theorem entry (h : s.Registered entries) (hi : s.tasks[i]? = some task)
    : ∃ opened, entries[i]? = some (task.connection.userId, opened) := by
  have hmap := congrArg (·[i]?) h.users
  simp only [List.getElem?_map, hi, Option.map_some] at hmap
  rcases Option.map_eq_some_iff.mp hmap.symm with ⟨⟨userId, opened⟩, hentry, rfl⟩
  exact ⟨opened, hentry⟩

theorem mem_members (h : s.Registered entries) (hi : s.tasks[i]? = some task)
    : ∃ opened, entries[i]? = some (task.connection.userId, opened)
        ∧
      (s.registry entries).members[i]? = some (member task (task.connection.userId, opened)) := by
  rcases h.entry hi with ⟨opened, hentry⟩
  refine ⟨opened, hentry, ?_⟩
  rw [registry, List.getElem?_zipWith, hi, hentry]

theorem exists_of_mem_members {m : Registry.Member Uuid} (h : s.Registered entries)
    (hm : m ∈ (s.registry entries).members)
    : ∃ (i : Nat) (task : ConnectionTask) (opened : Bool), s.tasks[i]? = some task
        ∧ entries[i]? = some (task.connection.userId, opened)
        ∧ m = member task (task.connection.userId, opened) := by
  rw [registry, List.mem_iff_getElem?] at hm
  rcases hm with ⟨i, hi⟩
  rcases List.getElem?_zipWith_eq_some.mp hi with ⟨task, entry, htask, hentry, rfl⟩
  rcases h.entry htask with ⟨opened, hentry'⟩
  rw [hentry, Option.some.injEq] at hentry'
  exact ⟨i, task, opened, htask, hentry' ▸ hentry, hentry' ▸ rfl⟩

theorem channel_lt (h : s.Registered entries) (hi : s.tasks[i]? = some task)
    : task.connection.messagesRx.channel < s.websocketsService.channels.length := by
  rcases h.mem_members hi with ⟨_, _, hm⟩
  exact h.consistent.room_lt _ (List.mem_of_getElem? hm)

theorem users_set (h : s.Registered entries) (hi : s.tasks[i]? = some task)
    (htasks : s'.tasks = s.tasks.set i task')
    (huser : task'.connection.userId = task.connection.userId)
    : s'.tasks.map (·.connection.userId) = entries.map (·.1) := by
  rw [← h.users, htasks, List.map_set, huser]
  apply set_eq_self_of_getElem?
  rw [List.getElem?_map, hi, Option.map_some]

-- The tasks' steps that leave a connection where it is.
theorem setTask (h : s.Registered entries) (hi : s.tasks[i]? = some task)
    (htasks : s'.tasks = s.tasks.set i task')
    (huser : task'.connection.userId = task.connection.userId)
    (hchannel : task'.connection.messagesRx.channel = task.connection.messagesRx.channel)
    (hphase : task'.state.phase = task.state.phase)
    (hservice : s.websocketsService.SameRegistry s'.websocketsService) : s'.Registered entries := by
  rcases h.mem_members hi with ⟨opened, hentry, hm⟩
  have hmember : member task' (task.connection.userId, opened)
      = member task (task.connection.userId, opened) := by
    simp [member, hchannel, hphase]
  have hmembers : List.zipWith member s'.tasks entries = List.zipWith member s.tasks entries := by
    rw [htasks, zipWith_set hentry, hmember]
    exact set_eq_self_of_getElem? hm
  have hregistry : s'.registry entries = s.registry entries := by
    unfold registry
    rw [hservice.channels, hservice.usersConnections, hmembers]
  constructor
  . exact h.users_set hi htasks huser
  . rw [hregistry, hservice.channels]
    exact h.receivers
  . rw [hregistry]
    exact h.consistent

theorem handleClient (h : s.Registered entries) {rx : Receiver} {before : Channel}
    {greeting : List WebSocketMessage} {connection : WebSocketConnection}
    (hjoined : s.websocketsService.Joined s'.websocketsService userId rx before greeting)
    (huser : connection.userId = userId) (hrx : connection.messagesRx = rx)
    (htasks : s'.tasks = s.tasks ++ [⟨connection, .running⟩])
    : s'.Registered (entries ++ [(userId, true)]) := by
  have hlength : s.tasks.length = entries.length := by
    have := congrArg List.length h.users
    simpa using this
  have hregistry : s'.registry (entries ++ [(userId, true)]) = {
      current := Function.update (s.registry entries).current userId (some rx.channel)
      rooms := s'.websocketsService.channels.length
      members := (s.registry entries).members ++ [⟨userId, rx.channel, true, .joined⟩] } := by
    unfold registry
    rw [htasks, List.zipWith_append hlength]
    congr 1
    . funext userId'
      by_cases huser' : userId' = userId
      . subst huser'
        rw [Function.update_self]
        exact hjoined.lookup
      . rw [Function.update_of_ne huser']
        exact hjoined.lookup_other userId' huser'
    . simp [member, hrx, TaskState.phase]
  have hstep : (s.registry entries).Step (.join userId) (s'.registry (entries ++ [(userId, true)])) := by
    rw [hregistry]
    apply Registry.State.Step.join
    . rcases hjoined.found with ⟨hlookup, _⟩ | ⟨hlookup, hchannel, _⟩
      . exact .inl hlookup
      . exact .inr ⟨hlookup, hchannel.ge⟩
    . exact hjoined.length_le
    . exact (List.getElem?_eq_some_iff.mp hjoined.channel).1
  constructor
  . rw [htasks, List.map_append, List.map_append, h.users, List.map_singleton, huser,
      List.map_singleton]
  . intro tx channel hchannel
    rw [Registry.State.occupants_append (by rw [hregistry])]
    by_cases htx : tx = rx.channel
    . subst htx
      have hbefore : before.receivers = (s.registry entries).occupants rx.channel := by
        rcases hjoined.found with ⟨_, hfound⟩ | ⟨_, hnew, _, hempty⟩
        . exact h.receivers _ _ hfound
        . rw [hempty, h.consistent.occupants_eq_zero hnew.ge]
      rw [hjoined.channel, Option.some.injEq] at hchannel
      rw [← hchannel, hbefore]
      simp
    . rw [hjoined.other tx htx] at hchannel
      rw [h.receivers tx channel hchannel]
      simp [Ne.symm htx]
  . exact h.consistent.step hstep

theorem closeConnections (h : s.Registered entries)
    (hservice : s'.websocketsService = s.websocketsService.closeConnections userId)
    (htasks : s'.tasks = s.tasks)
    : s'.Registered (entries.map (fun entry => (entry.1, entry.2 && decide (entry.1 ≠ userId)))) := by
  have hregistry
      : s'.registry (entries.map (fun entry => (entry.1, entry.2 && decide (entry.1 ≠ userId)))) = {
          (s.registry entries) with
          current := Function.update (s.registry entries).current userId none
          members := (s.registry entries).members.map (Registry.Member.close userId) } := by
    unfold registry
    rw [hservice, htasks, List.zipWith_map_right, List.map_zipWith]
    congr 1
    exact WebSocketsServiceImpl.lookup_removeUser _ _
  constructor
  . rw [htasks, h.users, List.map_map]
    rfl
  . intro tx channel hchannel
    rw [hservice] at hchannel
    rw [h.receivers tx channel hchannel, hregistry]
    unfold Registry.State.occupants
    rw [List.countP_map]
    rfl
  . rw [hregistry]
    exact h.consistent.close userId

theorem same (h : s.Registered entries) (htasks : s'.tasks = s.tasks)
    (husers : s'.websocketsService.usersConnections = s.websocketsService.usersConnections)
    (hchannels : s'.websocketsService.channels = s.websocketsService.channels)
    : s'.Registered entries := by
  have hregistry : s'.registry entries = s.registry entries := by
    unfold registry
    rw [htasks, husers, hchannels]
  constructor
  . rw [htasks, h.users]
  . rw [hchannels, hregistry]
    exact h.receivers
  . rw [hregistry]
    exact h.consistent

theorem sent (h : s.Registered entries) {message : WebSocketMessage} {txs : List ChannelId}
    (hsent : WebSocketsServiceImpl.Sent message txs s.websocketsService s'.websocketsService)
    (htasks : s'.tasks = s.tasks) : s'.Registered entries := by
  have hregistry : s'.registry entries = s.registry entries := by
    unfold registry
    rw [hsent.usersConnections, hsent.channels, WebSocketsServiceImpl.length_sendAll, htasks]
  constructor
  . rw [htasks, h.users]
  . intro tx channel hchannel
    rw [hsent.getElem?, Option.map_eq_some_iff] at hchannel
    rcases hchannel with ⟨channel', hchannel', rfl⟩
    rw [Channel.sendMany_receivers, hregistry]
    exact h.receivers tx channel' hchannel'
  . rw [hregistry]
    exact h.consistent

theorem drop (h : s.Registered entries) {c : WebSocketConnection}
    (hi : s.tasks[i]? = some ⟨c, .closing⟩) (htasks : s'.tasks = s.tasks.set i ⟨c, .ended⟩)
    (hservice : s'.websocketsService = s.websocketsService.dropReceiver c.messagesRx)
    : s'.Registered entries := by
  rcases h.mem_members hi with ⟨opened, hentry, hm⟩
  have hregistry : s'.registry entries = { (s.registry entries) with
      members := (s.registry entries).members.set i
        { member ⟨c, .closing⟩ (c.userId, opened) with phase := .left } } := by
    unfold registry
    rw [hservice, htasks, zipWith_set hentry]
    congr 1
    exact List.length_modify ..
  constructor
  . exact h.users_set hi htasks rfl
  . intro tx channel hchannel
    have hmembers : (s'.registry entries).members = (s.registry entries).members.set i
        { member ⟨c, .closing⟩ (c.userId, opened) with phase := .left } := by
      rw [hregistry]
    have hoccupants := Registry.State.occupants_set hm hmembers tx
    simp only [hservice, WebSocketsServiceImpl.dropReceiver, WebSocketsServiceImpl.setChannels,
      List.getElem?_modify, Option.map_eq_map, Option.map_eq_some_iff] at hchannel
    rcases hchannel with ⟨channel', hchannel', rfl⟩
    have hreceivers := h.receivers tx channel' hchannel'
    rw [hoccupants, ← hreceivers]
    by_cases htx : c.messagesRx.channel = tx
    . simp [htx, member, TaskState.phase, Channel.unsubscribe]
    . simp [htx, member]
  . rw [hregistry]
    exact h.consistent.leave hm rfl

theorem cleanUp (h : s.Registered entries) {c : WebSocketConnection}
    (hi : s.tasks[i]? = some ⟨c, .ended⟩) (htasks : s'.tasks = s.tasks.set i ⟨c, .finished⟩)
    (hservice : s'.websocketsService = s.websocketsService.cleanUp c.userId)
    : s'.Registered entries := by
  rcases h.mem_members hi with ⟨opened, hentry, hm⟩
  have hmembers : (s'.registry entries).members = (s.registry entries).members.set i
      { member ⟨c, .ended⟩ (c.userId, opened) with phase := .gone } := by
    unfold registry
    rw [htasks, zipWith_set hentry]
    rfl
  have hoccupants : ∀ tx, (s'.registry entries).occupants tx = (s.registry entries).occupants tx := by
    intro tx
    rw [Registry.State.occupants_set hm hmembers]
    simp [member, TaskState.phase]
  have hstep : (s.registry entries).Step (.cleanUp i) (s'.registry entries) := by
    rcases s.websocketsService.cleanUp_cases c.userId
      with ⟨tx, channel, hlookup, hchannel, hempty, hremove⟩ | ⟨hoccupied, hkeep⟩
    . have hregistry : s'.registry entries = { (s.registry entries) with
          current := Function.update (s.registry entries).current c.userId none
          members := (s.registry entries).members.set i
            { member ⟨c, .ended⟩ (c.userId, opened) with phase := .gone } } := by
        rw [← hmembers]
        unfold registry
        rw [hservice, hremove]
        congr 1
        exact WebSocketsServiceImpl.lookup_removeUser _ _
      rw [hregistry]
      refine .cleanUp i _ hm rfl ⟨tx, hlookup, ?_⟩
      rw [← Registry.State.occupants_pos_iff, ← h.receivers tx channel hchannel, hempty]
      exact Nat.lt_irrefl 0
    . have hregistry : s'.registry entries = { (s.registry entries) with
          members := (s.registry entries).members.set i
            { member ⟨c, .ended⟩ (c.userId, opened) with phase := .gone } } := by
        rw [← hmembers]
        unfold registry
        rw [hservice, hkeep]
      rw [hregistry]
      refine .keep i _ hm rfl ?_
      rintro ⟨tx, hlookup, hempty⟩
      have hchannel := List.getElem?_eq_getElem (s.websocketsService.lookup_lt hlookup)
      apply hoccupied tx _ hlookup hchannel
      rw [h.receivers tx _ hchannel]
      rw [← Registry.State.occupants_pos_iff] at hempty
      exact Nat.eq_zero_of_not_pos hempty
  constructor
  . exact h.users_set hi htasks rfl
  . intro tx channel hchannel
    rw [hservice, (WebSocketsServiceImpl.cleanUp_fields _ _).2] at hchannel
    rw [hoccupants]
    exact h.receivers tx channel hchannel
  . exact h.consistent.step hstep

theorem lookup_of_opened (h : s.Registered entries) (hi : s.tasks[i]? = some task)
    (hentry : entries[i]? = some (userId, true)) (hsubscribed : task.state.subscribed)
    : s.websocketsService.usersConnections.lookup userId
        =
      some task.connection.messagesRx.channel := by
  have hm : (s.registry entries).members[i]? = some (member task (userId, true)) := by
    rw [registry, List.getElem?_zipWith, hi, hentry]
  exact h.consistent.opened _ (List.mem_of_getElem? hm) rfl
    (TaskState.phase_eq_joined_iff.mpr hsubscribed)

theorem receivers_pos (h : s.Registered entries) (hi : s.tasks[i]? = some task)
    (hsubscribed : task.state.subscribed)
    (hchannel : s.websocketsService.channels[task.connection.messagesRx.channel]? = some channel)
    : 0 < channel.receivers := by
  rcases h.mem_members hi with ⟨opened, _, hm⟩
  rw [h.receivers _ channel hchannel, Registry.State.occupants_pos_iff]
  exact ⟨_, List.mem_of_getElem? hm, rfl, TaskState.phase_eq_joined_iff.mpr hsubscribed⟩

theorem exists_ended (h : s.Registered entries)
    (hlookup : s.websocketsService.usersConnections.lookup userId = some tx)
    (hchannel : s.websocketsService.channels[tx]? = some channel) (hempty : channel.receivers = 0)
    : ∃ task ∈ s.tasks, task.connection.userId = userId ∧ task.state = .ended := by
  have habandoned : (s.registry entries).Abandoned userId := by
    refine ⟨tx, hlookup, ?_⟩
    rw [← Registry.State.occupants_pos_iff, ← h.receivers tx channel hchannel, hempty]
    exact Nat.lt_irrefl 0
  rcases h.consistent.pending userId habandoned with ⟨m, hm, hkey, hphase⟩
  rcases h.exists_of_mem_members hm with ⟨i, task, opened, hi, _, rfl⟩
  exact ⟨task, List.mem_of_getElem? hi, hkey, TaskState.phase_eq_left_iff.mp hphase⟩

theorem lookup_isSome_iff (h : s.Registered entries) (hidle : ∀ task ∈ s.tasks, task.state ≠ .ended)
    : (s.websocketsService.usersConnections.lookup userId).isSome
        ↔
      ∃ (i : Nat) (task : ConnectionTask), s.tasks[i]? = some task
        ∧ entries[i]? = some (userId, true) ∧ task.state.subscribed := by
  constructor
  . intro hsome
    have hidle' : ∀ m ∈ (s.registry entries).members, m.phase ≠ .left := by
      intro m hm hphase
      rcases h.exists_of_mem_members hm with ⟨i, task, opened, hi, _, rfl⟩
      exact hidle task (List.mem_of_getElem? hi) (TaskState.phase_eq_left_iff.mp hphase)
    rcases (h.consistent.current_isSome_iff hidle').mp hsome with ⟨m, hm, hkey, hopened, hphase⟩
    rcases h.exists_of_mem_members hm with ⟨i, task, opened, hi, hentry, rfl⟩
    simp only [member] at hkey hopened
    rw [hkey, hopened] at hentry
    exact ⟨i, task, hi, hentry, TaskState.phase_eq_joined_iff.mp hphase⟩
  . rintro ⟨i, task, hi, hentry, hsubscribed⟩
    rw [h.lookup_of_opened hi hentry hsubscribed]
    rfl

theorem lookup_eq_userId (h : s.Registered entries) (hi : s.tasks[i]? = some task)
    (hlookup : s.websocketsService.usersConnections.lookup userId
      = some task.connection.messagesRx.channel)
    : task.connection.userId = userId := by
  rcases h.mem_members hi with ⟨opened, _, hm⟩
  exact h.consistent.owner _ (List.mem_of_getElem? hm) userId hlookup

theorem step (h : s.Registered entries) (heffect : Effect config codec s s' label)
    : s'.Registered (register entries label) := by
  cases heffect with
  | handleClient userId now instant messageId rx service tasks =>
    rcases WebSocketsServiceImpl.handleClient_joined service with ⟨before, hjoined⟩
    exact h.handleClient hjoined rfl rfl tasks
  | closeConnections userId service tasks => exact h.closeConnections service tasks
  | send userIds notification now messageId service tasks =>
    rcases WebSocketsServiceImpl.send_sent (s := s.websocketsService) with ⟨txs, hsent⟩
    exact h.sent (service ▸ hsent) tasks
  | storeNetworkStatus status service tasks =>
    exact h.same tasks (service ▸ rfl) (service ▸ rfl)
  | broadcastNetworkStatus status now messageId service tasks =>
    exact h.sent (service ▸ WebSocketsServiceImpl.broadcastNetworkStatus_sent) tasks
  | task label i c c' state state' message task? task looping subscribed userId messagesRx tasks
      service =>
    have hphase : state'.phase = state.phase := by
      rw [TaskState.phase_eq_joined_iff.mpr subscribed,
        TaskState.phase_eq_joined_iff.mpr (TaskState.subscribed_of_looping looping)]
    have hregister : register entries label = entries := by
      cases label <;> first | rfl | simp [ServerLabel.task?] at task?
    rw [hregister]
    exact h.setTask task tasks userId (by rw [messagesRx]) hphase service
  | stop i now sent c next task tasks service =>
    exact h.setTask task tasks rfl rfl rfl (service ▸ ⟨rfl, rfl, rfl⟩)
  | transmit i now sent c c' channel message task channel_eq retained message_eq userId messagesRx
      wsTx tasks service =>
    exact h.setTask task tasks userId (by rw [messagesRx]) rfl (service ▸ ⟨rfl, rfl, rfl⟩)
  | drop i c task tasks service => exact h.drop task tasks service
  | cleanUp i c task tasks service => exact h.cleanUp task tasks service

end Registered

variable {s s' : Server} {config : WebSocketsServiceConfig} {codec : WebSocketCodec}
variable {label : ServerLabel} {labels : List ServerLabel} {tx : ChannelId}
variable {queued : List WebSocketMessage} {userId : Uuid}

theorem registered_of_run (hrun : System.run (Server.step config codec) init labels = some s)
    : s.Registered (registrations labels) := by
  apply System.run_induction (P := fun labels s => s.Registered (registrations labels))
    registered_init _ hrun
  intro labels label t t' _ h hstep
  rw [registrations, List.foldl_append]
  exact h.step (effect_of_step hstep)

/-- A channel nobody finds any more. -/
structure Severed (tx : ChannelId) (queued : List WebSocketMessage) (s : Server) : Prop where
  unregistered : ∀ userId, s.websocketsService.usersConnections.lookup userId ≠ some tx
  channel : ∃ channel, s.websocketsService.channels[tx]? = some channel ∧ channel.queued = queued

theorem Severed.same (h : s.Severed tx queued)
    (husers : s'.websocketsService.usersConnections = s.websocketsService.usersConnections)
    (hchannels : s'.websocketsService.channels = s.websocketsService.channels)
    : s'.Severed tx queued where
  unregistered := by rw [husers]; exact h.unregistered
  channel := by rw [hchannels]; exact h.channel

theorem Severed.sent (h : s.Severed tx queued) {message : WebSocketMessage} {txs : List ChannelId}
    (hsent : WebSocketsServiceImpl.Sent message txs s.websocketsService s'.websocketsService)
    : s'.Severed tx queued where
  unregistered := by rw [hsent.usersConnections]; exact h.unregistered
  channel := by rw [hsent.of_unregistered h.unregistered]; exact h.channel

theorem Severed.removeUser (h : s.Severed tx queued)
    (hservice : s'.websocketsService = s.websocketsService.removeUser userId)
    : s'.Severed tx queued where
  unregistered := by
    intro userId' hlookup
    rw [hservice] at hlookup
    exact h.unregistered userId' (WebSocketsServiceImpl.lookup_of_removeUser hlookup).2
  channel := by rw [hservice]; exact h.channel

theorem Severed.step (h : s.Severed tx queued) (heffect : Effect config codec s s' label)
    : s'.Severed tx queued := by
  cases heffect with
  | handleClient userId now instant messageId rx service tasks =>
    rcases WebSocketsServiceImpl.handleClient_joined service with ⟨before, hjoined⟩
    rcases h.channel with ⟨channel, hchannel, hqueued⟩
    have htx : tx ≠ rx.channel := by
      rcases hjoined.found with ⟨hlookup, _⟩ | ⟨_, hnew, _⟩
      . rintro rfl
        exact h.unregistered userId hlookup
      . have hlt := (List.getElem?_eq_some_iff.mp hchannel).1
        exact hnew ▸ Nat.ne_of_lt hlt
    refine ⟨?_, channel, by rw [hjoined.other tx htx, hchannel], hqueued⟩
    intro userId' hlookup
    by_cases huser : userId' = userId
    . rw [huser, hjoined.lookup, Option.some.injEq] at hlookup
      exact htx hlookup.symm
    . rw [hjoined.lookup_other userId' huser] at hlookup
      exact h.unregistered userId' hlookup
  | closeConnections userId service tasks => exact h.removeUser service
  | send userIds notification now messageId service tasks =>
    rcases WebSocketsServiceImpl.send_sent (s := s.websocketsService) with ⟨txs, hsent⟩
    exact h.sent (service ▸ hsent)
  | storeNetworkStatus status service tasks => exact h.same (service ▸ rfl) (service ▸ rfl)
  | broadcastNetworkStatus status now messageId service tasks =>
    exact h.sent (service ▸ WebSocketsServiceImpl.broadcastNetworkStatus_sent)
  | task label i c c' state state' message task? task looping subscribed userId messagesRx tasks
      service =>
    exact h.same service.usersConnections service.channels
  | stop i now sent c next task tasks service => exact h.same (service ▸ rfl) (service ▸ rfl)
  | transmit i now sent c c' channel message task channel_eq retained message_eq userId messagesRx
      wsTx tasks service =>
    exact h.same (service ▸ rfl) (service ▸ rfl)
  | drop i c task tasks service =>
    rcases h.channel with ⟨channel, hchannel, hqueued⟩
    constructor
    . rw [service]
      exact h.unregistered
    . simp only [service, WebSocketsServiceImpl.dropReceiver, WebSocketsServiceImpl.setChannels,
        List.getElem?_modify, hchannel, Option.map_eq_map, Option.map_some, Option.some.injEq,
        exists_eq_left']
      split <;> exact hqueued
  | cleanUp i c task tasks service =>
    rcases s.websocketsService.cleanUp_cases c.userId with ⟨_, _, _, _, _, hremove⟩ | ⟨_, hkeep⟩
    . exact h.removeUser (service.trans hremove)
    . rw [hkeep] at service
      exact h.same (service ▸ rfl) (service ▸ rfl)

theorem severed_of_run (hrun : System.run (Server.step config codec) s labels = some s')
    (h : s.Severed tx queued) : s'.Severed tx queued := by
  apply System.run_invariant (P := Severed tx queued) _ h hrun
  intro t label t' ht hstep
  exact ht.step (effect_of_step hstep)

theorem severed_of_close {entries : List (Uuid × Bool)} {task : ConnectionTask}
    (h : s.Registered entries) (htask : task ∈ s.tasks) (huser : task.connection.userId = userId)
    (hclose : step config codec s (.closeConnections userId) = some s')
    : ∃ channel, s.websocketsService.channels[task.connection.messagesRx.channel]? = some channel
        ∧ s'.Severed task.connection.messagesRx.channel channel.queued := by
  rcases List.mem_iff_getElem?.mp htask with ⟨i, hi⟩
  have hchannel := List.getElem?_eq_getElem (h.channel_lt hi)
  rw [step, Option.some.injEq] at hclose
  refine ⟨_, hchannel, ?_, _, ?_, rfl⟩
  . intro userId' hlookup
    rw [← hclose] at hlookup
    rcases WebSocketsServiceImpl.lookup_of_removeUser hlookup with ⟨hne, hregistered⟩
    exact hne ((h.lookup_eq_userId hi hregistered).symm.trans huser)
  . rw [← hclose]
    exact hchannel

/--
However the calls and the tasks' steps follow each other, a connection that has not been closed shares
the channel its user is registered with, a channel without receivers is about to be removed, and a
connection that has been closed is not sent anything more.
-/
theorem registry_consistent (config : WebSocketsServiceConfig) (codec : WebSocketCodec)
    (labels : List ServerLabel)
    (hrun : System.run (Server.step config codec) init labels = some s)
    : (∀ (i : Nat) (task : ConnectionTask) userId, s.tasks[i]? = some task →
        (registrations labels)[i]? = some (userId, true) → task.state.subscribed →
          s.websocketsService.usersConnections.lookup userId
            = some task.connection.messagesRx.channel)
        ∧
      (∀ userId tx channel, s.websocketsService.usersConnections.lookup userId = some tx →
        s.websocketsService.channels[tx]? = some channel → channel.receivers = 0 →
          ∃ task ∈ s.tasks, task.connection.userId = userId ∧ task.state = .ended)
        ∧
      ((∀ task ∈ s.tasks, task.state ≠ .ended) →
        ∀ userId, (s.websocketsService.usersConnections.lookup userId).isSome
            ↔
          ∃ (i : Nat) (task : ConnectionTask), s.tasks[i]? = some task
            ∧ (registrations labels)[i]? = some (userId, true)
            ∧ task.state.subscribed)
        ∧
      (∀ before after userId t, labels = before ++ .closeConnections userId :: after →
        System.run (Server.step config codec) init before = some t →
          ∀ task ∈ t.tasks, task.connection.userId = userId →
            ∃ channel channel',
              t.websocketsService.channels[task.connection.messagesRx.channel]? = some channel
                ∧ s.websocketsService.channels[task.connection.messagesRx.channel]? = some channel'
                ∧ channel'.queued = channel.queued) := by
  have h := registered_of_run hrun
  refine ⟨fun i task userId hi hentry => h.lookup_of_opened hi hentry,
    fun userId tx channel hlookup hchannel => h.exists_ended hlookup hchannel,
    fun hidle userId => h.lookup_isSome_iff hidle, ?_⟩
  intro before after userId t hlabels hbefore task htask huser
  rw [hlabels, System.run_append_eq_some] at hrun
  rcases hrun with ⟨t', ht', hrun⟩
  rw [hbefore, Option.some.injEq] at ht'
  subst ht'
  rw [System.run_cons_eq_some] at hrun
  rcases hrun with ⟨t', hclose, hafter⟩
  rcases severed_of_close (registered_of_run hbefore) htask huser hclose
    with ⟨channel, hchannel, hsevered⟩
  rcases (severed_of_run hafter hsevered).channel with ⟨channel', hchannel', hqueued⟩
  exact ⟨channel, channel', hchannel, hchannel', hqueued⟩

def sampleRegistrations : List ServerLabel :=
  [.handleClient ⟨1⟩ 0 0 ⟨101⟩, .handleClient ⟨1⟩ 0 0 ⟨102⟩, .incomming 0 1 (some (.ok .close)),
    .drop 0, .closeConnections ⟨1⟩, .handleClient ⟨1⟩ 2 2 ⟨103⟩, .cleanUp 0]

def sampleReconnected : Server :=
  (System.run (Server.step sampleConfig sampleCodec) init sampleRegistrations).getD init

-- The first device's clean up finds the channel the third one has opened, and leaves it alone.
theorem registry_consistent_reconnected
    : (registrations sampleRegistrations) = [(⟨1⟩, false), (⟨1⟩, false), (⟨1⟩, true)]
        ∧ sampleReconnected.websocketsService.usersConnections.lookup ⟨1⟩ = some 1 := by
  have hrun : System.run (Server.step sampleConfig sampleCodec) init sampleRegistrations
      = some sampleReconnected := by
    rfl
  exact ⟨rfl, (registry_consistent sampleConfig sampleCodec sampleRegistrations hrun).1 2
    ⟨.new sampleConfig ⟨1⟩ ⟨1, 0⟩ 2, .running⟩ ⟨1⟩ rfl rfl rfl⟩

end Server

end TomNotifier.WsDelivery
