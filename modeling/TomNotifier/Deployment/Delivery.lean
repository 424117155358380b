import TomNotifier.Deployment.Effects

/-!
This module contains who gets a notification, and when core takes it for delivered.
-/

namespace TomNotifier

open Core.NotificationsProducerService (message)

namespace Deployment

variable {config : DeploymentConfig} {codec : WsDelivery.WebSocketCodec} {s s' : Deployment}
variable {label : DeploymentLabel} {id : ObjectId} {userId : Uuid} {n : Core.NotificationEntity}

def Polled (s : Deployment) (id : ObjectId) (userId : Uuid) : Prop :=
  ∃ poll ∈ s.polls, poll.userId = userId ∧ id ∈ poll.found

/--
A connection of the user has been transmitted the NEW message about the notification, and the user has
confirmed that message.
-/
def Acknowledged (codec : Codec) (s : Deployment) (n : Core.NotificationEntity) (userId : Uuid) : Prop :=
  ∃ node ∈ s.nodes, ∃ websocketMessage ∈ node.server.messages, ∃ task ∈ node.server.tasks,
    ∃ m ∈ s.core.messages, n.IsAnnouncedBy m
      ∧ websocketMessage.payload.notification = (message codec m).notification
      ∧ task.connection.userId = userId
      ∧ .binary websocketMessage.payload ∈ task.connection.wsTx
      ∧ (websocketMessage.messageId, userId) ∈ node.server.answers

/-- The crates read what they have written of everything that is on its way. -/
structure ReadsBack (codec : Codec) (s : Deployment) : Prop where
  notifications : ∀ m ∈ s.core.messages, codec.ReadsBack m
  confirmations : ∀ node ∈ s.nodes, ∀ entry ∈ node.server.handed,
    codec.decodeRabbitmqConfirmation (codec.encodeRabbitmqConfirmation entry.2) = some entry.2
  userIds : ∀ node ∈ s.nodes, ∀ task ∈ node.server.tasks,
    codec.uuidFromStr (codec.uuidToString task.connection.userId) = some task.connection.userId

theorem ReadsBack.of_grows {codec : Codec} (h : s'.ReadsBack codec) (hgrows : s.Grows s')
    : s.ReadsBack codec where
  notifications m hm := h.notifications m (hgrows.messages hm)
  confirmations := by
    intro node hnode entry hentry
    rcases hgrows.nodes node hnode with ⟨node', hnode', hserver⟩
    exact h.confirmations node' hnode' entry (hserver.handed hentry)
  userIds := by
    intro node hnode task htask
    rcases hgrows.nodes node hnode with ⟨node', hnode', hserver⟩
    rcases hserver.tasks task htask with ⟨task', htask', huser, _⟩
    exact huser ▸ h.userIds node' hnode' task' htask'

theorem Polled.of_grows (h : s.Polled id userId) (hgrows : s.Grows s') : s'.Polled id userId := by
  rcases h with ⟨poll, hpoll, rfl, hfound⟩
  rcases hgrows.polls poll hpoll with ⟨poll', hpoll', huser, hsubset⟩
  exact ⟨poll', hpoll', huser, hsubset hfound⟩

theorem Acknowledged.of_grows {codec : Codec} (h : s.Acknowledged codec n userId) (hgrows : s.Grows s')
    : s'.Acknowledged codec n userId := by
  rcases h with ⟨node, hnode, websocketMessage, hmessage, task, htask, m, hm, hannounced, hnotification,
    rfl, hwritten, hanswer⟩
  rcases hgrows.nodes node hnode with ⟨node', hnode', hserver⟩
  rcases hserver.tasks task htask with ⟨task', htask', huser, hwsTx⟩
  exact ⟨node', hnode', websocketMessage, hserver.messages hmessage, task', htask', m,
    hgrows.messages hm, hannounced, hnotification, huser, hwsTx hwritten, hserver.answers hanswer⟩

theorem Acknowledged.onDocument {codec : Codec} (h : s.Acknowledged codec n userId) (op : Core.Op)
    : s.Acknowledged codec (op.onDocument n) userId := by
  rcases h with ⟨node, hnode, websocketMessage, hmessage, task, htask, m, hm, hannounced, hrest⟩
  exact ⟨node, hnode, websocketMessage, hmessage, task, htask, m, hm,
    Core.Op.isAnnouncedBy_onDocument hannounced op, hrest⟩

/-- Nobody is given what is not for them, and nothing is taken for delivered that nobody was given. -/
structure Sound (codec : WsDelivery.WebSocketCodec) (s : Deployment) : Prop where
  documented : s.core.Documented
  nodes : ∀ node ∈ s.nodes, node.Faithful codec s.core.messages
  delivered : ∀ n ∈ s.core.store.docs, ∀ userId, n.IsConfirmed userId →
    s.Polled n.id userId ∨ s.Acknowledged codec.toCodec n userId

theorem sound_init : init.Sound codec where
  documented := ⟨by simp [init, Core.Service.init], by simp [init, Core.Service.init]⟩
  nodes := by simp [init]
  delivered := by simp [init, Core.Service.init, Core.Store.empty]

theorem Sound.delivered_of_same (h : s.Sound codec) (hgrows : s.Grows s')
    (hstore : s'.core.store = s.core.store)
    : ∀ n ∈ s'.core.store.docs, ∀ userId, n.IsConfirmed userId →
      s'.Polled n.id userId ∨ s'.Acknowledged codec.toCodec n userId := by
  rw [hstore]
  intro n hn userId hconf
  exact (h.delivered n hn userId hconf).imp (·.of_grows hgrows) (·.of_grows hgrows)

theorem Sound.delivered_of_apply (h : s.Sound codec) (hgrows : s.Grows s') {op : Core.Op}
    (hstore : s'.core.store = s.core.store.apply op)
    (hpushes : ∀ n ∈ s'.core.store.docs, ∀ userId now, op.Pushes n.id userId now →
      s'.Polled n.id userId ∨ s'.Acknowledged codec.toCodec n userId)
    : ∀ n ∈ s'.core.store.docs, ∀ userId, n.IsConfirmed userId →
      s'.Polled n.id userId ∨ s'.Acknowledged codec.toCodec n userId := by
  intro n hn userId hconf
  rcases Core.Store.isConfirmed_apply (hstore ▸ hn) hconf with ⟨n', hn', rfl, hconf'⟩ | ⟨now, hpush⟩
  . rw [Core.Op.onDocument_id]
    rcases h.delivered n' hn' userId hconf' with hpolled | hacknowledged
    . exact .inl (hpolled.of_grows hgrows)
    . exact .inr ((hacknowledged.of_grows hgrows).onDocument op)
  . exact hpushes n hn userId now hpush

theorem Sound.nodes_mono (h : s.Sound codec) (hnodes : s'.nodes = s.nodes)
    (hmessages : s.core.messages ⊆ s'.core.messages)
    : ∀ node ∈ s'.nodes, node.Faithful codec s'.core.messages := by
  rw [hnodes]
  exact fun node hnode => (h.nodes node hnode).mono hmessages

theorem Sound.setNode (h : s.Sound codec) {j : Nat} {node' : WsDelivery.NotificationsConsumerService}
    (hgrows : s.Grows { s with nodes := s.nodes.set j node' })
    (hfaithful : node'.Faithful codec s.core.messages)
    : Sound codec { s with nodes := s.nodes.set j node' } := by
  refine ⟨h.documented, ?_, h.delivered_of_same hgrows rfl⟩
  intro node hnode
  rcases List.mem_or_eq_of_mem_set hnode with hold | rfl
  . exact h.nodes node hold
  . exact hfaithful

/-- Core reads a confirmation as one by a recipient of a notification that is stored. -/
theorem Sound.exists_of_handed (h : s.Sound codec) (hreads : s.ReadsBack codec.toCodec)
    {node : WsDelivery.NotificationsConsumerService} (hnode : node ∈ s.nodes)
    {entry : Uuid × RabbitmqConfirmationProtobuf} (hentry : entry ∈ node.server.handed)
    : ∃ n ∈ s.core.store.docs, ∃ userId,
        Core.ConfirmationsConsumer.decode codec.toCodec (codec.encodeRabbitmqConfirmation entry.2)
            = .ok { userId, id := n.id }
          ∧ n.IsRecipient userId
          ∧ s.Acknowledged codec.toCodec n userId := by
  rcases (h.nodes node hnode).exists_of_handed hentry
    with ⟨websocketMessage, hmessage, task, htask, m, hm, hwritten, hanswer, hnotification, hconfirmation,
      haddressed, userIds, id, timestamp, createdBy, seen, contentType, content, rfl⟩
  rcases h.documented.messages _ hm with ⟨n, hn, habout⟩
  refine ⟨n, hn, task.connection.userId, ?_, habout.isRecipient (s.core.store.valid n hn) haddressed,
    node, hnode, websocketMessage, hmessage, task, htask, _, hm, habout, hnotification, rfl, hwritten,
    hanswer⟩
  have huser := hreads.userIds node hnode task htask
  have hobject := (hreads.notifications _ hm).objectId
  unfold Core.ConfirmationsConsumer.decode
  rw [hreads.confirmations node hnode entry hentry]
  simp only [hconfirmation, Core.ConfirmationsConsumer.tryFrom, huser, hobject, habout.id,
    Option.bind_eq_bind, Option.bind_some, Option.pure_def]

theorem Sound.step (h : s.Sound codec) (htracked : s.Tracked) (hreads : s.ReadsBack codec.toCodec)
    (heffect : Effect config codec s label s') : s'.Sound codec := by
  have hgrows := (htracked.step heffect).2
  cases heffect with
  | core coreLabel core label_eq step store =>
    refine ⟨h.documented.step step, h.nodes_mono rfl hgrows.messages, ?_⟩
    rcases store with hsame | ⟨op, happly, hpushes⟩
    . exact h.delivered_of_same hgrows hsame
    . exact h.delivered_of_apply hgrows happly fun n _ userId now hpush => absurd hpush (hpushes _ _ _)
  | find userId label_eq => exact ⟨h.documented, h.nodes, h.delivered_of_same hgrows rfl⟩
  | poll i poll poll' fetchLabel store poll_eq other step =>
    rcases Poll.tracks_of_step (htracked.polls poll (List.mem_of_getElem? poll_eq)) other step
      with ⟨_, huser, hfound, hstore⟩
    rcases hstore with rfl | ⟨id, ids, now, hid, rfl⟩
    . exact ⟨h.documented, h.nodes, h.delivered_of_same hgrows rfl⟩
    . refine ⟨h.documented.leads (.inr ⟨_, rfl⟩), h.nodes, h.delivered_of_apply hgrows rfl ?_⟩
      rintro n _ userId now' ⟨⟨rfl, _⟩, rfl, _⟩
      have hpoll' := (exists_of_set (b := poll') poll_eq (List.mem_of_getElem? poll_eq)).1
      exact .inl ⟨poll', hpoll', huser, hfound hid⟩
  | start =>
    refine ⟨h.documented, ?_, h.delivered_of_same hgrows rfl⟩
    intro node hnode
    rw [List.mem_append, List.mem_singleton] at hnode
    rcases hnode with hold | rfl
    . exact h.nodes node hold
    . exact WsDelivery.NotificationsConsumerService.faithful_init
  | node j node node' nodeLabel node_eq step content =>
    have hfaithful := h.nodes node (List.mem_of_getElem? node_eq)
    apply h.setNode hgrows
    cases nodeLabel with
    | deliver bytes =>
      rcases content bytes rfl with ⟨m, hm, rfl⟩
      exact hfaithful.deliver hm (hreads.notifications m hm) step
    | _ => exact hfaithful.step (by simp) step
  | collect j node lastUpdates node_eq =>
    have hfaithful := h.nodes node (List.mem_of_getElem? node_eq)
    apply h.setNode hgrows
    exact ⟨hfaithful.registered, hfaithful.stored, hfaithful.called, hfaithful.transmitted,
      hfaithful.confined, hfaithful.deliveries⟩
  | confirm node entry consumerLabel consumer node_mem handed step =>
    rcases Core.Consumer.store_of_step step with hsame | ⟨confirmation, now, hdecode, happly⟩
    . rw [hsame]
      exact h
    . refine ⟨h.documented.leads (.inr ⟨_, happly⟩), h.nodes, h.delivered_of_apply hgrows happly ?_⟩
      rintro n hn _ _ ⟨hid, rfl, _⟩
      rcases h.exists_of_handed hreads node_mem handed with ⟨n', hn', userId, hdecode', _, hacknowledged⟩
      rw [hdecode, Except.ok.injEq] at hdecode'
      subst hdecode'
      -- The document is the one the message has been about.
      have hmem := Core.Store.onDocument_mem_docs_apply hn' (.insertConfirmation n'.id userId now)
      have heq := Core.Store.eq_of_id_eq (happly ▸ hn) hmem (by rw [Core.Op.onDocument_id, hid])
      rw [heq]
      exact .inr ((hacknowledged.of_grows hgrows).onDocument _)

theorem sound_of_run {labels : List DeploymentLabel}
    (hrun : System.run (Deployment.step config codec) init labels = some s)
    (hreads : s.ReadsBack codec.toCodec) : s.Sound codec := by
  have hsound : s.Tracked ∧ (s.ReadsBack codec.toCodec → s.Sound codec) := by
    apply System.run_invariant _ ⟨tracked_init, fun _ => sound_init⟩ hrun
    rintro s label s' ⟨htracked, hsound⟩ hstep
    have heffect := effect_of_step hstep
    rcases htracked.step heffect with ⟨htracked', hgrows⟩
    refine ⟨htracked', ?_⟩
    intro hreads'
    have hreads := hreads'.of_grows hgrows
    exact (hsound hreads).step htracked hreads heffect
  exact hsound.2 hreads

def sampleNew : Core.ProducedNotification :=
  .new [⟨1⟩] ⟨7⟩ 1000000000 ⟨2⟩ false "utf-8" [104, 105]

def sampleProtobuf : RabbitmqNotificationProtobuf where
  userIds := [WsDelivery.Server.sampleUuid ⟨1⟩]
  notification := some {
    id := "000000000000000000000007"
    status := 0
    timestamp := some { seconds := 1, nanos := 0 }
    createdBy := some (WsDelivery.Server.sampleUuid ⟨2⟩)
    seen := some false
    contentType := some "utf-8"
    content := some [104, 105]
  }

def sampleContent : Bytes :=
  let ascii (s : String) : Bytes := s.toList.map (fun c => UInt8.ofNat c.toNat)
  [10, 36] ++ ascii (WsDelivery.Server.sampleUuid ⟨1⟩)
    ++ [18, 81, 10, 24] ++ ascii "000000000000000000000007"
    ++ [26, 2, 8, 1, 34, 36] ++ ascii (WsDelivery.Server.sampleUuid ⟨2⟩)
    ++ [40, 0, 50, 5] ++ ascii "utf-8" ++ [58, 2, 104, 105]

def sampleCodec : WsDelivery.WebSocketCodec where
  toCodec := { Core.Consumer.sampleCodec with
    encodeRabbitmqNotification := fun message =>
      if message = sampleProtobuf then sampleContent else []
    decodeRabbitmqNotification := fun content =>
      if content = sampleContent then some sampleProtobuf else none
    uuidToString := WsDelivery.Server.sampleUuid
    uuidFromStr := fun s =>
      [⟨1⟩, ⟨2⟩, ⟨100⟩].find? fun uuid => WsDelivery.Server.sampleUuid uuid = s
  }
  decodeWebSocketConfirmation := WsDelivery.Server.sampleCodec.decodeWebSocketConfirmation

def sampleConfig : DeploymentConfig where
  notificationsService := ⟨100⟩
  websocketsService := WsDelivery.Server.sampleConfig
  deduplicationService := ⟨3600000000000⟩

-- A notification is saved, delivered to the user's device, confirmed by it, and that recorded.
def sampleRun : List DeploymentLabel := [
  .core (.call (.saveNotification ⟨2⟩ Core.Service.sampleInput)),
  .core (.validate 0 1000000000 1000000000),
  .core (.insert 0 ⟨7⟩),
  .core (.send 0),
  .start,
  .node 0 (.server (.handleClient ⟨1⟩ 0 0 ⟨101⟩)),
  .deliver 0 0,
  .node 0 (.deduplicate 0),
  .node 0 (.send 0 2000000000 ⟨100⟩),
  .node 0 (.server (.message 0 0 (.ok ()))),
  .node 0 (.server (.incomming 0 0 (some (.ok (.binary WsDelivery.Server.samplePayload))))),
  .node 0 (.server (.hand 0)),
  .confirm 0 0 (.deliver 0 3000000000 true)
]

def sampleDeployment : Deployment :=
  (System.run (Deployment.step sampleConfig sampleCodec) init sampleRun).getD init

theorem run_sampleRun
    : System.run (Deployment.step sampleConfig sampleCodec) init sampleRun = some sampleDeployment := by
  rfl

theorem readsBack_sampleDeployment : sampleDeployment.ReadsBack sampleCodec.toCodec := by
  constructor
  . intro m hm
    have hmessages : sampleDeployment.core.messages = [sampleNew] := by
      rfl
    rw [hmessages, List.mem_singleton] at hm
    rw [hm]
    refine ⟨by rfl, ?_, by rfl⟩
    intro userId huserId
    rw [List.mem_singleton.mp huserId]
    rfl
  . intro node hnode entry hentry
    have hhanded : sampleDeployment.nodes.map (·.server.handed.map (·.2))
        = [[Core.Consumer.sampleMessage]] := by
      rfl
    have hmem := List.mem_map_of_mem (f := (·.server.handed.map (·.2))) hnode
    rw [hhanded, List.mem_singleton] at hmem
    have hentry' := List.mem_map_of_mem (f := (·.2)) hentry
    rw [hmem, List.mem_singleton] at hentry'
    rw [hentry']
    rfl
  . intro node hnode task htask
    have huserIds : sampleDeployment.nodes.map (·.server.tasks.map (·.connection.userId))
        = [[⟨1⟩]] := by
      rfl
    have hmem := List.mem_map_of_mem (f := (·.server.tasks.map (·.connection.userId))) hnode
    rw [huserIds, List.mem_singleton] at hmem
    have htask' := List.mem_map_of_mem (f := (·.connection.userId)) htask
    rw [hmem, List.mem_singleton] at htask'
    rw [htask']
    rfl

/--
However the messages have come to a server, a connection is written only what core has announced about
a stored notification its user is a recipient of.
-/
theorem written_to_recipients (config : DeploymentConfig) (codec : WsDelivery.WebSocketCodec)
    (labels : List DeploymentLabel)
    (hrun : System.run (Deployment.step config codec) init labels = some s)
    (hreads : s.ReadsBack codec.toCodec)
    : ∀ node ∈ s.nodes, ∀ task ∈ node.server.tasks, ∀ payload notification,
        .binary payload ∈ task.connection.wsTx → payload.notification = some notification →
          ∃ m ∈ s.core.messages, ∃ n ∈ s.core.store.docs,
            (message codec.toCodec m).notification = some notification
              ∧ m.About n
              ∧ (m.userIds = [] ∨ task.connection.userId ∈ m.userIds)
              ∧ n.IsRecipient task.connection.userId := by
  intro node hnode task htask payload notification hwritten hnotification
  have h := sound_of_run hrun hreads
  rcases (h.nodes node hnode).confined.written task htask payload hwritten notification hnotification
    with ⟨m, hm, hmessage, haddressed⟩
  rcases h.documented.messages m hm with ⟨n, hn, habout⟩
  exact ⟨m, hm, n, hn, hmessage, habout, haddressed,
    habout.isRecipient (s.core.store.valid n hn) haddressed⟩

theorem written_to_recipients_sampleRun
    : ∃ m ∈ sampleDeployment.core.messages, ∃ n ∈ sampleDeployment.core.store.docs,
        (message sampleCodec.toCodec m).notification = sampleProtobuf.notification
          ∧ m.About n
          ∧ n.IsRecipient ⟨1⟩ := by
  rcases written_to_recipients sampleConfig sampleCodec sampleRun run_sampleRun
    readsBack_sampleDeployment _ (List.mem_of_getElem? (i := 0) rfl)
    _ (List.mem_of_getElem? (i := 0) rfl) _ _ (List.mem_of_getElem? (i := 0) rfl) rfl
    with ⟨m, hm, n, hn, hmessage, habout, _, hrecipient⟩
  exact ⟨m, hm, n, hn, hmessage, habout, hrecipient⟩

/--
A notification is only taken for delivered when a poll of the user has found it, or when a connection
of the user has been transmitted it and the user has confirmed that.
-/
theorem delivered_by_poll_or_confirmation (config : DeploymentConfig)
    (codec : WsDelivery.WebSocketCodec) (labels : List DeploymentLabel)
    (hrun : System.run (Deployment.step config codec) init labels = some s)
    (hreads : s.ReadsBack codec.toCodec)
    : ∀ n ∈ s.core.store.docs, ∀ userId, n.IsConfirmed userId →
        s.Polled n.id userId ∨ s.Acknowledged codec.toCodec n userId := by
  exact (sound_of_run hrun hreads).delivered

theorem delivered_by_poll_or_confirmation_sampleRun
    : sampleDeployment.Polled ⟨7⟩ ⟨1⟩
        ∨ ∃ n ∈ sampleDeployment.core.store.docs, sampleDeployment.Acknowledged sampleCodec.toCodec n ⟨1⟩
    := by
  have hn := List.mem_of_getElem? (l := sampleDeployment.core.store.docs) (i := 0) rfl
  have hdelivered := delivered_by_poll_or_confirmation sampleConfig sampleCodec sampleRun run_sampleRun
    readsBack_sampleDeployment _ hn ⟨1⟩ ⟨_, List.mem_of_getElem? (i := 0) rfl, rfl⟩
  exact hdelivered.imp id fun hacknowledged => ⟨_, hn, hacknowledged⟩

theorem holds_of_admitsAt {store : Core.Store} (confirmation : Core.Confirmation)
    {now : OffsetDateTime} (hadmits : Core.Consumer.AdmitsAt store confirmation now)
    : Core.Consumer.Holds
        (store.apply (.insertConfirmation confirmation.id confirmation.userId now)) confirmation := by
  exact Core.Consumer.holds_insertConfirmation_iff.mpr (.inr ⟨rfl, hadmits⟩)

theorem isConfirmed_of_stepConfirm {j k : Nat} {node : WsDelivery.NotificationsConsumerService}
    {messageId : Uuid} {confirmation : RabbitmqConfirmationProtobuf}
    (hj : s.nodes[j]? = some node) (hk : node.server.handed[k]? = some (messageId, confirmation))
    (hn : n ∈ s.core.store.docs)
    (hdecode : Core.ConfirmationsConsumer.decode codec.toCodec
      (codec.encodeRabbitmqConfirmation confirmation) = .ok { userId, id := n.id })
    (hrecipient : n.IsRecipient userId) (now : OffsetDateTime) (acked : Bool)
    : ∃ s', Deployment.step config codec s (.confirm j k (.deliver 0 now acked)) = some s'
        ∧ (n.Unexpired now → ∃ n' ∈ s'.core.store.docs, n'.id = n.id ∧ n'.IsConfirmed userId) := by
  have hconsumer : ∃ consumer, (Core.Consumer.init s.core.store
      [codec.encodeRabbitmqConfirmation confirmation]).step codec.toCodec (.deliver 0 now acked)
        = some consumer
      ∧ consumer.store = s.core.store.apply (.insertConfirmation n.id userId now) := by
    simp only [Core.Consumer.step, Core.Consumer.init, List.getElem?_cons_zero, hdecode]
    refine ⟨_, rfl, ?_⟩
    split
    . exact Core.Consumer.store_settle _ _ _
    . rfl
  rcases hconsumer with ⟨consumer, hstep, hstore⟩
  refine ⟨s.setStore consumer.store, ?_, ?_⟩
  . simp only [Deployment.step, stepConfirm, hj, hk, hstep, Option.map_some]
  . intro hunexpired
    have hconfirmed := holds_of_admitsAt ⟨userId, n.id⟩ ⟨n, hn, rfl, hrecipient, hunexpired⟩
    rw [← hstore] at hconfirmed
    exact hconfirmed

/--
Every confirmation a server has handed over is one by a recipient of a stored notification that has
been transmitted to them, and nothing but the expiry of the notification keeps core from recording it.
-/
theorem confirmations_recorded (config : DeploymentConfig) (codec : WsDelivery.WebSocketCodec)
    (labels : List DeploymentLabel)
    (hrun : System.run (Deployment.step config codec) init labels = some s)
    (hreads : s.ReadsBack codec.toCodec)
    : ∀ j node k messageId confirmation, s.nodes[j]? = some node →
        node.server.handed[k]? = some (messageId, confirmation) →
          ∃ n ∈ s.core.store.docs, ∃ userId,
            n.IsRecipient userId
              ∧ s.Acknowledged codec.toCodec n userId
              ∧ ∀ now acked, ∃ s',
                Deployment.step config codec s (.confirm j k (.deliver 0 now acked)) = some s'
                  ∧ (n.Unexpired now →
                    ∃ n' ∈ s'.core.store.docs, n'.id = n.id ∧ n'.IsConfirmed userId) := by
  intro j node k messageId confirmation hj hk
  rcases (sound_of_run hrun hreads).exists_of_handed hreads (List.mem_of_getElem? hj)
    (List.mem_of_getElem? hk) with ⟨n, hn, userId, hdecode, hrecipient, hacknowledged⟩
  exact ⟨n, hn, userId, hrecipient, hacknowledged,
    isConfirmed_of_stepConfirm hj hk hn hdecode hrecipient⟩

theorem confirmations_recorded_sampleRun
    : ∃ n ∈ sampleDeployment.core.store.docs, ∃ userId,
        n.IsRecipient userId ∧ sampleDeployment.Acknowledged sampleCodec.toCodec n userId := by
  rcases confirmations_recorded sampleConfig sampleCodec sampleRun run_sampleRun
    readsBack_sampleDeployment 0 _ 0 _ _ rfl rfl with ⟨n, hn, userId, hrecipient, hacknowledged, _⟩
  exact ⟨n, hn, userId, hrecipient, hacknowledged⟩

end Deployment

end TomNotifier
