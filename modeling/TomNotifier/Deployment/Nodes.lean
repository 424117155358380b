import TomNotifier.Deployment.Impl
import TomNotifier.WsDelivery.Consumer.Events
import TomNotifier.WsDelivery.WebSockets.Transmissions

/-!
This module contains one server of the deployment: whatever it is delivered, what it has for its users
is what core has produced for them.
-/

namespace TomNotifier.WsDelivery

open Core.NotificationsProducerService (message produce)

theorem ServerLabel.notification_of_mem_posted {codec : Codec} {ok : Bool} {label : ServerLabel}
    {userId : Uuid} {payload : WebSocketNotificationProtobuf} (h : payload ∈ label.posted codec ok userId)
    : payload.notification = none
        ∨
      ∃ userIds notification now messageId, label = .send userIds notification now messageId
        ∧ payload.notification = some notification
        ∧ (userIds = [] ∨ userId ∈ userIds) := by
  cases label with
  | handleClient userId' now instant messageId =>
    rw [posted] at h
    split at h
    . rw [List.mem_singleton] at h
      exact .inl (h ▸ rfl)
    . simp at h
  | send userIds notification now messageId =>
    rw [posted, List.mem_replicate] at h
    refine .inr ⟨userIds, notification, now, messageId, rfl, h.2 ▸ rfl, ?_⟩
    exact WebSocketsServiceImpl.copies_pos_iff.mp (Nat.pos_of_ne_zero h.1)
  | broadcastNetworkStatus status now messageId =>
    rw [posted, List.mem_singleton] at h
    exact .inl (h ▸ rfl)
  | _ => simp [posted] at h

/-- What a server only gets more of. -/
structure Server.Grows (s s' : Server) : Prop where
  messages : s.messages ⊆ s'.messages
  answers : s.answers ⊆ s'.answers
  handed : s.handed ⊆ s'.handed
  tasks : ∀ task ∈ s.tasks, ∃ task' ∈ s'.tasks,
    task'.connection.userId = task.connection.userId
      ∧ task.connection.wsTx ⊆ task'.connection.wsTx

theorem Server.Grows.refl (s : Server) : s.Grows s where
  messages := List.Subset.refl _
  answers := List.Subset.refl _
  handed := List.Subset.refl _
  tasks task htask := ⟨task, htask, rfl, List.Subset.refl _⟩

theorem Server.grows_of_step {s s' : Server} {config : WebSocketsServiceConfig}
    {codec : WebSocketCodec} {label : ServerLabel} (h : s.Stored)
    (hstep : Server.step config codec s label = some s') : s.Grows s' := by
  constructor
  . exact h.messages_subset hstep
  . rcases answers_of_step hstep with hsame | ⟨_, _, _, _, hanswers⟩
    . exact hsame ▸ List.Subset.refl _
    . exact hanswers ▸ List.subset_append_left _ _
  . cases (h.step hstep).2 with
    | quiet messages answers handed flags pendings => exact handed ▸ List.Subset.refl _
    | create message fresh flag messages answers handed flags pendings =>
      exact handed ▸ List.Subset.refl _
    | ignore message userId mem callback messages answers handed flags pendings =>
      exact handed ▸ List.Subset.refl _
    | confirm message userId callback mem callback_eq messages answers handed flags pendings =>
      exact handed ▸ List.Subset.refl _
    | hand entry messages answers handed flags pendings =>
      exact handed ▸ List.subset_append_left _ _
  . intro task htask
    rcases List.mem_iff_getElem?.mp htask with ⟨i, hi⟩
    rcases exists_wrote hstep hi with ⟨task', hi', hwrote⟩
    rcases hwrote.wsTx with ⟨new, hwsTx, _⟩
    exact ⟨task', List.mem_of_getElem? hi', hwrote.userId, hwsTx ▸ List.subset_append_left _ _⟩

namespace NotificationsConsumerService

variable {codec : WebSocketCodec} {config : WebSocketsServiceConfig}
variable {published published' : List Core.ProducedNotification} {s s' : NotificationsConsumerService}
variable {m : Core.ProducedNotification} {request : DeliveryCallback.Request} {content : Bytes}

/-- If it is about a notification at all, core has produced it for the user. -/
def ProducedFor (codec : Codec) (published : List Core.ProducedNotification) (userId : Uuid)
    (payload : WebSocketNotificationProtobuf) : Prop :=
  ∀ notification, payload.notification = some notification →
    ∃ m ∈ published, (message codec m).notification = some notification
      ∧ (m.userIds = [] ∨ userId ∈ m.userIds)

structure Faithful (codec : WebSocketCodec) (published : List Core.ProducedNotification)
    (s : NotificationsConsumerService) : Prop where
  registered : ∃ entries, s.server.Registered entries
  stored : s.server.Stored
  called : s.server.Called codec.toCodec
  transmitted : s.server.Transmitted
  confined : s.server.Confined (ProducedFor codec.toCodec published)
  deliveries : ∀ delivery ∈ s.deliveries, ∃ m ∈ published,
    (message codec.toCodec m).notification = some delivery.request.notification
      ∧ delivery.request.userIds = m.userIds

theorem faithful_init : init.Faithful codec published where
  registered := ⟨[], Server.registered_init⟩
  stored := Server.stored_init
  called := Server.called_init
  transmitted := Server.transmitted_init
  confined := Server.confined_init
  deliveries := by simp [init]

theorem Faithful.mono (h : s.Faithful codec published) (hsubset : published ⊆ published')
    : s.Faithful codec published' := by
  have hproduced : ∀ userId payload, ProducedFor codec.toCodec published userId payload →
      ProducedFor codec.toCodec published' userId payload := by
    intro userId payload hpayload notification hnotification
    rcases hpayload notification hnotification with ⟨m, hm, hrest⟩
    exact ⟨m, hsubset hm, hrest⟩
  refine ⟨h.registered, h.stored, h.called, h.transmitted, ⟨?_, ?_⟩, ?_⟩
  . intro tx channel userId hchannel howns message hmessage
    exact hproduced _ _ (h.confined.queued tx channel userId hchannel howns message hmessage)
  . intro task htask payload hpayload
    exact hproduced _ _ (h.confined.written task htask payload hpayload)
  . intro delivery hdelivery
    rcases h.deliveries delivery hdelivery with ⟨m, hm, hrest⟩
    exact ⟨m, hsubset hm, hrest⟩

theorem Faithful.server (h : s.Faithful codec published) {server : Server} {label : ServerLabel}
    (hstep : Server.step config codec s.server label = some server)
    (hposted : ∀ userIds notification now messageId, label = .send userIds notification now messageId →
      ∃ m ∈ published, (message codec.toCodec m).notification = some notification ∧ userIds = m.userIds)
    : Faithful codec published { s with server } := by
  rcases h.registered with ⟨entries, hregistered⟩
  have hstored := h.stored.step hstep
  refine ⟨⟨_, hregistered.step (Server.effect_of_step hstep)⟩, hstored.1,
    h.called.step h.stored hstep, h.transmitted.step h.stored hstep,
    h.confined.step hregistered h.transmitted hstep ?_, h.deliveries⟩
  intro userId payload hpayload notification hnotification
  rcases ServerLabel.notification_of_mem_posted hpayload
    with hnone | ⟨userIds, notification', now, messageId, hlabel, hsome, haddressed⟩
  . simp [hnone] at hnotification
  . rw [hnotification, Option.some.injEq] at hsome
    subst hsome
    rcases hposted userIds notification now messageId hlabel with ⟨m, hm, hmessage, huserIds⟩
    exact ⟨m, hm, hmessage, huserIds ▸ haddressed⟩

/-- What is parsed of a message that can be read is what core has put into it. -/
theorem request_of_parse (hreads : codec.toCodec.ReadsBack m)
    (hparse : DeliveryCallback.parse codec.toCodec (produce codec.toCodec m).content = .ok request)
    : (message codec.toCodec m).notification = some request.notification
        ∧ request.userIds = m.userIds := by
  rcases DeliveryCallback.parse_eq_ok_iff.mp hparse
    with ⟨decoded, hdecoded, hnotification, huserIds, _⟩
  rw [Core.NotificationsProducerService.produce_content, hreads.message, Option.some.injEq]
    at hdecoded
  subst hdecoded
  refine ⟨hnotification, ?_⟩
  rcases Core.NotificationsProducerService.message_eq codec.toCodec m with ⟨_, _, _, _, _, hmessage⟩
  rw [hmessage] at huserIds
  have hmap := DeliveryCallback.parseUserIds_map hreads.userIds
  dsimp only [Core.NotificationsProducerService.messageOf] at huserIds
  rw [hmap, Option.some.injEq] at huserIds
  exact huserIds.symm

theorem Faithful.deliver (h : s.Faithful codec published) (hm : m ∈ published)
    (hreads : codec.toCodec.ReadsBack m)
    (hstep : step config codec s (.deliver (produce codec.toCodec m).content) = some s')
    : s'.Faithful codec published := by
  unfold NotificationsConsumerService.step at hstep
  dsimp only at hstep
  split at hstep
  . exact Option.some.inj hstep ▸ h
  . next request hparse =>
    rw [← Option.some.inj hstep]
    refine ⟨h.registered, h.stored, h.called, h.transmitted, h.confined, ?_⟩
    intro delivery hdelivery
    rw [List.mem_append, List.mem_singleton] at hdelivery
    rcases hdelivery with hold | rfl
    . exact h.deliveries delivery hold
    . exact ⟨m, hm, request_of_parse hreads hparse⟩

theorem Faithful.set (h : s.Faithful codec published) {i : Nat} {state state' : DeliveryState}
    {lastUpdates : LastUpdates} (hi : s.deliveries[i]? = some ⟨request, state⟩)
    : Faithful codec published
        { s with lastUpdates, deliveries := s.deliveries.set i ⟨request, state'⟩ } := by
  refine ⟨h.registered, h.stored, h.called, h.transmitted, h.confined, ?_⟩
  intro delivery hdelivery
  rcases List.mem_or_eq_of_mem_set hdelivery with hold | rfl
  . exact h.deliveries delivery hold
  . have hrequest := h.deliveries _ (List.mem_of_getElem? hi)
    exact hrequest

theorem server_of_step {label : ConsumerLabel} (hstep : step config codec s label = some s')
    : s'.server = s.server ∨ ∃ label, Server.step config codec s.server label = some s'.server := by
  cases label with
  | deliver content =>
    unfold step at hstep
    dsimp only at hstep
    split at hstep
    . exact .inl (Option.some.inj hstep ▸ rfl)
    . exact .inl (Option.some.inj hstep ▸ rfl)
  | deduplicate i =>
    unfold step at hstep
    dsimp only at hstep
    split at hstep
    . split at hstep
      . exact .inl (Option.some.inj hstep ▸ rfl)
      . exact .inl (Option.some.inj hstep ▸ rfl)
    . simp at hstep
  | send i now messageId =>
    unfold step at hstep
    dsimp only at hstep
    split at hstep
    . rw [Option.map_eq_some_iff] at hstep
      rcases hstep with ⟨server, hserver, rfl⟩
      exact .inr ⟨_, hserver⟩
    . simp at hstep
  | server label =>
    cases label with
    | send userIds notification now messageId => simp [step] at hstep
    | _ =>
      simp only [step, Option.map_eq_some_iff] at hstep
      rcases hstep with ⟨server, hserver, rfl⟩
      exact .inr ⟨_, hserver⟩

theorem stored_of_step {label : ConsumerLabel} (h : s.server.Stored)
    (hstep : step config codec s label = some s') : s'.server.Stored ∧ s.server.Grows s'.server := by
  rcases server_of_step hstep with hsame | ⟨label, hserver⟩
  . rw [hsame]
    exact ⟨h, .refl _⟩
  . exact ⟨(h.step hserver).1, Server.grows_of_step h hserver⟩

theorem Faithful.step (h : s.Faithful codec published) {label : ConsumerLabel}
    (hlabel : ∀ content, label ≠ .deliver content)
    (hstep : NotificationsConsumerService.step config codec s label = some s')
    : s'.Faithful codec published := by
  cases label with
  | deliver content => exact absurd rfl (hlabel content)
  | deduplicate i =>
    unfold NotificationsConsumerService.step at hstep
    dsimp only at hstep
    split at hstep
    . next request hi =>
      split at hstep
      . rw [← Option.some.inj hstep]
        exact h.set hi
      . rw [← Option.some.inj hstep]
        exact h.set hi
    . simp at hstep
  | send i now messageId =>
    unfold NotificationsConsumerService.step at hstep
    dsimp only at hstep
    split at hstep
    . next request hi =>
      rw [Option.map_eq_some_iff] at hstep
      rcases hstep with ⟨server, hserver, rfl⟩
      apply (h.server hserver _).set (s := { s with server }) hi
      intro userIds notification now' messageId' heq
      simp only [ServerLabel.send.injEq] at heq
      rcases heq with ⟨rfl, rfl, _, _⟩
      exact h.deliveries _ (List.mem_of_getElem? hi)
    . simp at hstep
  | server label =>
    cases label with
    | send userIds notification now messageId => simp [NotificationsConsumerService.step] at hstep
    | _ =>
      simp only [NotificationsConsumerService.step, Option.map_eq_some_iff] at hstep
      rcases hstep with ⟨server, hserver, rfl⟩
      exact h.server hserver (by simp)

/-- Only a NEW message of core is read as one. -/
theorem exists_new {codec : Codec} {protobuf : NotificationProtobuf}
    (hmessage : (message codec m).notification = some protobuf)
    (hnew : protobuf.statusOrDefault = .new)
    : protobuf.id = codec.objectIdToHex m.id
        ∧ ∃ userIds id timestamp createdBy seen contentType content,
          m = .new userIds id timestamp createdBy seen contentType content := by
  cases m with
  | new userIds id timestamp createdBy seen contentType content =>
    rw [← Option.some.inj hmessage]
    exact ⟨rfl, _, _, _, _, _, _, _, rfl⟩
  | updated userId id seen timestamp =>
    rw [← Option.some.inj hmessage] at hnew
    simp [NotificationProtobuf.statusOrDefault, NotificationStatusProtobuf.toInt32,
      NotificationStatusProtobuf.ofInt32?] at hnew
  | deleted userId id timestamp =>
    rw [← Option.some.inj hmessage] at hnew
    simp [NotificationProtobuf.statusOrDefault, NotificationStatusProtobuf.toInt32,
      NotificationStatusProtobuf.ofInt32?] at hnew

/--
A confirmation that has been handed over is about a NEW message of core, by a user it is for, whom it
has been transmitted to and who has confirmed it.
-/
theorem Faithful.exists_of_handed (h : s.Faithful codec published)
    {entry : Uuid × RabbitmqConfirmationProtobuf} (hentry : entry ∈ s.server.handed)
    : ∃ websocketMessage ∈ s.server.messages, ∃ task ∈ s.server.tasks, ∃ m ∈ published,
        .binary websocketMessage.payload ∈ task.connection.wsTx
          ∧ (websocketMessage.messageId, task.connection.userId) ∈ s.server.answers
          ∧ websocketMessage.payload.notification = (message codec.toCodec m).notification
          ∧ entry.2 = {
              userId := codec.uuidToString task.connection.userId
              id := codec.objectIdToHex m.id
            }
          ∧ (m.userIds = [] ∨ task.connection.userId ∈ m.userIds)
          ∧ ∃ userIds id timestamp createdBy seen contentType content,
            m = .new userIds id timestamp createdBy seen contentType content := by
  rcases entry with ⟨messageId, confirmation⟩
  have habout : confirmation ∈ about messageId s.server.handed := by
    exact List.mem_map.mpr ⟨_, List.mem_filter.mpr ⟨hentry, by simp⟩, rfl⟩
  have hknown : messageId ∈ s.server.messages.map (·.messageId) := by
    by_contra hunknown
    rw [(h.called.unknown messageId hunknown).2.1] at habout
    simp at habout
  rcases List.mem_map.mp hknown with ⟨websocketMessage, hmessage, rfl⟩
  have hfirst := (h.called.handed websocketMessage hmessage).subset (List.mem_append_left _ habout)
  cases hconfirmers : s.server.confirmers websocketMessage.messageId with
  | nil =>
    rw [hconfirmers] at hfirst
    simp [Server.firstConfirmation] at hfirst
  | cons userId userIds =>
    rw [hconfirmers, Server.firstConfirmation, Option.mem_toList, Option.map_eq_some_iff] at hfirst
    rcases hfirst with ⟨callback, hcallback, rfl⟩
    have hanswer : (websocketMessage.messageId, userId) ∈ s.server.answers := by
      have hmem : userId ∈ s.server.confirmers websocketMessage.messageId :=
        hconfirmers ▸ List.mem_cons_self
      rcases List.mem_map.mp hmem with ⟨answer, hanswer, rfl⟩
      rw [List.mem_filter, decide_eq_true_eq] at hanswer
      exact hanswer.2 ▸ hanswer.1
    rcases h.transmitted.answered _ _ hanswer with ⟨message', hmessage', hid, task, htask, rfl, hwritten⟩
    have hsame := h.stored.eq_of_messageId hmessage' hmessage hid
    subst hsame
    have hnamed := h.stored.named _ hmessage
    rw [Server.Named, hcallback, Option.map_some, eq_comm,
      Option.map_eq_some_iff] at hnamed
    rcases hnamed with ⟨protobuf, hprotobuf, hcallbackId⟩
    rw [Option.filter_eq_some_iff, decide_eq_true_eq] at hprotobuf
    rcases h.confined.written task htask _ hwritten protobuf hprotobuf.1 with ⟨m, hm, hproduced, hfor⟩
    rcases exists_new hproduced hprotobuf.2 with ⟨hprotobufId, hnew⟩
    refine ⟨message', hmessage, task, htask, m, hm, hwritten, hanswer, ?_, ?_, hfor, hnew⟩
    . rw [hprotobuf.1, hproduced]
    . rw [← hprotobufId, hcallbackId]

end NotificationsConsumerService

end TomNotifier.WsDelivery
