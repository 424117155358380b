import TomNotifier.Deployment.Nodes

/-!
This module contains what one step of the deployment does, and what no step takes back.
-/

namespace TomNotifier

/-- What the call is going to confirm has been found by it. -/
def Poll.Tracks (poll : Poll) : Prop :=
  match poll.progress with
  | .started => poll.found = []
  | .found notifications _ => ∀ notification ∈ notifications, notification.id ∈ poll.found
  | .confirming _ _ pending => ∀ id ∈ pending, id ∈ poll.found
  | .returned _ => True

namespace Core

variable {store : Store} {fetch fetch' : Fetch} {userId : Uuid} {label : FetchLabel}
variable {codec : Codec} {content : Bytes}

theorem Fetch.store_of_step (hlabel : ∀ op, label ≠ .other op)
    (hstep : fetch.step userId label = some fetch')
    : fetch'.store = fetch.store
        ∨
      ∃ notifications now pending id, fetch.progress = .confirming notifications now pending
        ∧ id ∈ pending
        ∧ fetch'.store = fetch.store.apply
          (.insertManyConfirmationsAt id (notifications.map (·.id)) userId now) := by
  cases Fetch.effect_of_step hstep with
  | find => exact .inl rfl
  | insertManyConfirmations => exact .inl rfl
  | update confirming id_mem => exact .inr ⟨_, _, _, _, confirming, id_mem, rfl⟩
  | finish => exact .inl rfl
  | fail => exact .inl rfl
  | other => exact absurd rfl (hlabel _)

@[simp]
theorem Consumer.store_settle (s : Consumer) (i : Nat) (result : Except ConsumeError Unit)
    : (s.settle i result).store = s.store := by
  unfold settle
  split <;> rfl

theorem Consumer.store_of_step {label : ConsumerLabel} {consumer : Consumer}
    (hstep : (Consumer.init store [content]).step codec label = some consumer)
    : consumer.store = store
        ∨
      ∃ confirmation now, ConfirmationsConsumer.decode codec content = .ok confirmation
        ∧ consumer.store = store.apply (.insertConfirmation confirmation.id confirmation.userId now) := by
  have hcontent : ∀ {i : Nat} {content' : Bytes}, [content][i]? = some content' → content' = content := by
    intro i content' h
    exact List.mem_singleton.mp (List.mem_of_getElem? h)
  cases label with
  | deliver i now acked =>
    simp only [Consumer.step, Consumer.init] at hstep
    split at hstep
    . simp at hstep
    . next content' hget =>
      rw [hcontent hget] at hstep
      split at hstep
      . rw [← Option.some.inj hstep]
        refine .inl ?_
        split
        . exact store_settle _ _ _
        . rfl
      . next confirmation hdecode =>
        rw [← Option.some.inj hstep]
        refine .inr ⟨confirmation, now, hdecode, ?_⟩
        split
        . exact store_settle _ _ _
        . rfl
  | lost i now applied =>
    simp only [Consumer.step, Consumer.init] at hstep
    split at hstep
    . simp at hstep
    . next content' hget =>
      rw [hcontent hget] at hstep
      split at hstep
      . simp at hstep
      . next confirmation hdecode =>
        rw [← Option.some.inj hstep, store_settle]
        cases applied with
        | true => exact .inr ⟨confirmation, now, hdecode, rfl⟩
        | false => exact .inl rfl

end Core

/-- A call confirms what it has found, on behalf of its user. -/
theorem Poll.tracks_of_step {store store' : Core.Store} {poll poll' : Poll} {label : Core.FetchLabel}
    (htracks : poll.Tracks) (hlabel : ∀ op, label ≠ .other op)
    (hstep : poll.step store label = some (store', poll'))
    : poll'.Tracks ∧ poll'.userId = poll.userId ∧ poll.found ⊆ poll'.found
        ∧ (store' = store
          ∨ ∃ id ids now, id ∈ poll.found
            ∧ store' = store.apply (.insertManyConfirmationsAt id ids poll.userId now)) := by
  unfold Poll.step at hstep
  dsimp only at hstep
  split at hstep
  . simp at hstep
  . next fetch hfetch =>
    rw [Option.some.injEq, Prod.mk.injEq] at hstep
    rcases hstep with ⟨rfl, rfl⟩
    have hstore := Core.Fetch.store_of_step hlabel hfetch
    have hconfirms : fetch.store = store
        ∨ ∃ id ids now, id ∈ poll.found
          ∧ fetch.store = store.apply (.insertManyConfirmationsAt id ids poll.userId now) := by
      rcases hstore with hsame | ⟨notifications, now, pending, id, hprogress, hid, happly⟩
      . exact .inl hsame
      . dsimp only at hprogress
        unfold Poll.Tracks at htracks
        rw [hprogress] at htracks
        exact .inr ⟨id, _, now, htracks id hid, happly⟩
    unfold Poll.Tracks at htracks
    cases Core.Fetch.effect_of_step hfetch with
    | find started found =>
      dsimp only at started
      rw [started] at htracks
      dsimp only at htracks
      refine ⟨?_, rfl, by simp [htracks], hconfirms⟩
      rcases found with rfl | rfl
      . trivial
      . exact fun notification hmem => List.mem_map_of_mem hmem
    | insertManyConfirmations found =>
      refine ⟨?_, rfl, List.Subset.refl _, hconfirms⟩
      dsimp only at found
      rw [found] at htracks
      intro id hid
      rcases List.mem_map.mp hid with ⟨notification, hmem, rfl⟩
      exact htracks notification hmem
    | update confirming =>
      refine ⟨?_, rfl, List.Subset.refl _, hconfirms⟩
      dsimp only at confirming
      rw [confirming] at htracks
      exact fun id hid => htracks id (List.mem_of_mem_erase hid)
    | finish => exact ⟨trivial, rfl, List.Subset.refl _, hconfirms⟩
    | fail => exact ⟨trivial, rfl, List.Subset.refl _, hconfirms⟩
    | other => exact absurd rfl (hlabel _)

namespace Deployment

variable {config : DeploymentConfig} {codec : WsDelivery.WebSocketCodec} {s s' : Deployment}
variable {label : DeploymentLabel}

structure Grows (s s' : Deployment) : Prop where
  messages : s.core.messages ⊆ s'.core.messages
  polls : ∀ poll ∈ s.polls, ∃ poll' ∈ s'.polls, poll'.userId = poll.userId ∧ poll.found ⊆ poll'.found
  nodes : ∀ node ∈ s.nodes, ∃ node' ∈ s'.nodes, node.server.Grows node'.server

/-- What holds however the crates behave. -/
structure Tracked (s : Deployment) : Prop where
  polls : ∀ poll ∈ s.polls, poll.Tracks
  nodes : ∀ node ∈ s.nodes, node.server.Stored

theorem tracked_init : init.Tracked where
  polls := by simp [init]
  nodes := by simp [init]

theorem Grows.core {core : Core.Service} (h : s.core.messages ⊆ core.messages)
    : s.Grows { s with core } where
  messages := h
  polls poll hpoll := ⟨poll, hpoll, rfl, List.Subset.refl _⟩
  nodes node hnode := ⟨node, hnode, .refl _⟩

theorem exists_of_set {α : Type} {l : List α} {i : Nat} {a b c : α} (hi : l[i]? = some a) (hc : c ∈ l)
    : b ∈ l.set i b ∧ (c = a ∨ c ∈ l.set i b) := by
  have hlt := (List.getElem?_eq_some_iff.mp hi).1
  refine ⟨List.mem_of_getElem? (List.getElem?_set_self hlt), ?_⟩
  by_cases hca : c = a
  . exact .inl hca
  . exact .inr (Registry.State.mem_set_of_ne hi hc hca)

theorem Tracked.setNode (h : s.Tracked) {j : Nat} {node node' : WsDelivery.NotificationsConsumerService}
    (hj : s.nodes[j]? = some node) (hstored : node'.server.Stored)
    (hgrows : node.server.Grows node'.server)
    : Tracked { s with nodes := s.nodes.set j node' }
        ∧ s.Grows { s with nodes := s.nodes.set j node' } := by
  refine ⟨⟨h.polls, ?_⟩, List.Subset.refl _,
    fun poll hpoll => ⟨poll, hpoll, rfl, List.Subset.refl _⟩, ?_⟩
  . intro node₁ hnode₁
    rcases List.mem_or_eq_of_mem_set hnode₁ with hold | rfl
    . exact h.nodes node₁ hold
    . exact hstored
  . intro node₁ hnode₁
    rcases exists_of_set (b := node') hj hnode₁ with ⟨hnew, rfl | hold⟩
    . exact ⟨node', hnew, hgrows⟩
    . exact ⟨node₁, hold, .refl _⟩

inductive Effect (config : DeploymentConfig) (codec : WsDelivery.WebSocketCodec) (s : Deployment)
    (label : DeploymentLabel) : Deployment → Prop where
  | core (coreLabel : Core.Label) (core : Core.Service) (label_eq : label = .core coreLabel)
    (step : s.core.step config.notificationsService coreLabel = some core)
    (store : core.store = s.core.store
      ∨ ∃ op, core.store = s.core.store.apply op ∧ ∀ id userId now, ¬op.Pushes id userId now)
    : Effect config codec s label { s with core }
  | find (userId : Uuid) (label_eq : label = .find userId)
    : Effect config codec s label { s with polls := s.polls ++ [⟨userId, .started, []⟩] }
  | poll (i : Nat) (poll poll' : Poll) (fetchLabel : Core.FetchLabel) (store : Core.Store)
    (poll_eq : s.polls[i]? = some poll) (other : ∀ op, fetchLabel ≠ .other op)
    (step : poll.step s.core.store fetchLabel = some (store, poll'))
    : Effect config codec s label { s.setStore store with polls := s.polls.set i poll' }
  | start : Effect config codec s label { s with nodes := s.nodes ++ [.init] }
  | node (j : Nat) (node node' : WsDelivery.NotificationsConsumerService)
    (nodeLabel : WsDelivery.ConsumerLabel) (node_eq : s.nodes[j]? = some node)
    (step : node.step config.websocketsService codec nodeLabel = some node')
    (content : ∀ content, nodeLabel = .deliver content → ∃ m ∈ s.core.messages,
      content = (Core.NotificationsProducerService.produce codec.toCodec m).content)
    : Effect config codec s label { s with nodes := s.nodes.set j node' }
  | collect (j : Nat) (node : WsDelivery.NotificationsConsumerService)
    (lastUpdates : WsDelivery.LastUpdates) (node_eq : s.nodes[j]? = some node)
    : Effect config codec s label { s with nodes := s.nodes.set j { node with lastUpdates } }
  | confirm (node : WsDelivery.NotificationsConsumerService)
    (entry : Uuid × RabbitmqConfirmationProtobuf) (consumerLabel : Core.ConsumerLabel)
    (consumer : Core.Consumer) (node_mem : node ∈ s.nodes) (handed : entry ∈ node.server.handed)
    (step : (Core.Consumer.init s.core.store [codec.encodeRabbitmqConfirmation entry.2]).step
      codec.toCodec consumerLabel = some consumer)
    : Effect config codec s label (s.setStore consumer.store)

theorem effect_of_core {coreLabel : Core.Label} (h : s.stepCore config coreLabel = some s')
    (hstore : ∀ core, s.core.step config.notificationsService coreLabel = some core →
      core.store = s.core.store
        ∨ ∃ op, core.store = s.core.store.apply op ∧ ∀ id userId now, ¬op.Pushes id userId now)
    : Effect config codec s (.core coreLabel) s' := by
  unfold stepCore at h
  rw [Option.map_eq_some_iff] at h
  rcases h with ⟨core, hstep, rfl⟩
  exact .core coreLabel core rfl hstep (hstore core hstep)

theorem effect_of_node {j : Nat} {nodeLabel : WsDelivery.ConsumerLabel}
    (h : s.stepNode config codec j nodeLabel = some s')
    (hcontent : ∀ content, nodeLabel = .deliver content → ∃ m ∈ s.core.messages,
      content = (Core.NotificationsProducerService.produce codec.toCodec m).content)
    : Effect config codec s label s' := by
  unfold stepNode at h
  split at h
  . simp at h
  . next node hj =>
    rw [Option.map_eq_some_iff] at h
    rcases h with ⟨node', hstep, rfl⟩
    exact .node j node node' nodeLabel hj hstep hcontent

theorem effect_of_step (h : step config codec s label = some s') : Effect config codec s label s' := by
  cases label with
  | core label =>
    cases label with
    | call request =>
      refine effect_of_core h ?_
      intro core hstep
      exact .inl (Option.some.inj hstep ▸ rfl)
    | repository op =>
      cases op with
      | updateInvalidateAt id producerId invalidateAt =>
        refine effect_of_core h ?_
        intro core hstep
        rw [← Option.some.inj hstep]
        exact .inr ⟨.updateInvalidateAt id producerId invalidateAt, rfl, fun _ _ _ => not_false⟩
      | _ => simp [step] at h
    | _ =>
      refine effect_of_core h ?_
      intro core hstep
      rcases Core.Service.op_of_step hstep rfl with hsame | ⟨call, _, id, op, hop, happly, _⟩
      . exact .inl hsame
      . exact .inr ⟨op, happly, fun _ _ _ => Core.Service.not_pushes_of_op? hop⟩
  | find userId => exact Option.some.inj h ▸ .find userId rfl
  | poll i label =>
    have hpoll : (∀ op, label ≠ .other op) ∧ s.stepPoll i label = some s' := by
      cases label with
      | other op => simp [step] at h
      | _ => exact ⟨by simp, h⟩
    rcases hpoll with ⟨hother, hstep⟩
    unfold stepPoll at hstep
    split at hstep
    . simp at hstep
    . next poll hi =>
      rw [Option.map_eq_some_iff] at hstep
      rcases hstep with ⟨⟨store, poll'⟩, hpoll, rfl⟩
      exact .poll i poll poll' label store hi hother hpoll
  | start => exact Option.some.inj h ▸ .start
  | deliver j k =>
    simp only [step] at h
    split at h
    . simp at h
    . next m hm =>
      refine effect_of_node h ?_
      intro content hcontent
      rw [WsDelivery.ConsumerLabel.deliver.injEq] at hcontent
      exact ⟨m, List.mem_of_getElem? hm, hcontent.symm⟩
  | node j label =>
    cases label with
    | deliver content => simp [step] at h
    | _ => exact effect_of_node h (by simp)
  | collect j now =>
    simp only [step, stepCollect, Option.map_eq_some_iff] at h
    rcases h with ⟨node, hj, rfl⟩
    exact .collect j node _ hj
  | confirm j k label =>
    simp only [step] at h
    unfold stepConfirm at h
    split at h
    . simp at h
    . next node hj =>
      split at h
      . simp at h
      . next messageId confirmation hk =>
        rw [Option.map_eq_some_iff] at h
        rcases h with ⟨consumer, hstep, rfl⟩
        exact .confirm node (messageId, confirmation) label consumer (List.mem_of_getElem? hj)
          (List.mem_of_getElem? hk) hstep

theorem Tracked.step (h : s.Tracked) (heffect : Effect config codec s label s')
    : s'.Tracked ∧ s.Grows s' := by
  cases heffect with
  | core coreLabel core label_eq step store =>
    exact ⟨⟨h.polls, h.nodes⟩, .core (Core.Service.messages_subset_of_step step)⟩
  | find userId label_eq =>
    refine ⟨⟨?_, h.nodes⟩, List.Subset.refl _, ?_, fun node hnode => ⟨node, hnode, .refl _⟩⟩
    . intro poll hpoll
      rw [List.mem_append, List.mem_singleton] at hpoll
      rcases hpoll with hold | rfl
      . exact h.polls poll hold
      . rfl
    . intro poll hpoll
      exact ⟨poll, List.mem_append_left _ hpoll, rfl, List.Subset.refl _⟩
  | poll i poll poll' fetchLabel store poll_eq other step =>
    rcases Poll.tracks_of_step (h.polls poll (List.mem_of_getElem? poll_eq)) other step
      with ⟨htracks, huser, hfound, _⟩
    refine ⟨⟨?_, h.nodes⟩, List.Subset.refl _, ?_, fun node hnode => ⟨node, hnode, .refl _⟩⟩
    . intro poll₁ hpoll₁
      rcases List.mem_or_eq_of_mem_set hpoll₁ with hold | rfl
      . exact h.polls poll₁ hold
      . exact htracks
    . intro poll₁ hpoll₁
      rcases exists_of_set (b := poll') poll_eq hpoll₁ with ⟨hnew, rfl | hold⟩
      . exact ⟨poll', hnew, huser, hfound⟩
      . exact ⟨poll₁, hold, rfl, List.Subset.refl _⟩
  | start =>
    refine ⟨⟨h.polls, ?_⟩, List.Subset.refl _,
      fun poll hpoll => ⟨poll, hpoll, rfl, List.Subset.refl _⟩, ?_⟩
    . intro node hnode
      rw [List.mem_append, List.mem_singleton] at hnode
      rcases hnode with hold | rfl
      . exact h.nodes node hold
      . exact WsDelivery.Server.stored_init
    . intro node hnode
      exact ⟨node, List.mem_append_left _ hnode, .refl _⟩
  | node j node node' nodeLabel node_eq step content =>
    rcases WsDelivery.NotificationsConsumerService.stored_of_step
      (h.nodes node (List.mem_of_getElem? node_eq)) step with ⟨hstored, hgrows⟩
    exact h.setNode node_eq hstored hgrows
  | collect j node lastUpdates node_eq =>
    exact h.setNode node_eq (h.nodes node (List.mem_of_getElem? node_eq)) (.refl _)
  | confirm node entry consumerLabel consumer node_mem handed step =>
    exact ⟨⟨h.polls, h.nodes⟩, .core (List.Subset.refl _)⟩

end Deployment

end TomNotifier
