import TomNotifier.Rabbitmq.Producer.Custody
import Mathlib.Data.List.Nodup

/-!
This module contains the places of the messages a producer is handed and the numbers of the
unconfirmed ones, whatever confirms its callback queues.
-/

namespace TomNotifier.Rabbitmq.Producer

open Numbered

def BrokerChannel.numbered? (channel : BrokerChannel) (tag : Nat) : Option BoxedMessage :=
  -- The publishes on a channel are numbered from 1 on.
  if tag = 0 then none else channel.published[tag - 1]?.map (·.1)

namespace StateMachine

def inOk (p : StateMachine) : Bool :=
  match p.state with
  | .ok _ _ _ => true
  | _ => false

/-- The state machine is in `ok_state` or on its way there with a new channel. -/
def reopened (p : StateMachine) : Bool :=
  match p.state with
  | .ok _ _ _ => true
  | .recreatingChannel .registering => true
  | .restoringProducer => true
  | _ => false

/-- The messages the confirm removes if it is an ack. -/
def ackedBy (p : StateMachine) (confirm : Option PublisherConfirm) : List BoxedMessage :=
  match confirm with
  | none => []
  | some confirm =>
    match confirm.variant with
    | .ack => (removeConfirmed confirm p.unconfirmedMessages).1.map (·.2)
    | .nack => []

theorem inOk_congr {p p' : StateMachine} (h : p'.state = p.state) : p'.inOk = p.inOk := by
  unfold inOk
  rw [h]

theorem reopened_congr {p p' : StateMachine} (h : p'.state = p.state)
    : p'.reopened = p.reopened := by
  unfold reopened
  rw [h]

theorem reopened_of_inOk {p : StateMachine} (h : p.inOk = true) : p.reopened = true := by
  unfold inOk at h
  unfold reopened
  split at h
  . next hstate => rw [hstate]
  . contradiction

end StateMachine

/-- The world of a producer together with what somebody who watches it takes down. -/
structure Ledger where
  world : World
  -- history: every message that was removed by an ack
  acked : List BoxedMessage
  -- history: how many channels had been opened when `ok_state` was left the last time
  left : Option Nat
  deriving DecidableEq

inductive LedgerLabel where
  | world (label : Label)
  -- the callback queues a confirm the broker does not owe, its tag is repeated or unknown
  | stray (confirm : PublisherConfirm)
  deriving DecidableEq

namespace Ledger

def init (connection : ConnectionId) (blocked : Bool) : Ledger where
  world := World.init connection blocked
  acked := []
  left := none

def observe (label : Label) (world : World) (l : Ledger) : Ledger where
  world
  acked :=
    match label with
    | .poll _ => l.acked ++ l.world.producer.ackedBy l.world.producer.polledConfirm
    | _ => l.acked
  left :=
    if l.world.producer.inOk && !world.producer.inOk then some world.channels.length else l.left

def step (l : Ledger) : LedgerLabel → Option Ledger
  | .world label =>
    match l.world.step label with
    | none => none
    | some world => some (l.observe label world)
  | .stray confirm =>
    let producer := { l.world.producer with confirms := l.world.producer.confirms ++ [confirm] }
    some { l with world := { l.world with producer } }

/-- How often a message is in one of the places it can be in. -/
def places (l : Ledger) (message : BoxedMessage) : Nat :=
  l.world.producer.messages.count message
    + (l.world.producer.unconfirmedMessages.map (·.2)).count message
    + l.acked.count message

end Ledger

section Numbers

variable {p p' : StateMachine} {channel channel' : BrokerChannel} {c : PublisherConfirm}
variable {message : BoxedMessage} {tag : Nat}

theorem processConfirm_state : (p.processConfirm c).state = p.state := by
  unfold StateMachine.processConfirm
  cases c.variant <;> rfl

theorem processConfirm_channel : (p.processConfirm c).channel = p.channel := by
  unfold StateMachine.processConfirm
  cases c.variant <;> rfl

def BrokerChannel.Extends (channel channel' : BrokerChannel) : Prop :=
  ∀ tag message, channel.numbered? tag = some message → channel'.numbered? tag = some message

theorem numbered?_lt (h : channel.numbered? tag = some message)
    : tag < channel.published.length + 1 := by
  unfold BrokerChannel.numbered? at h
  split at h
  . contradiction
  . rw [Option.map_eq_some_iff] at h
    rcases h with ⟨publish, hpublish, _⟩
    have hlt := (List.getElem?_eq_some_iff.mp hpublish).1
    omega

theorem numbered?_publish_self
    : (channel.publish message).numbered? (channel.published.length + 1) = some message := by
  simp [BrokerChannel.numbered?, BrokerChannel.publish]

theorem extends_publish : channel.Extends (channel.publish message) := by
  intro tag message' h
  have hlt := numbered?_lt h
  unfold BrokerChannel.numbered? at h ⊢
  split at h
  . contradiction
  . next htag =>
    rw [if_neg htag, BrokerChannel.publish, List.getElem?_append_left (by omega)]
    exact h

theorem extends_confirm : channel.Extends (channel.confirm c) := by
  intro tag message h
  unfold BrokerChannel.numbered? at h ⊢
  split at h
  . contradiction
  . next htag =>
    rw [if_neg htag, getElem?_confirm, Option.map_map, ← h]
    congr 1
    funext publish
    simp only [Function.comp_apply]
    split <;> rfl

/-- The unconfirmed messages are ordered by the numbers the broker gives them. -/
structure Tagged (p : StateMachine) (channel : BrokerChannel) : Prop where
  ordered : Ordered p.unconfirmedMessages
  numbered : ∀ entry ∈ p.unconfirmedMessages, channel.numbered? entry.1 = some entry.2

theorem Tagged.of_nil (h : p.unconfirmedMessages = []) : Tagged p channel where
  ordered := h ▸ ordered_nil
  numbered := by simp [h]

theorem Tagged.mono (h : Tagged p channel)
    (hsublist : p'.unconfirmedMessages.Sublist p.unconfirmedMessages)
    (hextends : channel.Extends channel') : Tagged p' channel' where
  ordered := List.Pairwise.sublist hsublist h.ordered
  numbered := by
    intro entry hentry
    exact hextends _ _ (h.numbered entry (hsublist.subset hentry))

theorem Tagged.publish (h : Tagged p channel)
    (hunconfirmed : p'.unconfirmedMessages
      = p.unconfirmedMessages ++ [(channel.published.length + 1, message)])
    : Tagged p' (channel.publish message) where
  ordered := by
    rw [hunconfirmed, ordered_append_singleton_iff]
    exact ⟨h.ordered, fun entry hentry => numbered?_lt (h.numbered entry hentry)⟩
  numbered := by
    rw [hunconfirmed]
    intro entry hentry
    rw [List.mem_append, List.mem_singleton] at hentry
    rcases hentry with hentry | rfl
    . exact extends_publish _ _ (h.numbered entry hentry)
    . exact numbered?_publish_self

end Numbers

namespace World

variable {w w' : World} {p : StateMachine} {channel : BrokerChannel} {c : Option PublisherConfirm}

/-- The current channel has numbers for the unconfirmed messages, and as many as the state says. -/
def Tags (w : World) : Prop :=
  ∃ channel,
    w.channels[w.producer.channel]? = some channel
      ∧ Tagged w.producer channel
      ∧ Phase w.producer channel

theorem tags_init {connection : ConnectionId} {blocked : Bool} : (init connection blocked).Tags := by
  exact ⟨BrokerChannel.new, rfl, Tagged.of_nil rfl, rfl⟩

theorem Tags.ordered (h : w.Tags) : Ordered w.producer.unconfirmedMessages := by
  rcases h with ⟨channel, _, htagged, _⟩
  exact htagged.ordered

theorem Tags.move (h : w.Tags) (hchannel : p.channel = w.producer.channel)
    (hunconfirmed : p.unconfirmedMessages.Sublist w.producer.unconfirmedMessages)
    (hphase : ∀ channel, Phase w.producer channel → Phase p channel)
    : Tags { w with producer := p } := by
  rcases h with ⟨channel, hcurrent, htagged, hcurrentPhase⟩
  refine ⟨channel, by rw [hchannel]; exact hcurrent, ?_, hphase channel hcurrentPhase⟩
  exact htagged.mono hunconfirmed (fun _ _ h => h)

theorem Tags.confirm (h : w.Tags) {i : ChannelId} {c : PublisherConfirm}
    (hstep : w.confirm i c = some w') : w'.Tags := by
  rcases h with ⟨channel, hcurrent, htagged, hphase⟩
  unfold World.confirm at hstep
  split at hstep
  . contradiction
  . split at hstep
    . rw [Option.some.injEq] at hstep
      rw [← hstep]
      by_cases hi : i = w.producer.channel
      . refine ⟨channel.confirm c, by simp [hi, hcurrent], ?_, hphase.confirm⟩
        exact htagged.mono (List.Sublist.refl _) extends_confirm
      . refine ⟨channel, by simp [hi, hcurrent], ?_, hphase⟩
        exact htagged.mono (List.Sublist.refl _) (fun _ _ h => h)
    . contradiction

theorem Tags.brokerClose (h : w.Tags) (i : ChannelId)
    : Tags { w with channels := w.channels.modify i BrokerChannel.close } := by
  rcases h with ⟨channel, hcurrent, htagged, hphase⟩
  by_cases hi : i = w.producer.channel
  . refine ⟨channel.close, by simp [hi, hcurrent], ?_, hphase.close⟩
    exact htagged.mono (List.Sublist.refl _) (fun _ _ h => h)
  . exact ⟨channel, by simp [hi, hcurrent], htagged, hphase⟩

theorem Tags.publish (h : w.Tags) {flow blocked : Bool} {messageCount : Nat} {message : BoxedMessage}
    {messages : List BoxedMessage} {result : CallResult}
    (hstate : w.producer.state = .ok flow blocked messageCount)
    : (w.publish flow blocked messageCount message messages result).Tags := by
  rcases h with ⟨channel, hcurrent, htagged, hphase⟩
  rw [phase_ok hstate] at hphase
  cases result with
  | ok =>
    refine ⟨channel.publish message, by simp [World.publish, hcurrent], ?_, ?_⟩
    . apply htagged.publish
      rw [hphase]
      rfl
    . simp [World.publish, Phase, BrokerChannel.publish, hphase]
  | err wasReceived =>
    cases wasReceived with
    | true =>
      refine ⟨channel.publish message, by simp [World.publish, hcurrent], ?_, trivial⟩
      exact htagged.mono (List.Sublist.refl _) extends_publish
    | false =>
      refine ⟨channel, hcurrent, ?_, trivial⟩
      exact htagged.mono (List.Sublist.refl _) (fun _ _ h => h)

theorem Tags.poll (h : w.Tags) (heffect : Effect w c w') : w'.Tags := by
  cases heffect with
  | move hmoves =>
    have hsame := hmoves.sameQueues
    apply h.move hsame.channel (hsame.unconfirmedMessages ▸ List.Sublist.refl _)
    exact fun _ hphase => hphase.moves hmoves
  | @confirm c confirms hconfirms hstate =>
    have hordered : Ordered { w.producer with confirms }.unconfirmedMessages := h.ordered
    rw [processConfirm_eq hordered]
    refine h.move (by rfl) List.filter_sublist ?_
    exact fun _ hphase => hphase.listening hstate rfl
  | publish hstate _ _ => exact h.publish hstate
  | schedule hstate hunconfirmed =>
    refine h.move (by rfl) ?_ ?_
    . rw [hunconfirmed]
      exact List.sublist_cons_self _ _
    . intro channel _
      unfold Phase
      rw [hstate]
      trivial
  | close hstate =>
    rcases h with ⟨channel, hcurrent, _, hphase⟩
    unfold Phase at hphase
    rw [hstate] at hphase
    exact ⟨channel.close, by simp [hcurrent], Tagged.of_nil hphase, hphase, rfl⟩
  | openChannel hstate =>
    rcases h with ⟨_, _, _, hphase⟩
    unfold Phase at hphase
    rw [hstate] at hphase
    exact ⟨BrokerChannel.new, by simp, Tagged.of_nil hphase.1, hphase.1, rfl⟩

theorem Tags.step (h : w.Tags) {label : Label} (hstep : w.step label = some w') : w'.Tags := by
  cases label with
  | confirm i c => exact h.confirm hstep
  | close i =>
    simp only [World.step, Option.some.injEq] at hstep
    rw [← hstep]
    exact h.brokerClose i
  | poll result => exact h.poll (poll_effect hstep)
  | _ =>
    simp only [World.step, Option.some.injEq] at hstep
    rw [← hstep]
    exact h.move rfl (List.Sublist.refl _) (fun _ hphase => hphase)

def queued (w : World) (message : BoxedMessage) : Nat :=
  w.producer.messages.count message + (w.producer.unconfirmedMessages.map (·.2)).count message

-- A poll moves messages between the queues, it loses and copies none but the acked ones.
theorem Effect.queued (h : Effect w c w') (hordered : Ordered w.producer.unconfirmedMessages)
    (message : BoxedMessage)
    : w'.queued message + (w.producer.ackedBy c).count message = w.queued message := by
  unfold World.queued
  cases h with
  | move hmoves =>
    have hsame := hmoves.sameQueues
    simp only [hsame.messages, hsame.unconfirmedMessages, StateMachine.ackedBy, List.count_nil]
    omega
  | @confirm c confirms hconfirms hstate =>
    have hsplit := ((List.filter_append_perm (fun entry => PublisherConfirm.covers c entry.1)
      w.producer.unconfirmedMessages).map (·.2)).count_eq message
    rw [List.map_append, List.count_append] at hsplit
    have hordered' : Ordered { w.producer with confirms }.unconfirmedMessages := hordered
    rw [processConfirm_eq hordered']
    unfold StateMachine.ackedBy
    dsimp only
    rw [removeConfirmed_eq_filter hordered, List.count_append]
    cases c.variant with
    | ack =>
      simp only [List.count_nil]
      omega
    | nack =>
      simp only [List.count_nil]
      omega
  | @publish messageCount message' messages result _ _ hmessages =>
    rw [hmessages, List.count_cons]
    cases result with
    | ok =>
      simp only [World.publish, StateMachine.ackedBy, List.map_append, List.map_cons, List.map_nil,
        List.count_append, List.count_singleton, List.count_nil]
      omega
    | err received =>
      simp only [World.publish, StateMachine.ackedBy, List.count_append, List.count_singleton,
        List.count_nil]
      omega
  | schedule _ hunconfirmed =>
    rw [hunconfirmed]
    simp only [StateMachine.ackedBy, List.map_cons, List.count_cons, List.count_append,
      List.count_nil]
    omega
  | close _ => rfl
  | openChannel _ => rfl

theorem Effect.sent (h : Effect w c w') : w'.sent = w.sent := by
  cases h with
  | @publish _ _ _ result _ _ _ => cases result <;> rfl
  | _ => rfl

theorem Effect.length_channels_le (h : Effect w c w') : w.channels.length ≤ w'.channels.length := by
  cases h with
  | @publish _ _ _ result _ _ _ =>
    rcases result with _ | ⟨_ | _⟩ <;> simp [World.publish]
  | _ => simp

-- The channel of `ok_state` stays, any other state gets there with the channel that is opened last.
theorem Effect.reopened (h : Effect w c w') (hreopened : w'.producer.reopened = true)
    : (w.producer.reopened = true
        ∧ (w.producer.inOk = true → w'.producer.inOk = true)
        ∧ w'.producer.channel = w.producer.channel)
      ∨ (w.producer.inOk = false ∧ w'.producer.channel = w.channels.length) := by
  cases h with
  | move hmoves =>
    refine Or.inl ⟨?_, ?_, hmoves.sameQueues.channel⟩
    . cases hmoves with
      | connectionChanged _ => contradiction
      | connection _ =>
        cases hvalue : w.producer.connectionRx.value <;>
          simp [StateMachine.reopened, hvalue] at hreopened
      | retry _ => exact hreopened
      | _ => simp_all [StateMachine.reopened]
    . cases hmoves with
      | connectionChanged _ => contradiction
      | connection hstate => simp [StateMachine.inOk, hstate]
      | retry _ => exact id
      | _ => simp_all [StateMachine.inOk, StateMachine.enterOk]
  | @confirm c confirms _ _ =>
    have hstate : ({ w.producer with confirms }.processConfirm c).state = w.producer.state := by
      exact processConfirm_state
    rw [StateMachine.reopened_congr hstate] at hreopened
    rw [StateMachine.inOk_congr hstate]
    exact Or.inl ⟨hreopened, id, processConfirm_channel⟩
  | @publish _ _ _ result hstate _ _ =>
    cases result with
    | ok => exact Or.inl ⟨by simp [StateMachine.reopened, hstate], fun _ => rfl, rfl⟩
    | err received => contradiction
  | schedule hstate _ =>
    simp [StateMachine.reopened, hstate] at hreopened
  | close _ => contradiction
  | openChannel hstate => exact Or.inr ⟨by simp [StateMachine.inOk, hstate], rfl⟩

theorem Effect.entered (h : Effect w c w') (hnot : w.producer.inOk = false)
    (hok : w'.producer.inOk = true)
    : w.producer.state = .restoringProducer
        ∧ w'.producer.unconfirmedMessages = w.producer.unconfirmedMessages := by
  cases h with
  | move hmoves =>
    cases hmoves with
    | restored hstate => exact ⟨hstate, rfl⟩
    | connection _ =>
      cases hvalue : w.producer.connectionRx.value <;> simp [StateMachine.inOk, hvalue] at hok
    | retry _ =>
      rw [hnot] at hok
      contradiction
    | flowChanged hstate => simp [StateMachine.inOk, hstate] at hnot
    | blockedChanged hstate => simp [StateMachine.inOk, hstate] at hnot
    | _ => contradiction
  | @confirm c confirms _ _ =>
    have hstate : ({ w.producer with confirms }.processConfirm c).state = w.producer.state := by
      exact processConfirm_state
    rw [StateMachine.inOk_congr hstate, hnot] at hok
    contradiction
  | publish hstate _ _ => simp [StateMachine.inOk, hstate] at hnot
  | schedule hstate _ => simp [StateMachine.inOk, hstate] at hok
  | close _ => contradiction
  | openChannel _ => contradiction

end World

namespace Ledger

variable {l l' : Ledger} {label : LedgerLabel}

/-- The step is about a watch channel or a confirm. -/
structure Idle (l l' : Ledger) : Prop where
  acked : l'.acked = l.acked
  left : l'.left = l.left
  sent : l'.world.sent = l.world.sent
  state : l'.world.producer.state = l.world.producer.state
  channel : l'.world.producer.channel = l.world.producer.channel
  messages : l'.world.producer.messages = l.world.producer.messages
  unconfirmedMessages :
    l'.world.producer.unconfirmedMessages = l.world.producer.unconfirmedMessages
  length : l'.world.channels.length = l.world.channels.length

theorem observe_left_of_eq {label : Label} {world : World}
    (h : world.producer.state = l.world.producer.state) : (l.observe label world).left = l.left := by
  unfold observe
  dsimp only
  rw [StateMachine.inOk_congr h, Bool.and_not_self, if_neg Bool.false_ne_true]

theorem step_cases (hstep : l.step label = some l')
    : l.Idle l'
        ∨ (∃ message, l'.world = l.world.send message ∧ l'.acked = l.acked ∧ l'.left = l.left)
        ∨ ∃ result world, l.world.Effect l.world.producer.polledConfirm world
          ∧ l' = l.observe (.poll result) world := by
  cases label with
  | stray confirm =>
    simp only [step, Option.some.injEq] at hstep
    rw [← hstep]
    exact Or.inl ⟨rfl, rfl, rfl, rfl, rfl, rfl, rfl, rfl⟩
  | world label =>
    unfold step at hstep
    dsimp only at hstep
    split at hstep
    . contradiction
    . next world hworld =>
      rw [Option.some.injEq] at hstep
      cases label with
      | send message =>
        simp only [World.step, Option.some.injEq] at hworld
        rw [← hstep, ← hworld]
        exact Or.inr (Or.inl ⟨message, rfl, rfl, observe_left_of_eq rfl⟩)
      | poll result =>
        exact Or.inr (Or.inr ⟨result, world, World.poll_effect hworld, hstep.symm⟩)
      | confirm i c =>
        simp only [World.step, World.confirm] at hworld
        split at hworld
        . contradiction
        . split at hworld
          . rw [Option.some.injEq] at hworld
            rw [← hstep, ← hworld]
            refine Or.inl ⟨rfl, observe_left_of_eq rfl, rfl, rfl, rfl, rfl, rfl, ?_⟩
            exact List.length_modify _ _ _
          . contradiction
      | close i =>
        simp only [World.step, Option.some.injEq] at hworld
        rw [← hstep, ← hworld]
        refine Or.inl ⟨rfl, observe_left_of_eq rfl, rfl, rfl, rfl, rfl, rfl, ?_⟩
        exact List.length_modify _ _ _
      | _ =>
        simp only [World.step, Option.some.injEq] at hworld
        rw [← hstep, ← hworld]
        exact Or.inl ⟨rfl, observe_left_of_eq rfl, rfl, rfl, rfl, rfl, rfl, rfl⟩

structure Kept (l : Ledger) : Prop where
  addresses : l.world.sent.map (·.address) = List.range l.world.sent.length
  places : ∀ message, l.places message = l.world.sent.count message

theorem kept_init {connection : ConnectionId} {blocked : Bool} : (init connection blocked).Kept where
  addresses := rfl
  places := by
    intro message
    rfl

theorem Kept.step (h : l.Kept) (htags : l.world.Tags) (hstep : l.step label = some l') : l'.Kept := by
  rcases step_cases hstep with hidle | ⟨message, hworld, hacked, _⟩ | ⟨result, world, heffect, rfl⟩
  . constructor
    . rw [hidle.sent]
      exact h.addresses
    . intro message
      unfold Ledger.places
      rw [hidle.messages, hidle.unconfirmedMessages, hidle.acked, hidle.sent]
      exact h.places message
  . constructor
    . rw [hworld]
      simp [World.send, h.addresses, List.range_succ]
    . intro message'
      have hplaces := h.places message'
      unfold Ledger.places at hplaces ⊢
      rw [hworld, hacked]
      simp only [World.send, List.count_append]
      omega
  . constructor
    . show world.sent.map (·.address) = List.range world.sent.length
      rw [heffect.sent]
      exact h.addresses
    . intro message
      have hplaces := h.places message
      have hqueued := heffect.queued htags.ordered message
      unfold Ledger.places observe at *
      unfold World.queued at hqueued
      dsimp only
      rw [heffect.sent, List.count_append]
      omega

theorem Kept.places_eq (h : l.Kept) (message : BoxedMessage)
    : l.places message = if message ∈ l.world.sent then 1 else 0 := by
  have hnodup : l.world.sent.Nodup := by
    apply List.Nodup.of_map (·.address)
    rw [h.addresses]
    exact List.nodup_range
  rw [h.places message, hnodup.count]

/-- The state machine gets back to `ok_state` with a channel that was opened since it was there. -/
structure Fresh (l : Ledger) : Prop where
  left : l.world.producer.inOk = false →
    ∃ opened, l.left = some opened ∧ opened ≤ l.world.channels.length
  channel : l.world.producer.reopened = true →
    ∀ opened, l.left = some opened → opened ≤ l.world.producer.channel

theorem fresh_init {connection : ConnectionId} {blocked : Bool} : (init connection blocked).Fresh where
  left := by
    intro h
    contradiction
  channel := by
    intro _ opened h
    contradiction

theorem Fresh.of_eq (h : l.Fresh) (hstate : l'.world.producer.state = l.world.producer.state)
    (hchannel : l'.world.producer.channel = l.world.producer.channel) (hleft : l'.left = l.left)
    (hlength : l'.world.channels.length = l.world.channels.length) : l'.Fresh where
  left := by
    rw [StateMachine.inOk_congr hstate, hleft, hlength]
    exact h.left
  channel := by
    rw [StateMachine.reopened_congr hstate, hleft, hchannel]
    exact h.channel

theorem Fresh.step (h : l.Fresh) (hstep : l.step label = some l') : l'.Fresh := by
  rcases step_cases hstep with hidle | ⟨message, hworld, _, hleft⟩ | ⟨result, world, heffect, rfl⟩
  . exact h.of_eq hidle.state hidle.channel hidle.left hidle.length
  . apply h.of_eq _ _ hleft <;> rw [hworld] <;> rfl
  . constructor
    . intro hnot
      replace hnot : world.producer.inOk = false := hnot
      unfold observe
      dsimp only
      cases hok : l.world.producer.inOk with
      | true => exact ⟨world.channels.length, by simp [hnot], Nat.le_refl _⟩
      | false =>
        rcases h.left hok with ⟨opened, hleft, hle⟩
        refine ⟨opened, by simpa using hleft, ?_⟩
        exact Nat.le_trans hle heffect.length_channels_le
    . intro hreopened opened hleft
      unfold observe at hleft ⊢
      dsimp only at hleft ⊢
      rcases heffect.reopened hreopened with ⟨hbefore, hok, hchannel⟩ | ⟨hnot, hchannel⟩
      . rw [hchannel]
        apply h.channel hbefore
        cases hinOk : l.world.producer.inOk with
        | true => simpa [hinOk, hok hinOk] using hleft
        | false => simpa [hinOk] using hleft
      . rcases h.left hnot with ⟨opened', hopened', hle⟩
        rw [hchannel]
        simp only [hnot, Bool.false_and, Bool.false_eq_true, if_false, hopened',
          Option.some.injEq] at hleft
        omega

theorem tags_step (h : l.world.Tags) (hstep : l.step label = some l') : l'.world.Tags := by
  cases label with
  | stray confirm =>
    simp only [step, Option.some.injEq] at hstep
    rw [← hstep]
    exact h.move rfl (List.Sublist.refl _) (fun _ hphase => hphase)
  | world label =>
    unfold step at hstep
    dsimp only at hstep
    split at hstep
    . contradiction
    . next world hworld =>
      rw [Option.some.injEq] at hstep
      rw [← hstep]
      exact h.step hworld

theorem entered (htags : l.world.Tags) (hnot : l.world.producer.inOk = false)
    (hstep : l.step label = some l') (hok : l'.world.producer.inOk = true)
    : l'.world.producer.unconfirmedMessages = [] ∧ l'.left = l.left := by
  have hchange : l'.world.producer.state ≠ l.world.producer.state := by
    intro heq
    rw [StateMachine.inOk_congr heq, hnot] at hok
    contradiction
  rcases step_cases hstep with hidle | ⟨message, hworld, _, _⟩ | ⟨result, world, heffect, rfl⟩
  . exact absurd hidle.state hchange
  . rw [hworld] at hchange
    exact absurd rfl hchange
  . rcases heffect.entered hnot hok with ⟨hstate, hunconfirmed⟩
    rcases htags with ⟨_, _, _, hphase⟩
    unfold World.Phase at hphase
    rw [hstate] at hphase
    refine ⟨hunconfirmed.trans hphase.1, ?_⟩
    unfold observe
    dsimp only
    rw [hnot, Bool.false_and, if_neg Bool.false_ne_true]

/--
In every run of the state machine, whatever confirms it gets, a message that was sent is pending,
unconfirmed or removed by an ack, and only once; every way back to `ok_state` starts with a new channel
and nothing unconfirmed; the numbers are those of the broker; a confirm removes the messages it covers.
-/
theorem custody_and_numbers (connection : ConnectionId) (blocked : Bool) (labels : List LedgerLabel)
    (l : Ledger) (hrun : System.run step (init connection blocked) labels = some l)
    : (∀ message, l.places message = if message ∈ l.world.sent then 1 else 0)
      ∧ (labels = [] → l.world.producer.inOk = true ∧ l.world.producer.unconfirmedMessages = [])
      ∧ (∀ label l', l.world.producer.inOk = false → l.step label = some l' →
          l'.world.producer.inOk = true →
            l'.world.producer.unconfirmedMessages = []
              ∧ ∃ opened, l'.left = some opened
                ∧ opened ≤ l'.world.producer.channel
                ∧ l'.world.producer.channel < l'.world.channels.length)
      ∧ (l.world.producer.inOk = true →
          l.world.producer.unconfirmedMessages.Pairwise (fun entry entry' => entry.1 < entry'.1)
            ∧ ∃ channel, l.world.channels[l.world.producer.channel]? = some channel
              ∧ ∀ entry ∈ l.world.producer.unconfirmedMessages,
                channel.numbered? entry.1 = some entry.2)
      ∧ ∀ confirm, l.world.producer.processConfirm confirm
          =
        { l.world.producer with
          unconfirmedMessages := l.world.producer.unconfirmedMessages.filter
            (fun entry => !PublisherConfirm.covers confirm entry.1)
          messages := l.world.producer.messages ++
            match confirm.variant with
            | .ack => []
            | .nack =>
              (l.world.producer.unconfirmedMessages.filter
                (fun entry => PublisherConfirm.covers confirm entry.1)).map (·.2)
        } := by
  have h : l.Kept ∧ l.Fresh ∧ l.world.Tags := by
    apply System.run_invariant (P := fun l : Ledger => l.Kept ∧ l.Fresh ∧ l.world.Tags) _
      ⟨kept_init, fresh_init, World.tags_init⟩ hrun
    intro l label l' h hstep
    exact ⟨h.1.step h.2.2 hstep, h.2.1.step hstep, tags_step h.2.2 hstep⟩
  rcases h with ⟨hkept, hfresh, htags⟩
  refine ⟨hkept.places_eq, ?_, ?_, ?_, ?_⟩
  . rintro rfl
    rw [System.run_nil, Option.some.injEq] at hrun
    rw [← hrun]
    exact ⟨rfl, rfl⟩
  . intro label l' hnot hstep hok
    rcases entered htags hnot hstep hok with ⟨hunconfirmed, hleft⟩
    rcases hfresh.left hnot with ⟨opened, hopened, _⟩
    rw [← hleft] at hopened
    have hle := (hfresh.step hstep).channel (StateMachine.reopened_of_inOk hok) opened hopened
    rcases tags_step htags hstep with ⟨channel, hcurrent, _, _⟩
    exact ⟨hunconfirmed, opened, hopened, hle, (List.getElem?_eq_some_iff.mp hcurrent).1⟩
  . intro _
    rcases htags with ⟨channel, hcurrent, htagged, _⟩
    exact ⟨htagged.ordered, channel, hcurrent, htagged.numbered⟩
  . intro confirm
    exact processConfirm_eq htags.ordered

-- A confirm with an unknown tag comes in after the failed publish of `World.recovery`.
def strayed : List LedgerLabel :=
  (World.recovery.take 4).map .world
    ++ [.stray { deliveryTag := 7, multiple := false, variant := .nack }, .world (.poll .ok)]
    ++ ((World.recovery.drop 4).take 7).map .world

def restoring : Ledger := (System.run step (init 0 false) strayed).getD (init 0 false)

def reentered : Ledger := (restoring.step (.world (.poll .ok))).getD restoring

theorem custody_and_numbers_reentered
    : restoring.places ⟨0, World.sampleMessage [0]⟩ = 1
        ∧ reentered.world.producer.unconfirmedMessages = []
        ∧ reentered.left = some 1
        ∧ reentered.world.producer.channel = 1 := by
  have hrun : System.run step (init 0 false) strayed = some restoring := by
    rfl
  have hstep : restoring.step (.world (.poll .ok)) = some reentered := by
    rfl
  rcases custody_and_numbers 0 false strayed restoring hrun with ⟨hplaces, _, hentered, _, _⟩
  rcases hentered (.world (.poll .ok)) reentered (by decide) hstep (by decide)
    with ⟨hunconfirmed, _⟩
  refine ⟨?_, hunconfirmed, by decide, by decide⟩
  rw [hplaces, if_pos (by decide)]

end Ledger

end TomNotifier.Rabbitmq.Producer
