import Mathlib.Data.Prod.Lex
import TomNotifier.Rabbitmq.Producer.Places

/-!
This module contains how far the producer's state machine is from having had everything acked, when its
calls succeed and the broker acks what it receives.
-/

namespace TomNotifier.Rabbitmq.Producer

def State.distance : State → Nat
  | .ok _ _ _ => 0
  | .restoringProducer => 1
  | .recreatingChannel .registering => 2
  | .recreatingChannel .opening => 3
  | .recreatingChannel .closing => 4
  | .processingPendingConfirmations true => 5
  | .processingPendingConfirmations false => 6
  | .waitingForConnection false => 7
  -- only left when there is a connection that has not been seen
  | .waitingForConnection true => 0

def BrokerChannel.outstanding (channel : BrokerChannel) : Nat := channel.published.countP (·.2.isNone)

theorem countP_mapIdx_le {α : Type} {l : List α} {q : α → Bool} {f : Nat → α → α}
    (hf : ∀ i a, q (f i a) = true → q a = true) : (l.mapIdx f).countP q ≤ l.countP q := by
  induction l generalizing f with
  | nil => simp
  | cons a l ih =>
    rw [List.mapIdx_cons, List.countP_cons, List.countP_cons]
    have hrest := ih (f := fun i => f (i + 1)) fun i => hf (i + 1)
    apply Nat.add_le_add hrest
    split
    . next ha => rw [if_pos (hf 0 a ha)]
    . exact Nat.zero_le _

theorem countP_mapIdx_lt {α : Type} {l : List α} {q : α → Bool} {f : Nat → α → α} {i : Nat} {a : α}
    (hf : ∀ i a, q (f i a) = true → q a = true) (hi : l[i]? = some a) (ha : q a = true)
    (hfa : q (f i a) = false) : (l.mapIdx f).countP q < l.countP q := by
  induction l generalizing f i with
  | nil => simp at hi
  | cons b l ih =>
    rw [List.mapIdx_cons, List.countP_cons, List.countP_cons]
    cases i with
    | zero =>
      rw [List.getElem?_cons_zero, Option.some.injEq] at hi
      have hrest := countP_mapIdx_le (l := l) (f := fun i => f (i + 1)) fun i => hf (i + 1)
      rw [hi, ha, hfa, if_pos rfl, if_neg Bool.false_ne_true]
      omega
    | succ i =>
      rw [List.getElem?_cons_succ] at hi
      have hrest := ih (f := fun i => f (i + 1)) (fun i => hf (i + 1)) hi hfa
      apply Nat.add_lt_add_of_lt_of_le hrest
      split
      . next hb => rw [if_pos (hf 0 b hb)]
      . exact Nat.zero_le _

theorem BrokerChannel.outstanding_confirm_lt {channel : BrokerChannel} {c : PublisherConfirm}
    (h : channel.isOutstanding c.deliveryTag = true)
    : (channel.confirm c).outstanding < channel.outstanding := by
  unfold isOutstanding at h
  rw [Bool.and_eq_true, decide_eq_true_eq, Option.any_eq_true] at h
  rcases h with ⟨hpos, publish, hpublish, hnone⟩
  refine countP_mapIdx_lt ?_ hpublish hnone ?_
  . intro i publish' h
    split at h
    . simp at h
    . exact h
  . have hcovers : PublisherConfirm.covers c (c.deliveryTag - 1 + 1) = true := by
      rw [Nat.sub_add_cancel hpos]
      unfold PublisherConfirm.covers
      split <;> simp
    rw [hnone, hcovers, Bool.and_self, if_pos rfl]
    rfl

namespace World

/-- A change that has not been seen takes the state machine back, at most to the first state. -/
def distance (w : World) : Nat :=
  40 * w.producer.connectionRx.unseen.toNat + 4 * w.producer.state.distance
    + w.producer.flowRx.unseen.toNat + w.producer.blockedRx.unseen.toNat

def unscheduled (w : World) : Nat :=
  match w.producer.state with
  | .processingPendingConfirmations true => w.producer.unconfirmedMessages.length
  | _ => 0

def nacks (w : World) : Nat := w.producer.confirms.countP (·.variant = .nack)

def outstanding (w : World) : Nat :=
  (w.channels[w.producer.channel]?.map BrokerChannel.outstanding).getD 0

/-- A message is published, acked, and its confirm processed. -/
def load (w : World) : Nat :=
  3 * w.producer.messages.length + 2 * w.outstanding + w.producer.confirms.length

def measure (w : World) : Nat ×ₗ Nat ×ₗ Nat ×ₗ Nat :=
  toLex (w.distance, toLex (w.unscheduled, toLex (w.nacks, w.load)))

variable {w w' : World} {flow blocked awaiting scheduling : Bool} {messageCount : Nat}
variable {stage : Recreating} {c : PublisherConfirm} {confirms : List PublisherConfirm}

theorem measure_lt_iff
    : w'.measure < w.measure
        ↔
      w'.distance < w.distance
        ∨ w'.distance = w.distance ∧ (w'.unscheduled < w.unscheduled
          ∨ w'.unscheduled = w.unscheduled ∧ (w'.nacks < w.nacks
            ∨ w'.nacks = w.nacks ∧ w'.load < w.load)) := by
  simp only [measure, Prod.Lex.toLex_lt_toLex]

theorem lowers_connectionChanged (hunseen : w.producer.connectionRx.unseen = true)
    : ({ w with producer := w.producer.connectionChanged }).measure < w.measure := by
  refine measure_lt_iff.mpr (.inl ?_)
  simp only [distance, StateMachine.connectionChanged, Watch.markSeen, State.distance, hunseen,
    Bool.toNat_true, Bool.toNat_false]
  omega

theorem lowers_processConfirm (hconfirms : w.producer.confirms = c :: confirms)
    (hstate : w.producer.state ≠ .processingPendingConfirmations true)
    : ({ w with producer := { w.producer with confirms }.processConfirm c }).measure < w.measure := by
  have hunscheduled : ∀ {p : StateMachine}, p.state = w.producer.state →
      ({ w with producer := p }).unscheduled = 0 := by
    intro p hp
    unfold unscheduled
    dsimp only
    split
    . next hp' => exact absurd (hp.symm.trans hp') hstate
    . rfl
  rw [measure_lt_iff, hunscheduled rfl]
  refine .inr ?_
  unfold StateMachine.processConfirm
  dsimp only
  split
  . next hack =>
    refine ⟨rfl, .inr ⟨hunscheduled rfl, .inr ⟨?_, ?_⟩⟩⟩
    . simp [nacks, hconfirms, hack]
    . simp only [load, outstanding, hconfirms, List.length_cons]
      omega
  . next hnack =>
    refine ⟨rfl, .inr ⟨hunscheduled rfl, .inl ?_⟩⟩
    simp [nacks, hconfirms, hnack]

theorem outstanding_publish (channels : List BrokerChannel) (i : ChannelId) (message : BoxedMessage)
    : ((channels.modify i (BrokerChannel.publish message))[i]?.map BrokerChannel.outstanding).getD 0
        ≤ (channels[i]?.map BrokerChannel.outstanding).getD 0 + 1 := by
  rw [List.getElem?_modify_eq]
  cases channels[i]? with
  | none => simp
  | some channel => simp [BrokerChannel.outstanding, BrokerChannel.publish]

theorem lowers_publish {message : BoxedMessage} {messages : List BoxedMessage}
    (hstate : w.producer.state = .ok flow blocked messageCount)
    (hmessages : w.producer.messages = message :: messages)
    : (w.publish flow blocked messageCount message messages .ok).measure < w.measure := by
  have hoverall := outstanding_publish w.channels w.producer.channel message
  refine measure_lt_iff.mpr (.inr ⟨?_, .inr ⟨?_, .inr ⟨rfl, ?_⟩⟩⟩)
  . simp only [distance, publish, hstate, State.distance]
  . simp only [unscheduled, publish, hstate]
  . simp only [load, outstanding, publish, hmessages, List.length_cons]
    omega

theorem lowers_pollOk (hstate : w.producer.state = .ok flow blocked messageCount)
    (hstep : w.pollOk flow blocked messageCount .ok = some w') : w'.measure < w.measure := by
  unfold pollOk at hstep
  dsimp only at hstep
  split at hstep
  . next hunseen =>
    rw [← Option.some.inj hstep]
    exact lowers_connectionChanged hunseen
  . split at hstep
    . next hunseen =>
      rw [← Option.some.inj hstep]
      refine measure_lt_iff.mpr (.inl ?_)
      simp [distance, hstate, State.distance, Watch.markSeen, hunseen]
    . split at hstep
      . next hunseen =>
        rw [← Option.some.inj hstep]
        refine measure_lt_iff.mpr (.inl ?_)
        simp [distance, hstate, State.distance, Watch.markSeen, hunseen]
      . split at hstep
        . next c confirms hconfirms =>
          rw [← Option.some.inj hstep]
          exact lowers_processConfirm hconfirms (by simp [hstate])
        . split at hstep
          . contradiction
          . next message messages hmessages =>
            split at hstep
            . rw [← Option.some.inj hstep]
              exact lowers_publish hstate hmessages
            . contradiction

theorem lowers_pollWaitingForConnection (hstate : w.producer.state = .waitingForConnection awaiting)
    (hstep : w.pollWaitingForConnection awaiting = some w') : w'.measure < w.measure := by
  unfold pollWaitingForConnection at hstep
  cases awaiting with
  | true =>
    dsimp only at hstep
    split at hstep
    . next hunseen =>
      rw [← Option.some.inj hstep]
      exact lowers_connectionChanged hunseen
    . contradiction
  | false =>
    rw [← Option.some.inj hstep]
    refine measure_lt_iff.mpr (.inl ?_)
    have hdistance : (if w.producer.connectionRx.value.isSome then
        State.processingPendingConfirmations false else .waitingForConnection true).distance ≤ 6 := by
      split
      . exact Nat.le_refl 6
      . exact Nat.zero_le 6
    have hwaiting : w.producer.state.distance = 7 := by
      rw [hstate]
      rfl
    simp only [distance, Watch.markSeen, Bool.toNat_false]
    omega

theorem lowers_pollProcessingPendingConfirmations
    (hstate : w.producer.state = .processingPendingConfirmations scheduling)
    : (w.pollProcessingPendingConfirmations scheduling).measure < w.measure := by
  unfold pollProcessingPendingConfirmations
  cases scheduling with
  | false =>
    dsimp only
    split
    . next c confirms hconfirms => exact lowers_processConfirm hconfirms (by simp [hstate])
    . refine measure_lt_iff.mpr (.inl ?_)
      simp only [distance, hstate, State.distance]
      omega
  | true =>
    dsimp only
    split
    . next tag message unconfirmedMessages hunconfirmed =>
      refine measure_lt_iff.mpr (.inr ⟨rfl, .inl ?_⟩)
      simp [unscheduled, hstate, hunconfirmed]
    . refine measure_lt_iff.mpr (.inl ?_)
      simp only [distance, hstate, State.distance]
      omega

theorem lowers_pollRecreatingChannel (hstate : w.producer.state = .recreatingChannel stage)
    (hstep : w.pollRecreatingChannel stage .ok = some w') : w'.measure < w.measure := by
  unfold pollRecreatingChannel at hstep
  cases stage with
  | closing =>
    rw [← Option.some.inj hstep]
    refine measure_lt_iff.mpr (.inl ?_)
    simp only [distance, hstate, State.distance]
    omega
  | opening =>
    dsimp only at hstep
    split at hstep
    . next hunseen =>
      rw [← Option.some.inj hstep]
      exact lowers_connectionChanged hunseen
    . split at hstep
      . contradiction
      . rw [← Option.some.inj hstep]
        refine measure_lt_iff.mpr (.inl ?_)
        simp only [distance, hstate, State.distance, Watch.send, Bool.toNat_true]
        omega
      . contradiction
  | registering =>
    dsimp only at hstep
    split at hstep
    . next hunseen =>
      rw [← Option.some.inj hstep]
      exact lowers_connectionChanged hunseen
    . rw [← Option.some.inj hstep]
      refine measure_lt_iff.mpr (.inl ?_)
      simp only [distance, hstate, State.distance]
      omega

theorem lowers_pollRestoringProducer (hstate : w.producer.state = .restoringProducer)
    : (w.pollRestoringProducer .ok).measure < w.measure := by
  unfold pollRestoringProducer
  dsimp only
  split
  . next hunseen => exact lowers_connectionChanged hunseen
  . refine measure_lt_iff.mpr (.inl ?_)
    simp only [distance, hstate, State.distance, StateMachine.enterOk, Watch.markSeen,
      Bool.toNat_false]
    omega

theorem lowers_poll (hstep : w.poll .ok = some w') : w'.measure < w.measure := by
  unfold poll at hstep
  split at hstep
  . next hstate => exact lowers_pollOk hstate hstep
  . next hstate => exact lowers_pollWaitingForConnection hstate hstep
  . next hstate =>
    rw [← Option.some.inj hstep]
    exact lowers_pollProcessingPendingConfirmations hstate
  . next hstate => exact lowers_pollRecreatingChannel hstate hstep
  . next hstate =>
    rw [← Option.some.inj hstep]
    exact lowers_pollRestoringProducer hstate

theorem lowers_confirm (h : w.Custody) {i : ChannelId} (hack : c.variant = .ack)
    (hstep : w.confirm i c = some w') : w'.measure < w.measure := by
  unfold confirm at hstep
  split at hstep
  . contradiction
  . next broker hbroker =>
    split at hstep
    . next hguard =>
      rw [Bool.and_eq_true, Bool.not_eq_true'] at hguard
      have hcurrent : i = w.producer.channel := by
        by_contra hne
        have hclosed := h.others i broker hne hbroker
        rw [hguard.1] at hclosed
        contradiction
      subst hcurrent
      have houtstanding := BrokerChannel.outstanding_confirm_lt hguard.2
      rw [← Option.some.inj hstep]
      refine measure_lt_iff.mpr (.inr ⟨rfl, .inr ⟨rfl, .inr ⟨?_, ?_⟩⟩⟩)
      . simp [nacks, hack]
      . simp only [load, outstanding, List.getElem?_modify_eq, hbroker, Option.map_eq_map,
          Option.map_some, Option.getD_some, List.length_append, List.length_singleton]
        omega
    . contradiction

/-- What the state machine is about to publish on is open, unless it is about to leave it behind. -/
def Opened (w : World) : Prop :=
  w.producer.reopened = true → w.producer.connectionRx.unseen = false →
    ∀ channel, w.channels[w.producer.channel]? = some channel → channel.closed = false

/-- The broker does not close such a channel. -/
def KeepsChannel (w : World) : Label → Prop
  | .close channel =>
    channel = w.producer.channel → w.producer.reopened = true → w.producer.connectionRx.unseen = true
  | _ => True

/-- The copies in `ok_state` are those of the watch channels, unless these are unseen. -/
def Heeds (w : World) : Prop :=
  ∀ flow blocked messageCount, w.producer.state = .ok flow blocked messageCount →
    (w.producer.flowRx.unseen = false → flow = w.producer.flowRx.value)
      ∧ (w.producer.blockedRx.unseen = false → blocked = w.producer.blockedRx.value)

theorem Effect.connectionRx {confirm : Option PublisherConfirm} (h : Effect w confirm w')
    (hreopened : w'.producer.reopened = true)
    : w'.producer.connectionRx = w.producer.connectionRx := by
  cases h with
  | move hmoves =>
    cases hmoves with
    | connectionChanged _ => contradiction
    | connection _ =>
      cases hvalue : w.producer.connectionRx.value <;>
        simp [StateMachine.reopened, hvalue] at hreopened
    | _ => rfl
  | confirm hconfirms hstate =>
    unfold StateMachine.processConfirm
    dsimp only
    split <;> rfl
  | @publish _ _ _ result _ _ _ => cases result <;> rfl
  | schedule hstate hunconfirmed => rfl
  | close hstate => rfl
  | openChannel hstate => rfl

theorem Opened.keep (h : w.Opened)
    (hreopened : w'.producer.reopened = true → w.producer.reopened = true)
    (hconnectionRx : w'.producer.connectionRx = w.producer.connectionRx)
    (hchannel : w'.producer.channel = w.producer.channel)
    (hchannels : ∀ channel', w'.channels[w.producer.channel]? = some channel' →
      ∃ channel, w.channels[w.producer.channel]? = some channel ∧ channel'.closed = channel.closed)
    : w'.Opened := by
  intro hreopened' hseen channel' hget
  rw [hconnectionRx] at hseen
  rw [hchannel] at hget
  rcases hchannels channel' hget with ⟨channel, hchannel', hclosed⟩
  rw [hclosed]
  exact h (hreopened hreopened') hseen channel hchannel'

theorem exists_of_getElem?_modify {channels : List BrokerChannel} {i j : ChannelId}
    {f : BrokerChannel → BrokerChannel} (hf : i = j → ∀ channel, (f channel).closed = channel.closed)
    : ∀ channel', (channels.modify i f)[j]? = some channel' →
        ∃ channel, channels[j]? = some channel ∧ channel'.closed = channel.closed := by
  intro channel' hget
  rw [List.getElem?_modify, Option.map_eq_map, Option.map_eq_some_iff] at hget
  rcases hget with ⟨channel, hchannel, rfl⟩
  refine ⟨channel, hchannel, ?_⟩
  split
  . next hij => exact hf hij channel
  . rfl

theorem Opened.poll (h : w.Opened) {confirm : Option PublisherConfirm}
    (heffect : Effect w confirm w') : w'.Opened := by
  intro hreopened
  have hconnectionRx := heffect.connectionRx hreopened
  rcases heffect.reopened hreopened with ⟨hold, _, hsame⟩ | ⟨hnot, hnew⟩
  . cases heffect with
    | @publish _ _ _ result hstate _ _ =>
      cases result with
      | ok =>
        exact h.keep (fun _ => hold) hconnectionRx hsame
          (exists_of_getElem?_modify fun _ _ => rfl) hreopened
      | err received => contradiction
    | close hstate => contradiction
    | openChannel hstate => simp [StateMachine.reopened, hstate] at hold
    | _ =>
      exact h.keep (fun _ => hold) hconnectionRx hsame (fun channel hchannel => ⟨channel, hchannel, rfl⟩)
        hreopened
  . intro _ channel hchannel
    rw [hnew] at hchannel
    cases heffect with
    | publish hstate hconfirms hmessages => simp [StateMachine.inOk, hstate] at hnot
    | close hstate => contradiction
    | openChannel hstate =>
      rw [List.getElem?_concat_length, Option.some.injEq] at hchannel
      rw [← hchannel]
      rfl
    | _ => simp at hchannel

theorem Opened.brokerClose (h : w.Opened) {i : ChannelId} (hkeeps : w.KeepsChannel (.close i))
    : Opened { w with channels := w.channels.modify i BrokerChannel.close } := by
  by_cases hi : i = w.producer.channel
  . intro hreopened hseen
    rw [hkeeps hi hreopened] at hseen
    contradiction
  . exact h.keep id rfl rfl (exists_of_getElem?_modify fun hij => absurd hij hi)

theorem Opened.step (h : w.Opened) {label : Label} (hkeeps : w.KeepsChannel label)
    (hstep : w.step label = some w') : w'.Opened := by
  cases label with
  | poll result => exact h.poll (poll_effect hstep)
  | close i =>
    rw [← Option.some.inj hstep]
    exact h.brokerClose hkeeps
  | confirm i confirm =>
    simp only [World.step, World.confirm] at hstep
    split at hstep
    . contradiction
    . split at hstep
      . rw [← Option.some.inj hstep]
        exact h.keep id rfl rfl (exists_of_getElem?_modify fun _ _ => rfl)
      . contradiction
  | connection connection =>
    rw [← Option.some.inj hstep]
    intro _ hseen
    contradiction
  | _ =>
    rw [← Option.some.inj hstep]
    exact h.keep id rfl rfl (fun channel hchannel => ⟨channel, hchannel, rfl⟩)

theorem Heeds.keep (h : w.Heeds) (hstate : w'.producer.state = w.producer.state)
    (hflow : w'.producer.flowRx = w.producer.flowRx)
    (hblocked : w'.producer.blockedRx = w.producer.blockedRx) : w'.Heeds := by
  unfold Heeds
  rw [hstate, hflow, hblocked]
  exact h

theorem Heeds.poll (h : w.Heeds) {confirm : Option PublisherConfirm} (heffect : Effect w confirm w')
    : w'.Heeds := by
  cases heffect with
  | move hmoves =>
    cases hmoves with
    | flowChanged hstate =>
      intro flow blocked messageCount heq
      rw [State.ok.injEq] at heq
      rcases heq with ⟨rfl, rfl, rfl⟩
      exact ⟨fun _ => rfl, (h _ _ _ hstate).2⟩
    | blockedChanged hstate =>
      intro flow blocked messageCount heq
      rw [State.ok.injEq] at heq
      rcases heq with ⟨rfl, rfl, rfl⟩
      exact ⟨(h _ _ _ hstate).1, fun _ => rfl⟩
    | restored hstate =>
      intro flow blocked messageCount heq
      simp only [StateMachine.enterOk, State.ok.injEq] at heq
      rcases heq with ⟨rfl, rfl, rfl⟩
      exact ⟨fun _ => rfl, fun _ => rfl⟩
    | connection hstate =>
      intro flow blocked messageCount heq
      dsimp only at heq
      split at heq <;> contradiction
    | retry hstate => exact h
    | _ =>
      intro flow blocked messageCount heq
      contradiction
  | confirm hconfirms hstate =>
    apply h.keep
    . exact processConfirm_state
    . unfold StateMachine.processConfirm
      dsimp only
      split <;> rfl
    . unfold StateMachine.processConfirm
      dsimp only
      split <;> rfl
  | @publish _ _ _ result hstate hconfirms hmessages =>
    intro flow blocked messageCount heq
    cases result with
    | ok =>
      simp only [World.publish, State.ok.injEq] at heq
      rcases heq with ⟨rfl, rfl, _⟩
      exact h _ _ _ hstate
    | err received => contradiction
  | schedule hstate hunconfirmed => exact h.keep rfl rfl rfl
  | close hstate =>
    intro flow blocked messageCount heq
    contradiction
  | openChannel hstate =>
    intro flow blocked messageCount heq
    contradiction

structure Steady (w : World) : Prop where
  custody : w.Custody
  heeds : w.Heeds

theorem Steady.step (h : w.Steady) {label : Label} (hstep : w.step label = some w') : w'.Steady := by
  refine ⟨h.custody.step hstep, ?_⟩
  cases label with
  | poll result => exact h.heeds.poll (poll_effect hstep)
  | flow active =>
    rw [← Option.some.inj hstep]
    intro flow blocked messageCount heq
    refine ⟨?_, (h.heeds _ _ _ heq).2⟩
    intro hseen
    contradiction
  | blocked active =>
    rw [← Option.some.inj hstep]
    intro flow blocked messageCount heq
    refine ⟨(h.heeds _ _ _ heq).1, ?_⟩
    intro hseen
    contradiction
  | confirm i confirm =>
    simp only [World.step, World.confirm] at hstep
    split at hstep
    . contradiction
    . split at hstep
      . rw [← Option.some.inj hstep]
        exact h.heeds.keep rfl rfl rfl
      . contradiction
  | _ =>
    rw [← Option.some.inj hstep]
    exact h.heeds.keep rfl rfl rfl

variable {connection : ConnectionId} {connectionRx : Watch (Option ConnectionId)}
variable {blockedRx : Watch Bool}

theorem steady_start
    : ({ init connection blockedRx.value with
        producer := { (init connection blockedRx.value).producer with connectionRx, blockedRx }
      }).Steady where
  custody := custody_init.move rfl rfl rfl rfl fun _ hphase => hphase
  heeds := by
    intro flow blocked messageCount heq
    simp only [init, State.ok.injEq] at heq
    rcases heq with ⟨rfl, rfl, _⟩
    exact ⟨fun _ => rfl, fun _ => rfl⟩

theorem opened_start
    : ({ init connection blockedRx.value with
        producer := { (init connection blockedRx.value).producer with connectionRx, blockedRx }
      }).Opened := by
  intro _ _ channel hchannel
  rw [← Option.some.inj hchannel]
  rfl

end World

end TomNotifier.Rabbitmq.Producer
