import TomNotifier.Rabbitmq.Producer.Effects
import TomNotifier.System.Numbered
import TomNotifier.System.Run

/-!
This module contains what becomes of the messages a producer is handed: whatever it forgets has been
acked by the broker.
-/

namespace TomNotifier.Rabbitmq.Producer

open Numbered

section Confirms

variable {confirm : PublisherConfirm} {confirms : List PublisherConfirm} {tag : Nat}
variable {entries : List (Nat × BoxedMessage)} {channel : BrokerChannel} {message : BoxedMessage}

/-- How the confirms of a queue decide a publish: the first one about it does. -/
def verdict (confirms : List PublisherConfirm) (tag : Nat) : Option PublisherConfirmVariant :=
  (confirms.find? (PublisherConfirm.covers · tag)).map (·.variant)

theorem verdict_append_singleton
    : verdict (confirms ++ [confirm]) tag
        =
      (verdict confirms tag).or
        (if PublisherConfirm.covers confirm tag then some confirm.variant else none) := by
  unfold verdict
  rw [List.find?_append, Option.map_or, List.find?_singleton]
  split <;> simp_all

theorem verdict_cons_of_covers (h : PublisherConfirm.covers confirm tag)
    : verdict (confirm :: confirms) tag = some confirm.variant := by
  simp [verdict, h]

theorem verdict_cons_of_not (h : ¬PublisherConfirm.covers confirm tag)
    : verdict (confirm :: confirms) tag = verdict confirms tag := by
  simp [verdict, h]

theorem removeConfirmed_eq_filter (h : Ordered entries)
    : StateMachine.removeConfirmed confirm entries
        =
      (entries.filter (fun entry => PublisherConfirm.covers confirm entry.1),
        entries.filter (fun entry => !PublisherConfirm.covers confirm entry.1)) := by
  unfold StateMachine.removeConfirmed PublisherConfirm.covers
  cases confirm.multiple with
  | true =>
    simp only [if_true]
    rw [takeWhile_le_eq_filter h, dropWhile_le_eq_filter h]
  | false =>
    simp only [Bool.false_eq_true, if_false]
    rw [← find?_eq_filter h, ← eraseP_eq_filter h]
    split
    . next entry hfind => rw [hfind, Option.toList_some]
    . next hfind =>
      rw [hfind, Option.toList_none, List.eraseP_of_forall_not]
      simpa using hfind

theorem getElem?_confirm {i : Nat}
    : (channel.confirm confirm).published[i]?
        =
      channel.published[i]?.map fun publish =>
        if publish.2.isNone && PublisherConfirm.covers confirm (i + 1) then
          (publish.1, some confirm.variant)
        else
          publish := by
  exact List.getElem?_mapIdx

end Confirms

/-- The unconfirmed messages are numbered like the channel's publishes, the queue says how these go. -/
structure Agrees (p : StateMachine) (channel : BrokerChannel) : Prop where
  ordered : Ordered p.unconfirmedMessages
  published : ∀ entry ∈ p.unconfirmedMessages,
    0 < entry.1 ∧
      channel.published[entry.1 - 1]? = some (entry.2, verdict p.confirms entry.1)

section Agrees

variable {p : StateMachine} {channel : BrokerChannel} {c : PublisherConfirm}
variable {confirms : List PublisherConfirm} {entry : Nat × BoxedMessage}

theorem Agrees.of_nil (h : p.unconfirmedMessages = []) : Agrees p channel := by
  constructor
  . rw [h]
    exact ordered_nil
  . simp [h]

theorem Agrees.confirm (h : Agrees p channel)
    : Agrees { p with confirms := p.confirms ++ [c] } (channel.confirm c) where
  ordered := h.ordered
  published := by
    intro entry hentry
    rcases h.published entry hentry with ⟨hpos, hpublished⟩
    refine ⟨hpos, ?_⟩
    rw [getElem?_confirm, hpublished, verdict_append_singleton, Nat.sub_add_cancel hpos]
    cases hverdict : verdict p.confirms entry.1 with
    | none =>
      by_cases hcovers : PublisherConfirm.covers c entry.1
      . simp [hcovers]
      . simp [hcovers]
    | some variant => simp

theorem Agrees.received (h : Agrees p channel) (message : BoxedMessage)
    : Agrees p (channel.publish message) where
  ordered := h.ordered
  published := by
    intro entry hentry
    rcases h.published entry hentry with ⟨hpos, hpublished⟩
    have hlt := (List.getElem?_eq_some_iff.mp hpublished).1
    refine ⟨hpos, ?_⟩
    rw [BrokerChannel.publish, List.getElem?_append_left hlt]
    exact hpublished

theorem Agrees.publish (h : Agrees p channel) (hconfirms : p.confirms = []) (message : BoxedMessage)
    : Agrees
        { p with
          unconfirmedMessages := p.unconfirmedMessages ++ [(channel.published.length + 1, message)] }
        (channel.publish message) where
  ordered := by
    rw [ordered_append_singleton_iff]
    refine ⟨h.ordered, ?_⟩
    intro entry hentry
    rcases h.published entry hentry with ⟨hpos, hpublished⟩
    have hlt := (List.getElem?_eq_some_iff.mp hpublished).1
    show entry.1 < channel.published.length + 1
    omega
  published := by
    intro entry hentry
    rw [List.mem_append, List.mem_singleton] at hentry
    rcases hentry with hentry | rfl
    . exact (h.received message).published entry hentry
    . simp [BrokerChannel.publish, hconfirms, verdict]

theorem processConfirm_eq (h : Ordered p.unconfirmedMessages)
    : p.processConfirm c
        =
      { p with
        unconfirmedMessages :=
          p.unconfirmedMessages.filter (fun entry => !PublisherConfirm.covers c entry.1)
        messages := p.messages ++
          match c.variant with
          | .ack => []
          | .nack =>
            (p.unconfirmedMessages.filter (fun entry => PublisherConfirm.covers c entry.1)).map (·.2)
      } := by
  unfold StateMachine.processConfirm
  rw [removeConfirmed_eq_filter h]
  cases c.variant with
  | ack => simp
  | nack => rfl

theorem Agrees.processConfirm (h : Agrees p channel) (hconfirms : p.confirms = c :: confirms)
    : Agrees ({ p with confirms }.processConfirm c) channel := by
  have hordered : Ordered { p with confirms }.unconfirmedMessages := h.ordered
  rw [processConfirm_eq hordered]
  constructor
  . exact h.ordered.filter
  . intro entry hentry
    rw [List.mem_filter] at hentry
    have hpublished := h.published entry hentry.1
    rw [hconfirms, verdict_cons_of_not (by simpa using hentry.2)] at hpublished
    exact hpublished

theorem Agrees.confirmed (h : Agrees p channel) (hconfirms : p.confirms = c :: confirms)
    (hentry : entry ∈ p.unconfirmedMessages) (hcovers : PublisherConfirm.covers c entry.1)
    : (entry.2, some c.variant) ∈ channel.published := by
  have hpublished := (h.published entry hentry).2
  rw [hconfirms, verdict_cons_of_covers hcovers] at hpublished
  exact List.mem_of_getElem? hpublished

end Agrees

def AckedIn (channels : List BrokerChannel) (message : BoxedMessage) : Prop :=
  ∃ channel ∈ channels, (message, some .ack) ∈ channel.published

section AckedIn

variable {channels : List BrokerChannel} {message : BoxedMessage} {i : Nat}

theorem AckedIn.modify {f : BrokerChannel → BrokerChannel} (h : AckedIn channels message)
    (hf : ∀ channel : BrokerChannel, (message, some .ack) ∈ channel.published →
      (message, some .ack) ∈ (f channel).published)
    : AckedIn (channels.modify i f) message := by
  rcases h with ⟨channel, hchannel, hacked⟩
  rw [List.mem_iff_getElem?] at hchannel
  rcases hchannel with ⟨j, hj⟩
  by_cases heq : i = j
  . refine ⟨f channel, List.mem_iff_getElem?.mpr ⟨j, ?_⟩, hf channel hacked⟩
    simp [heq, hj]
  . refine ⟨channel, List.mem_iff_getElem?.mpr ⟨j, ?_⟩, hacked⟩
    simp [heq, hj]

theorem AckedIn.append {channel : BrokerChannel} (h : AckedIn channels message)
    : AckedIn (channels ++ [channel]) message := by
  rcases h with ⟨channel', hchannel', hacked⟩
  exact ⟨channel', List.mem_append_left _ hchannel', hacked⟩

theorem AckedIn.confirm {c : PublisherConfirm} (h : AckedIn channels message)
    : AckedIn (channels.modify i (BrokerChannel.confirm c)) message := by
  apply h.modify
  intro channel hacked
  rw [List.mem_iff_getElem?] at hacked ⊢
  rcases hacked with ⟨j, hj⟩
  refine ⟨j, ?_⟩
  rw [getElem?_confirm, hj]
  simp

theorem AckedIn.publish {message' : BoxedMessage} (h : AckedIn channels message)
    : AckedIn (channels.modify i (BrokerChannel.publish message')) message := by
  exact h.modify (fun _ hacked => List.mem_append_left _ hacked)

theorem AckedIn.close (h : AckedIn channels message)
    : AckedIn (channels.modify i BrokerChannel.close) message := by
  exact h.modify (fun _ hacked => hacked)

end AckedIn

namespace World

def Phase (p : StateMachine) (channel : BrokerChannel) : Prop :=
  match p.state with
  | .ok _ _ messageCount => channel.published.length = messageCount
  | .waitingForConnection _ => True
  | .processingPendingConfirmations _ => True
  | .recreatingChannel .closing => p.unconfirmedMessages = []
  | .recreatingChannel .opening => p.unconfirmedMessages = [] ∧ channel.closed = true
  | .recreatingChannel .registering => p.unconfirmedMessages = [] ∧ channel.published = []
  | .restoringProducer => p.unconfirmedMessages = [] ∧ channel.published = []

/-- Whether the producer has a message, or is entitled to have forgotten it. -/
def Accounted (w : World) (message : BoxedMessage) : Prop :=
  message ∈ w.producer.messages
    ∨ message ∈ w.producer.unconfirmedMessages.map (·.2)
    ∨ AckedIn w.channels message

structure Custody (w : World) : Prop where
  current : ∃ channel,
    w.channels[w.producer.channel]? = some channel
      ∧ Agrees w.producer channel
      ∧ Phase w.producer channel
  others : ∀ i channel, i ≠ w.producer.channel → w.channels[i]? = some channel →
    channel.closed = true
  accounted : ∀ message ∈ w.sent, w.Accounted message

variable {w w' : World} {p : StateMachine} {channel : BrokerChannel}

theorem Accounted.mono {message : BoxedMessage} (h : w.Accounted message)
    (hmessages : w.producer.messages ⊆ w'.producer.messages)
    (hunconfirmed : w.producer.unconfirmedMessages = w'.producer.unconfirmedMessages)
    (hacked : AckedIn w.channels message → AckedIn w'.channels message) : w'.Accounted message := by
  rcases h with hpending | hmem | hacked'
  . exact Or.inl (hmessages hpending)
  . exact Or.inr (Or.inl (hunconfirmed ▸ hmem))
  . exact Or.inr (Or.inr (hacked hacked'))

theorem custody_init {connection : ConnectionId} {blocked : Bool}
    : (init connection blocked).Custody where
  current := ⟨BrokerChannel.new, rfl, Agrees.of_nil rfl, rfl⟩
  others := by
    intro i channel hi hchannel
    cases i with
    | zero => simp [init] at hi
    | succ i => simp [init] at hchannel
  accounted := by simp [init]

theorem Custody.move (h : w.Custody) (hchannel : p.channel = w.producer.channel)
    (hunconfirmed : p.unconfirmedMessages = w.producer.unconfirmedMessages)
    (hconfirms : p.confirms = w.producer.confirms) (hmessages : p.messages = w.producer.messages)
    (hphase : ∀ channel, Phase w.producer channel → Phase p channel)
    : Custody { w with producer := p } := by
  rcases h.current with ⟨channel, hcurrent, hagrees, hcurrentPhase⟩
  constructor
  . refine ⟨channel, by rw [hchannel]; exact hcurrent, ⟨?_, ?_⟩, hphase channel hcurrentPhase⟩
    . rw [hunconfirmed]
      exact hagrees.ordered
    . rw [hunconfirmed, hconfirms]
      exact hagrees.published
  . rw [hchannel]
    exact h.others
  . intro message hmessage
    unfold Accounted
    rw [hunconfirmed, hmessages]
    exact h.accounted message hmessage

theorem Custody.send (h : w.Custody) {message : Message} : (w.send message).Custody where
  current := by
    rcases h.current with ⟨channel, hcurrent, hagrees, hphase⟩
    exact ⟨channel, hcurrent, ⟨hagrees.ordered, hagrees.published⟩, hphase⟩
  others := h.others
  accounted := by
    intro message' hmessage'
    unfold World.send at hmessage'
    rw [List.mem_append, List.mem_singleton] at hmessage'
    rcases hmessage' with hmem | rfl
    . exact (h.accounted message' hmem).mono (List.subset_append_left _ _) rfl (fun hacked => hacked)
    . exact Or.inl (List.mem_append_right _ List.mem_cons_self)

theorem Phase.confirm {c : PublisherConfirm} {confirms : List PublisherConfirm}
    (h : Phase p channel) : Phase { p with confirms } (channel.confirm c) := by
  unfold Phase at *
  cases hstate : p.state with
  | ok flow blocked messageCount =>
    simp only [hstate] at h ⊢
    simpa [BrokerChannel.confirm] using h
  | waitingForConnection awaiting => trivial
  | processingPendingConfirmations scheduling => trivial
  | recreatingChannel stage =>
    cases stage with
    | closing => simpa [hstate] using h
    | opening => simpa [hstate, BrokerChannel.confirm] using h
    | registering => simpa [hstate, BrokerChannel.confirm] using h
  | restoringProducer => simpa [hstate, BrokerChannel.confirm] using h

theorem Custody.confirm (h : w.Custody) {i : ChannelId} {c : PublisherConfirm}
    (hstep : w.confirm i c = some w') : w'.Custody := by
  unfold World.confirm at hstep
  split at hstep
  . simp at hstep
  . next broker hbroker =>
    split at hstep
    . next hguard =>
      simp only [Bool.and_eq_true, Bool.not_eq_true'] at hguard
      -- the channels that were given up are closed, so the confirm is about the current one
      have hi : i = w.producer.channel := by
        by_contra hne
        have hclosed := h.others i broker hne hbroker
        rw [hguard.1] at hclosed
        simp at hclosed
      simp only [Option.some.injEq] at hstep
      rw [← hstep]
      rcases h.current with ⟨channel, hcurrent, hagrees, hphase⟩
      constructor
      . refine ⟨channel.confirm c, ?_, hagrees.confirm, ?_⟩
        . simp [hi, hcurrent]
        . exact hphase.confirm
      . intro j channel' hj hchannel'
        apply h.others j channel' hj
        simpa [hi, List.getElem?_modify, Ne.symm hj] using hchannel'
      . intro message hmessage
        exact (h.accounted message hmessage).mono (List.Subset.refl _) rfl .confirm
    . simp at hstep

theorem Custody.processConfirm (h : w.Custody) {c : PublisherConfirm} {confirms : List PublisherConfirm}
    (hconfirms : w.producer.confirms = c :: confirms)
    (hphase : ∀ p channel, p.state = w.producer.state → Phase w.producer channel → Phase p channel)
    : Custody { w with producer := { w.producer with confirms }.processConfirm c } := by
  rcases h.current with ⟨channel, hcurrent, hagrees, hcurrentPhase⟩
  have hagrees' := hagrees.processConfirm hconfirms
  have hordered : Ordered { w.producer with confirms }.unconfirmedMessages := hagrees.ordered
  rw [processConfirm_eq hordered] at hagrees' ⊢
  refine ⟨⟨channel, hcurrent, hagrees', hphase _ channel rfl hcurrentPhase⟩, h.others, ?_⟩
  intro message hmessage
  rcases h.accounted message hmessage with hpending | hunconfirmed | hacked
  . exact Or.inl (List.mem_append_left _ hpending)
  . rw [List.mem_map] at hunconfirmed
    rcases hunconfirmed with ⟨entry, hentry, rfl⟩
    -- an ack is the licence to forget a message, a nack puts it back into the queue
    cases hcovers : PublisherConfirm.covers c entry.1 with
    | true =>
      cases hvariant : c.variant with
      | ack =>
        have hconfirmed := hagrees.confirmed hconfirms hentry hcovers
        rw [hvariant] at hconfirmed
        exact Or.inr (Or.inr ⟨channel, List.mem_of_getElem? hcurrent, hconfirmed⟩)
      | nack =>
        apply Or.inl
        apply List.mem_append_right
        exact List.mem_map_of_mem (List.mem_filter.mpr ⟨hentry, hcovers⟩)
    | false =>
      apply Or.inr
      apply Or.inl
      exact List.mem_map_of_mem (List.mem_filter.mpr ⟨hentry, by simp [hcovers]⟩)
  . exact Or.inr (Or.inr hacked)

theorem Custody.others_modify (h : w.Custody) {f : BrokerChannel → BrokerChannel}
    : ∀ i channel, i ≠ w.producer.channel →
        (w.channels.modify w.producer.channel f)[i]? = some channel → channel.closed = true := by
  intro i channel hi hchannel
  apply h.others i channel hi
  simpa [List.getElem?_modify, Ne.symm hi] using hchannel

theorem Custody.publish (h : w.Custody) {flow blocked : Bool} {messageCount : Nat}
    {message : BoxedMessage} {messages : List BoxedMessage} {result : CallResult}
    (hstate : w.producer.state = .ok flow blocked messageCount) (hconfirms : w.producer.confirms = [])
    (hmessages : w.producer.messages = message :: messages)
    : (w.publish flow blocked messageCount message messages result).Custody := by
  rcases h.current with ⟨channel, hcurrent, hagrees, hphase⟩
  have hcount : channel.published.length = messageCount := by
    unfold Phase at hphase
    rw [hstate] at hphase
    exact hphase
  have hrest : ∀ message', w.Accounted message' → message' = message
      ∨ message' ∈ messages
      ∨ message' ∈ w.producer.unconfirmedMessages.map (·.2)
      ∨ AckedIn w.channels message' := by
    intro message' haccounted
    rcases haccounted with hpending | hother
    . rw [hmessages, List.mem_cons] at hpending
      rcases hpending with heq | hmem
      . exact Or.inl heq
      . exact Or.inr (Or.inl hmem)
    . exact Or.inr (Or.inr hother)
  cases result with
  | ok =>
    have hagrees' := hagrees.publish hconfirms message
    rw [hcount] at hagrees'
    constructor
    . refine ⟨channel.publish message, ?_, ⟨hagrees'.ordered, hagrees'.published⟩, ?_⟩
      . simp [World.publish, hcurrent]
      . simp [World.publish, Phase, BrokerChannel.publish, hcount]
    . exact h.others_modify
    . intro message' hmessage'
      rcases hrest message' (h.accounted message' hmessage') with rfl | hmem | hmem | hacked
      . exact Or.inr (Or.inl (by simp [World.publish]))
      . exact Or.inl hmem
      . refine Or.inr (Or.inl ?_)
        simp only [World.publish, List.map_append]
        exact List.mem_append_left _ hmem
      . exact Or.inr (Or.inr hacked.publish)
  | err wasReceived =>
    have hpending : ∀ message', w.Accounted message' → message' ∈ messages ++ [message]
        ∨ message' ∈ w.producer.unconfirmedMessages.map (·.2)
        ∨ AckedIn w.channels message' := by
      intro message' haccounted
      rcases hrest message' haccounted with rfl | hmem | hother
      . exact Or.inl (List.mem_append_right _ List.mem_cons_self)
      . exact Or.inl (List.mem_append_left _ hmem)
      . exact Or.inr hother
    cases wasReceived with
    | true =>
      -- the broker has the message as well, so there is a publish without a number in the list
      constructor
      . have hreceived := hagrees.received message
        refine ⟨channel.publish message, ?_, ⟨hreceived.ordered, hreceived.published⟩, trivial⟩
        simp [World.publish, hcurrent]
      . exact h.others_modify
      . intro message' hmessage'
        rcases hpending message' (h.accounted message' hmessage') with hmem | hmem | hacked
        . exact Or.inl hmem
        . exact Or.inr (Or.inl hmem)
        . exact Or.inr (Or.inr hacked.publish)
    | false =>
      constructor
      . exact ⟨channel, hcurrent, ⟨hagrees.ordered, hagrees.published⟩, trivial⟩
      . exact h.others
      . intro message' hmessage'
        exact hpending message' (h.accounted message' hmessage')

theorem Custody.schedule (h : w.Custody) {tag : Nat} {message : BoxedMessage}
    {unconfirmedMessages : List (Nat × BoxedMessage)}
    (hunconfirmed : w.producer.unconfirmedMessages = (tag, message) :: unconfirmedMessages)
    (hphase : ∀ p channel, p.state = w.producer.state → Phase p channel)
    : Custody { w with
        producer := { w.producer with
          unconfirmedMessages
          messages := w.producer.messages ++ [message]
        }
      } := by
  rcases h.current with ⟨channel, hcurrent, hagrees, _⟩
  have hordered := hagrees.ordered
  rw [hunconfirmed, ordered_cons_iff] at hordered
  refine ⟨⟨channel, hcurrent, ⟨hordered.2, ?_⟩, hphase _ channel rfl⟩, h.others, ?_⟩
  . intro entry hentry
    exact hagrees.published entry (hunconfirmed ▸ List.mem_cons_of_mem _ hentry)
  . intro message' hmessage'
    rcases h.accounted message' hmessage' with hpending | hmem | hacked
    . exact Or.inl (List.mem_append_left _ hpending)
    . rw [hunconfirmed, List.map_cons, List.mem_cons] at hmem
      rcases hmem with rfl | hmem
      . exact Or.inl (List.mem_append_right _ List.mem_cons_self)
      . exact Or.inr (Or.inl hmem)
    . exact Or.inr (Or.inr hacked)

theorem Custody.close (h : w.Custody) (hunconfirmed : w.producer.unconfirmedMessages = [])
    : Custody { w with
        producer := { w.producer with state := .recreatingChannel .opening }
        channels := w.channels.modify w.producer.channel BrokerChannel.close
      } := by
  rcases h.current with ⟨channel, hcurrent, _, _⟩
  refine ⟨⟨channel.close, by simp [hcurrent], Agrees.of_nil hunconfirmed, hunconfirmed, rfl⟩,
    h.others_modify, ?_⟩
  intro message hmessage
  exact (h.accounted message hmessage).mono (List.Subset.refl _) rfl .close

theorem Phase.close (h : Phase p channel) : Phase p channel.close := by
  unfold Phase at *
  cases hstate : p.state with
  | ok flow blocked messageCount => simpa [hstate, BrokerChannel.close] using h
  | waitingForConnection awaiting => trivial
  | processingPendingConfirmations scheduling => trivial
  | recreatingChannel stage =>
    cases stage with
    | closing => simpa [hstate] using h
    | opening =>
      simp only [hstate] at h
      exact ⟨h.1, rfl⟩
    | registering => simpa [hstate, BrokerChannel.close] using h
  | restoringProducer => simpa [hstate, BrokerChannel.close] using h

theorem Custody.brokerClose (h : w.Custody) (i : ChannelId)
    : Custody { w with channels := w.channels.modify i BrokerChannel.close } where
  current := by
    rcases h.current with ⟨channel, hcurrent, hagrees, hphase⟩
    by_cases hi : i = w.producer.channel
    . refine ⟨channel.close, ?_, ⟨hagrees.ordered, hagrees.published⟩, hphase.close⟩
      simp [hi, hcurrent]
    . exact ⟨channel, by simp [hi, hcurrent], hagrees, hphase⟩
  others := by
    intro j channel hj hchannel
    rw [List.getElem?_modify, Option.map_eq_map, Option.map_eq_some_iff] at hchannel
    rcases hchannel with ⟨channel', hchannel', rfl⟩
    have hclosed := h.others j channel' hj hchannel'
    split
    . rfl
    . exact hclosed
  accounted := by
    intro message hmessage
    exact (h.accounted message hmessage).mono (List.Subset.refl _) rfl .close

theorem Custody.openChannel (h : w.Custody) (hunconfirmed : w.producer.unconfirmedMessages = [])
    (hclosed : ∀ channel, w.channels[w.producer.channel]? = some channel → channel.closed = true)
    : Custody { w with
        producer := { w.producer with
          channel := w.channels.length
          flowRx := Watch.send true
          state := .recreatingChannel .registering
        }
        channels := w.channels ++ [BrokerChannel.new]
      } := by
  refine ⟨⟨BrokerChannel.new, by simp, Agrees.of_nil hunconfirmed, hunconfirmed, rfl⟩, ?_, ?_⟩
  . intro i channel hi hchannel
    have hi' : i < w.channels.length := by
      have hlt := (List.getElem?_eq_some_iff.mp hchannel).1
      rw [List.length_append, List.length_singleton] at hlt
      exact Nat.lt_of_le_of_ne (Nat.lt_succ_iff.mp hlt) hi
    rw [List.getElem?_append_left hi'] at hchannel
    by_cases hcurrent : i = w.producer.channel
    . rw [hcurrent] at hchannel
      exact hclosed channel hchannel
    . exact h.others i channel hcurrent hchannel
  . intro message hmessage
    exact (h.accounted message hmessage).mono (List.Subset.refl _) rfl .append

theorem phase_ok {flow blocked : Bool} {messageCount : Nat}
    (hstate : p.state = .ok flow blocked messageCount)
    : Phase p channel ↔ channel.published.length = messageCount := by
  unfold Phase
  rw [hstate]

-- Confirms are looked at in states about whose unconfirmed messages nothing is known.
theorem Phase.listening {p' : StateMachine} (h : Phase p channel)
    (hstate : (∃ flow blocked messageCount, p.state = .ok flow blocked messageCount)
      ∨ p.state = .processingPendingConfirmations false)
    (hp : p'.state = p.state) : Phase p' channel := by
  rcases hstate with ⟨flow, blocked, messageCount, hstate⟩ | hstate
  . rw [phase_ok hstate] at h
    rwa [phase_ok (hp.trans hstate)]
  . unfold Phase
    rw [hp, hstate]
    trivial

theorem Phase.moves (h : w.producer.Moves p) (hphase : Phase w.producer channel)
    : Phase p channel := by
  unfold Phase at hphase
  cases h with
  | connectionChanged _ => trivial
  | flowChanged hstate =>
    rw [hstate] at hphase
    rwa [phase_ok rfl]
  | blockedChanged hstate =>
    rw [hstate] at hphase
    rwa [phase_ok rfl]
  | connection _ =>
    unfold Phase
    cases w.producer.connectionRx.value with
    | none => trivial
    | some connection => trivial
  | processed _ _ => trivial
  | scheduled _ hunconfirmed => exact hunconfirmed
  | retry _ => exact hphase
  | registered hstate =>
    rw [hstate] at hphase
    exact hphase
  | restored hstate =>
    rw [hstate] at hphase
    rw [phase_ok rfl, hphase.2, List.length_nil]
  | failed hstate =>
    rw [hstate] at hphase
    exact hphase.1

theorem Custody.poll (h : w.Custody) {c : Option PublisherConfirm} (heffect : Effect w c w')
    : w'.Custody := by
  rcases h.current with ⟨channel, hcurrent, _, hphase⟩
  cases heffect with
  | move hmoves =>
    have hsame := hmoves.sameQueues
    exact h.move hsame.channel hsame.unconfirmedMessages hsame.confirms hsame.messages
      (fun _ hphase => hphase.moves hmoves)
  | confirm hconfirms hstate =>
    apply h.processConfirm hconfirms
    intro p channel hp hphase
    exact hphase.listening hstate hp
  | publish hstate hconfirms hmessages => exact h.publish hstate hconfirms hmessages
  | schedule hstate hunconfirmed =>
    apply h.schedule hunconfirmed
    intro p channel hp
    unfold Phase
    rw [hp, hstate]
    trivial
  | close hstate =>
    unfold Phase at hphase
    rw [hstate] at hphase
    exact h.close hphase
  | openChannel hstate =>
    unfold Phase at hphase
    rw [hstate] at hphase
    apply h.openChannel hphase.1
    intro channel' hchannel'
    rw [hcurrent, Option.some.injEq] at hchannel'
    rw [← hchannel']
    exact hphase.2

theorem Custody.step (h : w.Custody) {label : Label} (hstep : w.step label = some w') : w'.Custody := by
  cases label with
  | send message =>
    simp only [World.step, Option.some.injEq] at hstep
    rw [← hstep]
    exact h.send
  | connection connection =>
    simp only [World.step, Option.some.injEq] at hstep
    rw [← hstep]
    exact h.move rfl rfl rfl rfl (fun _ hphase => hphase)
  | flow active =>
    simp only [World.step, Option.some.injEq] at hstep
    rw [← hstep]
    exact h.move rfl rfl rfl rfl (fun _ hphase => hphase)
  | blocked blocked =>
    simp only [World.step, Option.some.injEq] at hstep
    rw [← hstep]
    exact h.move rfl rfl rfl rfl (fun _ hphase => hphase)
  | confirm i c => exact h.confirm hstep
  | close i =>
    simp only [World.step, Option.some.injEq] at hstep
    rw [← hstep]
    exact h.brokerClose i
  | poll result => exact h.poll (poll_effect hstep)

/--
At-least-once publishing: in every run, a message that was handed to the producer waits to be published
or confirmed, or a publish of this very message has been acked.
-/
theorem published_at_least_once (connection : ConnectionId) (blocked : Bool) (labels : List Label)
    (w : World) (hrun : System.run step (init connection blocked) labels = some w)
    : ∀ message ∈ w.sent,
        message ∈ w.producer.messages
          ∨ message ∈ w.producer.unconfirmedMessages.map (·.2)
          ∨ ∃ channel ∈ w.channels, (message, some .ack) ∈ channel.published := by
  have h : w.Custody :=
    System.run_invariant (fun w label w' h hstep => h.step hstep) custody_init hrun
  exact h.accounted

def sampleMessage (content : Bytes) : Message where
  routingKey := "NEW"
  basicProperties := { persistence := true }
  content

/-- The second of two publishes fails, the first one is acked after the queue has been drained. -/
def recovery : List Label :=
  [.send (sampleMessage [0]), .poll .ok, .send (sampleMessage [1]), .poll (.err true),
    .poll .ok, .poll .ok, .poll .ok,
    .confirm 0 { deliveryTag := 1, multiple := false, variant := .ack },
    .poll .ok, .poll .ok, .poll .ok, .poll .ok,
    .poll .ok, .poll .ok, .poll .ok,
    .confirm 1 { deliveryTag := 1, multiple := false, variant := .ack }, .poll .ok]

def recovered : World := (System.run step (init 0 false) recovery).getD (init 0 false)

theorem published_at_least_once_recovered
    : ∃ channel ∈ recovered.channels,
        (⟨1, sampleMessage [1]⟩, some .ack) ∈ channel.published := by
  have hrun : System.run step (init 0 false) recovery = some recovered := by rfl
  have hsent : ⟨1, sampleMessage [1]⟩ ∈ recovered.sent := by decide
  rcases published_at_least_once 0 false recovery recovered hrun _ hsent with hmem | hmem | hacked
  . exact absurd hmem (by decide)
  . exact absurd hmem (by decide)
  . exact hacked

end World

end TomNotifier.Rabbitmq.Producer
