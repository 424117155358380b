import TomNotifier.Rabbitmq.Reconnect

/-!
This module contains when a consumer that has reported to be consuming is, or is about to find out
that it is not.
-/

namespace TomNotifier.Rabbitmq.Consumer

def State.subscribed : State → Bool
  | .ok _ => true
  | .restoringConsumer .restored => true
  | _ => false

def State.usesChannel : State → Bool
  | .ok _ => true
  | .recreatingChannel .registering => true
  | .restoringConsumer _ => true
  | _ => false

namespace World

/-- The state machine is going to leave `ok_state`. -/
def WakeUp (w : World) : Prop :=
  w.consumer.connectionRx.unseen = true ∨ w.permits[w.consumer.consumerCancelled]? = some true

/-- The consumer's channel is open, on the present connection, and has an active subscription. -/
def Active (connection : Connection.StateMachine) (w : World) : Prop :=
  ∃ broker, w.channels[w.consumer.channel]? = some broker ∧ broker.consuming = true
    ∧ broker.closed = false ∧ connection.state = .ok ∧ broker.connection = connection.connection

end World

def Truthful (s : Link World) : Prop :=
  ∀ w, s.client = .running w → w.consumer.state = .ok .waiting →
    w.statuses.getLast? = some .consuming ∧ (w.Active s.connection ∨ w.WakeUp)

/--
The broker does not close the channel of the subscription, unless the state machine is about to leave
`ok_state` anyway.
-/
def KeepsChannel (s : Link World) : LinkLabel Unit Label → Prop
  | .client (.close channel) =>
    ∀ w, s.client = .running w → channel = w.consumer.channel →
      w.consumer.state.subscribed = true → w.WakeUp
  | _ => True

structure Channel (w : World) (broker : BrokerChannel) : Prop where
  channel : w.channels[w.consumer.channel]? = some broker
  connection : w.consumer.connection = some broker.connection
  permit : w.consumer.consumerCancelled < w.permits.length
  callback : w.consumer.state ≠ .recreatingChannel .registering →
    broker.callback = some w.consumer.consumerCancelled

structure Subscription (connection : Connection.StateMachine) (w : World) : Prop where
  reported : w.consumer.state = .ok .reporting ∨ w.consumer.state = .ok .waiting →
    w.statuses.getLast? = some .consuming
  covered : w.consumer.state.subscribed = true → w.Active connection ∨ w.WakeUp
  channel : w.consumer.state.usesChannel = true → ∃ broker, Channel w broker

variable {c c' : Connection.StateMachine} {w w' : World} {channel : ChannelId}

theorem State.usesChannel_of_subscribed {state : State} (h : state.subscribed = true)
    : state.usesChannel = true := by
  cases state with
  | ok stage => rfl
  | waitingForConnection stage => contradiction
  | recreatingChannel stage => contradiction
  | restoringConsumer stage => rfl

theorem Subscription.of_not_usesChannel (h : w.consumer.state.usesChannel = false)
    : Subscription c w := by
  constructor
  . rintro (hstate | hstate)
    . rw [hstate] at h
      contradiction
    . rw [hstate] at h
      contradiction
  . intro hsubscribed
    rw [State.usesChannel_of_subscribed hsubscribed] at h
    contradiction
  . rw [h]
    simp

theorem Subscription.publish (h : Subscription c w) (published : Option ConnectionId)
    : Subscription c' (w.publish published) where
  reported := h.reported
  covered _ := .inr (.inl rfl)
  channel := by
    intro huses
    rcases h.channel huses with ⟨broker, hbroker⟩
    exact ⟨broker, hbroker.channel, hbroker.connection, hbroker.permit, hbroker.callback⟩

-- A step that publishes nothing leads from a connection that is not there to one that is not there.
theorem Subscription.step (h : Subscription c w) {label : Connection.Label}
    (hstep : c.step label = some (c', none)) : Subscription c' w where
  reported := h.reported
  covered := by
    intro hsubscribed
    rcases h.covered hsubscribed with ⟨broker, _, _, _, hok, _⟩ | hwakeUp
    . rcases Connection.StateMachine.step_cases hstep with ⟨hnone, _⟩ | ⟨_, _, hne, _⟩ | ⟨hnone, _⟩
      . contradiction
      . exact absurd hok hne
      . contradiction
    . exact .inr hwakeUp
  channel := h.channel

/-- The broker does something to one of the channels and its callback. -/
structure Touches (channel : ChannelId) (w w' : World) : Prop where
  consumer : w'.consumer = w.consumer
  statuses : w'.statuses = w.statuses
  length : w'.permits.length = w.permits.length
  permits : ∀ notify : NotifyId, w.permits[notify]? = some true → w'.permits[notify]? = some true
  others : ∀ channel' : ChannelId, channel' ≠ channel → w'.channels[channel']? = w.channels[channel']?
  touched : ∀ broker, w.channels[channel]? = some broker → ∃ broker',
    w'.channels[channel]? = some broker' ∧ broker'.connection = broker.connection
      ∧ broker'.callback = broker.callback

theorem Touches.subscription (h : Touches channel w w') (hw : Subscription c w)
    (hwakeUp : channel = w.consumer.channel → w.consumer.state.subscribed = true → w'.WakeUp)
    : Subscription c w' := by
  constructor
  . rw [h.consumer, h.statuses]
    exact hw.reported
  . rw [h.consumer]
    intro hsubscribed
    by_cases hchannel : channel = w.consumer.channel
    . exact .inr (hwakeUp hchannel hsubscribed)
    . unfold World.Active World.WakeUp
      rw [h.consumer, h.others _ (Ne.symm hchannel)]
      rcases hw.covered hsubscribed with hactive | hunseen | hpermit
      . exact .inl hactive
      . exact .inr (.inl hunseen)
      . exact .inr (.inr (h.permits _ hpermit))
  . rw [h.consumer]
    intro huses
    rcases hw.channel huses with ⟨broker, hbroker⟩
    by_cases hchannel : channel = w.consumer.channel
    . subst hchannel
      rcases h.touched broker hbroker.channel with ⟨broker', hbroker', hconnection, hcallback⟩
      refine ⟨broker', ?_, ?_, ?_, ?_⟩
      . rw [h.consumer, hbroker']
      . rw [h.consumer, hconnection, hbroker.connection]
      . rw [h.consumer, h.length]
        exact hbroker.permit
      . rw [h.consumer, hcallback]
        exact hbroker.callback
    . refine ⟨broker, ?_, ?_, ?_, ?_⟩
      . rw [h.consumer, h.others _ (Ne.symm hchannel), hbroker.channel]
      . rw [h.consumer, hbroker.connection]
      . rw [h.consumer, h.length]
        exact hbroker.permit
      . rw [h.consumer]
        exact hbroker.callback

theorem touches_set {broker broker' : BrokerChannel} {permits : Permits}
    (hchannel : w.channels[channel]? = some broker) (hconnection : broker'.connection = broker.connection)
    (hcallback : broker'.callback = broker.callback) (hlength : permits.length = w.permits.length)
    (hpermits : ∀ notify : NotifyId, w.permits[notify]? = some true → permits[notify]? = some true)
    : Touches channel w { w with channels := w.channels.set channel broker', permits } := by
  refine ⟨rfl, rfl, hlength, hpermits, ?_, ?_⟩
  . intro channel' hne
    exact List.getElem?_set_ne (Ne.symm hne)
  . intro broker'' hbroker
    rw [hchannel, Option.some.injEq] at hbroker
    subst hbroker
    exact ⟨broker', List.getElem?_set_self (List.getElem?_eq_some_iff.mp hchannel).1, hconnection,
      hcallback⟩

theorem touches_of_cancel (h : w.cancel channel = some w')
    : Touches channel w w'
        ∧ ∀ broker notify, w.channels[channel]? = some broker → broker.callback = some notify →
          notify < w.permits.length → w'.permits[notify]? = some true := by
  unfold World.cancel at h
  split at h
  . contradiction
  . next broker hchannel =>
    split at h
    swap
    . contradiction
    . rw [Option.some.injEq] at h
      rw [← h]
      constructor
      . apply touches_set hchannel (by rfl) (by rfl)
        . cases broker.callback <;> simp [ChannelCallback.cancel]
        . intro notify hnotify
          cases broker.callback with
          | none => exact hnotify
          | some notify' =>
            have hlt := (List.getElem?_eq_some_iff.mp hnotify).1
            simp only [Option.map_some, Option.getD_some, ChannelCallback.cancel, List.getElem?_set]
            split
            . next heq => simp [heq, hlt]
            . exact hnotify
      . intro broker' notify hbroker hcallback hlt
        rw [hchannel, Option.some.injEq] at hbroker
        subst hbroker
        simp [hcallback, ChannelCallback.cancel, hlt]

theorem touches_of_close (h : w.close channel = some w')
    : Touches channel w w' ∧ w'.permits = w.permits := by
  unfold World.close at h
  split at h
  . contradiction
  . next broker hchannel =>
    have hpermits : (broker.callback.map (ChannelCallback.close · w.permits)).getD w.permits
        = w.permits := by
      cases broker.callback <;> rfl
    split at h
    . contradiction
    . rw [Option.some.injEq, hpermits] at h
      rw [← h]
      exact ⟨touches_set hchannel rfl rfl rfl (fun _ hnotify => hnotify), rfl⟩

theorem Subscription.cancel (hw : Subscription c w) (h : w.cancel channel = some w')
    : Subscription c w' := by
  rcases touches_of_cancel h with ⟨htouches, hpermit⟩
  apply htouches.subscription hw
  intro hchannel hsubscribed
  rcases hw.channel (State.usesChannel_of_subscribed hsubscribed) with ⟨broker, hbroker⟩
  have hcallback := hbroker.callback (by intro hstate; rw [hstate] at hsubscribed; contradiction)
  refine .inr ?_
  rw [htouches.consumer]
  exact hpermit broker _ (hchannel ▸ hbroker.channel) hcallback hbroker.permit

theorem Subscription.close (hw : Subscription c w) (h : w.close channel = some w')
    (hkeeps : channel = w.consumer.channel → w.consumer.state.subscribed = true → w.WakeUp)
    : Subscription c w' := by
  rcases touches_of_close h with ⟨htouches, hpermits⟩
  apply htouches.subscription hw
  intro hchannel hsubscribed
  unfold World.WakeUp
  rw [htouches.consumer, hpermits]
  exact hkeeps hchannel hsubscribed

-- What the broker accepts is accepted on the connection that is published, or the mark is set.
theorem Subscription.restored (h : Subscription c w) (hc : c.Published)
    (hpublished : w.view.published = c.connectionTx) (hinformed : w.view.Informed)
    (hstate : w.consumer.state = .restoringConsumer .restoring)
    (hseen : w.consumer.connectionRx.unseen = false) {broker : BrokerChannel}
    (hbroker : w.channels[w.consumer.channel]? = some broker) (hopen : broker.closed = false)
    : Subscription c { w with
        consumer := { w.consumer with state := .restoringConsumer .restored }
        channels := w.channels.set w.consumer.channel { broker with consuming := true }
      } := by
  rcases h.channel (by rw [hstate]; rfl) with ⟨broker', hchannel, hconnection, hpermit, hcallback⟩
  rw [hbroker, Option.some.injEq] at hchannel
  subst hchannel
  replace hcallback := hcallback (by simp [hstate])
  have hworking : w.view.phase = .working := by
    simp [World.view, hstate, State.phase]
  have hsame : c.connectionTx = some broker.connection := by
    rw [← hpublished, ← hconnection]
    by_contra hne
    have hunseen := hinformed.working hworking hne
    exact absurd (hseen.symm.trans hunseen) Bool.false_ne_true
  rcases hc.eq_of_connectionTx hsame with ⟨hok, hcurrent, _⟩
  have hset := List.getElem?_set_self (a := { broker with consuming := true })
    (List.getElem?_eq_some_iff.mp hbroker).1
  refine ⟨by simp, fun _ => .inl ⟨_, hset, rfl, hopen, hok, hcurrent⟩, ?_⟩
  intro _
  exact ⟨_, hset, hconnection, hpermit, fun _ => hcallback⟩

theorem Channel.keep {broker : BrokerChannel} (h : Channel w broker)
    (hstate : w.consumer.state ≠ .recreatingChannel .registering) (hchannels : w'.channels = w.channels)
    (hlength : w'.permits.length = w.permits.length)
    (hconnection : w'.consumer.connection = w.consumer.connection)
    (hchannel : w'.consumer.channel = w.consumer.channel)
    (hcancelled : w'.consumer.consumerCancelled = w.consumer.consumerCancelled)
    : Channel w' broker where
  channel := by
    rw [hchannels, hchannel]
    exact h.channel
  connection := by
    rw [hconnection]
    exact h.connection
  permit := by
    rw [hlength, hcancelled]
    exact h.permit
  callback _ := by
    rw [hcancelled]
    exact h.callback hstate

theorem Subscription.poll (h : Subscription c w) (hc : c.Published)
    (hpublished : w.view.published = c.connectionTx) (hinformed : w.view.Informed)
    (heffect : w.Effect w') : Subscription c w' := by
  cases heffect with
  | consuming hstate =>
    have hsubscribed : w.consumer.state.subscribed = true := by
      rcases hstate with hstate | hstate <;> rw [hstate] <;> rfl
    rcases h.channel (State.usesChannel_of_subscribed hsubscribed) with ⟨broker, hbroker⟩
    have hcovered := h.covered hsubscribed
    refine ⟨fun _ => by simp [World.execute], fun _ => hcovered, fun _ => ⟨broker, ?_⟩⟩
    refine hbroker.keep ?_ rfl rfl rfl rfl rfl
    rcases hstate with hstate | hstate <;> simp [hstate]
  | consumingReported hstate =>
    rcases h.channel (by rw [hstate]; rfl) with ⟨broker, hbroker⟩
    have hcovered := h.covered (by rw [hstate]; rfl)
    refine ⟨fun _ => h.reported (.inl hstate), fun _ => hcovered, fun _ => ⟨broker, ?_⟩⟩
    exact hbroker.keep (by simp [hstate]) rfl rfl rfl rfl rfl
  | connectionLost _ _ => exact .of_not_usesChannel rfl
  | cancelled hstate _ =>
    rcases h.channel (by rw [hstate]; rfl) with ⟨broker, hbroker⟩
    refine ⟨by simp [World.execute], ?_, fun _ => ⟨broker, ?_⟩⟩
    . intro hsubscribed
      contradiction
    . exact hbroker.keep (by simp [hstate]) rfl (by simp [World.execute]) rfl rfl rfl
  | lostReported _ => exact .of_not_usesChannel rfl
  | connection _ =>
    apply Subscription.of_not_usesChannel
    dsimp only
    split <;> rfl
  | connectionChanged _ => exact .of_not_usesChannel rfl
  | close _ => exact .of_not_usesChannel rfl
  | openChannel _ hconnection =>
    refine ⟨by simp, ?_, fun _ => ⟨_, List.getElem?_concat_length, hconnection, by simp, by simp⟩⟩
    intro hsubscribed
    contradiction
  | registered hstate =>
    rcases h.channel (by rw [hstate]; rfl) with ⟨broker, hchannel, hconnection, hpermit, _⟩
    refine ⟨by simp, ?_, fun _ => ⟨{ broker with callback := some w.consumer.consumerCancelled }, ?_,
      hconnection, hpermit, fun _ => rfl⟩⟩
    . intro hsubscribed
      contradiction
    . simp [List.getElem?_modify_eq, hchannel]
  | retry _ => exact h
  | cancelledReported hstate =>
    rcases h.channel (by rw [hstate]; rfl) with ⟨broker, hbroker⟩
    refine ⟨by simp, ?_, fun _ => ⟨broker, ?_⟩⟩
    . intro hsubscribed
      contradiction
    . exact hbroker.keep (by simp [hstate]) rfl rfl rfl rfl rfl
  | restored hstate hseen hbroker hopen =>
    exact h.restored hc hpublished hinformed hstate hseen hbroker hopen
  | failed _ => exact .of_not_usesChannel rfl

theorem subscription_start (hc : c.Published) {connection : ConnectionId}
    {connectionRx : Watch (Option ConnectionId)} (hvalue : connectionRx.value = c.connectionTx)
    (hunseen : connectionRx.value ≠ some connection → connectionRx.unseen = true)
    : Subscription c (World.start connection connectionRx) := by
  refine ⟨by simp [World.start], ?_, fun _ => ⟨_, rfl, rfl, Nat.one_pos, fun _ => rfl⟩⟩
  intro _
  by_cases hsame : connectionRx.value = some connection
  . rcases hc.eq_of_connectionTx (hvalue ▸ hsame) with ⟨hok, hconnection, _⟩
    exact .inl ⟨_, rfl, rfl, rfl, hok, hconnection⟩
  . exact .inr (.inl (hunseen hsame))

structure Reliable (s : Link World) : Prop where
  informed : s.Informed World.view
  subscription : ∀ w, s.client = .running w → Subscription s.connection w

theorem Reliable.step {s s' : Link World} (h : Reliable s) {label : LinkLabel Unit Label}
    (hkeeps : KeepsChannel s label) (hstep : s.step machine label = some s') : Reliable s' := by
  refine ⟨h.informed.step machine_follows hstep, ?_⟩
  intro w' hw'
  cases Link.effect_of_step hstep with
  | connection label step client =>
    rw [client] at hw'
    exact (h.subscription w' hw').step step
  | publish label published step client =>
    cases hold : s.client with
    | running w =>
      rw [client, hold, Client.publish, Client.running.injEq] at hw'
      rw [← hw']
      exact (h.subscription w hold).publish published
    | _ =>
      rw [client, hold] at hw'
      contradiction
  | refuse before connectionTx same =>
    rw [same] at hw' ⊢
    exact h.subscription w' hw'
  | create connection before connectionTx same client =>
    rw [client] at hw'
    contradiction
  | start input connection connectionRx before same client =>
    rcases h.informed.creating connection connectionRx before with ⟨hvalue, hunseen⟩
    rw [client, Client.running.injEq] at hw'
    rw [← hw', same]
    exact subscription_start h.informed.connection hvalue hunseen
  | finish same client =>
    rw [client] at hw'
    contradiction
  | client label w w'' before step same client =>
    rw [client, Client.running.injEq] at hw'
    rw [← hw', same]
    have hw := h.subscription w before
    cases label with
    | cancel channel => exact hw.cancel step
    | close channel => exact hw.close step (hkeeps w before)
    | poll succeeded =>
      rcases h.informed.running w before with ⟨hpublished, hinformed⟩
      exact hw.poll h.informed.connection hpublished hinformed (World.poll_effect step)

/--
A consumer that waits in `ok_state` is consuming, or is about to find out that it is not, as long as
the broker does not close the channel of an active subscription.
-/
theorem truthful_of_keepsChannel (labels : List (LinkLabel Unit Label)) (s : Link World)
    (hkeeps : System.Along (Link.step machine) KeepsChannel Link.init labels)
    (hrun : System.run (Link.step machine) Link.init labels = some s) : Truthful s := by
  have hinit : Reliable Link.init := by
    refine ⟨Link.informed_init, ?_⟩
    intro w hclient
    contradiction
  have h := System.run_invariant_along (fun s label s' h hkeeps hstep => h.step hkeeps hstep)
    hinit hkeeps hrun
  intro w hclient hstate
  have hw := h.subscription w hclient
  exact ⟨hw.reported (.inr hstate), hw.covered (by rw [hstate]; rfl)⟩

def sampleStart : List (LinkLabel Unit Label) :=
  [.create, .start (), .client (.poll true), .client (.poll true)]

instance (w : World) : Decidable w.WakeUp := inferInstanceAs (Decidable (_ ∨ _))

instance (s : Link World) (label : LinkLabel Unit Label) : Decidable (KeepsChannel s label) :=
  match label with
  | .client (.close channel) =>
    match h : s.client with
    | .running w =>
      decidable_of_iff
        (channel = w.consumer.channel → w.consumer.state.subscribed = true → w.WakeUp)
        (by simp [KeepsChannel, h])
    | .creating _ _ => isTrue (by simp [KeepsChannel, h])
    | .absent => isTrue (by simp [KeepsChannel, h])
  | .client (.cancel _) => isTrue trivial
  | .client (.poll _) => isTrue trivial
  | .connection _ => isTrue trivial
  | .create => isTrue trivial
  | .start _ => isTrue trivial
  | .finish => isTrue trivial

-- The broker cancels the consumer and closes its channel before the state machine has run.
def sampleCancelled : List (LinkLabel Unit Label) :=
  sampleStart
    ++ [.client (.cancel 0), .client (.close 0), .client (.poll true), .client (.poll true)]
    ++ .client (.poll false) :: List.replicate 6 (.client (.poll true))

theorem truthful_of_keepsChannel_cancelled
    : ∃ s w, System.run (Link.step machine) Link.init sampleCancelled = some s
        ∧ s.client = .running w
        ∧ w.consumer.state = .ok .waiting
        ∧ w.consumer.channel = 1
        ∧ w.statuses = [.consuming, .recovering, .consuming]
        ∧ Truthful s := by
  have hkeeps : System.Along (Link.step machine) KeepsChannel Link.init sampleCancelled := by
    decide
  refine ⟨_, _, rfl, rfl, rfl, rfl, rfl, ?_⟩
  exact truthful_of_keepsChannel sampleCancelled _ hkeeps rfl

/--
The broker closes the channel: the callback tells nobody, so the consumer stays as it is and goes on
reporting that it is consuming.
-/
theorem not_truthful_closed
    : ∃ s w, System.run (Link.step machine) Link.init (sampleStart ++ [.client (.close 0)]) = some s
        ∧ s.client = .running w
        ∧ w.statuses = [.consuming]
        ∧ (∀ succeeded, w.poll succeeded = none)
        ∧ ¬Truthful s := by
  refine ⟨_, _, rfl, rfl, rfl, by decide, ?_⟩
  intro htruthful
  rcases (htruthful _ rfl rfl).2 with ⟨broker, hbroker, hconsuming, _⟩ | hunseen | hpermit
  . rw [← Option.some.inj hbroker] at hconsuming
    contradiction
  . contradiction
  . contradiction

end TomNotifier.Rabbitmq.Consumer
