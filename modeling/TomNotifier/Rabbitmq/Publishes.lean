import TomNotifier.Rabbitmq.Recovery

/-!
This module contains when and where a producer publishes: on a channel of the connection there is, and
only while it has not been told to stop.
-/

namespace TomNotifier.Rabbitmq.Producer

/-- What has been published on a channel, in order. -/
def publishedOn (channels : List BrokerChannel) (i : ChannelId) : List BoxedMessage :=
  (channels[i]?.map (·.published.map (·.1))).getD []

/-- A producer and its connection, with the connection each channel has been opened on. -/
structure Publishing where
  link : Link World
  openedOn : List (Option ConnectionId)

namespace Publishing

def init : Publishing where
  link := .init
  openedOn := []

def opened (openedOn : List (Option ConnectionId)) (client client' : Client World)
    : List (Option ConnectionId) :=
  match client, client' with
  | .running w, .running w' =>
    if w.channels.length < w'.channels.length then
      openedOn ++ [w.producer.connection]
    else
      openedOn
  -- `new` has opened the first one.
  | _, .running w' => [w'.producer.connection]
  | _, _ => []

def step (s : Publishing) (label : LinkLabel (Watch Bool) Label) : Option Publishing :=
  (s.link.step machine label).map fun link =>
    { link, openedOn := opened s.openedOn s.link.client link.client }

end Publishing

section

variable {channels : List BrokerChannel} {i j : ChannelId} {channel : BrokerChannel}

theorem publishedOn_modify {f : BrokerChannel → BrokerChannel}
    (hf : ∀ channel, (f channel).published.map (·.1) = channel.published.map (·.1))
    : publishedOn (channels.modify j f) i = publishedOn channels i := by
  unfold publishedOn
  rw [List.getElem?_modify]
  cases channels[i]? with
  | none => rfl
  | some channel =>
    simp only [Option.map_eq_map, Option.map_some, Option.getD_some]
    split
    . exact hf channel
    . rfl

theorem publishedOn_append : publishedOn (channels ++ [.new]) i = publishedOn channels i := by
  unfold publishedOn
  rw [List.getElem?_append]
  split
  . rfl
  . next hlt =>
    rw [List.getElem?_eq_none (Nat.not_lt.mp hlt), List.getElem?_singleton]
    split <;> rfl

theorem publishedOn_publish {message : BoxedMessage} (hj : channels[j]? = some channel)
    : publishedOn (channels.modify j (BrokerChannel.publish message)) i
        =
      if i = j then publishedOn channels i ++ [message] else publishedOn channels i := by
  unfold publishedOn
  rw [List.getElem?_modify]
  split
  . next heq =>
    rw [← heq, hj]
    simp [BrokerChannel.publish]
  . next heq =>
    rw [if_neg (Ne.symm heq)]
    cases channels[i]? <;> rfl

theorem published_confirm {c : PublisherConfirm}
    : (channel.confirm c).published.map (·.1) = channel.published.map (·.1) := by
  apply List.ext_getElem?
  intro k
  simp only [BrokerChannel.confirm, List.getElem?_map, List.getElem?_mapIdx]
  cases channel.published[k]? with
  | none => rfl
  | some publish =>
    simp only [Option.map_some]
    split <;> rfl

end

namespace World

variable {w w' : World} {label : Label} {i : ChannelId}

/-- The state machine is where it takes the next message, having seen whatever it has been told. -/
structure Publishes (w : World) : Prop where
  state : ∃ messageCount, w.producer.state = .ok true false messageCount
  connectionRx : w.producer.connectionRx.unseen = false
  flowRx : w.producer.flowRx.unseen = false
  blockedRx : w.producer.blockedRx.unseen = false
  confirms : w.producer.confirms = []

theorem publish_of_pollOk {flow blocked : Bool} {messageCount : Nat} {result : CallResult}
    (hstate : w.producer.state = .ok flow blocked messageCount)
    (hpoll : w.pollOk flow blocked messageCount result = some w')
    : w'.channels = w.channels
        ∨ ∃ message messages, w.producer.messages = message :: messages
          ∧ w' = w.publish flow blocked messageCount message messages result
          ∧ w.Publishes := by
  simp only [pollOk] at hpoll
  split at hpoll
  . exact .inl (by rw [← Option.some.inj hpoll])
  . next hconnection =>
    split at hpoll
    . exact .inl (by rw [← Option.some.inj hpoll])
    . next hflow =>
      split at hpoll
      . exact .inl (by rw [← Option.some.inj hpoll])
      . next hblocked =>
        split at hpoll
        . exact .inl (by rw [← Option.some.inj hpoll])
        . next hconfirms =>
          split at hpoll
          . contradiction
          . next message messages hmessages =>
            split at hpoll
            . next hguard =>
              rw [Bool.and_eq_true, Bool.not_eq_true'] at hguard
              refine .inr ⟨message, messages, hmessages, (Option.some.inj hpoll).symm, ?_⟩
              rw [hguard.1, hguard.2] at hstate
              exact ⟨⟨messageCount, hstate⟩, eq_false_of_ne_true hconnection,
                eq_false_of_ne_true hflow, eq_false_of_ne_true hblocked, hconfirms⟩
            . contradiction

theorem channels_publish {flow blocked : Bool} {messageCount : Nat} {message : BoxedMessage}
    {messages : List BoxedMessage} {result : CallResult}
    : (w.publish flow blocked messageCount message messages result).channels = w.channels
        ∨ (w.publish flow blocked messageCount message messages result).channels
            = w.channels.modify w.producer.channel (BrokerChannel.publish message) := by
  rcases result with _ | ⟨_ | _⟩
  . exact .inr rfl
  . exact .inl rfl
  . exact .inr rfl

theorem publishedOn_of_effect {c : Option PublisherConfirm} (h : Effect w c w')
    (hstate : ∀ flow blocked messageCount, w.producer.state ≠ .ok flow blocked messageCount)
    : publishedOn w'.channels i = publishedOn w.channels i := by
  cases h with
  | publish hok => exact absurd hok (hstate _ _ _)
  | close _ => exact publishedOn_modify fun _ => rfl
  | openChannel _ => exact publishedOn_append
  | _ => rfl

/-- Of all the labels only a poll in `ok_state` publishes, and only the first message there is. -/
theorem publishes_of_step {channel : BrokerChannel}
    (hchannel : w.channels[w.producer.channel]? = some channel) (hstep : w.step label = some w')
    (hne : publishedOn w'.channels i ≠ publishedOn w.channels i)
    : i = w.producer.channel ∧ w.Publishes
        ∧ ∃ message messages, w.producer.messages = message :: messages
          ∧ publishedOn w'.channels i = publishedOn w.channels i ++ [message] := by
  cases label with
  | poll result =>
    by_cases hok : ∃ flow blocked messageCount, w.producer.state = .ok flow blocked messageCount
    . rcases hok with ⟨flow, blocked, messageCount, hstate⟩
      simp only [World.step, poll, hstate] at hstep
      rcases publish_of_pollOk hstate hstep with hsame | ⟨message, messages, hmessages, rfl, hpublishes⟩
      . exact absurd (by rw [hsame]) hne
      . rcases channels_publish (w := w) with hsame | hreceived
        . exact absurd (by rw [hsame]) hne
        . rw [hreceived, publishedOn_publish hchannel] at hne ⊢
          split at hne
          . next hi =>
            rw [if_pos hi]
            exact ⟨hi, hpublishes, message, messages, hmessages, rfl⟩
          . contradiction
    . apply absurd _ hne
      apply publishedOn_of_effect (poll_effect hstep)
      intro flow blocked messageCount hstate
      exact hok ⟨flow, blocked, messageCount, hstate⟩
  | confirm j c =>
    simp only [World.step, World.confirm] at hstep
    split at hstep
    . contradiction
    . split at hstep
      . rw [← Option.some.inj hstep] at hne
        exact absurd (publishedOn_modify fun _ => published_confirm) hne
      . contradiction
  | close j =>
    rw [← Option.some.inj hstep] at hne
    exact absurd (publishedOn_modify (f := BrokerChannel.close) fun _ => rfl) hne
  | _ =>
    rw [← Option.some.inj hstep] at hne
    contradiction

/-- The step stays on its channel, and with a connection as long as the channel is reopened. -/
structure Stays (w w' : World) : Prop where
  channels : w'.channels.length = w.channels.length
  channel : w'.producer.channel = w.producer.channel
  reopened : w'.producer.reopened = true →
    w.producer.reopened = true ∧ w'.producer.connection = w.producer.connection

/-- The step opens a channel on the connection it has. -/
structure Opens (w w' : World) : Prop where
  channels : w'.channels.length = w.channels.length + 1
  channel : w'.producer.channel = w.channels.length
  connection : w'.producer.connection = w.producer.connection

theorem Stays.of_eq (hchannels : w'.channels.length = w.channels.length)
    (hchannel : w'.producer.channel = w.producer.channel)
    (hstate : w'.producer.state = w.producer.state)
    (hconnection : w'.producer.connection = w.producer.connection) : w.Stays w' where
  channels := hchannels
  channel := hchannel
  reopened := by
    rw [StateMachine.reopened_congr hstate]
    exact fun hreopened => ⟨hreopened, hconnection⟩

theorem stays_or_opens_of_effect {c : Option PublisherConfirm} (h : Effect w c w')
    : w.Stays w' ∨ w.Opens w' := by
  cases h with
  | move hmoves =>
    refine .inl ⟨rfl, hmoves.sameQueues.channel, ?_⟩
    intro hreopened
    have hold := (Effect.move hmoves).reopened hreopened
    cases hmoves with
    | connection _ =>
      cases hvalue : w.producer.connectionRx.value <;>
        simp [StateMachine.reopened, hvalue] at hreopened
    | connectionChanged _ => contradiction
    | retry _ => exact ⟨hreopened, rfl⟩
    | flowChanged hstate => exact ⟨by simp [StateMachine.reopened, hstate], rfl⟩
    | blockedChanged hstate => exact ⟨by simp [StateMachine.reopened, hstate], rfl⟩
    | registered hstate => exact ⟨by simp [StateMachine.reopened, hstate], rfl⟩
    | restored hstate => exact ⟨by simp [StateMachine.reopened, hstate], rfl⟩
    | _ => contradiction
  | confirm hconfirms hstate =>
    refine .inl (.of_eq rfl processConfirm_channel processConfirm_state ?_)
    unfold StateMachine.processConfirm
    dsimp only
    split <;> rfl
  | @publish _ _ _ result hstate _ _ =>
    refine .inl ⟨?_, ?_, ?_⟩
    . rcases channels_publish (w := w) with hsame | hreceived
      . rw [hsame]
      . rw [hreceived, List.length_modify]
    . cases result <;> rfl
    . cases result with
      | ok => exact fun _ => ⟨by simp [StateMachine.reopened, hstate], rfl⟩
      | err received =>
        intro hreopened
        contradiction
  | schedule hstate _ => exact .inl (.of_eq rfl rfl rfl rfl)
  | close hstate =>
    refine .inl ⟨List.length_modify _ _ _, rfl, ?_⟩
    intro hreopened
    contradiction
  | openChannel hstate => exact .inr ⟨List.length_append, rfl, rfl⟩

theorem stays_or_opens (hstep : w.step label = some w') : w.Stays w' ∨ w.Opens w' := by
  cases label with
  | poll result => exact stays_or_opens_of_effect (poll_effect hstep)
  | confirm j c =>
    simp only [World.step, World.confirm] at hstep
    split at hstep
    . contradiction
    . split at hstep
      . rw [← Option.some.inj hstep]
        exact .inl (.of_eq (List.length_modify _ _ _) rfl rfl rfl)
      . contradiction
  | close j =>
    rw [← Option.some.inj hstep]
    exact .inl (.of_eq (List.length_modify _ _ _) rfl rfl rfl)
  | _ =>
    rw [← Option.some.inj hstep]
    exact .inl (.of_eq rfl rfl rfl rfl)

end World

namespace Publishing

variable {s s' : Publishing} {w w' : World} {label : LinkLabel (Watch Bool) Label}

/-- The channel the producer is going to publish on was opened on the connection it has stored. -/
structure Homed (openedOn : List (Option ConnectionId)) (w : World) : Prop where
  length : openedOn.length = w.channels.length
  last : w.producer.channel + 1 = w.channels.length
  channel : w.producer.reopened = true →
    openedOn[w.producer.channel]? = some w.producer.connection

theorem Homed.step {openedOn : List (Option ConnectionId)} (h : Homed openedOn w) {label : Label}
    (hstep : w.step label = some w') : Homed (opened openedOn (.running w) (.running w')) w' := by
  unfold opened
  dsimp only
  rcases World.stays_or_opens hstep with hstays | hopens
  . rw [if_neg (by rw [hstays.channels]; exact Nat.lt_irrefl _)]
    refine ⟨h.length.trans hstays.channels.symm, ?_, ?_⟩
    . rw [hstays.channel, hstays.channels, h.last]
    intro hreopened
    rcases hstays.reopened hreopened with ⟨hold, hconnection⟩
    rw [hstays.channel, hconnection]
    exact h.channel hold
  . rw [if_pos (by rw [hopens.channels]; exact Nat.lt_succ_self _)]
    constructor
    . rw [List.length_append, h.length, hopens.channels]
      rfl
    . rw [hopens.channel, hopens.channels]
    . intro _
      rw [hopens.channel, hopens.connection, ← h.length, List.getElem?_concat_length]

theorem link_of_step (hstep : s.step label = some s')
    : s.link.step machine label = some s'.link
        ∧ s'.openedOn = opened s.openedOn s.link.client s'.link.client := by
  rw [step, Option.map_eq_some_iff] at hstep
  rcases hstep with ⟨link, hlink, rfl⟩
  exact ⟨hlink, rfl⟩

theorem link_of_run {labels : List (LinkLabel (Watch Bool) Label)}
    (hrun : System.run step init labels = some s)
    : System.run (Link.step machine) Link.init labels = some s.link := by
  apply System.run_induction (P := fun labels s =>
    System.run (Link.step machine) Link.init labels = some s.link) rfl _ hrun
  intro labels label s s' _ ih hstep
  rw [System.run_append_eq_some]
  refine ⟨s.link, ih, ?_⟩
  rw [System.run_cons_eq_some]
  exact ⟨s'.link, (link_of_step hstep).1, rfl⟩

theorem homed_of_step (h : ∀ w, s.link.client = .running w → Homed s.openedOn w)
    (hstep : s.step label = some s')
    : ∀ w, s'.link.client = .running w → Homed s'.openedOn w := by
  rcases link_of_step hstep with ⟨hlink, hopened⟩
  intro w' hclient
  cases Link.effect_of_step hlink with
  | connection label step client =>
    rw [hclient] at client
    have hw := h w' client.symm
    rw [hopened, hclient, ← client]
    unfold opened
    dsimp only
    rw [if_neg (Nat.lt_irrefl _)]
    exact hw
  | publish label published step client =>
    cases hold : s.link.client with
    | running w =>
      rw [hold, Client.publish, hclient, Client.running.injEq] at client
      rw [hopened, hold, hclient]
      rw [client]
      exact (h w hold).step (World.step_publish published w)
    | _ =>
      rw [hold, hclient] at client
      contradiction
  | refuse before connectionTx same =>
    rw [same, before] at hclient
    contradiction
  | create connection before connectionTx same client =>
    rw [client] at hclient
    contradiction
  | start input connection connectionRx before same client =>
    rw [hclient, Client.running.injEq] at client
    rw [hopened, before, hclient, client]
    exact ⟨rfl, rfl, fun _ => rfl⟩
  | finish same client =>
    rw [client] at hclient
    contradiction
  | client label w w'' before step same client =>
    rw [hclient, Client.running.injEq] at client
    rw [hopened, before, hclient, client]
    exact (h w before).step (World.step_of_machine step)

theorem publishes_of_link {s s' : Link World} {i : ChannelId} {channel : BrokerChannel}
    (hstep : s.step machine label = some s') (hclient : s.client = .running w)
    (hclient' : s'.client = .running w') (hchannel : w.channels[w.producer.channel]? = some channel)
    (hne : publishedOn w'.channels i ≠ publishedOn w.channels i)
    : i = w.producer.channel ∧ w.Publishes
        ∧ ∃ message messages, w.producer.messages = message :: messages
          ∧ publishedOn w'.channels i = publishedOn w.channels i ++ [message] := by
  cases Link.effect_of_step hstep with
  | connection label step client =>
    rw [hclient, hclient', Client.running.injEq] at client
    exact absurd (by rw [client]) hne
  | publish label published step client =>
    rw [hclient, hclient', Client.publish, Client.running.injEq] at client
    exact absurd (by rw [client]; rfl) hne
  | client label v v' before step same client =>
    rw [hclient, Client.running.injEq] at before
    rw [hclient', Client.running.injEq] at client
    subst before client
    exact World.publishes_of_step hchannel (World.step_of_machine step) hne
  | finish same client =>
    rw [hclient'] at client
    contradiction
  | refuse before _ _ =>
    rw [hclient] at before
    contradiction
  | create _ before _ _ _ =>
    rw [hclient] at before
    contradiction
  | start _ _ _ before _ _ =>
    rw [hclient] at before
    contradiction

/-- The broker does not close the channel the producer is about to publish on. -/
def KeepsChannel (s : Publishing) (label : LinkLabel (Watch Bool) Label) : Prop :=
  Producer.KeepsChannel s.link label

theorem opened_of_run {labels : List (LinkLabel (Watch Bool) Label)}
    (hkeeps : System.Along step KeepsChannel init labels)
    (hrun : System.run step init labels = some s) (hclient : s.link.client = .running w) : w.Opened := by
  apply System.run_invariant_along (P := fun s => ∀ w, s.link.client = .running w → w.Opened) _ nofun
    hkeeps hrun w hclient
  intro s label s' h hkeeps hstep
  exact opened_step h hkeeps (link_of_step hstep).1

/--
Whatever happens to the producer and its connection, it only ever publishes the first message that
waits, on the channel it has opened last, which is one of the connection there is. The connection is all
right, and neither the channel nor the connection has last told the producer to stop. The channel is open
if the broker has never closed one the producer was about to publish on.
-/
theorem publishes_heeded (labels : List (LinkLabel (Watch Bool) Label))
    (hrun : System.run step init labels = some s) (hclient : s.link.client = .running w)
    (hstep : s.step label = some s') (hclient' : s'.link.client = .running w')
    : ∀ i, publishedOn w'.channels i ≠ publishedOn w.channels i →
        (∃ message messages, w.producer.messages = message :: messages
          ∧ publishedOn w'.channels i = publishedOn w.channels i ++ [message])
        ∧ i + 1 = w.channels.length
        ∧ (∃ channel, w.channels[i]? = some channel
          ∧ (System.Along step KeepsChannel init labels → channel.closed = false))
        ∧ s.link.connection.state = .ok
        ∧ s.openedOn[i]? = some (some s.link.connection.connection)
        ∧ w.producer.flowRx.value = true
        ∧ w.producer.blockedRx.value = false := by
  intro i hne
  rcases link_of_step hstep with ⟨hlink, _⟩
  have hinformed := Link.informed_of_run machine_follows (link_of_run hrun)
  have hsteady := steady_of_run (link_of_run hrun) hclient
  have hhomed : ∀ w, s.link.client = .running w → Homed s.openedOn w := by
    apply System.run_invariant (P := fun s => ∀ w, s.link.client = .running w → Homed s.openedOn w)
      _ _ hrun
    . intro s label s' h hstep
      exact homed_of_step h hstep
    . intro w hinit
      contradiction
  rcases hsteady.custody.current with ⟨channel, hchannel, _⟩
  rcases publishes_of_link hlink hclient hclient' hchannel hne with ⟨rfl, hpublishes, hmessages⟩
  rcases hpublishes.state with ⟨messageCount, hstate⟩
  have hreopened : w.producer.reopened = true := by
    simp [StateMachine.reopened, hstate]
  have hopen : System.Along step KeepsChannel init labels → channel.closed = false := by
    intro hkeeps
    exact opened_of_run hkeeps hrun hclient hreopened hpublishes.connectionRx channel hchannel
  have hhome := (hhomed w hclient).channel hreopened
  have hheeds := hsteady.heeds _ _ _ hstate
  rcases hinformed.running w hclient with ⟨hpublished, hview⟩
  have hworking : w.view.phase = .working := by
    simp [World.view, hstate, State.phase]
  have htx : s.link.connection.connectionTx = w.producer.connection := by
    by_contra hne
    have hunseen := hview.working hworking (by rw [hpublished]; exact hne)
    exact Bool.false_ne_true (hpublishes.connectionRx.symm.trans hunseen)
  have hstored := hview.stored hworking
  rcases Option.isSome_iff_exists.mp hstored with ⟨connection, hconnection⟩
  have hconnection' : w.producer.connection = some connection := hconnection
  rw [hconnection'] at htx hhome
  rcases hinformed.connection.eq_of_connectionTx htx with ⟨hok, rfl, _⟩
  exact ⟨hmessages, (hhomed w hclient).last, ⟨channel, hchannel, hopen⟩, hok, hhome,
    (hheeds.1 hpublishes.flowRx).symm, (hheeds.2 hpublishes.blockedRx).symm⟩

instance (s : Publishing) (label : LinkLabel (Watch Bool) Label) : Decidable (s.KeepsChannel label) :=
  inferInstanceAs (Decidable (Producer.KeepsChannel s.link label))

-- The connection is lost after a publish and replaced, the producer follows to a new channel.
def sampleReplaced : List (LinkLabel (Watch Bool) Label) := [
  .create,
  .start { value := false, unseen := false },
  .client (.send (World.sampleMessage [0])),
  .client (.poll .ok),
  .connection .ioFailure,
  .connection (.poll true),
  .connection (.poll true),
  .connection (.poll true),
  .connection (.poll true),
  .client (.poll .ok),
  .client (.poll .ok),
  .client (.poll .ok),
  .client (.poll .ok),
  .client (.poll .ok),
  .client (.poll .ok),
  .client (.poll .ok),
  .client (.poll .ok),
  .client (.poll .ok)
]

def replaced : Publishing := (System.run step init sampleReplaced).getD init

theorem publishes_heeded_replaced
    : ∃ w s' w', replaced.link.client = .running w
        ∧ replaced.step (.client (.poll .ok)) = some s' ∧ s'.link.client = .running w'
        ∧ publishedOn w'.channels 1 = publishedOn w.channels 1 ++ [⟨0, World.sampleMessage [0]⟩]
        ∧ replaced.link.connection.state = .ok
        ∧ replaced.openedOn[1]? = some (some replaced.link.connection.connection)
        ∧ w.producer.flowRx.value = true
        ∧ ∃ channel, w.channels[1]? = some channel ∧ channel.closed = false := by
  have hrun : System.run step init sampleReplaced = some replaced := by
    rfl
  have hkeeps : System.Along step KeepsChannel init sampleReplaced := by
    decide
  refine ⟨_, _, _, rfl, rfl, rfl, rfl, ?_⟩
  have hheeded := @publishes_heeded replaced _ _ _ (.client (.poll .ok)) sampleReplaced hrun rfl rfl rfl
    1 (by decide)
  rcases hheeded with ⟨_, _, ⟨channel, hchannel, hopen⟩, hok, hopened, hflow, _⟩
  exact ⟨hok, hopened, hflow, channel, hchannel, hopen hkeeps⟩

end Publishing

end TomNotifier.Rabbitmq.Producer
