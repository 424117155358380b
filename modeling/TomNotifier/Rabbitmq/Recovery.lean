import TomNotifier.Rabbitmq.Consumer.Progress
import TomNotifier.Rabbitmq.Producer.Progress
import TomNotifier.System.Progress

/-!
This module contains that a producer and a consumer recover from whatever has happened to them and their
connection, once nothing fails any more.
-/

namespace TomNotifier.Rabbitmq

namespace Connection

def State.distance : State → Nat
  | .ok => 0
  | .restoringCallback true => 1
  | .restoringCallback false => 2
  | .restoringConnection => 3
  | .closingConnection => 4

namespace StateMachine

variable {s s' : StateMachine} {published : Option (Option ConnectionId)}

theorem distance_lt (hstep : s.step (.poll true) = some (s', published))
    : s'.state.distance < s.state.distance := by
  simp only [step] at hstep
  split at hstep
  . contradiction
  . next hstate =>
    rw [Option.some.injEq, Prod.mk.injEq] at hstep
    rw [← hstep.1, hstate]
    exact Nat.lt_succ_self 3
  . next hstate =>
    rw [Option.some.injEq, Prod.mk.injEq] at hstep
    rw [← hstep.1, hstate, pollRestoringConnection, if_pos rfl]
    exact Nat.lt_succ_self 2
  . next registered hstate =>
    rw [Option.some.injEq] at hstep
    cases registered with
    | true =>
      simp only [pollRestoringCallback, Prod.mk.injEq] at hstep
      rw [← hstep.1, hstate]
      exact Nat.zero_lt_one
    | false =>
      simp only [pollRestoringCallback, if_true, Prod.mk.injEq] at hstep
      rw [← hstep.1, hstate]
      exact Nat.lt_succ_self 1

theorem ok_of_step_eq_none (hstep : s.step (.poll true) = none) : s.state = .ok := by
  simp only [step] at hstep
  split at hstep
  . assumption
  . contradiction
  . contradiction
  . contradiction

end StateMachine

end Connection

namespace Link

variable {ι σ α μ : Type} {machine : Machine ι σ α} {C : σ → α → Prop} {P : Link σ → Prop}
variable {s : Link σ} {measure : σ → μ}

/-- The connection's calls succeed, and so do the client's, whatever that means for it. -/
def Cooperates (C : σ → α → Prop) (s : Link σ) : LinkLabel ι α → Prop
  | .connection (.poll succeeded) => succeeded = true
  | .client label => ∀ m, s.client = .running m → C m label
  | _ => False

def distance [Inhabited μ] (measure : σ → μ) (s : Link σ) : Nat ×ₗ μ :=
  let rest :=
    match s.client with
    | .running m => measure m
    | _ => default
  toLex (s.connection.state.distance, rest)

theorem progress [LT μ] [Inhabited μ]
    (hinvariant : ∀ s label s', P s → s.Cooperates C label → s.step machine label = some s' → P s')
    (hlowers : ∀ s m label m', P s → s.client = .running m → C m label →
      machine.step m label = some m' → measure m' < measure m)
    : System.Progress (Link.step machine) (Cooperates C) P (distance measure) where
  invariant := hinvariant
  lowers := by
    intro s label s' hP hcooperates hstep
    rw [distance, distance, Prod.Lex.toLex_lt_toLex]
    cases effect_of_step hstep with
    | connection label step client =>
      cases label with
      | ioFailure => contradiction
      | poll succeeded =>
        rw [show succeeded = true from hcooperates] at step
        exact .inl (Connection.StateMachine.distance_lt step)
    | publish label published step client =>
      cases label with
      | ioFailure => contradiction
      | poll succeeded =>
        rw [show succeeded = true from hcooperates] at step
        exact .inl (Connection.StateMachine.distance_lt step)
    | client label m m' before step same client =>
      refine .inr ⟨by rw [same], ?_⟩
      simp only [before, client]
      exact hlowers s m label m' hP before (hcooperates m before) step
    | _ => contradiction

theorem stuck_of_quiescent (h : System.Quiescent (Link.step machine) (Cooperates C) s)
    : s.connection.state = .ok
        ∧ ∀ m label, s.client = .running m → C m label → machine.step m label = none := by
  constructor
  . have hconnection := h (.connection (.poll true)) rfl
    simp only [Link.step] at hconnection
    split at hconnection
    . next hstep => exact Connection.StateMachine.ok_of_step_eq_none hstep
    . contradiction
    . contradiction
  . intro m label hclient hC
    have hstep := h (.client label) (by
      intro m' hm'
      rw [hclient, Client.running.injEq] at hm'
      exact hm' ▸ hC)
    simpa only [Link.step, hclient, Option.map_eq_none_iff] using hstep

end Link

namespace Producer

namespace World

/-- The broker accepts what it is sent, and acks it. -/
def Cooperates (_w : World) : Label → Prop
  | .poll result => result = .ok
  | .confirm _ confirm => confirm.variant = .ack
  | _ => False

variable {w w' : World}

theorem lowers_of_step (h : w.Custody) {label : Label} (hcooperates : w.Cooperates label)
    (hstep : w.step label = some w') : w'.measure < w.measure := by
  cases label with
  | poll result =>
    rw [show result = .ok from hcooperates] at hstep
    exact lowers_poll hstep
  | confirm i confirm => exact lowers_confirm h hcooperates hstep
  | _ => contradiction

theorem ok_of_poll_eq_none (hinformed : w.view.Informed) (hpublished : w.view.published.isSome)
    (hstuck : w.poll .ok = none)
    : (∃ flow blocked messageCount, w.producer.state = .ok flow blocked messageCount)
        ∧ w.view.unseen = false := by
  unfold poll at hstuck
  split at hstuck
  . next flow blocked messageCount hstate =>
    refine ⟨⟨flow, blocked, messageCount, hstate⟩, ?_⟩
    simp only [pollOk] at hstuck
    split at hstuck
    . contradiction
    . next hseen => exact eq_false_of_ne_true hseen
  . next awaiting hstate =>
    cases awaiting with
    | true =>
      have hunseen := hinformed.waiting (by simp [view, hstate, State.phase]) hpublished
      have hrx : w.producer.connectionRx.unseen = true := hunseen
      simp [pollWaitingForConnection, hrx] at hstuck
    | false => contradiction
  . contradiction
  . next stage hstate =>
    cases stage with
    | closing => contradiction
    | opening =>
      have hstored := hinformed.stored (by simp [view, hstate, State.phase])
      simp only [pollRecreatingChannel] at hstuck
      split at hstuck
      . contradiction
      . split at hstuck
        . next hnone => simp [view, hnone] at hstored
        . contradiction
        . contradiction
    | registering =>
      simp only [pollRecreatingChannel] at hstuck
      split at hstuck <;> contradiction
  . contradiction

/-- What `ok_state` waits for when there is nothing to do. -/
theorem Steady.idle (h : w.Steady) {flow blocked : Bool} {messageCount : Nat}
    (hstate : w.producer.state = .ok flow blocked messageCount) (hstuck : w.poll .ok = none)
    : flow = w.producer.flowRx.value ∧ blocked = w.producer.blockedRx.value
        ∧ w.producer.confirms = []
        ∧ (flow = true → blocked = false → w.producer.messages = []) := by
  simp only [poll, hstate, pollOk] at hstuck
  rcases h.heeds flow blocked messageCount hstate with ⟨hflow, hblocked⟩
  split at hstuck
  . contradiction
  . split at hstuck
    . contradiction
    . next hflowSeen =>
      split at hstuck
      . contradiction
      . next hblockedSeen =>
        refine ⟨hflow (eq_false_of_ne_true hflowSeen), hblocked (eq_false_of_ne_true hblockedSeen), ?_⟩
        split at hstuck
        . contradiction
        . next hconfirms =>
          refine ⟨hconfirms, ?_⟩
          rintro rfl rfl
          split at hstuck
          . assumption
          . contradiction

theorem Steady.unconfirmedMessages (h : w.Steady) (hopened : w.Opened)
    (hseen : w.producer.connectionRx.unseen = false) {flow blocked : Bool} {messageCount : Nat}
    (hstate : w.producer.state = .ok flow blocked messageCount) (hconfirms : w.producer.confirms = [])
    (hstuck : ∀ i confirm, confirm.variant = .ack → w.confirm i confirm = none)
    : w.producer.unconfirmedMessages = [] := by
  rcases h.custody.current with ⟨channel, hchannel, hagrees, _⟩
  have hopen := hopened (by simp [StateMachine.reopened, hstate]) hseen channel hchannel
  rw [List.eq_nil_iff_forall_not_mem]
  rintro ⟨tag, message⟩ hentry
  rcases hagrees.published _ hentry with ⟨hpos, hpublished⟩
  -- The broker could ack this publish.
  have hack := hstuck w.producer.channel { deliveryTag := tag, multiple := false, variant := .ack } rfl
  have houtstanding : channel.isOutstanding tag = true := by
    have hpos' : 0 < tag := hpos
    have hpublished' : channel.published[tag - 1]? = some (message, none) := by
      rw [hconfirms] at hpublished
      exact hpublished
    simp [BrokerChannel.isOutstanding, hpos', hpublished']
  simp [confirm, hchannel, hopen, houtstanding] at hack

theorem Steady.acked (h : w.Steady) (hmessages : w.producer.messages = [])
    (hunconfirmed : w.producer.unconfirmedMessages = [])
    : ∀ message ∈ w.sent, AckedIn w.channels message := by
  intro message hmessage
  rcases h.custody.accounted message hmessage with hqueued | hunacked | hacked
  . simp [hmessages] at hqueued
  . simp [hunconfirmed] at hunacked
  . exact hacked

/-- The broker and the connection have not been stopping the producer, and it still is the same. -/
structure Unhindered (sent : List BoxedMessage) (w : World) : Prop where
  steady : w.Steady
  opened : w.Opened
  sent : w.sent = sent
  flow : w.producer.flowRx.value = true
  blocked : w.producer.blockedRx.value = false

theorem Effect.flowRx {confirm : Option PublisherConfirm} (h : Effect w confirm w')
    (hflow : w.producer.flowRx.value = true)
    : w'.producer.flowRx.value = true ∧ w'.producer.blockedRx.value = w.producer.blockedRx.value := by
  cases h with
  | move hmoves => cases hmoves <;> exact ⟨hflow, rfl⟩
  | confirm hconfirms hstate =>
    unfold StateMachine.processConfirm
    dsimp only
    split <;> exact ⟨hflow, rfl⟩
  | @publish _ _ _ result _ _ _ => cases result <;> exact ⟨hflow, rfl⟩
  | schedule hstate hunconfirmed => exact ⟨hflow, rfl⟩
  | close hstate => exact ⟨hflow, rfl⟩
  | openChannel hstate => exact ⟨rfl, rfl⟩

theorem Unhindered.step {sent : List BoxedMessage} (h : w.Unhindered sent) {label : Label}
    (hcooperates : w.Cooperates label) (hstep : w.step label = some w') : w'.Unhindered sent := by
  have hkeeps : w.KeepsChannel label := by
    cases label with
    | close channel => contradiction
    | _ => trivial
  have hrest : w'.sent = sent ∧ w'.producer.flowRx.value = true
      ∧ w'.producer.blockedRx.value = false := by
    cases label with
    | poll result =>
      have heffect := poll_effect hstep
      rcases heffect.flowRx h.flow with ⟨hflow, hblocked⟩
      exact ⟨heffect.sent.trans h.sent, hflow, hblocked.trans h.blocked⟩
    | confirm i confirm =>
      simp only [World.step, World.confirm] at hstep
      split at hstep
      . contradiction
      . split at hstep
        . rw [← Option.some.inj hstep]
          exact ⟨h.sent, h.flow, h.blocked⟩
        . contradiction
    | _ => contradiction
  exact ⟨h.steady.step hstep, h.opened.step hkeeps hstep, hrest.1, hrest.2.1, hrest.2.2⟩

end World

theorem World.step_of_machine {w w' : World} {label : Label} (hstep : machine.step w label = some w')
    : w.step label = some w' := by
  cases label with
  | connection connection => contradiction
  | _ => exact hstep

theorem World.step_publish (published : Option ConnectionId) (w : World)
    : w.step (.connection published) = some (machine.publish published w) := by
  rfl

theorem World.Steady.publish {w : World} (h : w.Steady) (published : Option ConnectionId)
    : (machine.publish published w).Steady :=
  h.step (World.step_publish published w)

theorem World.Opened.publish {w : World} (h : w.Opened) (published : Option ConnectionId)
    : (machine.publish published w).Opened := by
  apply h.step _ (World.step_publish published w)
  trivial

variable {s s' : Link World} {sent : List BoxedMessage}

structure Sending (sent : List BoxedMessage) (s : Link World) : Prop where
  informed : s.Informed World.view
  running : ∃ w, s.client = .running w ∧ w.Unhindered sent

theorem Sending.step (h : Sending sent s) {label : LinkLabel (Watch Bool) Label}
    (hcooperates : s.Cooperates World.Cooperates label) (hstep : s.step machine label = some s')
    : Sending sent s' := by
  rcases h.running with ⟨w, hclient, hw⟩
  refine ⟨h.informed.step machine_follows hstep, ?_⟩
  cases Link.effect_of_step hstep with
  | connection label step client => exact ⟨w, client.trans hclient, hw⟩
  | publish label published step client =>
    refine ⟨machine.publish published w, ?_, ?_⟩
    . rw [client, hclient]
      rfl
    . exact ⟨hw.steady.publish published, hw.opened.publish published, hw.sent, hw.flow, hw.blocked⟩
  | client label m m' before step same client =>
    rw [hclient, Client.running.injEq] at before
    subst before
    have hlabel := hcooperates w hclient
    exact ⟨m', client, hw.step hlabel (World.step_of_machine step)⟩
  | _ => contradiction

/--
The broker does not close the channel the producer is about to publish on, unless the state machine is
about to leave it behind anyway.
-/
def KeepsChannel (s : Link World) : LinkLabel (Watch Bool) Label → Prop
  | .client label => ∀ w, s.client = .running w → w.KeepsChannel label
  | _ => True

/-- What a producer starts with and keeps from one step to the next holds whenever it runs. -/
theorem running_step {P : World → Prop} {label : LinkLabel (Watch Bool) Label}
    (h : ∀ w, s.client = .running w → P w) (hstep : s.step machine label = some s')
    (hstart : ∀ input connection connectionRx, P (machine.start input connection connectionRx))
    (hpublish : ∀ w published, P w → P (machine.publish published w))
    (hclient : ∀ w w' label', label = .client label' → s.client = .running w → P w →
      w.step label' = some w' → P w')
    : ∀ w, s'.client = .running w → P w := by
  intro w' hw'
  cases Link.effect_of_step hstep with
  | connection label step client => exact h w' (client ▸ hw')
  | publish label published step client =>
    rw [client] at hw'
    cases hold : s.client with
    | running w =>
      rw [hold, Client.publish, Client.running.injEq] at hw'
      exact hw' ▸ hpublish w published (h w hold)
    | _ =>
      rw [hold] at hw'
      contradiction
  | refuse before connectionTx same =>
    rw [same, before] at hw'
    contradiction
  | create connection before connectionTx same client =>
    rw [client] at hw'
    contradiction
  | start input connection connectionRx before same client =>
    rw [client, Client.running.injEq] at hw'
    exact hw' ▸ hstart input connection connectionRx
  | finish same client =>
    rw [client] at hw'
    contradiction
  | client label w w'' before step same client =>
    rw [client, Client.running.injEq] at hw'
    exact hw' ▸ hclient w w'' label rfl before (h w before) (World.step_of_machine step)

theorem steady_of_run {labels : List (LinkLabel (Watch Bool) Label)} {w : World}
    (hrun : System.run (Link.step machine) Link.init labels = some s) (hclient : s.client = .running w)
    : w.Steady := by
  apply System.run_invariant (P := fun s => ∀ w, s.client = .running w → w.Steady) _ nofun hrun w hclient
  intro s label s' h hstep
  apply running_step h hstep
  . intro input connection connectionRx
    exact World.steady_start
  . intro w published hw
    exact hw.publish published
  . intro w w' label' _ _ hw hstep'
    exact hw.step hstep'

theorem opened_step {label : LinkLabel (Watch Bool) Label}
    (h : ∀ w, s.client = .running w → w.Opened) (hkeeps : KeepsChannel s label)
    (hstep : s.step machine label = some s') : ∀ w, s'.client = .running w → w.Opened := by
  apply running_step h hstep
  . intro input connection connectionRx
    exact World.opened_start
  . intro w published hw
    exact hw.publish published
  . rintro w w' label' rfl hw hopened hstep'
    exact hopened.step (hkeeps w hw) hstep'

/-- The producer is in `ok_state`, and nothing it has been handed is left to be published or acked. -/
def Settled (sent : List BoxedMessage) (s : Link World) : Prop :=
  ∃ w, s.client = .running w
    ∧ w.producer.connection = some s.connection.connection
    ∧ (∃ messageCount, w.producer.state = .ok true false messageCount)
    ∧ w.producer.messages = []
    ∧ w.producer.unconfirmedMessages = []
    ∧ w.sent = sent
    ∧ ∀ message ∈ sent, AckedIn w.channels message

theorem Sending.settled (h : Sending sent s)
    (hquiescent : System.Quiescent (Link.step machine) (Link.Cooperates World.Cooperates) s)
    : Settled sent s := by
  rcases h with ⟨hinformed, w, hclient, hsending⟩
  rcases Link.stuck_of_quiescent hquiescent with ⟨hok, hstuck⟩
  rcases hinformed.running w hclient with ⟨hpublished, hview⟩
  have htx := hinformed.connection.connectionTx
  rw [if_pos hok] at htx
  have hpoll : w.poll .ok = none := hstuck w (.poll .ok) hclient rfl
  have hconfirm : ∀ i confirm, confirm.variant = .ack → w.confirm i confirm = none :=
    fun i confirm hack => hstuck w (.confirm i confirm) hclient hack
  rcases World.ok_of_poll_eq_none hview (by rw [hpublished, htx]; rfl) hpoll
    with ⟨⟨flow, blocked, messageCount, hstate⟩, hseen⟩
  rcases hsending.steady.idle hstate hpoll with ⟨rfl, rfl, hconfirms, hidle⟩
  have hmessages := hidle hsending.flow hsending.blocked
  have hunconfirmed := hsending.steady.unconfirmedMessages hsending.opened hseen hstate hconfirms
    hconfirm
  rw [hsending.flow, hsending.blocked] at hstate
  refine ⟨w, hclient, ?_, ⟨messageCount, hstate⟩, hmessages, hunconfirmed, hsending.sent, ?_⟩
  . have hworking : w.view.phase = .working := by
      simp [World.view, hstate, State.phase]
    by_contra hne
    have hunseen := hview.working hworking (by rw [hpublished, htx]; exact Ne.symm hne)
    simp [hseen] at hunseen
  . rw [← hsending.sent]
    exact hsending.steady.acked hmessages hunconfirmed

theorem progress
    : System.Progress (Link.step machine) (Link.Cooperates World.Cooperates) (Sending sent)
        (Link.distance World.measure) := by
  apply Link.progress
  . intro s label s' h hcooperates hstep
    exact h.step hcooperates hstep
  . intro s m label m' h hclient hcooperates hstep
    rcases h.running with ⟨w, hw, hsending⟩
    rw [hw, Client.running.injEq] at hclient
    subst hclient
    exact World.lowers_of_step hsending.steady.custody hcooperates (World.step_of_machine hstep)

/--
Whatever has happened to the producer and its connection, once no call fails any more and the broker
acks what it receives, every message that has been handed to `send` comes to be acked. This takes a
broker that does not stop the producer by `flow` or `blocked`, and does not close its channel.
-/
theorem acked_eventually (labels : List (LinkLabel (Watch Bool) Label)) (s : Link World) (w : World)
    (hkeeps : System.Along (Link.step machine) KeepsChannel Link.init labels)
    (hrun : System.run (Link.step machine) Link.init labels = some s) (hclient : s.client = .running w)
    (hflow : w.producer.flowRx.value = true) (hblocked : w.producer.blockedRx.value = false)
    (path : Nat → Link World) (hstart : path 0 = s)
    (hpath : System.Path (Link.step machine) (Link.Cooperates World.Cooperates) path)
    : ∃ k, ∀ j, k ≤ j → Settled w.sent (path j) := by
  have hopened := System.run_invariant_along (P := fun s => ∀ w, s.client = .running w → w.Opened)
    (fun _ _ _ => opened_step) nofun hkeeps hrun
  apply progress.eventually (fun s h hquiescent => h.settled hquiescent) hpath
  rw [hstart]
  exact ⟨Link.informed_of_run machine_follows hrun, w, hclient, steady_of_run hrun hclient,
    hopened w hclient, rfl, hflow, hblocked⟩

instance (w : World) (label : Label) : Decidable (w.KeepsChannel label) :=
  match label with
  | .close _ => inferInstanceAs (Decidable (_ → _ → _))
  | .send _ => isTrue trivial
  | .connection _ => isTrue trivial
  | .flow _ => isTrue trivial
  | .blocked _ => isTrue trivial
  | .confirm _ _ => isTrue trivial
  | .poll _ => isTrue trivial

instance (s : Link World) (label : LinkLabel (Watch Bool) Label) : Decidable (KeepsChannel s label) :=
  match label with
  | .client label =>
    match h : s.client with
    | .running w => decidable_of_iff (w.KeepsChannel label) (by simp [KeepsChannel, h])
    | .creating _ _ => isTrue (by simp [KeepsChannel, h])
    | .absent => isTrue (by simp [KeepsChannel, h])
  | .connection _ => isTrue trivial
  | .create => isTrue trivial
  | .start _ => isTrue trivial
  | .finish => isTrue trivial

-- One message is published when the connection is lost, and its channel with it, another one is waiting.
def sampleInterrupted : List (LinkLabel (Watch Bool) Label) := [
  .create,
  .start { value := false, unseen := false },
  .client (.send (World.sampleMessage [0])),
  .client (.poll .ok),
  .client (.send (World.sampleMessage [1])),
  .connection .ioFailure,
  .client (.close 0)
]

def interrupted : Link World :=
  (System.run (Link.step machine) Link.init sampleInterrupted).getD Link.init

theorem acked_eventually_interrupted
    : ∃ path, path 0 = interrupted
        ∧ System.Path (Link.step machine) (Link.Cooperates World.Cooperates) path
        ∧ ∃ k w, (path k).client = .running w
          ∧ AckedIn w.channels { address := 0, message := World.sampleMessage [0] }
          ∧ AckedIn w.channels { address := 1, message := World.sampleMessage [1] } := by
  rcases System.exists_path (Link.step machine) (Link.Cooperates World.Cooperates) interrupted
    with ⟨path, hstart, hpath⟩
  have hrun : System.run (Link.step machine) Link.init sampleInterrupted = some interrupted := by
    rfl
  have hkeeps : System.Along (Link.step machine) KeepsChannel Link.init sampleInterrupted := by
    decide
  refine ⟨path, hstart, hpath, ?_⟩
  rcases acked_eventually sampleInterrupted interrupted _ hkeeps hrun rfl rfl rfl path hstart hpath
    with ⟨k, hsettled⟩
  rcases hsettled k (Nat.le_refl k) with ⟨w, hclient, _, _, _, _, _, hacked⟩
  exact ⟨k, w, hclient, hacked _ List.mem_cons_self,
    hacked _ (List.mem_cons_of_mem _ List.mem_cons_self)⟩

end Producer

namespace Consumer

namespace World

variable {w : World}

theorem waiting_of_stuck {connection : Connection.StateMachine} (h : Subscription connection w)
    (hinformed : w.view.Informed) (hpublished : w.view.published.isSome)
    (hstuck : ∀ succeeded, w.Cooperates (.poll succeeded) → w.poll succeeded = none)
    : w.consumer.state = .ok .waiting ∧ ¬w.WakeUp := by
  have hpoll := hstuck true trivial
  unfold poll at hpoll
  split at hpoll
  . next stage hstate =>
    cases stage with
    | entering => contradiction
    | reporting => contradiction
    | waiting =>
      refine ⟨hstate, ?_⟩
      simp only [pollOk] at hpoll
      split at hpoll
      . contradiction
      . next hseen =>
        split at hpoll
        . contradiction
        . next hpermit =>
          rintro (hunseen | hcancelled)
          . exact hseen hunseen
          . exact hpermit hcancelled
  . next stage hstate =>
    cases stage with
    | reporting => contradiction
    | checking => contradiction
    | awaiting =>
      have hunseen := hinformed.waiting (by simp [view, hstate, State.phase]) hpublished
      have hrx : w.consumer.connectionRx.unseen = true := hunseen
      simp [pollWaitingForConnection, hrx] at hpoll
  . next stage hstate =>
    cases stage with
    | closing => contradiction
    | opening =>
      have hstored := hinformed.stored (by simp [view, hstate, State.phase])
      simp only [pollRecreatingChannel] at hpoll
      split at hpoll
      . contradiction
      . split at hpoll
        . next hnone => simp [view, hnone] at hstored
        . contradiction
    | registering =>
      simp only [pollRecreatingChannel] at hpoll
      split at hpoll <;> contradiction
  . next stage hstate =>
    cases stage with
    | reporting => contradiction
    | restoring =>
      rcases h.channel (by rw [hstate]; rfl) with ⟨broker, hbroker⟩
      simp only [pollRestoringConsumer, hbroker.channel] at hpoll
      split at hpoll
      . contradiction
      . next hseen =>
        rw [if_pos trivial] at hpoll
        split at hpoll
        . next hclosed =>
          -- `basic_consume` fails, and this leads to another channel.
          have hfailed := hstuck false ⟨hstate, by simp [hbroker.channel, hclosed]⟩
          simp [poll, hstate, pollRestoringConsumer, hseen] at hfailed
        . contradiction
    | restored =>
      simp only [pollRestoringConsumer] at hpoll
      split at hpoll <;> contradiction

end World

variable {s s' : Link World}

/-- The consumer is in `ok_state` with an active subscription, and has reported to be consuming. -/
def Consuming (s : Link World) : Prop :=
  ∃ w, s.client = .running w
    ∧ w.consumer.state = .ok .waiting
    ∧ w.Active s.connection
    ∧ w.statuses.getLast? = some .consuming

structure Running (s : Link World) : Prop where
  reliable : Reliable s
  running : ∃ w, s.client = .running w

theorem Running.step (h : Running s) {label : LinkLabel Unit Label}
    (hcooperates : s.Cooperates World.Cooperates label) (hstep : s.step machine label = some s')
    : Running s' := by
  rcases h.running with ⟨w, hclient⟩
  constructor
  . apply h.reliable.step _ hstep
    cases label with
    | client label =>
      have hlabel := hcooperates w hclient
      cases label with
      | poll succeeded => trivial
      | _ => contradiction
    | _ => trivial
  . cases Link.effect_of_step hstep with
    | connection label step client => exact ⟨w, client.trans hclient⟩
    | publish label published step client =>
      refine ⟨machine.publish published w, ?_⟩
      rw [client, hclient]
      rfl
    | client label m m' before step same client => exact ⟨m', client⟩
    | _ => contradiction

theorem Running.consuming (h : Running s)
    (hquiescent : System.Quiescent (Link.step machine) (Link.Cooperates World.Cooperates) s)
    : Consuming s := by
  rcases h.running with ⟨w, hclient⟩
  rcases Link.stuck_of_quiescent hquiescent with ⟨hok, hstuck⟩
  rcases h.reliable.informed.running w hclient with ⟨hpublished, hview⟩
  have htx := h.reliable.informed.connection.connectionTx
  rw [if_pos hok] at htx
  have hw := h.reliable.subscription w hclient
  rcases World.waiting_of_stuck hw hview (by rw [hpublished, htx]; rfl)
    (fun succeeded => hstuck w (.poll succeeded) hclient) with ⟨hstate, hasleep⟩
  have hactive := (hw.covered (by rw [hstate]; rfl)).resolve_right hasleep
  exact ⟨w, hclient, hstate, hactive, hw.reported (.inr hstate)⟩

theorem progress
    : System.Progress (Link.step machine) (Link.Cooperates World.Cooperates) Running
        (Link.distance World.measure) := by
  apply Link.progress
  . intro s label s' h hcooperates hstep
    exact h.step hcooperates hstep
  . intro s m label m' h hclient hcooperates hstep
    cases label with
    | poll succeeded => exact World.lowers_poll hcooperates hstep
    | _ => contradiction

/--
Whatever has happened to the consumer and its connection, once no call fails any more it comes to be
consuming, and reports that. This takes a broker that does not close the channel of a subscription.
-/
theorem consuming_eventually (labels : List (LinkLabel Unit Label)) (s : Link World) (w : World)
    (hkeeps : System.Along (Link.step machine) KeepsChannel Link.init labels)
    (hrun : System.run (Link.step machine) Link.init labels = some s) (hclient : s.client = .running w)
    (path : Nat → Link World) (hstart : path 0 = s)
    (hpath : System.Path (Link.step machine) (Link.Cooperates World.Cooperates) path)
    : ∃ k, ∀ j, k ≤ j → Consuming (path j) := by
  apply progress.eventually (fun s h hquiescent => h.consuming hquiescent) hpath
  rw [hstart]
  refine ⟨?_, w, hclient⟩
  exact System.run_invariant_along (fun s label s' h hkeeps hstep => h.step hkeeps hstep)
    ⟨Link.informed_init, nofun⟩ hkeeps hrun

-- The connection is lost twice, the second time while the callback is being restored.
def sampleLost : List (LinkLabel Unit Label) :=
  sampleStart ++ [
    .connection .ioFailure,
    .connection (.poll true),
    .connection (.poll true),
    .client (.poll true),
    .connection .ioFailure
  ]

def lost : Link World := (System.run (Link.step machine) Link.init sampleLost).getD Link.init

theorem consuming_eventually_lost
    : ∃ path, path 0 = lost
        ∧ System.Path (Link.step machine) (Link.Cooperates World.Cooperates) path
        ∧ ∃ k, Consuming (path k) := by
  rcases System.exists_path (Link.step machine) (Link.Cooperates World.Cooperates) lost
    with ⟨path, hstart, hpath⟩
  have hrun : System.run (Link.step machine) Link.init sampleLost = some lost := by
    rfl
  have hkeeps : System.Along (Link.step machine) KeepsChannel Link.init sampleLost := by
    decide
  refine ⟨path, hstart, hpath, ?_⟩
  rcases consuming_eventually sampleLost lost _ hkeeps hrun rfl path hstart hpath
    with ⟨k, hconsuming⟩
  exact ⟨k, hconsuming k (Nat.le_refl k)⟩

end Consumer

end TomNotifier.Rabbitmq
