import TomNotifier.Rabbitmq.Consumer.Status
import TomNotifier.WsDelivery.WebSockets.NetworkStatus

/-!
This module contains what the clients are told about the network while the server's consumer loses and
restores its subscription.
-/

namespace TomNotifier.Rabbitmq.Consumer

/-- The state machine awaits the status callback. -/
def State.reporting : State → Bool
  | .ok .reporting => true
  | .waitingForConnection .reporting => true
  | .restoringConsumer .reporting => true
  | _ => false

def State.status? : State → Option RabbitmqConsumerStatus
  | .ok .entering => none
  | .ok _ => some .consuming
  | _ => some .recovering

variable {w w' : World} {succeeded : Bool}

/-- A poll either calls the callback, or leads to where it has returned. -/
inductive Reports (w w' : World) : Prop where
  | calls (status : RabbitmqConsumerStatus) (statuses : w'.statuses = w.statuses ++ [status])
    (reporting : w'.consumer.state.reporting = true)
    (status_eq : w'.consumer.state.status? = some status)
  | silent (statuses : w'.statuses = w.statuses) (reporting : w'.consumer.state.reporting = false)
    (status_eq : w'.consumer.state.status? = w.consumer.state.status?)

theorem status?_of_poll_checking (hpoll : w.poll succeeded = some w')
    (hchecking : w'.consumer.state = .waitingForConnection .checking)
    : w.consumer.state.status? = some .recovering := by
  unfold World.poll at hpoll
  split at hpoll
  . next stage hstate =>
    -- What leaves `ok_state` calls the callback first.
    unfold World.pollOk at hpoll
    cases stage with
    | entering => simp [← Option.some.inj hpoll, World.execute] at hchecking
    | reporting => simp [← Option.some.inj hpoll] at hchecking
    | waiting =>
      dsimp only at hpoll
      split at hpoll
      . simp [← Option.some.inj hpoll, World.execute, StateMachine.connectionChanged] at hchecking
      . split at hpoll
        . simp [← Option.some.inj hpoll, World.execute] at hchecking
        . contradiction
  . next hstate => rw [hstate]; rfl
  . next hstate => rw [hstate]; rfl
  . next hstate => rw [hstate]; rfl

theorem reports_of_poll (hpoll : w.poll succeeded = some w') : Reports w w' := by
  have hchecking := status?_of_poll_checking hpoll
  cases World.poll_effect hpoll with
  | consuming _ => exact .calls .consuming rfl rfl rfl
  | consumingReported hstate => exact .silent rfl rfl (by rw [hstate]; rfl)
  | connectionLost _ _ => exact .calls .recovering rfl rfl rfl
  | cancelled _ _ => exact .calls .recovering rfl rfl rfl
  | lostReported hstate => exact .silent rfl rfl (by rw [hstate]; rfl)
  | connection hstate =>
    refine .silent rfl ?_ ?_
    . dsimp only
      split <;> rfl
    . rw [hstate]
      dsimp only
      split <;> rfl
  | connectionChanged _ => exact .silent rfl rfl (hchecking rfl).symm
  | close hstate => exact .silent rfl rfl (by rw [hstate]; rfl)
  | openChannel hstate _ => exact .silent rfl rfl (by rw [hstate]; rfl)
  | registered hstate => exact .silent rfl rfl (by rw [hstate]; rfl)
  | retry hstate => exact .silent rfl (by rw [hstate]; rfl) rfl
  | cancelledReported hstate => exact .silent rfl rfl (by rw [hstate]; rfl)
  | restored hstate _ _ _ => exact .silent rfl rfl (by rw [hstate]; rfl)
  | failed hstate => exact .silent rfl rfl (by rw [hstate]; rfl)

end TomNotifier.Rabbitmq.Consumer

namespace TomNotifier.WsDelivery

open Rabbitmq (Link LinkLabel Client RabbitmqConsumerStatus)
open Rabbitmq.Consumer (World machine)

/-- A call of `StatusCallback::execute`, before and after it has stored the status. -/
inductive StatusCallback where
  | called (status : RabbitmqConsumerStatus)
  | stored (status : RabbitmqConsumerStatus)

def StatusCallback.networkStatus : RabbitmqConsumerStatus → NetworkStatusProtobuf
  | .consuming => .ok
  | .recovering => .error

/-- The consumer of a server with the websockets it reports to. -/
structure ReportingConsumer where
  link : Link World
  updater : Updater
  -- the call the state machine awaits
  callback : Option StatusCallback

/--
`store` and `broadcast` are the halves of the `update_network_status` the callback calls.
-/
inductive ReportingLabel where
  | link (label : LinkLabel Unit Rabbitmq.Consumer.Label)
  | store
  | broadcast (now : OffsetDateTime) (messageId : Uuid)
  | server (label : ServerLabel)

namespace ReportingConsumer

open StatusCallback

def init : ReportingConsumer where
  link := .init
  updater := .init
  callback := none

/-- The status the callback has been called with between two states of the consumer. -/
def report? (client client' : Client World) : Option RabbitmqConsumerStatus :=
  match client, client' with
  | .running w, .running w' => w'.statuses[w.statuses.length]?
  | _, _ => none

def stepLink (s : ReportingConsumer) (label : LinkLabel Unit Rabbitmq.Consumer.Label)
    : Option ReportingConsumer :=
  match s.link.step machine label with
  | none => none
  | some link =>
    match report? s.link.client link.client with
    | none => some { s with link }
    | some status => some { s with link, callback := some (.called status) }

section

variable (config : WebSocketsServiceConfig) (codec : WebSocketCodec)

def step (s : ReportingConsumer) : ReportingLabel → Option ReportingConsumer
  | .link label =>
    match label with
    -- The state machine only goes on when the callback has returned.
    | .client (.poll succeeded) =>
      if s.callback.isSome then none else s.stepLink (.client (.poll succeeded))
    -- The server keeps its consumer.
    | .finish =>
      match s.link.client with
      | .running _ => none
      | _ => s.stepLink .finish
    | label => s.stepLink label
  | .store =>
    match s.callback with
    | some (.called status) =>
      (s.updater.step config codec (.storeNetworkStatus (networkStatus status))).map fun updater =>
        { s with updater, callback := some (.stored status) }
    | _ => none
  | .broadcast now messageId =>
    match s.callback with
    | some (.stored status) =>
      (s.updater.step config codec
        (.broadcastNetworkStatus (networkStatus status) now messageId)).map fun updater =>
          { s with updater, callback := none }
    | _ => none
  | .server label =>
    match label with
    | .storeNetworkStatus _ => none
    | .broadcastNetworkStatus _ _ _ => none
    | label => (s.updater.step config codec label).map fun updater => { s with updater }

end

def reported : Client World → Option RabbitmqConsumerStatus
  | .running w => w.consumer.state.status?
  | _ => none

def awaiting : Client World → Bool
  | .running w => w.consumer.state.reporting
  | _ => false

/-- How far the callback has come with what has been reported last. -/
def Carried (u : Updater) (reported : Option RabbitmqConsumerStatus) : Option StatusCallback → Prop
  | none => u.pending = none ∧ u.latest = (reported.map networkStatus).getD .ok
  | some (.called status) => u.pending = none ∧ reported = some status
  | some (.stored status) =>
    u.pending = some (networkStatus status) ∧ u.latest = networkStatus status ∧ reported = some status

structure Coherent (s : ReportingConsumer) : Prop where
  converges : s.updater.Converges
  awaiting : s.callback.isSome = true → awaiting s.link.client = true
  carried : Carried s.updater (reported s.link.client) s.callback

theorem coherent_init : init.Coherent where
  converges := Updater.converges_init
  awaiting := by simp [init]
  carried := ⟨rfl, rfl⟩

variable {config : WebSocketsServiceConfig} {codec : WebSocketCodec} {s s' : ReportingConsumer}
variable {link : Link World} {w w' : World} {succeeded : Bool} {u : Updater}

theorem Coherent.quiet (h : s.Coherent) (hreported : reported link.client = reported s.link.client)
    (hawaiting : ReportingConsumer.awaiting link.client = ReportingConsumer.awaiting s.link.client)
    : Coherent { s with link } where
  converges := h.converges
  awaiting := by
    rw [hawaiting]
    exact h.awaiting
  carried := by
    rw [hreported]
    exact h.carried

theorem report?_of_statuses (h : w'.statuses = w.statuses)
    : report? (.running w) (.running w') = none := by
  simp [report?, h]

/-- Only a poll calls the callback. -/
theorem Coherent.stepLink (h : s.Coherent) {label : LinkLabel Unit Rabbitmq.Consumer.Label}
    (hpoll : ∀ succeeded, label ≠ .client (.poll succeeded))
    (hfinish : label = .finish → ∀ w, s.link.client ≠ .running w)
    (hstep : s.stepLink label = some s') : s'.Coherent := by
  unfold ReportingConsumer.stepLink at hstep
  split at hstep
  . contradiction
  . next link hlink =>
    have hquiet : report? s.link.client link.client = none
        ∧ reported link.client = reported s.link.client
        ∧ ReportingConsumer.awaiting link.client = ReportingConsumer.awaiting s.link.client := by
      cases Link.effect_of_step hlink with
      | connection label step client =>
        rw [client]
        cases s.link.client with
        | running w => exact ⟨report?_of_statuses rfl, rfl, rfl⟩
        | absent => exact ⟨rfl, rfl, rfl⟩
        | creating connection connectionRx => exact ⟨rfl, rfl, rfl⟩
      | publish label published step client =>
        rw [client]
        cases s.link.client with
        | running w => exact ⟨report?_of_statuses rfl, rfl, rfl⟩
        | absent => exact ⟨rfl, rfl, rfl⟩
        | creating connection connectionRx => exact ⟨rfl, rfl, rfl⟩
      | refuse before connectionTx same =>
        rw [same, before]
        exact ⟨rfl, rfl, rfl⟩
      | create connection before connectionTx same client =>
        rw [client, before]
        exact ⟨rfl, rfl, rfl⟩
      | start input connection connectionRx before same client =>
        rw [client, before]
        exact ⟨rfl, rfl, rfl⟩
      | finish same client =>
        rw [client]
        cases hclient : s.link.client with
        | running w => exact absurd hclient (hfinish rfl w)
        | absent => exact ⟨rfl, rfl, rfl⟩
        | creating connection connectionRx => exact ⟨rfl, rfl, rfl⟩
      | client label w w' before step same client =>
        rw [client, before]
        cases label with
        | poll succeeded => exact absurd rfl (hpoll succeeded)
        | cancel channel =>
          rcases Rabbitmq.Consumer.touches_of_cancel step with ⟨htouches, _⟩
          refine ⟨report?_of_statuses htouches.statuses, ?_, ?_⟩
          . simp only [reported, htouches.consumer]
          . simp only [ReportingConsumer.awaiting, htouches.consumer]
        | close channel =>
          rcases Rabbitmq.Consumer.touches_of_close step with ⟨htouches, _⟩
          refine ⟨report?_of_statuses htouches.statuses, ?_, ?_⟩
          . simp only [reported, htouches.consumer]
          . simp only [ReportingConsumer.awaiting, htouches.consumer]
    rcases hquiet with ⟨hreport, hreported, hawaiting⟩
    rw [hreport, Option.some.injEq] at hstep
    rw [← hstep]
    exact h.quiet hreported hawaiting

theorem Coherent.poll (h : s.Coherent) (hcallback : s.callback = none)
    (hstep : s.stepLink (.client (.poll succeeded)) = some s') : s'.Coherent := by
  have hcarried := h.carried
  rw [hcallback] at hcarried
  unfold ReportingConsumer.stepLink at hstep
  split at hstep
  . contradiction
  . next link hlink =>
    cases Link.effect_of_step hlink with
    | client label w w' before step same client =>
      rw [before, client] at hstep
      cases Rabbitmq.Consumer.reports_of_poll step with
      | calls status statuses reporting status_eq =>
        have hreport : report? (.running w) (.running w') = some status := by
          simp [report?, statuses]
        rw [hreport, Option.some.injEq] at hstep
        rw [← hstep]
        refine ⟨h.converges, fun _ => ?_, hcarried.1, ?_⟩
        . rw [client]
          exact reporting
        . rw [client]
          exact status_eq
      | silent statuses reporting status_eq =>
        rw [report?_of_statuses statuses, Option.some.injEq] at hstep
        rw [← hstep]
        refine ⟨h.converges, ?_, ?_⟩
        . simp [hcallback]
        . have hreported : reported link.client = reported s.link.client := by
            rw [client, before]
            exact status_eq
          dsimp only
          rw [hcallback, hreported]
          exact hcarried

theorem updater_of_store {u' : Updater} {status : NetworkStatusProtobuf}
    (h : u.step config codec (.storeNetworkStatus status) = some u')
    : u'.pending = some status ∧ u'.latest = status := by
  unfold Updater.step at h
  split at h
  . contradiction
  . simp only [Option.ite_none_right_eq_some, Option.some.injEq] at h
    rw [← h.2]
    exact ⟨rfl, rfl⟩

theorem updater_of_broadcast {u' : Updater} {status : NetworkStatusProtobuf} {now : OffsetDateTime}
    {messageId : Uuid}
    (h : u.step config codec (.broadcastNetworkStatus status now messageId) = some u')
    : u'.pending = none ∧ u'.latest = u.latest := by
  unfold Updater.step at h
  split at h
  . contradiction
  . simp only [Option.ite_none_right_eq_some, Option.some.injEq] at h
    rw [← h.2]
    exact ⟨rfl, rfl⟩

theorem updater_of_other {u' : Updater} {label : ServerLabel}
    (hstore : ∀ status, label ≠ .storeNetworkStatus status)
    (hbroadcast : ∀ status now messageId, label ≠ .broadcastNetworkStatus status now messageId)
    (h : u.step config codec label = some u') : u'.pending = u.pending ∧ u'.latest = u.latest := by
  unfold Updater.step at h
  split at h
  . contradiction
  . split at h
    . next status _ => exact absurd rfl (hstore status)
    . next status now messageId _ => exact absurd rfl (hbroadcast status now messageId)
    . rw [← Option.some.inj h]
      exact ⟨rfl, rfl⟩
    . rw [← Option.some.inj h]
      exact ⟨rfl, rfl⟩

theorem Coherent.server (h : s.Coherent) {label : ServerLabel} {updater : Updater}
    (hstore : ∀ status, label ≠ .storeNetworkStatus status)
    (hbroadcast : ∀ status now messageId, label ≠ .broadcastNetworkStatus status now messageId)
    (hstep : s.updater.step config codec label = some updater)
    : Coherent { s with updater } := by
  rcases updater_of_other hstore hbroadcast hstep with ⟨hpending, hlatest⟩
  refine ⟨h.converges.step hstep, h.awaiting, ?_⟩
  have hcarried := h.carried
  dsimp only
  cases hcallback : s.callback with
  | none =>
    rw [hcallback] at hcarried
    exact ⟨hpending.trans hcarried.1, hlatest.trans hcarried.2⟩
  | some callback =>
    rw [hcallback] at hcarried
    cases callback with
    | called status => exact ⟨hpending.trans hcarried.1, hcarried.2⟩
    | stored status => exact ⟨hpending.trans hcarried.1, hlatest.trans hcarried.2.1, hcarried.2.2⟩

theorem Coherent.step (h : s.Coherent) {label : ReportingLabel}
    (hstep : ReportingConsumer.step config codec s label = some s') : s'.Coherent := by
  cases label with
  | link label =>
    cases label with
    | client label =>
      cases label with
      | poll succeeded =>
        simp only [ReportingConsumer.step] at hstep
        split at hstep
        . contradiction
        . next hcallback => exact h.poll (by simpa using hcallback) hstep
      | _ => exact h.stepLink (by simp) (by simp) hstep
    | finish =>
      simp only [ReportingConsumer.step] at hstep
      split at hstep
      . contradiction
      . next hclient => exact h.stepLink (by simp) (fun _ w heq => hclient w heq) hstep
    | _ => exact h.stepLink (by simp) (by simp) hstep
  | store =>
    simp only [ReportingConsumer.step] at hstep
    split at hstep
    . next status hcallback =>
      rw [Option.map_eq_some_iff] at hstep
      rcases hstep with ⟨updater, hupdater, rfl⟩
      have hcarried := h.carried
      rw [hcallback] at hcarried
      rcases updater_of_store hupdater with ⟨hpending, hlatest⟩
      refine ⟨h.converges.step hupdater, fun _ => h.awaiting (by rw [hcallback]; rfl), ?_⟩
      exact ⟨hpending, hlatest, hcarried.2⟩
    . contradiction
  | broadcast now messageId =>
    simp only [ReportingConsumer.step] at hstep
    split at hstep
    . next status hcallback =>
      rw [Option.map_eq_some_iff] at hstep
      rcases hstep with ⟨updater, hupdater, rfl⟩
      have hcarried := h.carried
      rw [hcallback] at hcarried
      rcases updater_of_broadcast hupdater with ⟨hpending, hlatest⟩
      refine ⟨h.converges.step hupdater, by simp, hpending, ?_⟩
      rw [hlatest, hcarried.2.1, hcarried.2.2]
      rfl
    . contradiction
  | server label =>
    simp only [ReportingConsumer.step] at hstep
    split at hstep
    . contradiction
    . contradiction
    . next hstore hbroadcast =>
      rw [Option.map_eq_some_iff] at hstep
      rcases hstep with ⟨updater, hupdater, rfl⟩
      exact h.server hstore hbroadcast hupdater

/-- The broker closes the channel of an active subscription only when the consumer is losing it anyway. -/
def KeepsChannel (s : ReportingConsumer) : ReportingLabel → Prop
  | .link label => Rabbitmq.Consumer.KeepsChannel s.link label
  | _ => True

theorem link_of_stepLink {label : LinkLabel Unit Rabbitmq.Consumer.Label}
    (hstep : s.stepLink label = some s') : s.link.step machine label = some s'.link := by
  unfold stepLink at hstep
  split at hstep
  . contradiction
  . next link hlink =>
    rw [hlink]
    split at hstep <;> rw [← Option.some.inj hstep]

theorem link_of_step_link {label : LinkLabel Unit Rabbitmq.Consumer.Label}
    (hstep : ReportingConsumer.step config codec s (.link label) = some s')
    : s.link.step machine label = some s'.link := by
  simp only [ReportingConsumer.step] at hstep
  split at hstep
  . split at hstep
    . contradiction
    . exact link_of_stepLink hstep
  . split at hstep
    . contradiction
    . exact link_of_stepLink hstep
  . exact link_of_stepLink hstep

theorem link_of_step {label : ReportingLabel}
    (hstep : ReportingConsumer.step config codec s label = some s')
    : s'.link = s.link
        ∨ ∃ label', label = .link label' ∧ s.link.step machine label' = some s'.link := by
  cases label with
  | link label => exact .inr ⟨label, rfl, link_of_step_link hstep⟩
  | store =>
    simp only [ReportingConsumer.step] at hstep
    split at hstep
    . rw [Option.map_eq_some_iff] at hstep
      rcases hstep with ⟨updater, _, rfl⟩
      exact .inl rfl
    . contradiction
  | broadcast now messageId =>
    simp only [ReportingConsumer.step] at hstep
    split at hstep
    . rw [Option.map_eq_some_iff] at hstep
      rcases hstep with ⟨updater, _, rfl⟩
      exact .inl rfl
    . contradiction
  | server label =>
    simp only [ReportingConsumer.step] at hstep
    split at hstep
    . contradiction
    . contradiction
    . rw [Option.map_eq_some_iff] at hstep
      rcases hstep with ⟨updater, _, rfl⟩
      exact .inl rfl

theorem reliable_of_step {label : ReportingLabel} (h : Rabbitmq.Consumer.Reliable s.link)
    (hkeeps : s.KeepsChannel label) (hstep : ReportingConsumer.step config codec s label = some s')
    : Rabbitmq.Consumer.Reliable s'.link := by
  rcases link_of_step hstep with hsame | ⟨label', rfl, hlink⟩
  . exact hsame ▸ h
  . exact h.step hkeeps hlink

theorem reliable_init : Rabbitmq.Consumer.Reliable init.link := by
  refine ⟨Link.informed_init, ?_⟩
  intro w hclient
  contradiction

theorem coherent_of_run {labels : List ReportingLabel}
    (hrun : System.run (ReportingConsumer.step config codec) init labels = some s) : s.Coherent := by
  apply System.run_invariant _ coherent_init hrun
  intro s label s' h hstep
  exact h.step hstep

theorem reliable_of_run {labels : List ReportingLabel}
    (hkeeps : System.Along (ReportingConsumer.step config codec) KeepsChannel init labels)
    (hrun : System.run (ReportingConsumer.step config codec) init labels = some s)
    : Rabbitmq.Consumer.Reliable s.link := by
  apply System.run_invariant_along (P := fun s => Rabbitmq.Consumer.Reliable s.link) _ reliable_init
    hkeeps hrun
  intro s label s' h hkeeps hstep
  exact reliable_of_step h hkeeps hstep

/-- What has been reported is what the latest status is about, once the callback has returned. -/
theorem Coherent.latest_eq (h : s.Coherent) (hclient : s.link.client = .running w)
    (hcallback : s.callback = none)
    : s.updater.pending = none
        ∧ s.updater.latest = (w.consumer.state.status?.map networkStatus).getD .ok := by
  have hcarried := h.carried
  rw [hcallback, hclient] at hcarried
  exact hcarried

/--
While no call of the status callback is in progress, a client has last been told an error iff the
consumer recovers. Whoever has not has a server whose consumer has an active subscription, or is about
to find out that it has none.
-/
theorem clients_told (config : WebSocketsServiceConfig) (codec : WebSocketCodec)
    (labels : List ReportingLabel)
    (hrun : System.run (ReportingConsumer.step config codec) init labels = some s)
    (hclient : s.link.client = .running w) (hcallback : s.callback = none)
    : ∀ i start channel, Updater.Listening s.updater.server s.updater.starts i start channel →
        (lastStatus start channel.queued = some NetworkStatusProtobuf.error.toInt32
            ∧ ∀ stage, w.consumer.state ≠ .ok stage)
          ∨ ((lastStatus start channel.queued = some NetworkStatusProtobuf.ok.toInt32
              ∨ lastStatus start channel.queued = none)
            ∧ (∃ stage, w.consumer.state = .ok stage)
            ∧ (System.Along (ReportingConsumer.step config codec) KeepsChannel init labels →
              w.Active s.link.connection ∨ w.WakeUp)) := by
  intro i start channel hlistening
  have hcoherent := coherent_of_run hrun
  rcases hcoherent.latest_eq hclient hcallback with ⟨hidle, hlatest⟩
  have htold := hcoherent.converges.told hidle i start channel hlistening
  unfold Updater.Told at htold
  cases hstate : w.consumer.state with
  | ok stage =>
    have hok : s.updater.latest = .ok := by
      rw [hlatest, hstate]
      cases stage <;> rfl
    rw [hok] at htold
    refine .inr ⟨htold.imp id And.left, ⟨stage, rfl⟩, ?_⟩
    intro hkeeps
    have hreliable := reliable_of_run hkeeps hrun
    exact (hreliable.subscription w hclient).covered (by rw [hstate]; rfl)
  | _ =>
    rw [hstate] at hlatest
    rw [show s.updater.latest = .error from hlatest] at htold
    refine .inl ⟨?_, by simp⟩
    rcases htold with herror | ⟨_, hok⟩
    . exact herror
    . contradiction

open Server (sampleConfig sampleCodec)

-- A device joins, the connection is lost, and the other one joins before the first has been told.
def sampleLoss : List ReportingLabel := [
  .link .create,
  .link (.start ()),
  .link (.client (.poll true)),
  .store,
  .broadcast 0 ⟨101⟩,
  .link (.client (.poll true)),
  .server (.handleClient ⟨1⟩ 1 1 ⟨102⟩),
  .link (.connection .ioFailure),
  .link (.client (.poll true)),
  .store,
  .server (.handleClient ⟨1⟩ 2 2 ⟨103⟩),
  .broadcast 3 ⟨104⟩
]

def sampleLost : ReportingConsumer :=
  (System.run (ReportingConsumer.step sampleConfig sampleCodec) init sampleLoss).getD init

theorem clients_told_lost
    : ∃ channel, Updater.Listening sampleLost.updater.server sampleLost.updater.starts 0 0 channel
        ∧ channel.queued.map (·.messageId) = [⟨103⟩, ⟨104⟩]
        ∧ lastStatus 0 channel.queued = some NetworkStatusProtobuf.error.toInt32 := by
  have hrun : System.run (ReportingConsumer.step sampleConfig sampleCodec) init sampleLoss
      = some sampleLost := by
    rfl
  have hlistening : Updater.Listening sampleLost.updater.server sampleLost.updater.starts 0 0
      (sampleLost.updater.server.websocketsService.channels.getD 0 (Channel.new 8)) := by
    exact ⟨_, rfl, rfl, rfl, rfl, rfl⟩
  refine ⟨_, hlistening, rfl, ?_⟩
  rcases clients_told sampleConfig sampleCodec sampleLoss hrun rfl rfl 0 0 _ hlistening
    with ⟨htold, _⟩ | ⟨_, ⟨stage, hstage⟩, _⟩
  . exact htold
  . contradiction

end ReportingConsumer

end TomNotifier.WsDelivery
