import Mathlib.Data.Prod.Lex
import Mathlib.Order.Nat
import TomNotifier.Rabbitmq.Recovery
import TomNotifier.WsDelivery.Consumer.Status

/-!
This module contains that the clients come to be told that the network is fine again, once nothing fails
any more.
-/

namespace TomNotifier.WsDelivery

open Rabbitmq (Link LinkLabel RabbitmqConsumerStatus)
open Rabbitmq.Consumer (World machine Consuming Running)

namespace ReportingConsumer

open StatusCallback

/-- The calls of the consumer and its connection succeed, and the status callback goes on. -/
def Cooperates (s : ReportingConsumer) : ReportingLabel → Prop
  | .link label => s.link.Cooperates World.Cooperates label
  | .store => True
  | .broadcast _ _ => True
  | .server _ => False

def remaining : Option StatusCallback → Nat
  | some (.called _) => 2
  | some (.stored _) => 1
  | none => 0

def distance (s : ReportingConsumer) : (Nat ×ₗ Nat) ×ₗ Nat :=
  toLex (s.link.distance World.measure, remaining s.callback)

/--
The consumer is consuming, and whoever listens has last been told that the network is fine, if anything
about it.
-/
def Restored (s : ReportingConsumer) : Prop :=
  Consuming s.link
    ∧ ∀ i start channel, Updater.Listening s.updater.server s.updater.starts i start channel →
      lastStatus start channel.queued = some NetworkStatusProtobuf.ok.toInt32
        ∨ lastStatus start channel.queued = none

structure Recovering (s : ReportingConsumer) : Prop where
  coherent : s.Coherent
  running : Running s.link

variable {config : WebSocketsServiceConfig} {codec : WebSocketCodec} {s s' : ReportingConsumer}
variable {label : ReportingLabel}

theorem Recovering.step (h : s.Recovering) (hcooperates : s.Cooperates label)
    (hstep : ReportingConsumer.step config codec s label = some s') : s'.Recovering := by
  refine ⟨h.coherent.step hstep, ?_⟩
  rcases link_of_step hstep with hsame | ⟨label', rfl, hlink⟩
  . exact hsame ▸ h.running
  . exact h.running.step hcooperates hlink

theorem lowers_of_step (h : s.Recovering) (hcooperates : s.Cooperates label)
    (hstep : ReportingConsumer.step config codec s label = some s') : s'.distance < s.distance := by
  rw [distance, distance, Prod.Lex.toLex_lt_toLex]
  cases label with
  | link label =>
    have hlink := link_of_step_link hstep
    exact .inl (Rabbitmq.Consumer.progress.lowers _ label _ h.running hcooperates hlink)
  | store =>
    simp only [ReportingConsumer.step] at hstep
    split at hstep
    . next status hcallback =>
      rw [Option.map_eq_some_iff] at hstep
      rcases hstep with ⟨updater, _, rfl⟩
      refine .inr ⟨rfl, ?_⟩
      rw [hcallback]
      exact Nat.lt_succ_self 1
    . contradiction
  | broadcast now messageId =>
    simp only [ReportingConsumer.step] at hstep
    split at hstep
    . next status hcallback =>
      rw [Option.map_eq_some_iff] at hstep
      rcases hstep with ⟨updater, _, rfl⟩
      refine .inr ⟨rfl, ?_⟩
      rw [hcallback]
      exact Nat.zero_lt_one
    . contradiction
  | server label => contradiction

theorem progress
    : System.Progress (ReportingConsumer.step config codec) Cooperates Recovering distance := by
  constructor
  . intro s label s' h hcooperates hstep
    exact h.step hcooperates hstep
  . intro s label s' h hcooperates hstep
    exact lowers_of_step h hcooperates hstep

theorem Recovering.callback_eq_none (h : s.Recovering) {messageId : Uuid}
    (hfresh : s.updater.server.fresh messageId = true)
    (hquiescent : System.Quiescent (ReportingConsumer.step config codec) Cooperates s)
    : s.callback = none := by
  have hcarried := h.coherent.carried
  cases hcallback : s.callback with
  | none => rfl
  | some callback =>
    rw [hcallback] at hcarried
    cases callback with
    | called status =>
      have hstore := hquiescent .store trivial
      simp [ReportingConsumer.step, hcallback, Updater.step, Server.step, hcarried.1] at hstore
    | stored status =>
      have hbroadcast := hquiescent (.broadcast 0 messageId) trivial
      simp [ReportingConsumer.step, hcallback, Updater.step, Server.step, hcarried.1, hfresh]
        at hbroadcast

theorem stepLink_eq_none {label : LinkLabel Unit Rabbitmq.Consumer.Label}
    (h : s.stepLink label = none) : s.link.step machine label = none := by
  unfold stepLink at h
  split at h
  . assumption
  . split at h <;> contradiction

theorem link_quiescent (hcallback : s.callback = none)
    (hquiescent : System.Quiescent (ReportingConsumer.step config codec) Cooperates s)
    : System.Quiescent (Link.step machine) (Link.Cooperates World.Cooperates) s.link := by
  intro label hcooperates
  have hstep := hquiescent (.link label) hcooperates
  apply stepLink_eq_none
  cases label with
  | client label =>
    cases label with
    | poll succeeded => simpa [ReportingConsumer.step, hcallback] using hstep
    | _ => exact hstep
  | finish => contradiction
  | _ => exact hstep

theorem Recovering.restored (h : s.Recovering)
    (hquiescent : System.Quiescent (ReportingConsumer.step config codec) Cooperates s)
    : s.Restored ∨ ∀ messageId, s.updater.server.fresh messageId = false := by
  by_cases hfresh : ∃ messageId, s.updater.server.fresh messageId = true
  . rcases hfresh with ⟨messageId, hfresh⟩
    have hcallback := h.callback_eq_none hfresh hquiescent
    have hconsuming := h.running.consuming (link_quiescent hcallback hquiescent)
    refine .inl ⟨hconsuming, ?_⟩
    rcases hconsuming with ⟨w, hclient, hstate, _⟩
    rcases h.coherent.latest_eq hclient hcallback with ⟨hidle, hlatest⟩
    have hok : s.updater.latest = .ok := by
      rw [hlatest, hstate]
      rfl
    intro i start channel hlistening
    have htold := h.coherent.converges.told hidle i start channel hlistening
    rw [hok] at htold
    exact htold.imp id And.left
  . refine .inr ?_
    intro messageId
    exact eq_false_of_ne_true fun h => hfresh ⟨messageId, h⟩

/--
Whatever has happened to the consumer of a server, once no call fails any more it comes to be consuming
again, and every client that listens comes to have been told so. This takes a broker that does not close
the channel of a subscription, and an id for each message that is sent to the clients.
-/
theorem restored_eventually (config : WebSocketsServiceConfig) (codec : WebSocketCodec)
    (labels : List ReportingLabel) (s : ReportingConsumer) (w : World)
    (hkeeps : System.Along (ReportingConsumer.step config codec) KeepsChannel init labels)
    (hrun : System.run (ReportingConsumer.step config codec) init labels = some s)
    (hclient : s.link.client = .running w) (path : Nat → ReportingConsumer) (hstart : path 0 = s)
    (hpath : System.Path (ReportingConsumer.step config codec) Cooperates path)
    : ∃ k, ∀ j, k ≤ j →
        (path j).Restored ∨ ∀ messageId, (path j).updater.server.fresh messageId = false := by
  apply progress.eventually (G := fun s => s.Restored ∨ ∀ messageId,
    s.updater.server.fresh messageId = false) (fun s h hquiescent => h.restored hquiescent) hpath
  rw [hstart]
  exact ⟨coherent_of_run hrun, reliable_of_run hkeeps hrun, w, hclient⟩

instance (s : ReportingConsumer) (label : ReportingLabel) : Decidable (s.KeepsChannel label) :=
  match label with
  | .link label => inferInstanceAs (Decidable (Rabbitmq.Consumer.KeepsChannel s.link label))
  | .store => isTrue trivial
  | .broadcast _ _ => isTrue trivial
  | .server _ => isTrue trivial

open Server (sampleConfig sampleCodec)

instance (w : World) (label : Rabbitmq.Consumer.Label) : Decidable (w.Cooperates label) :=
  match label with
  | .poll true => isTrue trivial
  | .poll false => inferInstanceAs (Decidable (w.consumer.state = .restoringConsumer .restoring
    ∧ w.channels[w.consumer.channel]?.any (·.closed) = true))
  | .cancel _ => isFalse id
  | .close _ => isFalse id

instance (client : Rabbitmq.Client World) (label : Rabbitmq.Consumer.Label)
    : Decidable (∀ w, client = .running w → w.Cooperates label) :=
  match client with
  | .running w => decidable_of_iff (w.Cooperates label)
    ⟨fun h _ hw => Rabbitmq.Client.running.inj hw ▸ h, fun h => h w rfl⟩
  | .creating _ _ => isTrue nofun
  | .absent => isTrue nofun

instance (s : Link World) (label : LinkLabel Unit Rabbitmq.Consumer.Label)
    : Decidable (s.Cooperates World.Cooperates label) :=
  match label with
  | .client label => inferInstanceAs (Decidable (∀ w, s.client = .running w → w.Cooperates label))
  | .connection (.poll succeeded) => inferInstanceAs (Decidable (succeeded = true))
  | .connection .ioFailure => isFalse id
  | .create => isFalse id
  | .start _ => isFalse id
  | .finish => isFalse id

instance (s : ReportingConsumer) (label : ReportingLabel) : Decidable (s.Cooperates label) :=
  match label with
  | .link label => inferInstanceAs (Decidable (s.link.Cooperates World.Cooperates label))
  | .store => isTrue trivial
  | .broadcast _ _ => isTrue trivial
  | .server _ => isFalse id

-- The connection is opened again, then the channel and the consumer, and the client is told.
def sampleRecovery : List ReportingLabel :=
  List.replicate 4 (.link (.connection (.poll true)))
    ++ List.replicate 7 (.link (.client (.poll true)))
    ++ [.store, .broadcast 4 ⟨105⟩, .link (.client (.poll true))]

def sampleRestored : ReportingConsumer :=
  (System.run (ReportingConsumer.step sampleConfig sampleCodec) sampleLost sampleRecovery).getD
    sampleLost

theorem restored_eventually_lost
    : ∃ path, path 0 = sampleLost
        ∧ System.Path (ReportingConsumer.step sampleConfig sampleCodec) Cooperates path
        ∧ ∃ k, (path k).Restored := by
  have hrun : System.run (ReportingConsumer.step sampleConfig sampleCodec) init sampleLoss
      = some sampleLost := by
    rfl
  have hkeeps : System.Along (ReportingConsumer.step sampleConfig sampleCodec) KeepsChannel init
      sampleLoss := by
    decide
  have hrecovery : System.run (ReportingConsumer.step sampleConfig sampleCodec) sampleLost
      sampleRecovery = some sampleRestored := by
    rfl
  have hcooperates : System.Along (ReportingConsumer.step sampleConfig sampleCodec) Cooperates
      sampleLost sampleRecovery := by
    decide
  have hdistance : sampleRestored.distance = ⊥ := by
    rfl
  have hfresh : sampleRestored.updater.server.fresh ⟨106⟩ = true := by
    rfl
  have hrecovering : sampleLost.Recovering :=
    ⟨coherent_of_run hrun, reliable_of_run hkeeps hrun, _, rfl⟩
  rcases progress.exists_labelledPath hrecovering hrecovery hcooperates hdistance
    with ⟨path, hstart, hpath, hend⟩
  refine ⟨path, hstart, hpath.toPath, ?_⟩
  rcases restored_eventually sampleConfig sampleCodec sampleLoss sampleLost _ hkeeps hrun rfl path
    hstart hpath.toPath with ⟨k, hrestored⟩
  refine ⟨max k sampleRecovery.length, ?_⟩
  rcases hrestored _ (Nat.le_max_left _ _) with hrestored | hused
  . exact hrestored
  . rw [hend _ (Nat.le_max_right _ _)] at hused
    have hunused := hused ⟨106⟩
    rw [hfresh] at hunused
    contradiction

end ReportingConsumer

end TomNotifier.WsDelivery
