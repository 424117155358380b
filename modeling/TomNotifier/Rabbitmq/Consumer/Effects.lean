import TomNotifier.Rabbitmq.Consumer.Impl

/-!
This module contains what the consumer's state machine does from one await to the next.
-/

namespace TomNotifier.Rabbitmq.Consumer.World

/-- What a poll does to the consumer, its channels and permits, and what it reports. -/
inductive Effect (w : World) : World → Prop where
  | consuming : w.consumer.state = .ok .entering ∨ w.consumer.state = .restoringConsumer .restored →
      Effect w
        (execute .consuming { w with consumer := { w.consumer with state := .ok .reporting } })
  | consumingReported : w.consumer.state = .ok .reporting →
      Effect w { w with consumer := { w.consumer with state := .ok .waiting } }
  | connectionLost : w.consumer.state = .ok .waiting → w.consumer.connectionRx.unseen = true →
      Effect w (execute .recovering { w with consumer := w.consumer.connectionChanged .reporting })
  | cancelled : w.consumer.state = .ok .waiting →
      w.permits[w.consumer.consumerCancelled]? = some true →
      Effect w
        (execute .recovering { w with
          consumer := { w.consumer with state := .restoringConsumer .reporting }
          permits := w.permits.set w.consumer.consumerCancelled false
        })
  | lostReported : w.consumer.state = .waitingForConnection .reporting →
      Effect w { w with consumer := { w.consumer with state := .waitingForConnection .checking } }
  | connection : w.consumer.state = .waitingForConnection .checking →
      Effect w { w with
        consumer := { w.consumer with
          connection := w.consumer.connectionRx.value
          connectionRx := w.consumer.connectionRx.markSeen
          state :=
            if w.consumer.connectionRx.value.isSome then
              .recreatingChannel .closing
            else
              .waitingForConnection .awaiting
        }
      }
  | connectionChanged : w.consumer.connectionRx.unseen = true →
      Effect w { w with consumer := w.consumer.connectionChanged .checking }
  | close : w.consumer.state = .recreatingChannel .closing →
      Effect w { w with
        consumer := { w.consumer with state := .recreatingChannel .opening }
        channels := w.channels.modify w.consumer.channel
          ({ · with closed := true, consuming := false })
      }
  | openChannel {connection : ConnectionId} : w.consumer.state = .recreatingChannel .opening →
      w.consumer.connection = some connection →
      Effect w { w with
        consumer := { w.consumer with
          channel := w.channels.length
          consumerCancelled := w.permits.length
          state := .recreatingChannel .registering
        }
        channels := w.channels
          ++ [{ connection, callback := none, closed := false, consuming := false }]
        permits := w.permits ++ [false]
      }
  | registered : w.consumer.state = .recreatingChannel .registering →
      Effect w { w with
        consumer := { w.consumer with state := .restoringConsumer .restoring }
        channels := w.channels.modify w.consumer.channel
          ({ · with callback := some w.consumer.consumerCancelled })
      }
  | retry {stage : RecreatingStage} : w.consumer.state = .recreatingChannel stage → Effect w w
  | cancelledReported : w.consumer.state = .restoringConsumer .reporting →
      Effect w { w with consumer := { w.consumer with state := .restoringConsumer .restoring } }
  | restored {broker : BrokerChannel} : w.consumer.state = .restoringConsumer .restoring →
      w.consumer.connectionRx.unseen = false →
      w.channels[w.consumer.channel]? = some broker → broker.closed = false →
      Effect w { w with
        consumer := { w.consumer with state := .restoringConsumer .restored }
        channels := w.channels.set w.consumer.channel { broker with consuming := true }
      }
  | failed : w.consumer.state = .restoringConsumer .restoring →
      Effect w { w with consumer := { w.consumer with state := .recreatingChannel .closing } }

variable {w w' : World} {succeeded : Bool}

theorem pollOk_effect {stage : OkStage} (hstate : w.consumer.state = .ok stage)
    (hstep : w.pollOk stage = some w') : Effect w w' := by
  unfold pollOk at hstep
  cases stage with
  | entering =>
    rw [Option.some.injEq] at hstep
    rw [← hstep]
    exact .consuming (Or.inl hstate)
  | reporting =>
    rw [Option.some.injEq] at hstep
    rw [← hstep]
    exact .consumingReported hstate
  | waiting =>
    dsimp only at hstep
    split at hstep
    . next hunseen =>
      rw [Option.some.injEq] at hstep
      rw [← hstep]
      exact .connectionLost hstate hunseen
    . split at hstep
      . next hpermit =>
        rw [Option.some.injEq] at hstep
        rw [← hstep]
        exact .cancelled hstate hpermit
      . contradiction

theorem pollWaitingForConnection_effect {stage : WaitingStage}
    (hstate : w.consumer.state = .waitingForConnection stage)
    (hstep : w.pollWaitingForConnection stage = some w') : Effect w w' := by
  unfold pollWaitingForConnection at hstep
  cases stage with
  | reporting =>
    rw [Option.some.injEq] at hstep
    rw [← hstep]
    exact .lostReported hstate
  | checking =>
    rw [Option.some.injEq] at hstep
    rw [← hstep]
    exact .connection hstate
  | awaiting =>
    dsimp only at hstep
    split at hstep
    . next hunseen =>
      rw [Option.some.injEq] at hstep
      rw [← hstep]
      exact .connectionChanged hunseen
    . contradiction

theorem pollRecreatingChannel_effect {stage : RecreatingStage}
    (hstate : w.consumer.state = .recreatingChannel stage)
    (hstep : w.pollRecreatingChannel stage succeeded = some w') : Effect w w' := by
  unfold pollRecreatingChannel at hstep
  cases stage with
  | closing =>
    rw [Option.some.injEq] at hstep
    rw [← hstep]
    exact .close hstate
  | opening =>
    dsimp only at hstep
    split at hstep
    . next hunseen =>
      rw [Option.some.injEq] at hstep
      rw [← hstep]
      exact .connectionChanged hunseen
    . split at hstep
      . contradiction
      . next connection hconnection =>
        split at hstep
        . rw [Option.some.injEq] at hstep
          rw [← hstep]
          exact .openChannel hstate hconnection
        . rw [Option.some.injEq] at hstep
          rw [← hstep]
          exact .retry hstate
  | registering =>
    dsimp only at hstep
    split at hstep
    . next hunseen =>
      rw [Option.some.injEq] at hstep
      rw [← hstep]
      exact .connectionChanged hunseen
    . split at hstep
      . rw [Option.some.injEq] at hstep
        rw [← hstep]
        exact .registered hstate
      . rw [Option.some.injEq] at hstep
        rw [← hstep]
        exact .retry hstate

theorem pollRestoringConsumer_effect {stage : RestoringStage}
    (hstate : w.consumer.state = .restoringConsumer stage)
    (hstep : w.pollRestoringConsumer stage succeeded = some w') : Effect w w' := by
  unfold pollRestoringConsumer at hstep
  cases stage with
  | reporting =>
    rw [Option.some.injEq] at hstep
    rw [← hstep]
    exact .cancelledReported hstate
  | restoring =>
    dsimp only at hstep
    split at hstep
    . next hunseen =>
      rw [Option.some.injEq] at hstep
      rw [← hstep]
      exact .connectionChanged hunseen
    . next hunseen =>
      split at hstep
      . split at hstep
        . contradiction
        . next broker hbroker =>
          split at hstep
          . contradiction
          . next hopen =>
            rw [Option.some.injEq] at hstep
            rw [← hstep]
            exact .restored hstate (by simpa using hunseen) hbroker (by simpa using hopen)
      . rw [Option.some.injEq] at hstep
        rw [← hstep]
        exact .failed hstate
  | restored =>
    dsimp only at hstep
    split at hstep
    . next hunseen =>
      rw [Option.some.injEq] at hstep
      rw [← hstep]
      exact .connectionChanged hunseen
    . rw [Option.some.injEq] at hstep
      rw [← hstep]
      exact .consuming (Or.inr hstate)

theorem poll_effect (hstep : w.poll succeeded = some w') : Effect w w' := by
  unfold poll at hstep
  split at hstep
  . next hstate => exact pollOk_effect hstate hstep
  . next hstate => exact pollWaitingForConnection_effect hstate hstep
  . next hstate => exact pollRecreatingChannel_effect hstate hstep
  . next hstate => exact pollRestoringConsumer_effect hstate hstep

end TomNotifier.Rabbitmq.Consumer.World
