import TomNotifier.Rabbitmq.Producer.Impl

/-!
This module contains what the producer's state machine does from one await to the next.
-/

namespace TomNotifier.Rabbitmq.Producer

/-- The confirm that the state machine takes from its queue when it is polled. -/
def StateMachine.polledConfirm (p : StateMachine) : Option PublisherConfirm :=
  match p.state with
  | .ok _ _ _ =>
    if p.connectionRx.unseen || p.flowRx.unseen || p.blockedRx.unseen then
      none
    else
      p.confirms.head?
  | .processingPendingConfirmations false => p.confirms.head?
  | _ => none

/-- What a poll does when the messages and channels stay where they are. -/
inductive StateMachine.Moves (p : StateMachine) : StateMachine → Prop where
  | connectionChanged : p.connectionRx.unseen = true → Moves p p.connectionChanged
  | flowChanged {flow blocked : Bool} {messageCount : Nat} :
      p.state = .ok flow blocked messageCount →
      Moves p { p with
        flowRx := p.flowRx.markSeen
        state := .ok p.flowRx.value blocked messageCount
      }
  | blockedChanged {flow blocked : Bool} {messageCount : Nat} :
      p.state = .ok flow blocked messageCount →
      Moves p { p with
        blockedRx := p.blockedRx.markSeen
        state := .ok flow p.blockedRx.value messageCount
      }
  | connection : p.state = .waitingForConnection false →
      Moves p { p with
        connection := p.connectionRx.value
        connectionRx := p.connectionRx.markSeen
        state :=
          if p.connectionRx.value.isSome then
            .processingPendingConfirmations false
          else
            .waitingForConnection true
      }
  | processed : p.state = .processingPendingConfirmations false → p.confirms = [] →
      Moves p { p with state := .processingPendingConfirmations true }
  | scheduled : p.state = .processingPendingConfirmations true → p.unconfirmedMessages = [] →
      Moves p { p with state := .recreatingChannel .closing }
  | retry {stage : Recreating} : p.state = .recreatingChannel stage → Moves p p
  | registered : p.state = .recreatingChannel .registering →
      Moves p { p with state := .restoringProducer }
  | restored : p.state = .restoringProducer → Moves p p.enterOk
  | failed : p.state = .restoringProducer →
      Moves p { p with state := .recreatingChannel .closing }

structure StateMachine.SameQueues (p p' : StateMachine) : Prop where
  channel : p'.channel = p.channel
  unconfirmedMessages : p'.unconfirmedMessages = p.unconfirmedMessages
  messages : p'.messages = p.messages
  confirms : p'.confirms = p.confirms

theorem StateMachine.Moves.sameQueues {p p' : StateMachine} (h : p.Moves p') : p.SameQueues p' := by
  cases h <;> exact ⟨rfl, rfl, rfl, rfl⟩

namespace World

/-- What a poll does to the producer and its channels, with the confirm it has processed. -/
inductive Effect (w : World) : Option PublisherConfirm → World → Prop where
  | move {p : StateMachine} : w.producer.Moves p → Effect w none { w with producer := p }
  | confirm {c : PublisherConfirm} {confirms : List PublisherConfirm} :
      w.producer.confirms = c :: confirms →
      (∃ flow blocked messageCount, w.producer.state = .ok flow blocked messageCount)
        ∨ w.producer.state = .processingPendingConfirmations false →
      Effect w (some c) { w with producer := { w.producer with confirms }.processConfirm c }
  | publish {messageCount : Nat} {message : BoxedMessage} {messages : List BoxedMessage}
      {result : CallResult} :
      w.producer.state = .ok true false messageCount → w.producer.confirms = [] →
      w.producer.messages = message :: messages →
      Effect w none (w.publish true false messageCount message messages result)
  | schedule {tag : Nat} {message : BoxedMessage} {unconfirmedMessages : List (Nat × BoxedMessage)} :
      w.producer.state = .processingPendingConfirmations true →
      w.producer.unconfirmedMessages = (tag, message) :: unconfirmedMessages →
      Effect w none { w with
        producer := { w.producer with
          unconfirmedMessages
          messages := w.producer.messages ++ [message]
        }
      }
  | close : w.producer.state = .recreatingChannel .closing →
      Effect w none { w with
        producer := { w.producer with state := .recreatingChannel .opening }
        channels := w.channels.modify w.producer.channel BrokerChannel.close
      }
  | openChannel : w.producer.state = .recreatingChannel .opening →
      Effect w none { w with
        producer := { w.producer with
          channel := w.channels.length
          flowRx := Watch.send true
          state := .recreatingChannel .registering
        }
        channels := w.channels ++ [BrokerChannel.new]
      }

variable {w w' : World} {flow blocked awaiting scheduling : Bool} {messageCount : Nat}
variable {stage : Recreating} {result : CallResult}

theorem pollOk_effect (hstate : w.producer.state = .ok flow blocked messageCount)
    (hstep : w.pollOk flow blocked messageCount result = some w')
    : Effect w w.producer.polledConfirm w' := by
  unfold pollOk at hstep
  dsimp only at hstep
  unfold StateMachine.polledConfirm
  simp only [hstate]
  split at hstep
  . next hconnection =>
    rw [Option.some.injEq] at hstep
    simp only [hconnection, Bool.true_or, if_true, ← hstep]
    exact .move (.connectionChanged hconnection)
  . next hconnection =>
    split at hstep
    . next hflow =>
      rw [Option.some.injEq] at hstep
      simp only [hflow, Bool.or_true, Bool.true_or, if_true, ← hstep]
      exact .move (.flowChanged hstate)
    . next hflow =>
      split at hstep
      . next hblocked =>
        rw [Option.some.injEq] at hstep
        simp only [hblocked, Bool.or_true, if_true, ← hstep]
        exact .move (.blockedChanged hstate)
      . next hblocked =>
        simp only [hconnection, hflow, hblocked, Bool.or_self, Bool.false_eq_true, if_false]
        split at hstep
        . next c confirms hconfirms =>
          rw [Option.some.injEq] at hstep
          rw [← hstep, hconfirms, List.head?_cons]
          exact .confirm hconfirms (Or.inl ⟨flow, blocked, messageCount, hstate⟩)
        . next hconfirms =>
          rw [hconfirms, List.head?_nil]
          split at hstep
          . contradiction
          . next message messages hmessages =>
            split at hstep
            . next hguard =>
              rw [Bool.and_eq_true, Bool.not_eq_true'] at hguard
              rw [Option.some.injEq] at hstep
              rw [← hstep]
              rw [hguard.1, hguard.2] at hstate ⊢
              exact .publish hstate hconfirms hmessages
            . contradiction

theorem pollWaitingForConnection_effect
    (hstate : w.producer.state = .waitingForConnection awaiting)
    (hstep : w.pollWaitingForConnection awaiting = some w')
    : Effect w w.producer.polledConfirm w' := by
  unfold StateMachine.polledConfirm
  simp only [hstate]
  unfold pollWaitingForConnection at hstep
  cases awaiting with
  | true =>
    dsimp only at hstep
    split at hstep
    . next hconnection =>
      rw [Option.some.injEq] at hstep
      rw [← hstep]
      exact .move (.connectionChanged hconnection)
    . contradiction
  | false =>
    rw [Option.some.injEq] at hstep
    rw [← hstep]
    exact .move (.connection hstate)

theorem pollProcessingPendingConfirmations_effect
    (hstate : w.producer.state = .processingPendingConfirmations scheduling)
    : Effect w w.producer.polledConfirm (w.pollProcessingPendingConfirmations scheduling) := by
  unfold pollProcessingPendingConfirmations
  cases scheduling with
  | false =>
    have hpolled : w.producer.polledConfirm = w.producer.confirms.head? := by
      simp only [StateMachine.polledConfirm, hstate]
    dsimp only
    split
    . next c confirms hconfirms =>
      rw [hconfirms, List.head?_cons] at hpolled
      rw [hpolled]
      exact .confirm hconfirms (Or.inr hstate)
    . next hconfirms =>
      rw [hconfirms, List.head?_nil] at hpolled
      rw [hpolled]
      exact .move (.processed hstate hconfirms)
  | true =>
    have hpolled : w.producer.polledConfirm = none := by
      simp only [StateMachine.polledConfirm, hstate]
    rw [hpolled]
    dsimp only
    split
    . next hunconfirmed => exact .schedule hstate hunconfirmed
    . next hunconfirmed => exact .move (.scheduled hstate hunconfirmed)

theorem pollRecreatingChannel_effect (hstate : w.producer.state = .recreatingChannel stage)
    (hstep : w.pollRecreatingChannel stage result = some w')
    : Effect w w.producer.polledConfirm w' := by
  unfold StateMachine.polledConfirm
  simp only [hstate]
  unfold pollRecreatingChannel at hstep
  cases stage with
  | closing =>
    rw [Option.some.injEq] at hstep
    rw [← hstep]
    exact .close hstate
  | opening =>
    dsimp only at hstep
    split at hstep
    . next hconnection =>
      rw [Option.some.injEq] at hstep
      rw [← hstep]
      exact .move (.connectionChanged hconnection)
    . split at hstep
      . contradiction
      . rw [Option.some.injEq] at hstep
        rw [← hstep]
        exact .openChannel hstate
      . rw [Option.some.injEq] at hstep
        rw [← hstep]
        exact .move (.retry hstate)
  | registering =>
    dsimp only at hstep
    split at hstep
    . next hconnection =>
      rw [Option.some.injEq] at hstep
      rw [← hstep]
      exact .move (.connectionChanged hconnection)
    . cases result with
      | ok =>
        rw [Option.some.injEq] at hstep
        rw [← hstep]
        exact .move (.registered hstate)
      | err received =>
        rw [Option.some.injEq] at hstep
        rw [← hstep]
        exact .move (.retry hstate)

theorem pollRestoringProducer_effect (hstate : w.producer.state = .restoringProducer)
    : Effect w w.producer.polledConfirm (w.pollRestoringProducer result) := by
  unfold StateMachine.polledConfirm pollRestoringProducer
  simp only [hstate]
  split
  . next hconnection => exact .move (.connectionChanged hconnection)
  . cases result with
    | ok => exact .move (.restored hstate)
    | err received => exact .move (.failed hstate)

theorem poll_effect (hstep : w.poll result = some w') : Effect w w.producer.polledConfirm w' := by
  unfold poll at hstep
  split at hstep
  . next hstate => exact pollOk_effect hstate hstep
  . next hstate => exact pollWaitingForConnection_effect hstate hstep
  . next hstate =>
    rw [Option.some.injEq] at hstep
    rw [← hstep]
    exact pollProcessingPendingConfirmations_effect hstate
  . next hstate => exact pollRecreatingChannel_effect hstate hstep
  . next hstate =>
    rw [Option.some.injEq] at hstep
    rw [← hstep]
    exact pollRestoringProducer_effect hstate

end World

end TomNotifier.Rabbitmq.Producer
