import TomNotifier.Rabbitmq.Consumer.Status

/-!
This module contains how far the consumer's state machine is from consuming, when its calls succeed.
-/

namespace TomNotifier.Rabbitmq.Consumer

def State.distance : State → Nat
  | .ok .waiting => 0
  | .ok .reporting => 1
  | .ok .entering => 2
  | .restoringConsumer .restored => 2
  | .restoringConsumer .restoring => 3
  | .restoringConsumer .reporting => 4
  | .recreatingChannel .registering => 4
  | .recreatingChannel .opening => 5
  | .recreatingChannel .closing => 6
  | .waitingForConnection .checking => 7
  | .waitingForConnection .reporting => 8
  -- only left when there is a connection that has not been seen
  | .waitingForConnection .awaiting => 0

namespace World

def cancelled (w : World) : Bool := w.permits[w.consumer.consumerCancelled]? = some true

/-- The state machine works with a channel that the broker has closed. -/
def stale (w : World) : Bool :=
  w.consumer.state.usesChannel && w.channels[w.consumer.channel]?.any (·.closed)

def measure (w : World) : Nat :=
  100 * w.consumer.connectionRx.unseen.toNat + 40 * w.cancelled.toNat + 10 * w.stale.toNat
    + w.consumer.state.distance

/-- A call succeeds, unless it is one the broker cannot accept. -/
def Cooperates (w : World) : Label → Prop
  | .poll true => True
  | .poll false => w.consumer.state = .restoringConsumer .restoring
    ∧ w.channels[w.consumer.channel]?.any (·.closed) = true
  | _ => False

variable {w w' : World}

theorem lowers_connectionChanged {stage : WaitingStage} {statuses : List RabbitmqConsumerStatus}
    (hunseen : w.consumer.connectionRx.unseen = true)
    : ({ w with consumer := w.consumer.connectionChanged stage, statuses }).measure < w.measure := by
  have hdistance : (State.waitingForConnection stage).distance ≤ 8 := by
    cases stage <;> decide
  have hmeasure : ({ w with consumer := w.consumer.connectionChanged stage, statuses }).measure
      = 100 * 0 + 40 * w.cancelled.toNat + 10 * 0 + (State.waitingForConnection stage).distance := by
    rfl
  have hmeasure' : w.measure = 100 * 1 + 40 * w.cancelled.toNat + 10 * w.stale.toNat
      + w.consumer.state.distance := by
    rw [measure, hunseen, Bool.toNat_true]
  omega

theorem stale_le (hchannels : w'.channels = w.channels)
    (hchannel : w'.consumer.channel = w.consumer.channel)
    (huses : w.consumer.state.usesChannel = true ∨ w'.consumer.state.usesChannel = false)
    : w'.stale.toNat ≤ w.stale.toNat := by
  unfold stale
  rw [hchannels, hchannel]
  rcases huses with huses | huses
  . rw [huses, Bool.true_and]
    cases w'.consumer.state.usesChannel with
    | true => exact Nat.le_refl _
    | false => exact Nat.zero_le _
  . rw [huses]
    exact Nat.zero_le _

/-- A step to a nearer state, without a change of the connection, a cancel or a closed channel. -/
theorem lowers_of_distance {state : State} (state' : State) (hstate : w.consumer.state = state)
    (hstate' : w'.consumer.state = state') (hdistance : state'.distance < state.distance)
    (hunseen : w'.consumer.connectionRx.unseen.toNat ≤ w.consumer.connectionRx.unseen.toNat)
    (hcancelled : w'.cancelled.toNat ≤ w.cancelled.toNat) (hstale : w'.stale.toNat ≤ w.stale.toNat)
    : w'.measure < w.measure := by
  unfold measure
  rw [hstate, hstate']
  omega

theorem lowers_pollOk {stage : OkStage} (hstate : w.consumer.state = .ok stage)
    (hstep : w.pollOk stage = some w') : w'.measure < w.measure := by
  have huses : w.consumer.state.usesChannel = true := by
    rw [hstate]
    rfl
  cases stage with
  | entering =>
    rw [← Option.some.inj hstep]
    exact lowers_of_distance (.ok .reporting) hstate rfl (by decide) (Nat.le_refl _) (Nat.le_refl _)
      (stale_le rfl rfl (.inl huses))
  | reporting =>
    rw [← Option.some.inj hstep]
    exact lowers_of_distance (.ok .waiting) hstate rfl (by decide) (Nat.le_refl _) (Nat.le_refl _)
      (stale_le rfl rfl (.inl huses))
  | waiting =>
    simp only [pollOk] at hstep
    split at hstep
    . next hunseen =>
      rw [← Option.some.inj hstep]
      exact lowers_connectionChanged hunseen
    . split at hstep
      . next hpermit =>
        have hcancelled : w.cancelled = true := decide_eq_true hpermit
        have hcancelled' : w'.cancelled = false := by
          rw [← Option.some.inj hstep]
          have hlt := (List.getElem?_eq_some_iff.mp hpermit).1
          exact decide_eq_false (by simp [execute, hlt])
        have hstale : w'.stale.toNat ≤ w.stale.toNat := by
          rw [← Option.some.inj hstep]
          exact stale_le rfl rfl (.inl huses)
        have hdistance : w'.consumer.state.distance = 4 := by
          rw [← Option.some.inj hstep]
          rfl
        have hunseen : w'.consumer.connectionRx = w.consumer.connectionRx := by
          rw [← Option.some.inj hstep]
          rfl
        rw [measure, measure, hcancelled, hcancelled', hdistance, hunseen, Bool.toNat_true,
          Bool.toNat_false]
        omega
      . contradiction

theorem lowers_pollWaitingForConnection {stage : WaitingStage}
    (hstate : w.consumer.state = .waitingForConnection stage)
    (hstep : w.pollWaitingForConnection stage = some w') : w'.measure < w.measure := by
  cases stage with
  | reporting =>
    rw [← Option.some.inj hstep]
    exact lowers_of_distance (.waitingForConnection .checking) hstate rfl (by decide) (Nat.le_refl _)
      (Nat.le_refl _) (stale_le rfl rfl (.inr rfl))
  | checking =>
    rw [← Option.some.inj hstep]
    cases w.consumer.connectionRx.value with
    | none =>
      exact lowers_of_distance (.waitingForConnection .awaiting) hstate rfl (by decide) (Nat.zero_le _)
        (Nat.le_refl _) (stale_le rfl rfl (.inr rfl))
    | some connection =>
      exact lowers_of_distance (.recreatingChannel .closing) hstate rfl (by decide) (Nat.zero_le _)
        (Nat.le_refl _) (stale_le rfl rfl (.inr rfl))
  | awaiting =>
    simp only [pollWaitingForConnection, Option.ite_none_right_eq_some, Option.some.injEq] at hstep
    rw [← hstep.2]
    exact lowers_connectionChanged hstep.1

theorem lowers_pollRecreatingChannel {stage : RecreatingStage}
    (hstate : w.consumer.state = .recreatingChannel stage)
    (hstep : w.pollRecreatingChannel stage true = some w') : w'.measure < w.measure := by
  cases stage with
  | closing =>
    rw [← Option.some.inj hstep]
    exact lowers_of_distance (.recreatingChannel .opening) hstate rfl (by decide) (Nat.le_refl _)
      (Nat.le_refl _) (Nat.zero_le _)
  | opening =>
    simp only [pollRecreatingChannel] at hstep
    split at hstep
    . next hunseen =>
      rw [← Option.some.inj hstep]
      exact lowers_connectionChanged hunseen
    . split at hstep
      . contradiction
      . rw [← Option.some.inj hstep]
        refine lowers_of_distance (.recreatingChannel .registering) hstate rfl (by decide)
          (Nat.le_refl _) ?_ ?_
        . simp [cancelled]
        . simp [stale]
  | registering =>
    simp only [pollRecreatingChannel] at hstep
    split at hstep
    . next hunseen =>
      rw [← Option.some.inj hstep]
      exact lowers_connectionChanged hunseen
    . rw [← Option.some.inj hstep]
      refine lowers_of_distance (.restoringConsumer .restoring) hstate rfl (by decide) (Nat.le_refl _)
        (Nat.le_refl _) ?_
      cases hchannel : w.channels[w.consumer.channel]? with
      | none => simp [stale, List.getElem?_modify_eq, hchannel]
      | some broker => simp [stale, List.getElem?_modify_eq, hchannel, hstate, State.usesChannel]

theorem lowers_pollRestoringConsumer {stage : RestoringStage} {succeeded : Bool}
    (hstate : w.consumer.state = .restoringConsumer stage)
    (hcooperates : w.Cooperates (.poll succeeded))
    (hstep : w.pollRestoringConsumer stage succeeded = some w') : w'.measure < w.measure := by
  have huses : w.consumer.state.usesChannel = true := by
    rw [hstate]
    rfl
  cases stage with
  | reporting =>
    rw [← Option.some.inj hstep]
    exact lowers_of_distance (.restoringConsumer .restoring) hstate rfl (by decide) (Nat.le_refl _)
      (Nat.le_refl _) (stale_le rfl rfl (.inl huses))
  | restoring =>
    simp only [pollRestoringConsumer] at hstep
    split at hstep
    . next hunseen =>
      rw [← Option.some.inj hstep]
      exact lowers_connectionChanged hunseen
    . cases succeeded with
      | true =>
        rw [if_pos rfl] at hstep
        split at hstep
        . contradiction
        . next broker hbroker =>
          split at hstep
          . contradiction
          . next hopen =>
            rw [← Option.some.inj hstep]
            have hlt := (List.getElem?_eq_some_iff.mp hbroker).1
            refine lowers_of_distance (.restoringConsumer .restored) hstate rfl (by decide)
              (Nat.le_refl _) (Nat.le_refl _) ?_
            simp [stale, hlt, hopen]
      | false =>
        rw [if_neg Bool.false_ne_true, Option.some.injEq] at hstep
        rw [← hstep]
        have hstale : w.stale = true := by
          rw [stale, huses, hcooperates.2]
          rfl
        have hmeasure : ({ w with
            consumer := { w.consumer with state := .recreatingChannel .closing } }).measure
              = 100 * w.consumer.connectionRx.unseen.toNat + 40 * w.cancelled.toNat + 10 * 0 + 6 := by
          rfl
        rw [hmeasure, measure, hstale, hstate, Bool.toNat_true]
        simp only [State.distance]
        omega
  | restored =>
    simp only [pollRestoringConsumer] at hstep
    split at hstep
    . next hunseen =>
      rw [← Option.some.inj hstep]
      exact lowers_connectionChanged hunseen
    . rw [← Option.some.inj hstep]
      exact lowers_of_distance (.ok .reporting) hstate rfl (by decide) (Nat.le_refl _) (Nat.le_refl _)
        (stale_le rfl rfl (.inl huses))

theorem lowers_poll {succeeded : Bool} (hcooperates : w.Cooperates (.poll succeeded))
    (hstep : w.poll succeeded = some w') : w'.measure < w.measure := by
  have hsucceeded : w.consumer.state ≠ .restoringConsumer .restoring → succeeded = true := by
    intro hne
    cases succeeded with
    | true => rfl
    | false => exact absurd hcooperates.1 hne
  unfold poll at hstep
  split at hstep
  . next hstate => exact lowers_pollOk hstate hstep
  . next hstate => exact lowers_pollWaitingForConnection hstate hstep
  . next hstate =>
    rw [hsucceeded (by simp [hstate])] at hstep
    exact lowers_pollRecreatingChannel hstate hstep
  . next hstate => exact lowers_pollRestoringConsumer hstate hcooperates hstep

end World

end TomNotifier.Rabbitmq.Consumer
