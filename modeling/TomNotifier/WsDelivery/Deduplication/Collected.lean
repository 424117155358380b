import TomNotifier.System.Run
import TomNotifier.WsDelivery.Deduplication.Impl

/-!
This module contains what the garbage collector changes for the callers of `deduplicate`: nothing, as
long as no update is as old as what it removes.
-/

namespace TomNotifier.WsDelivery

open LatestWins

/-- The map with the clock and with what a pass of the garbage collector has read from it. -/
structure Deduplicator where
  lastUpdates : LastUpdates
  now : OffsetDateTime
  collector : Option OffsetDateTime
  -- history: the calls with their answers
  answers : List (NotificationStatusUpdate × Except Error Unit)

inductive DeduplicatorLabel where
  | deduplicate (now : OffsetDateTime) (notification : NotificationStatusUpdate)
  | readClock (now : OffsetDateTime)
  | collect

namespace Deduplicator

def init (now : OffsetDateTime) : Deduplicator where
  lastUpdates := NotificationsDeduplicationService.new
  now
  collector := none
  answers := []

def step (config : NotificationsDeduplicationServiceConfig) (s : Deduplicator)
    : DeduplicatorLabel → Option Deduplicator
  | .deduplicate now notification =>
    if s.now ≤ now then
      let (answer, lastUpdates) :=
        NotificationsDeduplicationService.deduplicate notification s.lastUpdates
      some { s with lastUpdates, now, answers := s.answers ++ [(notification, answer)] }
    else
      none
  | .readClock now =>
    if s.now ≤ now ∧ s.collector = none then
      some { s with now, collector := some now }
    else
      none
  | .collect =>
    match s.collector with
    | none => none
    | some now =>
      some { s with
        lastUpdates := NotificationsDeduplicationService.collect config now s.lastUpdates
        collector := none }

def presented (labels : List DeduplicatorLabel) : List NotificationStatusUpdate :=
  labels.filterMap fun
    | .deduplicate _ notification => some notification
    | _ => none

/-- What the calls answer over a map that nothing is removed from. -/
def answersOf (lastUpdates : LastUpdates)
    : List NotificationStatusUpdate → List (NotificationStatusUpdate × Except Error Unit)
  | [] => []
  | notification :: notifications =>
    let (answer, lastUpdates) :=
      NotificationsDeduplicationService.deduplicate notification lastUpdates
    (notification, answer) :: answersOf lastUpdates notifications

def acceptedOf (answers : List (NotificationStatusUpdate × Except Error Unit))
    : List NotificationStatusUpdate :=
  answers.filterMap fun
    | (notification, .ok ()) => some notification
    | (_, .error _) => none

variable {config : NotificationsDeduplicationServiceConfig} {s s' : Deduplicator}
variable {labels : List DeduplicatorLabel} {lastUpdates : LastUpdates} {start : OffsetDateTime}
variable {notification : NotificationStatusUpdate} {notifications : List NotificationStatusUpdate}

theorem answersOf_cons
    : answersOf lastUpdates (notification :: notifications)
        =
      (notification, (NotificationsDeduplicationService.deduplicate notification lastUpdates).1)
        :: answersOf (present lastUpdates notification.id notification.timestamp) notifications := by
  rw [answersOf, NotificationsDeduplicationService.deduplicate_eq]

theorem answersOf_append_singleton
    : answersOf lastUpdates (notifications ++ [notification])
        =
      answersOf lastUpdates notifications ++ [(notification,
        (NotificationsDeduplicationService.deduplicate notification
          (presentAll (·.id) (·.timestamp) lastUpdates notifications)).1)] := by
  induction notifications generalizing lastUpdates with
  | nil => rfl
  | cons first notifications ih =>
    rw [List.cons_append, answersOf_cons, answersOf_cons, ih]
    rfl

theorem acceptedOf_answersOf
    : acceptedOf (answersOf lastUpdates notifications)
        =
      accepted (·.id) (·.timestamp) lastUpdates notifications := by
  induction notifications generalizing lastUpdates with
  | nil => rfl
  | cons first notifications ih =>
    rw [answersOf_cons, accepted, ← ih, NotificationsDeduplicationService.deduplicate_eq]
    by_cases h : Accepts lastUpdates first.id first.timestamp
    . simp [acceptedOf, h]
    . simp [acceptedOf, h]

theorem presented_append {labels' : List DeduplicatorLabel}
    : presented (labels ++ labels') = presented labels ++ presented labels' := by
  exact List.filterMap_append

/-- What the garbage collector has removed is older than whatever may still be presented. -/
structure Refines (config : NotificationsDeduplicationServiceConfig)
    (notifications : List NotificationStatusUpdate) (s : Deduplicator) : Prop where
  pruned : Pruned (s.now - (config.notificationLifespan : Int)) s.lastUpdates
    (presentAll (·.id) (·.timestamp) NotificationsDeduplicationService.new notifications)
  collector : ∀ now ∈ s.collector, now ≤ s.now
  answers : s.answers = answersOf NotificationsDeduplicationService.new notifications

theorem refines_init : (init start).Refines config [] where
  pruned := .refl
  collector := by simp [init]
  answers := rfl

theorem Refines.deduplicate (h : s.Refines config notifications) {now : OffsetDateTime}
    (hnow : s.now ≤ now) (hfresh : now - (config.notificationLifespan : Int) < notification.timestamp)
    : Refines config (notifications ++ [notification]) { s with
        lastUpdates :=
          (NotificationsDeduplicationService.deduplicate notification s.lastUpdates).2
        now
        answers := s.answers ++ [(notification,
          (NotificationsDeduplicationService.deduplicate notification s.lastUpdates).1)] } := by
  have hpruned := h.pruned.mono (Int.sub_le_sub_right hnow (config.notificationLifespan : Int))
  have hpresent : presentAll (·.id) (·.timestamp) NotificationsDeduplicationService.new
      (notifications ++ [notification])
        = present (presentAll (·.id) (·.timestamp) NotificationsDeduplicationService.new notifications)
          notification.id notification.timestamp := by
    simp [presentAll]
  constructor
  . rw [NotificationsDeduplicationService.deduplicate_eq, hpresent]
    exact hpruned.present hfresh
  . intro now' hnow'
    exact Int.le_trans (h.collector now' hnow') hnow
  . rw [answersOf_append_singleton, ← h.answers, NotificationsDeduplicationService.deduplicate_eq,
      NotificationsDeduplicationService.deduplicate_eq, if_congr (hpruned.accepts_iff hfresh) rfl rfl]

theorem Refines.step (h : s.Refines config (presented labels)) {label : DeduplicatorLabel}
    (hfresh : ∀ now notification, label = .deduplicate now notification →
      now - (config.notificationLifespan : Int) < notification.timestamp)
    (hstep : s.step config label = some s') : s'.Refines config (presented (labels ++ [label])) := by
  rw [presented_append]
  cases label with
  | deduplicate now notification =>
    simp only [Deduplicator.step, Option.ite_none_right_eq_some, Option.some.injEq] at hstep
    rw [← hstep.2]
    exact h.deduplicate hstep.1 (hfresh now notification rfl)
  | readClock now =>
    simp only [Deduplicator.step, Option.ite_none_right_eq_some, Option.some.injEq] at hstep
    rw [show presented [.readClock now] = [] from rfl, List.append_nil, ← hstep.2]
    refine ⟨h.pruned.mono (Int.sub_le_sub_right hstep.1.1 _), ?_, h.answers⟩
    rintro _ ⟨⟩
    exact Int.le_refl now
  | collect =>
    simp only [Deduplicator.step] at hstep
    split at hstep
    . simp at hstep
    . next now hcollector =>
      rw [show presented [.collect] = [] from rfl, List.append_nil, ← Option.some.inj hstep]
      refine ⟨?_, by simp, h.answers⟩
      -- The pass has read the clock some time ago, so its cutoff is the smaller one.
      exact h.pruned.filter (Int.sub_le_sub_right (h.collector now hcollector) _)

/--
As long as no update is presented later than its lifespan after its own timestamp, the garbage
collector changes no answer, and so the accepted updates of a notification get newer and newer.
-/
theorem collected_answers (config : NotificationsDeduplicationServiceConfig) (start : OffsetDateTime)
    (labels : List DeduplicatorLabel)
    (hrun : System.run (step config) (init start) labels = some s)
    (hfresh : ∀ now notification, .deduplicate now notification ∈ labels →
      now - (config.notificationLifespan : Int) < notification.timestamp)
    : s.answers = answersOf NotificationsDeduplicationService.new (presented labels)
        ∧
      (acceptedOf s.answers).Pairwise
        (fun notification notification' => notification.id = notification'.id →
          notification.timestamp < notification'.timestamp)
        ∧
      (acceptedOf s.answers).Nodup := by
  have h : s.Refines config (presented labels) := by
    revert hfresh
    apply System.run_induction (P := fun labels s => (∀ now notification,
      DeduplicatorLabel.deduplicate now notification ∈ labels →
        now - (config.notificationLifespan : Int) < notification.timestamp) →
          s.Refines config (presented labels)) _ _ hrun
    . intro _
      exact refines_init
    . intro labels label t t' _ ih hstep hfresh
      apply (ih (fun now notification hmem => hfresh now notification (List.mem_append_left _ hmem))).step
        _ hstep
      intro now notification hlabel
      exact hfresh now notification (List.mem_append_right _ (hlabel ▸ List.mem_cons_self))
  rw [h.answers, acceptedOf_answersOf]
  refine ⟨rfl, pairwise_accepted, pairwise_accepted.imp ?_⟩
  rintro x y hlt rfl
  exact lt_irrefl _ (hlt rfl)

def sampleConfig : NotificationsDeduplicationServiceConfig where
  notificationLifespan := 10

-- The entry of the first update is removed before the second one comes.
def sampleLabels : List DeduplicatorLabel :=
  [.deduplicate 0 ⟨⟨7⟩, 0⟩, .readClock 11, .collect, .deduplicate 12 ⟨⟨7⟩, 5⟩, .deduplicate 13 ⟨⟨7⟩, 5⟩]

def sampleDeduplicator : Deduplicator :=
  (System.run (step sampleConfig) (init 0) sampleLabels).getD (init 0)

theorem collected_answers_after_removal
    : sampleDeduplicator.answers
          = answersOf NotificationsDeduplicationService.new
            [⟨⟨7⟩, 0⟩, ⟨⟨7⟩, 5⟩, ⟨⟨7⟩, 5⟩]
        ∧ acceptedOf sampleDeduplicator.answers = [⟨⟨7⟩, 0⟩, ⟨⟨7⟩, 5⟩] := by
  have hrun : System.run (step sampleConfig) (init 0) sampleLabels = some sampleDeduplicator := by
    rfl
  refine ⟨(collected_answers sampleConfig 0 sampleLabels hrun ?_).1, rfl⟩
  intro now notification hmem
  simp only [sampleLabels, List.mem_cons, DeduplicatorLabel.deduplicate.injEq, reduceCtorEq,
    List.not_mem_nil, or_false, false_or] at hmem
  rcases hmem with ⟨rfl, rfl⟩ | ⟨rfl, rfl⟩ | ⟨rfl, rfl⟩ <;> decide

end Deduplicator

end TomNotifier.WsDelivery
