import TomNotifier.Core.Service.ConfirmationsQueue
import TomNotifier.Rabbitmq.Consumer.Drained

/-!
This module contains what the confirmations consumer comes to when nothing fails any more: the
confirmations that wait with the broker get into the collection.
-/

namespace TomNotifier.Core.ConfirmationsQueue

open Rabbitmq.Consumer (Queue QueueLabel Deliveries countP_not_contains_lt)
open ConfirmationsConsumer

/-- Nothing fails but what is sent on closed channels, and nothing else writes to the collection. -/
def Cooperates (s : ConfirmationsQueue) : Label → Prop
  | .write _ => False
  | .execute _ _ lost => lost = none
  | .queue label => s.queue.Cooperates label

/-- No callback that the driver has failed has still to return. -/
def Untroubled (s : ConfirmationsQueue) : Prop :=
  ∀ entry ∈ s.executed, entry.2 = .error ⟨true⟩ →
    ∀ task, s.queue.deliveries.tasks[entry.1]? = some task → task.state ≠ .executing

/-- The tasks that have not executed their callbacks. -/
def unexecuted (s : ConfirmationsQueue) : Nat :=
  (List.range s.queue.deliveries.tasks.length).countP fun k => !(s.executed.map (·.1)).contains k

def measure (s : ConfirmationsQueue) : (Nat ×ₗ Nat) ×ₗ Nat := toLex (s.queue.measure, s.unexecuted)

variable {codec : Codec} {store : Store} {s s' : ConfirmationsQueue} {k : Nat} {now : OffsetDateTime}
variable {label : Label} {labels : List Label}

theorem insertConfirmation_answer_ne {id : ObjectId} {userId : Uuid} {docs : Notifications}
    : returns (answer (NotificationsRepository.insertConfirmation id userId now docs).1)
        ≠ .error ⟨true⟩ := by
  rw [NotificationsRepository.insertConfirmation]
  unfold NotificationsRepository.documentUpdated
  dsimp only
  split
  . simp [answer, returns]
  . simp [answer, returns]

theorem requeue_of_decode_eq_error {content : Bytes} {err : ConsumeError}
    (h : decode codec content = .error err) : err.requeue = false := by
  unfold decode at h
  split at h
  . rw [← Except.error.inj h]
  . split at h
    . rw [← Except.error.inj h]
    . contradiction

/-- A callback that is not failed by the driver does not ask for its message to be requeued. -/
theorem executed_of_execute (hstep : s.execute codec k now none = some s')
    : k < s.queue.deliveries.tasks.length ∧ k ∉ s.executed.map (·.1)
        ∧ s'.queue = s.queue
        ∧ ∃ result, result ≠ .error ⟨true⟩ ∧ s'.executed = s.executed ++ [(k, result)] := by
  unfold execute at hstep
  split at hstep
  . contradiction
  . next task hk =>
    have hlt := (List.getElem?_eq_some_iff.mp hk).1
    split at hstep
    . contradiction
    . next hnew =>
      split at hstep
      . next err hdecode =>
        rw [← Option.some.inj hstep]
        refine ⟨hlt, hnew, rfl, _, ?_, rfl⟩
        simp [returns, requeue_of_decode_eq_error hdecode]
      . rw [← Option.some.inj hstep]
        exact ⟨hlt, hnew, rfl, _, insertConfirmation_answer_ne, rfl⟩

theorem lowers_execute (hstep : s.execute codec k now none = some s') : s'.measure < s.measure := by
  rcases executed_of_execute hstep with ⟨hlt, hnew, hqueue, result, _, hexecuted⟩
  rw [measure, measure, Prod.Lex.toLex_lt_toLex]
  refine Or.inr ⟨by rw [hqueue], ?_⟩
  dsimp only
  rw [unexecuted, unexecuted, hqueue, hexecuted, List.map_append]
  apply countP_not_contains_lt (fun k => k) (List.subset_append_left _ _) (List.mem_range.mpr hlt) hnew
  exact List.mem_append_right _ List.mem_cons_self

theorem lowers_of_step (h : s.queue.Kept) (hcooperates : s.Cooperates label)
    (hstep : s.step codec label = some s') : s'.measure < s.measure := by
  cases label with
  | write => contradiction
  | execute k now lost =>
    rw [Cooperates] at hcooperates
    subst hcooperates
    exact lowers_execute hstep
  | queue label =>
    cases effect_of_step hstep with
    | queue hqueue =>
      rw [measure, measure, Prod.Lex.toLex_lt_toLex]
      exact Or.inl (Queue.lowers_of_step h hcooperates hqueue)

theorem executed_lt (hrun : System.run (step codec) (init store) labels = some s)
    : ∀ entry ∈ s.executed, entry.1 < s.queue.deliveries.tasks.length := by
  intro entry hentry
  rcases processed_of_executed hrun entry hentry with ⟨handed, hhanded, _⟩
  have hlt := (List.getElem?_eq_some_iff.mp hhanded).1
  rwa [Deliveries.handed, List.length_map] at hlt

theorem Untroubled.step (h : s.Untroubled)
    (hlt : ∀ entry ∈ s.executed, entry.1 < s.queue.deliveries.tasks.length)
    (hcooperates : s.Cooperates label) (hstep : s.step codec label = some s') : s'.Untroubled := by
  intro entry hentry hfailed task hk hexecuting
  cases label with
  | write => contradiction
  | execute k now lost =>
    rw [Cooperates] at hcooperates
    subst hcooperates
    rcases executed_of_execute hstep with ⟨_, _, hqueue, result, hresult, hexecuted⟩
    rw [hqueue] at hk
    rw [hexecuted, List.mem_append, List.mem_singleton] at hentry
    rcases hentry with hentry | rfl
    . exact h entry hentry hfailed task hk hexecuting
    . exact hresult hfailed
  | queue label =>
    cases effect_of_step hstep with
    | queue hqueue =>
      apply h entry hentry hfailed task _ hexecuting
      rcases Queue.deliveries_step hqueue with ⟨_, heq⟩ | ⟨_, _, hdeliveries⟩
      . rwa [heq] at hk
      . exact Deliveries.executing_of_step hdeliveries (hlt entry hentry) hk hexecuting

structure Draining (codec : Codec) (store : Store) (s : ConfirmationsQueue) : Prop where
  reached : ∃ labels, System.run (step codec) (init store) labels = some s
  queue : s.queue.Draining
  untroubled : s.Untroubled

theorem progress (codec : Codec) (store : Store)
    : System.Progress (step codec) Cooperates (Draining codec store) measure where
  invariant s label s' h hcooperates hstep := {
    reached := by
      rcases h.reached with ⟨labels, hrun⟩
      refine ⟨labels ++ [label], System.run_append_eq_some.mpr ⟨s, hrun, ?_⟩⟩
      exact System.run_cons_eq_some.mpr ⟨s', hstep, rfl⟩
    queue := by
      cases label with
      | write => contradiction
      | execute k now lost =>
        rw [Cooperates] at hcooperates
        subst hcooperates
        rw [(executed_of_execute hstep).2.2.1]
        exact h.queue
      | queue label =>
        cases effect_of_step hstep with
        | queue hqueue => exact Queue.progress.invariant _ _ _ h.queue hcooperates hqueue
    untroubled := by
      rcases h.reached with ⟨labels, hrun⟩
      exact h.untroubled.step (executed_lt hrun) hcooperates hstep
  }
  lowers _ _ _ h hcooperates hstep := lowers_of_step h.queue.kept hcooperates hstep

theorem execute_ne_none {task : Rabbitmq.Consumer.ProcessingTask}
    (hk : s.queue.deliveries.tasks[k]? = some task) (hnew : k ∉ s.executed.map (·.1))
    : s.execute codec k now none ≠ none := by
  unfold execute
  rw [hk]
  dsimp only
  rw [if_neg hnew]
  split
  . simp
  . simp

theorem step_queue {label : QueueLabel} (hlabel : ∀ k result, label ≠ .client (.returned k result))
    : s.step codec (.queue label) = (s.queue.step label).map fun queue => { s with queue } := by
  cases label with
  | client label =>
    cases label with
    | returned k result => exact absurd rfl (hlabel k result)
    | _ => rfl
  | _ => rfl

theorem step_returned {result : Except Rabbitmq.Consumer.ConsumeError Unit}
    (hexecuted : (k, result) ∈ s.executed)
    : s.step codec (.queue (.client (.returned k result)))
        = (s.queue.step (.client (.returned k result))).map fun queue => { s with queue } := by
  rw [ConfirmationsQueue.step, if_pos hexecuted]

namespace Draining

/-- When there is nothing left to do, no callback is being executed. -/
theorem not_executing (h : s.Draining codec store)
    (hquiescent : System.Quiescent (step codec) Cooperates s) {task : Rabbitmq.Consumer.ProcessingTask}
    (hk : s.queue.deliveries.tasks[k]? = some task) : task.state ≠ .executing := by
  intro hexecuting
  by_cases hexecuted : k ∈ s.executed.map (·.1)
  . rcases List.mem_map.mp hexecuted with ⟨⟨i, result⟩, hentry, rfl⟩
    have hresult : result ≠ .error ⟨true⟩ := by
      intro hfailed
      exact h.untroubled _ hentry hfailed task hk hexecuting
    have hreturned := hquiescent (.queue (.client (.returned i result))) hresult
    rw [step_returned hentry] at hreturned
    simp [Queue.step, Queue.client, Deliveries.step, Deliveries.returned, hk, hexecuting] at hreturned
  . exact execute_ne_none hk hexecuted (hquiescent (.execute k 0 none) rfl)

theorem quiescent_queue (h : s.Draining codec store)
    (hquiescent : System.Quiescent (step codec) Cooperates s)
    : System.Quiescent Queue.step Queue.Cooperates s.queue := by
  intro label hcooperates
  have hother : (∀ k result, label ≠ .client (.returned k result)) → s.queue.step label = none := by
    intro hlabel
    have hnone := hquiescent (.queue label) hcooperates
    rwa [step_queue hlabel, Option.map_eq_none_iff] at hnone
  cases label with
  | client label =>
    cases label with
    | returned k result =>
      simp only [Queue.step, Queue.client, Option.eq_none_iff_forall_not_mem]
      intro queue hqueue
      rcases Option.map_eq_some_iff.mp hqueue with ⟨deliveries, hdeliveries, _⟩
      rcases Deliveries.exists_executing_of_returned hdeliveries with ⟨task, hk, hexecuting⟩
      exact h.not_executing hquiescent hk hexecuting
    | _ => exact hother (by simp)
  | _ => exact hother (by simp)

theorem recorded (h : s.Draining codec store)
    (hquiescent : System.Quiescent (step codec) Cooperates s)
    : s.queue.Exhausted ∨ ∀ labels, System.run (step codec) (init store) labels = some s →
        ∀ message ∈ s.queue.published, Recorded codec store labels s message.content := by
  rcases h.queue.removed (h.quiescent_queue hquiescent) with hremoved | hexhausted
  . right
    intro labels hrun message hmessage
    rcases List.mem_map.mp (hremoved.mem_iff.mpr hmessage) with ⟨d, hd, rfl⟩
    exact recorded_of_removed hrun hd
  . exact Or.inl hexhausted

end Draining

theorem draining_of_run (hrun : System.run (step codec) (init store) labels = some s)
    (hsettled : s.queue.Settled) (hlistening : s.queue.Listening) (huntroubled : s.Untroubled)
    : s.Draining codec store where
  reached := ⟨labels, hrun⟩
  queue := Queue.draining_of_run (run_queue hrun) hsettled hlistening
  untroubled := huntroubled

/--
Once the driver does not fail and nothing else writes to the collection, the callback comes to have been
executed with every confirmation that has been published, and the collection holds those it admitted at
the time.
-/
theorem recorded_eventually (codec : Codec) (ops : List Op) (labels : List Label)
    (hrun : System.run (step codec) (init (Store.ofOps ops)) labels = some s)
    (hsettled : s.queue.Settled) (hlistening : s.queue.Listening) (huntroubled : s.Untroubled)
    (path : Nat → ConfirmationsQueue) (taken : Nat → Option Label) (hstart : path 0 = s)
    (hpath : System.LabelledPath (step codec) Cooperates path taken)
    : ∃ k, ∀ j, k ≤ j → (path j).queue.Exhausted ∨ ∀ message ∈ (path j).queue.published,
        Recorded codec (Store.ofOps ops) (labels ++ (List.range j).filterMap taken) (path j)
          message.content := by
  have hdraining : (path 0).Draining codec (Store.ofOps ops) := by
    rw [hstart]
    exact draining_of_run hrun hsettled hlistening huntroubled
  rcases (progress codec (Store.ofOps ops)).eventually
    (fun s h hquiescent => h.recorded hquiescent) hpath.toPath hdraining with ⟨k, hrecorded⟩
  refine ⟨k, ?_⟩
  intro j hj
  rw [← hstart] at hrun
  exact (hrecorded j hj).imp id fun h => h _ (hpath.run hrun j)

-- The driver fails before the database is reached, and the confirmation is back in the queue.
def sampleFailure : List Label := [
  .queue (.publish Consumer.sampleContent), .queue (.client (.new 0)), .queue (.deliver 0 1),
  .queue (.client (.consume 0 1 Consumer.sampleContent)), .execute 0 0 (some false),
  .queue (.client (.returned 0 (.error ⟨true⟩))), .queue (.client (.send 0)),
  .queue (.client (.respond 0 true)), .queue (.receive 0)
]

def sampleFailed : ConfirmationsQueue :=
  (System.run (step Consumer.sampleCodec) (init (Store.ofOps Consumer.expiringBroadcast))
    sampleFailure).getD (init (Store.ofOps Consumer.expiringBroadcast))

-- The confirmation is delivered again, and the callback gets through to the database.
def sampleRecovery : List Label := [
  .queue (.deliver 0 2), .queue (.client (.consume 0 2 Consumer.sampleContent)), .execute 1 0 none,
  .queue (.client (.returned 1 (.ok ()))), .queue (.client (.send 1)),
  .queue (.client (.respond 0 true)), .queue (.receive 0)
]

def sampleRecovered : ConfirmationsQueue :=
  (System.run (step Consumer.sampleCodec) sampleFailed sampleRecovery).getD sampleFailed

instance (s : ConfirmationsQueue) (label : Label) : Decidable (s.Cooperates label) :=
  match label with
  | .write _ => isFalse id
  | .execute _ _ lost => inferInstanceAs (Decidable (lost = none))
  | .queue label => inferInstanceAs (Decidable (s.queue.Cooperates label))

theorem run_sampleFailure
    : System.run (step Consumer.sampleCodec) (init (Store.ofOps Consumer.expiringBroadcast))
        sampleFailure = some sampleFailed := by
  rfl

theorem draining_sampleFailed
    : sampleFailed.Draining Consumer.sampleCodec (Store.ofOps Consumer.expiringBroadcast) := by
  have hunacked : sampleFailed.queue.unacked = [] := by
    rfl
  have hexecuted : sampleFailed.executed = [(0, .error ⟨true⟩)] := by
    rfl
  have htask : sampleFailed.queue.deliveries.tasks[0]?.map (·.state)
      = some (.finished (.error ⟨true⟩) true) := by
    rfl
  have hsettled : sampleFailed.queue.Settled := by
    intro d hd
    rw [hunacked] at hd
    contradiction
  have hlistening : sampleFailed.queue.Listening := ⟨0, _, rfl, rfl, by decide⟩
  apply draining_of_run run_sampleFailure hsettled hlistening
  intro entry hentry _ task hk hexecuting
  rw [hexecuted, List.mem_singleton] at hentry
  subst hentry
  rw [hk, Option.map_some, hexecuting] at htask
  simp at htask

theorem recorded_eventually_failed
    : ∃ path, path 0 = sampleFailed
        ∧ System.LabelledPath (step Consumer.sampleCodec) Cooperates path (sampleRecovery[·]?)
        ∧ sampleFailed.queue.ready = [⟨0, Consumer.sampleContent⟩]
        ∧ ∃ j, Recorded Consumer.sampleCodec (Store.ofOps Consumer.expiringBroadcast)
          (sampleFailure ++ (List.range j).filterMap (sampleRecovery[·]?)) (path j)
          Consumer.sampleContent := by
  have hrecovery : System.run (step Consumer.sampleCodec) sampleFailed sampleRecovery
      = some sampleRecovered := by
    rfl
  have hcooperates : System.Along (step Consumer.sampleCodec) Cooperates sampleFailed
      sampleRecovery := by
    decide
  have hmeasure : sampleRecovered.measure = ⊥ := by
    rfl
  have hdelivered : sampleRecovered.queue.delivered.length = 2 := by
    rfl
  have hpublished : ⟨0, Consumer.sampleContent⟩ ∈ sampleRecovered.queue.published := by
    exact List.mem_singleton.mpr rfl
  rcases (progress _ _).exists_labelledPath draining_sampleFailed hrecovery hcooperates hmeasure
    with ⟨path, hstart, hpath, hend⟩
  refine ⟨path, hstart, hpath, rfl, ?_⟩
  rcases recorded_eventually Consumer.sampleCodec Consumer.expiringBroadcast sampleFailure
    run_sampleFailure draining_sampleFailed.queue.settled draining_sampleFailed.queue.listening
    draining_sampleFailed.untroubled path _ hstart hpath with ⟨k, hrecorded⟩
  have hlast := hend (max k sampleRecovery.length) (Nat.le_max_right _ _)
  refine ⟨max k sampleRecovery.length, ?_⟩
  rcases hrecorded _ (Nat.le_max_left _ _) with hexhausted | hrecorded
  . rw [hlast] at hexhausted
    have hle := hexhausted.le_length
    rw [hdelivered] at hle
    contradiction
  . apply hrecorded ⟨0, Consumer.sampleContent⟩
    rw [hlast]
    exact hpublished

end TomNotifier.Core.ConfirmationsQueue
