import TomNotifier.Core.Repository.Outcome
import TomNotifier.Core.Service.Confirmations
import TomNotifier.Rabbitmq.Consumer.Redeliveries

/-!
This module contains the confirmations consumer on its durable queue: what the collection holds of a
confirmation that the broker has removed.
-/

namespace TomNotifier.Core

open Rabbitmq.Consumer (Queue QueueLabel Deliveries)

/-- What `DeliveryCallback::execute` has returned, for the task that has called it. -/
def ConfirmationsConsumer.returns (result : Except ConsumeError Unit)
    : Except Rabbitmq.Consumer.ConsumeError Unit :=
  match result with
  | .ok () => .ok ()
  | .error { requeue } => .error { requeue }

structure ConfirmationsQueue where
  store : Store
  queue : Queue
  -- the tasks that have executed the callback, and what it returns to each
  executed : List (Nat × Except Rabbitmq.Consumer.ConsumeError Unit)

namespace ConfirmationsQueue

open Consumer (Holds AdmitsAt sampleCodec sampleContent expiringBroadcast)
open ConfirmationsConsumer

inductive Label where
  -- all of core writes to the collection
  | write (op : Op)
  -- `lost`: the driver fails, after the database has applied the command or not
  | execute (task : Nat) (now : OffsetDateTime) (lost : Option Bool)
  | queue (label : QueueLabel)

def init (store : Store) : ConfirmationsQueue where
  store
  queue := .init
  executed := []

/-- `DeliveryCallback::execute` for a task, up to its return. -/
def execute (codec : Codec) (s : ConfirmationsQueue) (k : Nat) (now : OffsetDateTime)
    (lost : Option Bool) : Option ConfirmationsQueue :=
  match s.queue.deliveries.tasks[k]? with
  | none => none
  | some task =>
    if k ∈ s.executed.map (·.1) then
      none
    else
      match decode codec task.content with
      | .error err => some { s with executed := s.executed ++ [(k, returns (.error err))] }
      | .ok confirmation =>
        let op := .insertConfirmation confirmation.id confirmation.userId now
        match lost with
        | none =>
          let res := NotificationsRepository.insertConfirmation confirmation.id confirmation.userId now
            s.store.docs
          some { s with
            store := s.store.apply op
            executed := s.executed ++ [(k, returns (answer res.1))]
          }
        | some applied => some { s with
            store := if applied then s.store.apply op else s.store
            executed := s.executed ++ [(k, returns (answer (.error .mongo)))]
          }

def step (codec : Codec) (s : ConfirmationsQueue) (label : Label) : Option ConfirmationsQueue :=
  match label with
  | .write op => some { s with store := s.store.apply op }
  | .execute k now lost => s.execute codec k now lost
  | .queue (.client (.returned k result)) =>
    if (k, result) ∈ s.executed then
      (s.queue.step (.client (.returned k result))).map fun queue => { s with queue }
    else
      none
  | .queue label => (s.queue.step label).map fun queue => { s with queue }

/-- A step of the queue. -/
def Label.queue? : Label → Option QueueLabel
  | .queue label => some label
  | _ => none

inductive Effect (codec : Codec) (s : ConfirmationsQueue) : Label → ConfirmationsQueue → Prop where
  | write {op : Op} : Effect codec s (.write op) { s with store := s.store.apply op }
  | rejected {k : Nat} {now : OffsetDateTime} {lost : Option Bool}
      {task : Rabbitmq.Consumer.ProcessingTask} {err : ConsumeError} :
      s.queue.deliveries.tasks[k]? = some task → decode codec task.content = .error err →
      Effect codec s (.execute k now lost)
        { s with executed := s.executed ++ [(k, returns (.error err))] }
  | inserted {k : Nat} {now : OffsetDateTime} {task : Rabbitmq.Consumer.ProcessingTask}
      {confirmation : Confirmation} {result : Except Rabbitmq.Consumer.ConsumeError Unit} :
      s.queue.deliveries.tasks[k]? = some task → decode codec task.content = .ok confirmation →
      Effect codec s (.execute k now none) { s with
        store := s.store.apply (.insertConfirmation confirmation.id confirmation.userId now)
        executed := s.executed ++ [(k, result)]
      }
  | lost {k : Nat} {now : OffsetDateTime} {applied : Bool} {store : Store}
      {task : Rabbitmq.Consumer.ProcessingTask} {confirmation : Confirmation} :
      s.queue.deliveries.tasks[k]? = some task → decode codec task.content = .ok confirmation →
      store = s.store ∨ store = s.store.apply
        (.insertConfirmation confirmation.id confirmation.userId now) →
      Effect codec s (.execute k now (some applied)) { s with
        store
        executed := s.executed ++ [(k, .error ⟨true⟩)]
      }
  | queue {label : QueueLabel} {queue : Queue} : s.queue.step label = some queue →
      (∀ k result, label = .client (.returned k result) → (k, result) ∈ s.executed) →
      Effect codec s (.queue label) { s with queue }

variable {codec : Codec} {s s' : ConfirmationsQueue} {label : Label} {labels : List Label}
variable {store : Store} {content : Bytes} {confirmation : Confirmation}

theorem effect_of_step (hstep : s.step codec label = some s') : s.Effect codec label s' := by
  cases label with
  | write op =>
    rw [← Option.some.inj hstep]
    exact .write
  | execute k now lost =>
    simp only [ConfirmationsQueue.step, ConfirmationsQueue.execute] at hstep
    split at hstep
    . contradiction
    . next task hk =>
      split at hstep
      . contradiction
      . split at hstep
        . next err hdecode =>
          rw [← Option.some.inj hstep]
          exact .rejected hk hdecode
        . next confirmation hdecode =>
          split at hstep
          . rw [← Option.some.inj hstep]
            exact .inserted hk hdecode
          . next applied =>
            rw [← Option.some.inj hstep]
            apply Effect.lost hk hdecode
            cases applied with
            | false => exact Or.inl rfl
            | true => exact Or.inr rfl
  | queue label =>
    simp only [ConfirmationsQueue.step] at hstep
    split at hstep
    . contradiction
    . contradiction
    . next k result heq =>
      cases heq
      split at hstep
      . next hmem =>
        rcases Option.map_eq_some_iff.mp hstep with ⟨queue, hqueue, rfl⟩
        apply Effect.queue hqueue
        intro k result heq
        cases heq
        exact hmem
      . contradiction
    . next hother heq =>
      cases heq
      rcases Option.map_eq_some_iff.mp hstep with ⟨queue, hqueue, rfl⟩
      apply Effect.queue hqueue
      intro k result heq
      exact absurd heq (hother k result)

theorem holds_apply (h : Holds store confirmation) (op : Op) : Holds (store.apply op) confirmation := by
  rcases h with ⟨n, hn, hid, hconf⟩
  refine ⟨op.onDocument n, Store.onDocument_mem_docs_apply hn op, (op.onDocument_id n).trans hid, ?_⟩
  exact ((store.valid n hn).continues_onDocument op).isConfirmed hconf

theorem holds_step (h : Holds s.store confirmation) (hstep : s.step codec label = some s')
    : Holds s'.store confirmation := by
  cases effect_of_step hstep with
  | write => exact holds_apply h _
  | rejected => exact h
  | inserted => exact holds_apply h _
  | lost _ _ hstore =>
    rcases hstore with rfl | rfl
    . exact h
    . exact holds_apply h _
  | queue => exact h

theorem executed_subset (hstep : s.step codec label = some s') : s.executed ⊆ s'.executed := by
  cases effect_of_step hstep with
  | write => exact List.Subset.refl _
  | rejected => exact List.subset_append_left _ _
  | inserted => exact List.subset_append_left _ _
  | lost => exact List.subset_append_left _ _
  | queue => exact List.Subset.refl _

theorem run_queue (hrun : System.run (step codec) (init store) labels = some s)
    : System.run Queue.step Queue.init (labels.filterMap Label.queue?) = some s.queue := by
  apply System.run_induction (P := fun labels s =>
    System.run Queue.step Queue.init (labels.filterMap Label.queue?) = some s.queue) _ _ hrun
  . rfl
  . intro labels label s s' _ ih hstep
    rw [List.filterMap_append, System.run_append_eq_some]
    refine ⟨s.queue, ih, ?_⟩
    cases effect_of_step hstep with
    | write => rfl
    | rejected => rfl
    | inserted => rfl
    | lost => rfl
    | queue hqueue => exact System.run_cons_eq_some.mpr ⟨_, hqueue, rfl⟩

theorem queue_mem_of_returned_mem {k : Nat} {result : Except Rabbitmq.Consumer.ConsumeError Unit}
    (h : .returned k result ∈ (labels.filterMap Label.queue?).filterMap QueueLabel.client?)
    : .queue (.client (.returned k result)) ∈ labels := by
  rcases List.mem_filterMap.mp h with ⟨queueLabel, hqueue, hclient⟩
  rcases List.mem_filterMap.mp hqueue with ⟨label, hlabel, hlabel'⟩
  cases label with
  | queue label =>
    rw [Option.some.inj hlabel'] at hlabel
    cases queueLabel with
    | client label =>
      rw [← Option.some.inj hclient]
      exact hlabel
    | _ => contradiction
  | _ => contradiction

/-- A task returns what its callback has returned to it. -/
theorem executed_of_returned (hrun : System.run (step codec) (init store) labels = some s) {k : Nat}
    {result : Except Rabbitmq.Consumer.ConsumeError Unit}
    (hmem : .queue (.client (.returned k result)) ∈ labels) : (k, result) ∈ s.executed := by
  revert hmem
  apply System.run_induction (P := fun labels (s : ConfirmationsQueue) =>
    .queue (.client (.returned k result)) ∈ labels → (k, result) ∈ s.executed) _ _ hrun
  . intro hmem
    simp at hmem
  . intro labels label s s' _ ih hstep hmem
    rcases List.mem_append.mp hmem with hmem | hmem
    . exact executed_subset hstep (ih hmem)
    . rw [List.mem_singleton] at hmem
      subst hmem
      cases effect_of_step hstep with
      | queue _ hexecuted => exact hexecuted k result rfl

theorem handed_step (hstep : s.step codec label = some s') {k : Nat}
    {handed : Nat × Rabbitmq.Consumer.AmqpDeliveryTag × Bytes}
    (hk : s.queue.deliveries.handed[k]? = some handed)
    : s'.queue.deliveries.handed[k]? = some handed := by
  cases effect_of_step hstep with
  | write => exact hk
  | rejected => exact hk
  | inserted => exact hk
  | lost => exact hk
  | queue hqueue =>
    rcases Queue.handed_prefix_step hqueue with ⟨handed', heq⟩
    rw [← heq, List.getElem?_append_left (List.getElem?_eq_some_iff.mp hk).1]
    exact hk

/-- The callback has been executed with a message, without the driver failing. -/
def Executed (codec : Codec) (store : Store) (labels : List Label) (content : Bytes)
    (t : ConfirmationsQueue) (now : OffsetDateTime) : Prop :=
  ∃ before after k, labels = before ++ .execute k now none :: after
    ∧ System.run (step codec) (init store) before = some t
    ∧ t.queue.deliveries.tasks[k]?.map (·.content) = some content

def Processed (codec : Codec) (store : Store) (labels : List Label) (content : Bytes) : Prop :=
  ∀ confirmation, decode codec content = .ok confirmation →
    ∃ t now, Executed codec store labels content t now

/--
The callback has been executed with a confirmation, and the collection holds the confirmation if it
admitted it at any time that was done.
-/
structure Recorded (codec : Codec) (store : Store) (labels : List Label) (s : ConfirmationsQueue)
    (content : Bytes) : Prop where
  processed : Processed codec store labels content
  holds : ∀ confirmation, decode codec content = .ok confirmation →
    ∀ t now, Executed codec store labels content t now →
      AdmitsAt t.store confirmation now → Holds s.store confirmation

theorem Executed.concat {t : ConfirmationsQueue} {now : OffsetDateTime}
    (h : Executed codec store labels content t now) (label : Label)
    : Executed codec store (labels ++ [label]) content t now := by
  rcases h with ⟨before, after, k, rfl, hrun, hcontent⟩
  refine ⟨before, after ++ [label], k, ?_, hrun, hcontent⟩
  rw [List.append_assoc, List.cons_append]

theorem Processed.concat (h : Processed codec store labels content) (label : Label)
    : Processed codec store (labels ++ [label]) content := by
  intro confirmation hdecode
  rcases h confirmation hdecode with ⟨t, now, hexecuted⟩
  exact ⟨t, now, hexecuted.concat label⟩

theorem processed_of_decode_eq_error {err : ConsumeError} (hdecode : decode codec content = .error err)
    : Processed codec store labels content := by
  intro confirmation hok
  rw [hdecode] at hok
  contradiction

theorem executed_concat (hrun : System.run (step codec) (init store) labels = some s) {k : Nat}
    {now : OffsetDateTime} {task : Rabbitmq.Consumer.ProcessingTask}
    (hk : s.queue.deliveries.tasks[k]? = some task)
    : Executed codec store (labels ++ [.execute k now none]) task.content s now := by
  refine ⟨labels, [], k, rfl, hrun, ?_⟩
  rw [hk]
  rfl

/-- What an execution has inserted is still there. -/
theorem holds_of_executed (hrun : System.run (step codec) (init store) labels = some s)
    (hdecode : decode codec content = .ok confirmation) {t : ConfirmationsQueue} {now : OffsetDateTime}
    (hexecuted : Executed codec store labels content t now)
    (hadmits : AdmitsAt t.store confirmation now) : Holds s.store confirmation := by
  rcases hexecuted with ⟨before, after, k, rfl, hbefore, hcontent⟩
  rcases System.run_append_eq_some.mp hrun with ⟨t', ht', hrest⟩
  rw [hbefore, Option.some.injEq] at ht'
  subst ht'
  rcases System.run_cons_eq_some.mp hrest with ⟨u, hstep, hafter⟩
  have hu : Holds u.store confirmation := by
    cases effect_of_step hstep with
    | rejected hk herror =>
      rw [hk, Option.map_some, Option.some.injEq] at hcontent
      rw [hcontent, hdecode] at herror
      contradiction
    | inserted hk hok =>
      rw [hk, Option.map_some, Option.some.injEq] at hcontent
      rw [hcontent, hdecode, Except.ok.injEq] at hok
      subst hok
      rw [Consumer.holds_insertConfirmation_iff]
      exact Or.inr ⟨rfl, hadmits⟩
  exact System.run_invariant (P := fun s => Holds s.store confirmation)
    (fun _ _ _ hholds hstep => holds_step hholds hstep) hu hafter

/-- The callback may not have been executed with what is requeued. -/
theorem processed_of_executed (hrun : System.run (step codec) (init store) labels = some s)
    : ∀ entry ∈ s.executed, ∃ handed, s.queue.deliveries.handed[entry.1]? = some handed
        ∧ (entry.2 ≠ .error ⟨true⟩ → Processed codec store labels handed.2.2) := by
  apply System.run_induction (P := fun labels s => ∀ entry ∈ s.executed,
    ∃ handed, s.queue.deliveries.handed[entry.1]? = some handed
      ∧ (entry.2 ≠ .error ⟨true⟩ → Processed codec store labels handed.2.2)) _ _ hrun
  . intro entry hentry
    simp [init] at hentry
  . intro labels label s s' hrun ih hstep
    have hold : ∀ entry ∈ s.executed, ∃ handed, s'.queue.deliveries.handed[entry.1]? = some handed
        ∧ (entry.2 ≠ .error ⟨true⟩ → Processed codec store (labels ++ [label]) handed.2.2) := by
      intro entry hentry
      rcases ih entry hentry with ⟨handed, hhanded, hprocessed⟩
      refine ⟨handed, handed_step hstep hhanded, ?_⟩
      intro hne
      exact (hprocessed hne).concat label
    have hnew : ∀ k (task : Rabbitmq.Consumer.ProcessingTask) result,
        s.queue.deliveries.tasks[k]? = some task →
        (result ≠ .error ⟨true⟩ → Processed codec store (labels ++ [label]) task.content) →
        s'.executed = s.executed ++ [(k, result)] →
        ∀ entry ∈ s'.executed, ∃ handed, s'.queue.deliveries.handed[entry.1]? = some handed
          ∧ (entry.2 ≠ .error ⟨true⟩ → Processed codec store (labels ++ [label]) handed.2.2) := by
      intro k task result hk hprocessed hexecuted entry hentry
      rw [hexecuted, List.mem_append, List.mem_singleton] at hentry
      rcases hentry with hentry | rfl
      . exact hold entry hentry
      . refine ⟨(task.consumer, task.deliveryTag, task.content), ?_, hprocessed⟩
        apply handed_step hstep
        rw [Deliveries.handed, List.getElem?_map, hk]
        rfl
    cases effect_of_step hstep with
    | write => exact hold
    | rejected hk hdecode =>
      apply hnew _ _ _ hk _ rfl
      intro _
      exact processed_of_decode_eq_error hdecode
    | inserted hk hdecode =>
      apply hnew _ _ _ hk _ rfl
      intro _ _ _
      exact ⟨s, _, executed_concat hrun hk⟩
    | lost hk =>
      apply hnew _ _ _ hk _ rfl
      intro hne
      exact absurd rfl hne
    | queue => exact hold

/-- A task whose answer had its message removed has executed the callback with it. -/
theorem recorded_of_removed (hrun : System.run (step codec) (init store) labels = some s)
    {d : Rabbitmq.Consumer.Delivery} (hd : d ∈ s.queue.removed)
    : Recorded codec store labels s d.message.content := by
  have h := Queue.kept_of_run (run_queue hrun)
  rcases h.result_of_removed hd with ⟨task, htask, hhanded, result, hresult, hremoves⟩
  rcases List.mem_iff_getElem?.mp htask with ⟨k, hk⟩
  have hreturned := Deliveries.returned_mem (Queue.run_deliveries (run_queue hrun)) k task result hk
    hresult
  have hexecuted := executed_of_returned hrun (queue_mem_of_returned_mem hreturned)
  rcases processed_of_executed hrun _ hexecuted with ⟨handed, hhanded', hprocessed⟩
  rw [Deliveries.handed, List.getElem?_map, hk, Option.map_some, Option.some.injEq, ← hhanded]
    at hhanded'
  rw [← hhanded'] at hprocessed
  refine ⟨hprocessed ?_, ?_⟩
  . intro heq
    rcases hremoves with rfl | rfl
    . contradiction
    . simp at heq
  . intro _ hdecode _ _ hexecuted hadmits
    exact holds_of_executed hrun hdecode hexecuted hadmits

/--
A confirmation is with the broker until the callback has been executed with it against the collection.
If the collection admitted the confirmation at any such time, it holds it ever since, whatever else writes
to it, and whichever channels are closed, answers lost and confirmations delivered again meanwhile.
-/
theorem recorded_when_consumed (codec : Codec) (ops : List Op) (labels : List Label)
    (hrun : System.run (step codec) (init (Store.ofOps ops)) labels = some s)
    : ∀ message ∈ s.queue.published,
        message ∈ s.queue.ready
          ∨ (∃ d ∈ s.queue.unacked, d.message = message)
          ∨ Recorded codec (Store.ofOps ops) labels s message.content := by
  intro message hmessage
  have h := Queue.kept_of_run (run_queue hrun)
  have hplace := h.messages.mem_iff.mpr hmessage
  rw [Queue.messages, List.mem_append, List.mem_append] at hplace
  rcases hplace with (hready | hunacked) | hremoved
  . exact Or.inl hready
  . exact Or.inr (Or.inl (List.mem_map.mp hunacked))
  . refine Or.inr (Or.inr ?_)
    rcases List.mem_map.mp hremoved with ⟨d, hd, rfl⟩
    exact recorded_of_removed hrun hd

-- The channel is closed before the ack arrives, the confirmation is delivered and acked again.
def redelivery : List Label := [
  .queue (.publish sampleContent), .queue (.client (.new 0)), .queue (.deliver 0 1),
  .queue (.client (.consume 0 1 sampleContent)), .execute 0 0 none,
  .queue (.client (.returned 0 (.ok ()))), .queue (.client (.send 0)),
  .queue (.client (.respond 0 true)), .queue (.close 0), .queue (.receive 0),
  .queue (.client (.new 1)), .queue (.deliver 1 1), .queue (.client (.consume 1 1 sampleContent)),
  .write (.delete ⟨7⟩ ⟨1⟩), .execute 1 0 none, .queue (.client (.returned 1 (.ok ()))),
  .queue (.client (.send 1)), .queue (.client (.respond 1 true)), .queue (.receive 0)
]

def redelivered : ConfirmationsQueue :=
  (System.run (step sampleCodec) (init (Store.ofOps expiringBroadcast)) redelivery).getD
    (init (Store.ofOps expiringBroadcast))

theorem recorded_when_consumed_redelivered
    : redelivered.queue.ready = []
        ∧ redelivered.queue.unacked = []
        ∧ Recorded sampleCodec (Store.ofOps expiringBroadcast) redelivery redelivered sampleContent := by
  have hrun : System.run (step sampleCodec) (init (Store.ofOps expiringBroadcast)) redelivery
      = some redelivered := by
    rfl
  have hready : redelivered.queue.ready = [] := by
    rfl
  have hunacked : redelivered.queue.unacked = [] := by
    rfl
  refine ⟨hready, hunacked, ?_⟩
  have hplace := recorded_when_consumed sampleCodec expiringBroadcast redelivery hrun
    ⟨0, sampleContent⟩ (List.mem_singleton.mpr rfl)
  rw [hready, hunacked] at hplace
  rcases hplace with hready | ⟨d, hd, _⟩ | hrecorded
  . contradiction
  . contradiction
  . exact hrecorded

end ConfirmationsQueue

end TomNotifier.Core
