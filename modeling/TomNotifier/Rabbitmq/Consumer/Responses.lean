import Mathlib.Data.List.Nodup
import TomNotifier.Common.List
import TomNotifier.Rabbitmq.Consumer.AsyncConsumer
import TomNotifier.System.Run

/-!
This module contains what becomes of the deliveries to a consumer: each is answered at most once, on
its channel, with what the callback has returned.
-/

namespace TomNotifier.Rabbitmq.Consumer

def ProcessingState.result? : ProcessingState → Option (Except ConsumeError Unit)
  | .executing => none
  | .answering result => some result
  | .finished result _ => some result

namespace ProcessingTask

/-- What the task has put in the queue of its consumer. -/
def put? (task : ProcessingTask) : Option Answer :=
  match task.state with
  | .finished result true =>
    some (ResponseTask.answer (response task.deliveryTag result))
  | _ => none

end ProcessingTask

def Answer.deliveryTag : Answer → AmqpDeliveryTag
  | .basicAck deliveryTag _ => deliveryTag
  | .basicNack deliveryTag _ _ => deliveryTag

def Answer.covers (answer : Answer) (deliveryTag : AmqpDeliveryTag) : Bool :=
  match answer with
  | .basicAck tag multiple => if multiple then decide (deliveryTag ≤ tag) else decide (deliveryTag = tag)
  | .basicNack tag multiple _ =>
    if multiple then decide (deliveryTag ≤ tag) else decide (deliveryTag = tag)

theorem covers_answer {response : DeliveryResponse} {deliveryTag : AmqpDeliveryTag}
    : (ResponseTask.answer response).covers deliveryTag
        =
      decide (deliveryTag = (ResponseTask.answer response).deliveryTag) := by
  cases response <;> rfl

theorem answer_injective {response response' : DeliveryResponse}
    (h : ResponseTask.answer response = ResponseTask.answer response') : response = response' := by
  cases response <;> cases response' <;> simp_all [ResponseTask.answer]

theorem deliveryTag_answer_response {deliveryTag : AmqpDeliveryTag}
    {result : Except ConsumeError Unit}
    : (ResponseTask.answer (ProcessingTask.response deliveryTag result)).deliveryTag
        =
      deliveryTag := by
  cases result <;> rfl

namespace Deliveries

inductive Effect (s : Deliveries) : Label → Deliveries → Prop where
  | new {channel : ChannelId} :
      Effect s (.new channel) { s with consumers := s.consumers ++ [.new channel] }
  | drop {i : Nat} {consumer : AsyncConsumer} : s.consumers[i]? = some consumer →
      Effect s (.drop i)
        { s with consumers := s.consumers.set i { consumer with alive := false } }
  | consume {i : Nat} {consumer : AsyncConsumer} {deliveryTag : AmqpDeliveryTag} {content : Bytes} :
      s.consumers[i]? = some consumer → consumer.alive = true →
      (some consumer.channel, deliveryTag) ∉ s.delivered →
      Effect s (.consume i deliveryTag content)
        { s with tasks := s.tasks ++ [⟨i, deliveryTag, content, .executing⟩] }
  | answering {k : Nat} {task : ProcessingTask} {result : Except ConsumeError Unit} :
      s.tasks[k]? = some task → task.state = .executing → s.isOpen task.consumer = true →
      Effect s (.returned k result)
        { s with tasks := s.tasks.set k { task with state := .answering result } }
  | discarded {k : Nat} {task : ProcessingTask} {result : Except ConsumeError Unit} :
      s.tasks[k]? = some task → task.state = .executing → s.isOpen task.consumer = false →
      Effect s (.returned k result)
        { s with tasks := s.tasks.set k { task with state := .finished result false } }
  | sent {k : Nat} {task : ProcessingTask} {result : Except ConsumeError Unit}
      {consumer : AsyncConsumer} : s.tasks[k]? = some task → task.state = .answering result →
      s.consumers[task.consumer]? = some consumer → consumer.running = true →
      Effect s (.send k) {
        tasks := s.tasks.set k { task with state := .finished result consumer.running }
        consumers := s.consumers.set task.consumer { consumer with
          responses := consumer.responses ++ [ProcessingTask.response task.deliveryTag result] }
      }
  | lost {k : Nat} {task : ProcessingTask} {result : Except ConsumeError Unit}
      {consumer : AsyncConsumer} : s.tasks[k]? = some task → task.state = .answering result →
      s.consumers[task.consumer]? = some consumer → consumer.running = false →
      Effect s (.send k)
        { s with tasks := s.tasks.set k { task with state := .finished result consumer.running } }
  | responded {i : Nat} {sent : Bool} {consumer : AsyncConsumer} {response : DeliveryResponse}
      {responses : List DeliveryResponse} :
      s.consumers[i]? = some consumer → consumer.running = true →
      consumer.responses = response :: responses →
      Effect s (.respond i sent) { s with
        consumers := s.consumers.set i { consumer with
          responses
          answered := consumer.answered ++ [(ResponseTask.answer response, sent)]
        }
      }
  | finished {i : Nat} {consumer : AsyncConsumer} :
      s.consumers[i]? = some consumer → consumer.running = true → consumer.responses = [] →
      s.isOpen i = false →
      Effect s (.finish i)
        { s with consumers := s.consumers.set i { consumer with running := false } }

def puts (s : Deliveries) (i : Nat) : List Answer :=
  s.tasks.filterMap (fun task => if task.consumer = i then task.put? else none)

/-- What the tasks of a consumer have put in its queue is there, or the response task took it out. -/
structure Accounted (s : Deliveries) : Prop where
  nodup : s.delivered.Nodup
  known : ∀ task ∈ s.tasks, task.consumer < s.consumers.length
  listening : ∀ (i : Nat) (consumer : AsyncConsumer), s.consumers[i]? = some consumer →
    s.isOpen i = true → consumer.running = true
  custody : ∀ (i : Nat) (consumer : AsyncConsumer), s.consumers[i]? = some consumer →
    (consumer.answered.map (·.1) ++ consumer.responses.map ResponseTask.answer).Perm (s.puts i)

variable {s s' : Deliveries} {i k : Nat} {consumer consumer' : AsyncConsumer} {task : ProcessingTask}
variable {channel : ChannelId} {deliveryTag : AmqpDeliveryTag} {content : Bytes}
variable {result : Except ConsumeError Unit} {sent : Bool}

theorem accounted_init : init.Accounted where
  nodup := List.nodup_nil
  known := by simp [init]
  listening := by simp [init]
  custody := by simp [init]

theorem channelOf_eq_some (h : s.consumers[i]? = some consumer)
    : s.channelOf i = some consumer.channel := by
  rw [channelOf, h, Option.map_some]

theorem channelOf_set (h : s.consumers[i]? = some consumer)
    (hchannel : consumer'.channel = consumer.channel) (tasks : List ProcessingTask)
    : channelOf ⟨s.consumers.set i consumer', tasks⟩ = s.channelOf := by
  funext j
  have hmap := congrArg (·[j]?) (map_set_of_eq h hchannel)
  simp only [List.getElem?_map] at hmap
  exact hmap

theorem isOpen_iff
    : s.isOpen i = true
        ↔
      (∃ consumer, s.consumers[i]? = some consumer ∧ consumer.alive = true)
        ∨ ∃ task ∈ s.tasks, task.consumer = i ∧ task.isAnswering = true := by
  simp [isOpen, Option.any_eq_true]

theorem isOpen_of_answering (hk : s.tasks[k]? = some task) (hstate : task.state = .answering result)
    : s.isOpen task.consumer = true := by
  rw [isOpen_iff]
  refine Or.inr ⟨task, List.mem_of_getElem? hk, rfl, ?_⟩
  rw [ProcessingTask.isAnswering, hstate]

theorem effect_of_step {label : Label} (hstep : s.step label = some s') : s.Effect label s' := by
  cases label with
  | new channel =>
    rw [← Option.some.inj hstep]
    exact .new
  | drop i =>
    simp only [Deliveries.step, Deliveries.drop] at hstep
    split at hstep
    . contradiction
    . next consumer hi =>
      rw [← Option.some.inj hstep]
      exact .drop hi
  | consume i deliveryTag content =>
    simp only [Deliveries.step, Deliveries.consume] at hstep
    split at hstep
    . contradiction
    . next consumer hi =>
      split at hstep
      . next hguard =>
        rw [← Option.some.inj hstep]
        exact .consume hi hguard.1 hguard.2
      . contradiction
  | returned k result =>
    simp only [Deliveries.step, Deliveries.returned] at hstep
    split at hstep
    . contradiction
    . next task hk =>
      split at hstep
      . next hstate =>
        rw [← Option.some.inj hstep]
        split
        . next hopen => exact .answering hk hstate hopen
        . next hclosed => exact .discarded hk hstate (Bool.eq_false_iff.mpr hclosed)
      . contradiction
  | send k =>
    simp only [Deliveries.step, Deliveries.send] at hstep
    split at hstep
    . contradiction
    . next task hk =>
      split at hstep
      . next result consumer hstate hi =>
        split at hstep
        . next hrunning =>
          rw [← Option.some.inj hstep]
          exact .sent hk hstate hi hrunning
        . next hrunning =>
          rw [← Option.some.inj hstep]
          exact .lost hk hstate hi (Bool.eq_false_iff.mpr hrunning)
      . contradiction
  | respond i sent =>
    simp only [Deliveries.step, Deliveries.respond] at hstep
    split at hstep
    . contradiction
    . next consumer hi =>
      split at hstep
      . next response responses hrunning hresponses =>
        rw [← Option.some.inj hstep]
        exact .responded hi hrunning hresponses
      . contradiction
  | finish i =>
    simp only [Deliveries.step, Deliveries.finish] at hstep
    split at hstep
    . contradiction
    . next consumer hi =>
      split at hstep
      . next hguard =>
        rw [← Option.some.inj hstep]
        exact .finished hi hguard.1 hguard.2.1 hguard.2.2
      . contradiction

namespace Accounted

theorem new (h : s.Accounted) (channel : ChannelId)
    : Accounted { s with consumers := s.consumers ++ [.new channel] } := by
  have hold : ∀ task ∈ s.tasks,
      channelOf { s with consumers := s.consumers ++ [.new channel] } task.consumer
        = s.channelOf task.consumer := by
    intro task htask
    rw [channelOf, channelOf, List.getElem?_append_left (h.known task htask)]
  constructor
  . have hdelivered : delivered { s with consumers := s.consumers ++ [.new channel] }
        = s.delivered := by
      apply List.map_congr_left
      intro task htask
      rw [hold task htask]
    rw [hdelivered]
    exact h.nodup
  . intro task htask
    rw [List.length_append]
    exact Nat.lt_add_right _ (h.known task htask)
  . intro i consumer hi hopen
    rcases getElem?_append_singleton_cases hi with hi' | ⟨_, rfl⟩
    . apply h.listening i consumer hi'
      rw [isOpen_iff] at hopen ⊢
      refine hopen.imp_left ?_
      rintro ⟨c, hc, halive⟩
      rw [hi, Option.some.injEq] at hc
      exact ⟨consumer, hi', hc ▸ halive⟩
    . rfl
  . intro i consumer hi
    rcases getElem?_append_singleton_cases hi with hi | ⟨rfl, rfl⟩
    . exact h.custody i consumer hi
    . have hnil : puts { s with consumers := s.consumers ++ [.new channel] } s.consumers.length
          = [] := by
        rw [puts, List.filterMap_eq_nil_iff]
        intro task htask
        rw [if_neg (Nat.ne_of_lt (h.known task htask))]
      rw [hnil]
      exact List.Perm.refl _

/-- A step of a consumer or its response task. -/
theorem update (h : s.Accounted) (hi : s.consumers[i]? = some consumer) (consumer' : AsyncConsumer)
    (hchannel : consumer'.channel = consumer.channel)
    (halive : consumer'.alive = true → consumer.alive = true)
    (hrunning : s.isOpen i = true → consumer.running = true → consumer'.running = true)
    (hcustody : consumer'.answered.map (·.1) ++ consumer'.responses.map ResponseTask.answer
      = consumer.answered.map (·.1) ++ consumer.responses.map ResponseTask.answer)
    : Accounted { s with consumers := s.consumers.set i consumer' } := by
  have hopen : ∀ j, isOpen { s with consumers := s.consumers.set i consumer' } j = true →
      s.isOpen j = true := by
    intro j
    rw [isOpen_iff, isOpen_iff]
    rintro (⟨c, hc, hcalive⟩ | htask)
    . rcases getElem?_set_cases hc with ⟨rfl, rfl⟩ | ⟨_, hc⟩
      . exact Or.inl ⟨consumer, hi, halive hcalive⟩
      . exact Or.inl ⟨c, hc, hcalive⟩
    . exact Or.inr htask
  constructor
  . rw [delivered, channelOf_set hi hchannel]
    exact h.nodup
  . intro task htask
    rw [List.length_set]
    exact h.known task htask
  . intro j c hc hj
    have hj' := hopen j hj
    rcases getElem?_set_cases hc with ⟨rfl, rfl⟩ | ⟨_, hc⟩
    . exact hrunning hj' (h.listening j consumer hi hj')
    . exact h.listening j c hc hj'
  . intro j c hc
    rcases getElem?_set_cases hc with ⟨rfl, rfl⟩ | ⟨_, hc⟩
    . rw [hcustody]
      exact h.custody j consumer hi
    . exact h.custody j c hc

theorem consume (h : s.Accounted) (hi : s.consumers[i]? = some consumer)
    (hnew : (some consumer.channel, deliveryTag) ∉ s.delivered)
    : Accounted { s with tasks := s.tasks ++ [⟨i, deliveryTag, content, .executing⟩] } := by
  constructor
  . have hdelivered : delivered { s with tasks := s.tasks ++ [⟨i, deliveryTag, content, .executing⟩] }
        = s.delivered ++ [(some consumer.channel, deliveryTag)] := by
      rw [delivered, List.map_append, List.map_singleton]
      congr 3
      exact channelOf_eq_some hi
    rw [hdelivered]
    exact List.nodup_append.mpr ⟨h.nodup, List.nodup_singleton _, by
      intro key hkey key' hkey' heq
      rw [List.mem_singleton.mp hkey'] at heq
      exact hnew (heq ▸ hkey)⟩
  . intro task htask
    rcases List.mem_append.mp htask with htask | htask
    . exact h.known task htask
    . rw [List.mem_singleton.mp htask]
      exact (List.getElem?_eq_some_iff.mp hi).1
  . intro j c hc hopen
    apply h.listening j c hc
    rw [isOpen_iff] at hopen ⊢
    refine hopen.imp_right ?_
    rintro ⟨task, htask, hconsumer, hanswering⟩
    rcases List.mem_append.mp htask with htask | htask
    . exact ⟨task, htask, hconsumer, hanswering⟩
    . rw [List.mem_singleton.mp htask] at hanswering
      contradiction
  . intro j c hc
    have hputs : puts { s with tasks := s.tasks ++ [⟨i, deliveryTag, content, .executing⟩] } j
        = s.puts j := by
      simp [puts, ProcessingTask.put?]
    rw [hputs]
    exact h.custody j c hc

theorem returned (h : s.Accounted) (hk : s.tasks[k]? = some task) {state : ProcessingState}
    (hput : ProcessingTask.put? { task with state } = task.put?)
    (hopen : ProcessingTask.isAnswering { task with state } = true → s.isOpen task.consumer = true)
    : Accounted { s with tasks := s.tasks.set k { task with state } } := by
  constructor
  . have hdelivered : delivered { s with tasks := s.tasks.set k { task with state } }
        = s.delivered := map_set_of_eq hk rfl
    rw [hdelivered]
    exact h.nodup
  . intro task' htask'
    rcases List.mem_or_eq_of_mem_set htask' with htask' | rfl
    . exact h.known task' htask'
    . exact h.known task (List.mem_of_getElem? hk)
  . intro j c hc hopen'
    apply h.listening j c hc
    rw [isOpen_iff] at hopen'
    rcases hopen' with hconsumer | ⟨task', htask', hconsumer, hanswering⟩
    . exact isOpen_iff.mpr (Or.inl hconsumer)
    . rcases List.mem_or_eq_of_mem_set htask' with htask' | rfl
      . exact isOpen_iff.mpr (Or.inr ⟨task', htask', hconsumer, hanswering⟩)
      . rw [← hconsumer]
        exact hopen hanswering
  . intro j c hc
    have hputs : puts { s with tasks := s.tasks.set k { task with state } } j = s.puts j := by
      apply filterMap_set_of_eq hk
      simp only [hput]
    rw [hputs]
    exact h.custody j c hc

theorem send (h : s.Accounted) (hk : s.tasks[k]? = some task)
    (hstate : task.state = .answering result) (hi : s.consumers[task.consumer]? = some consumer)
    : Accounted {
        tasks := s.tasks.set k { task with state := .finished result consumer.running }
        consumers := s.consumers.set task.consumer { consumer with
          responses := consumer.responses ++ [ProcessingTask.response task.deliveryTag result] }
      } := by
  generalize hconsumer' : ({ consumer with
    responses := consumer.responses ++ [ProcessingTask.response task.deliveryTag result] }
    : AsyncConsumer) = consumer'
  have hrunning := h.listening _ consumer hi (isOpen_of_answering hk hstate)
  rw [hrunning]
  generalize htask' : ({ task with state := .finished result true } : ProcessingTask) = task'
  have hsame : task'.consumer = task.consumer ∧ task'.deliveryTag = task.deliveryTag := by
    rw [← htask']
    exact ⟨rfl, rfl⟩
  constructor
  . rw [delivered, channelOf_set hi (by rw [← hconsumer'])]
    have hdelivered : (s.tasks.set k task').map
          (fun task => (s.channelOf task.consumer, task.deliveryTag)) = s.delivered := by
      apply map_set_of_eq hk
      rw [hsame.1, hsame.2]
    rw [hdelivered]
    exact h.nodup
  . intro task'' htask''
    rw [List.length_set]
    rcases List.mem_or_eq_of_mem_set htask'' with htask'' | rfl
    . exact h.known task'' htask''
    . rw [hsame.1]
      exact h.known task (List.mem_of_getElem? hk)
  . have hopen : ∀ j, isOpen ⟨s.consumers.set task.consumer consumer', s.tasks.set k task'⟩ j = true
        → s.isOpen j = true := by
      intro j
      rw [isOpen_iff, isOpen_iff]
      rintro (⟨c, hc, halive⟩ | ⟨task'', htask'', hj, hanswering⟩)
      . rcases getElem?_set_cases hc with ⟨rfl, rfl⟩ | ⟨_, hc⟩
        . rw [← hconsumer'] at halive
          exact Or.inl ⟨consumer, hi, halive⟩
        . exact Or.inl ⟨c, hc, halive⟩
      . rcases List.mem_or_eq_of_mem_set htask'' with htask'' | rfl
        . exact Or.inr ⟨task'', htask'', hj, hanswering⟩
        . rw [← htask'] at hanswering
          contradiction
    intro j c hc hj
    have hj' := hopen j hj
    rcases getElem?_set_cases hc with ⟨rfl, rfl⟩ | ⟨_, hc⟩
    . rw [← hconsumer']
      exact h.listening task.consumer consumer hi hj'
    . exact h.listening j c hc hj'
  . intro j c hc
    rcases getElem?_set_cases hc with ⟨rfl, rfl⟩ | ⟨hne, hc⟩
    . have hput : task'.put? = some (ResponseTask.answer
          (ProcessingTask.response task.deliveryTag result)) := by
        rw [← htask']
        rfl
      have hnone : task.put? = none := by
        rw [ProcessingTask.put?, hstate]
      have hputs := filterMap_set_perm (fun t : ProcessingTask =>
        if t.consumer = task.consumer then t.put? else none) hk task'
      rw [if_pos rfl, hnone, if_pos hsame.1, hput] at hputs
      rw [← hconsumer', List.map_append, ← List.append_assoc]
      apply ((h.custody task.consumer consumer hi).append_right _).trans
      exact (List.perm_append_singleton _ _).trans hputs
    . have hputs : puts ⟨s.consumers.set task.consumer consumer', s.tasks.set k task'⟩ j
          = s.puts j := by
        apply filterMap_set_of_eq hk
        rw [if_neg (hsame.1 ▸ Ne.symm hne), if_neg (Ne.symm hne)]
      rw [hputs]
      exact h.custody j c hc

theorem step {label : Label} (h : s.Accounted) (hstep : s.step label = some s') : s'.Accounted := by
  cases effect_of_step hstep with
  | new => exact h.new _
  | @drop i consumer hi =>
    apply h.update hi { consumer with alive := false } rfl _ _ rfl
    . intro halive
      contradiction
    . intro _ hrunning
      exact hrunning
  | consume hi _ hnew => exact h.consume hi hnew
  | answering hk hstate hopen =>
    apply h.returned hk
    . simp [ProcessingTask.put?, hstate]
    . intro _
      exact hopen
  | discarded hk hstate =>
    apply h.returned hk
    . simp [ProcessingTask.put?, hstate]
    . intro hanswering
      contradiction
  | sent hk hstate hi => exact h.send hk hstate hi
  | lost hk hstate hi hrunning =>
    rw [h.listening _ _ hi (isOpen_of_answering hk hstate)] at hrunning
    contradiction
  | @responded i sent consumer response responses hi _ hresponses =>
    apply h.update hi { consumer with
      responses
      answered := consumer.answered ++ [(ResponseTask.answer response, sent)]
    } rfl
    . intro halive
      exact halive
    . intro _ hrunning
      exact hrunning
    . simp [hresponses]
  | @finished i consumer hi _ _ hclosed =>
    apply h.update hi { consumer with running := false } rfl _ _ rfl
    . intro halive
      exact halive
    . intro hopen
      rw [hclosed] at hopen
      contradiction

end Accounted

theorem accounted_of_run {labels : List Label} (hrun : System.run step init labels = some s)
    : s.Accounted := by
  apply System.run_invariant _ accounted_init hrun
  intro s label s' h hstep
  exact h.step hstep

/-- What the response tasks have written to the channels. -/
def answers (s : Deliveries) : List (ChannelId × Answer × Bool) :=
  s.consumers.flatMap (fun consumer => consumer.answered.map (consumer.channel, ·))

theorem mem_puts_iff {answer : Answer}
    : answer ∈ s.puts i ↔ ∃ task ∈ s.tasks, task.consumer = i ∧ task.put? = some answer := by
  simp only [puts, List.mem_filterMap, Option.ite_none_right_eq_some]

theorem put?_eq_some_iff {answer : Answer}
    : task.put? = some answer
        ↔
      ∃ result, task.state = .finished result true
        ∧ answer = ResponseTask.answer (ProcessingTask.response task.deliveryTag result) := by
  rw [ProcessingTask.put?]
  split
  . next result hstate => simp [hstate, eq_comm]
  . next hstate =>
    constructor
    . intro hnone
      contradiction
    . rintro ⟨result, hresult, _⟩
      exact absurd hresult (hstate result)

theorem deliveryTag_of_put? {answer : Answer} (h : task.put? = some answer)
    : answer.deliveryTag = task.deliveryTag := by
  rcases put?_eq_some_iff.mp h with ⟨result, _, rfl⟩
  exact deliveryTag_answer_response

namespace Accounted

theorem put_of_answered (h : s.Accounted) (hi : s.consumers[i]? = some consumer)
    {entry : Answer × Bool} (hentry : entry ∈ consumer.answered)
    : ∃ task ∈ s.tasks, task.consumer = i ∧ task.put? = some entry.1 := by
  rw [← mem_puts_iff, ← (h.custody i consumer hi).mem_iff]
  exact List.mem_append_left _ (List.mem_map_of_mem hentry)

theorem nodup_puts (h : s.Accounted) (i : Nat) : ((s.puts i).map Answer.deliveryTag).Nodup := by
  have hnodup := h.nodup
  rw [delivered, List.nodup_iff_pairwise_ne, List.pairwise_map] at hnodup
  rw [List.nodup_iff_pairwise_ne, List.pairwise_map]
  apply List.Pairwise.filterMap _ _ hnodup
  intro task task' hne answer hanswer answer' hanswer' heq
  rw [Option.ite_none_right_eq_some] at hanswer hanswer'
  rw [deliveryTag_of_put? hanswer.2, deliveryTag_of_put? hanswer'.2] at heq
  exact hne (by rw [hanswer.1, hanswer'.1, heq])

theorem nodup_answers (h : s.Accounted)
    : (s.answers.map (fun entry => (entry.1, entry.2.1.deliveryTag))).Nodup := by
  rw [answers, List.map_flatMap, List.nodup_flatMap]
  constructor
  . intro consumer hconsumer
    rcases List.mem_iff_getElem?.mp hconsumer with ⟨i, hi⟩
    have hnodup := ((h.custody i consumer hi).map Answer.deliveryTag).nodup_iff.mpr (h.nodup_puts i)
    have hanswered : (consumer.answered.map (·.1.deliveryTag)).Nodup := by
      rw [List.map_append, List.map_map] at hnodup
      exact hnodup.of_append_left
    apply List.Nodup.of_map Prod.snd
    rw [List.map_map, List.map_map]
    exact hanswered
  . rw [List.pairwise_iff_getElem]
    intro i j hi hj hlt key hkey hkey'
    rcases List.mem_map.mp hkey with ⟨entry, hentry, rfl⟩
    rcases List.mem_map.mp hkey' with ⟨entry', hentry', heq⟩
    rcases List.mem_map.mp hentry with ⟨answered, hanswered, rfl⟩
    rcases List.mem_map.mp hentry' with ⟨answered', hanswered', rfl⟩
    simp only [Prod.mk.injEq] at heq
    have hi' := List.getElem?_eq_getElem hi
    have hj' := List.getElem?_eq_getElem hj
    rcases h.put_of_answered hi' hanswered with ⟨task, htask, hconsumer, hput⟩
    rcases h.put_of_answered hj' hanswered' with ⟨task', htask', hconsumer', hput'⟩
    have hsame : task = task' := by
      apply List.inj_on_of_nodup_map h.nodup htask htask'
      rw [hconsumer, hconsumer', channelOf_eq_some hi', channelOf_eq_some hj', ← heq.1,
        ← deliveryTag_of_put? hput, ← deliveryTag_of_put? hput', ← heq.2]
    rw [hsame] at hconsumer
    omega

theorem task_of_mem_answers (h : s.Accounted) {entry : ChannelId × Answer × Bool}
    (hentry : entry ∈ s.answers)
    : ∃ task ∈ s.tasks, s.channelOf task.consumer = some entry.1
        ∧ task.put? = some entry.2.1 := by
  rcases List.mem_flatMap.mp hentry with ⟨consumer, hconsumer, hmem⟩
  rcases List.mem_map.mp hmem with ⟨answered, hanswered, rfl⟩
  rcases List.mem_iff_getElem?.mp hconsumer with ⟨i, hi⟩
  rcases h.put_of_answered hi hanswered with ⟨task, htask, rfl, hput⟩
  exact ⟨task, htask, channelOf_eq_some hi, hput⟩

theorem countP_covers_le_one (h : s.Accounted) (channel : ChannelId) (deliveryTag : AmqpDeliveryTag)
    : s.answers.countP (fun entry => decide (entry.1 = channel) && entry.2.1.covers deliveryTag) ≤ 1
    := by
  calc s.answers.countP (fun entry => decide (entry.1 = channel) && entry.2.1.covers deliveryTag)
    _ = (s.answers.map (fun entry => (entry.1, entry.2.1.deliveryTag))).count
          (channel, deliveryTag) := by
      rw [List.count, List.countP_map]
      apply List.countP_congr
      intro entry hentry
      rcases h.task_of_mem_answers hentry with ⟨task, _, _, hput⟩
      rcases put?_eq_some_iff.mp hput with ⟨result, _, heq⟩
      rw [heq, covers_answer, ← heq]
      simp only [Bool.and_eq_true, decide_eq_true_eq, Function.comp_apply, beq_iff_eq,
        Prod.mk.injEq, eq_comm (a := deliveryTag)]
    _ ≤ 1 := List.nodup_iff_count_le_one.mp h.nodup_answers _

theorem put_answered (h : s.Accounted) (hk : s.tasks[k]? = some task)
    (hstate : task.state = .finished result true)
    : ∃ consumer, s.consumers[task.consumer]? = some consumer
        ∧ (ProcessingTask.response task.deliveryTag result ∈ consumer.responses
          ∨ ∃ sent, (ResponseTask.answer (ProcessingTask.response task.deliveryTag result), sent)
              ∈ consumer.answered) := by
  have htask := List.mem_of_getElem? hk
  have hi := List.getElem?_eq_getElem (h.known task htask)
  refine ⟨_, hi, ?_⟩
  have hput := put?_eq_some_iff.mpr ⟨result, hstate, rfl⟩
  have hmem := (h.custody _ _ hi).mem_iff.mpr (mem_puts_iff.mpr ⟨task, htask, rfl, hput⟩)
  rcases List.mem_append.mp hmem with hanswered | hresponses
  . rcases List.mem_map.mp hanswered with ⟨⟨answer, sent⟩, hentry, heq⟩
    subst heq
    exact Or.inr ⟨sent, hentry⟩
  . rcases List.mem_map.mp hresponses with ⟨response, hresponse, heq⟩
    rw [answer_injective heq] at hresponse
    exact Or.inl hresponse

theorem send_enabled (h : s.Accounted) (hk : s.tasks[k]? = some task)
    (hstate : task.state = .answering result)
    : ∃ consumer s', s.consumers[task.consumer]? = some consumer ∧ s.step (.send k) = some s'
        ∧ s'.consumers[task.consumer]? = some { consumer with
          responses := consumer.responses ++ [ProcessingTask.response task.deliveryTag result] } := by
  have hlt := h.known task (List.mem_of_getElem? hk)
  have hi := List.getElem?_eq_getElem hlt
  have hrunning := h.listening _ _ hi (isOpen_of_answering hk hstate)
  have hsend : s.step (.send k) = some {
      tasks := s.tasks.set k
        { task with state := .finished result s.consumers[task.consumer].running }
      consumers := s.consumers.set task.consumer { s.consumers[task.consumer] with
        responses := s.consumers[task.consumer].responses
          ++ [ProcessingTask.response task.deliveryTag result] }
    } := by
    simp only [Deliveries.step, Deliveries.send, hk, hstate, hi]
    rw [if_pos hrunning]
  exact ⟨_, _, hi, hsend, List.getElem?_set_self hlt⟩

theorem tasks_cases {label : Label} (h : s.Accounted) (hstep : s.step label = some s')
    : s'.tasks = s.tasks
      ∨ (∃ task, task.state = .executing ∧ s'.tasks = s.tasks ++ [task])
      ∨ (∃ k task result state, label = .returned k result ∧ s.tasks[k]? = some task
        ∧ task.state = .executing
        ∧ s'.tasks = s.tasks.set k { task with state }
        ∧ (state = .answering result ∨ state = .finished result false))
      ∨ ∃ k task result, label = .send k ∧ s.tasks[k]? = some task
        ∧ task.state = .answering result
        ∧ s'.tasks = s.tasks.set k { task with state := .finished result true } := by
  cases effect_of_step hstep with
  | new => exact Or.inl rfl
  | drop => exact Or.inl rfl
  | consume => exact Or.inr (Or.inl ⟨_, rfl, rfl⟩)
  | @answering k task result hk hstate =>
    exact Or.inr (Or.inr (Or.inl ⟨k, task, result, _, rfl, hk, hstate, rfl, Or.inl rfl⟩))
  | @discarded k task result hk hstate =>
    exact Or.inr (Or.inr (Or.inl ⟨k, task, result, _, rfl, hk, hstate, rfl, Or.inr rfl⟩))
  | @sent k task result consumer hk hstate hi hrunning =>
    rw [hrunning]
    exact Or.inr (Or.inr (Or.inr ⟨k, task, result, rfl, hk, hstate, rfl⟩))
  | lost hk hstate hi hrunning =>
    rw [h.listening _ _ hi (isOpen_of_answering hk hstate)] at hrunning
    contradiction
  | responded => exact Or.inl rfl
  | finished => exact Or.inl rfl

end Accounted

/-- The callback of the task has returned while there was a consumer to answer for. -/
def Answered (s : Deliveries) (k : Nat) (task : ProcessingTask) (result : Except ConsumeError Unit)
    : Prop :=
  ∃ state, s.tasks[k]? = some { task with state }
    ∧ (state = .answering result ∨ state = .finished result true)

theorem Answered.of_returned (hk : s.tasks[k]? = some task)
    (hi : s.consumers[task.consumer]? = some consumer) (halive : consumer.alive = true)
    (hstep : s.step (.returned k result) = some s') : s'.Answered k task result := by
  have hopen : s.isOpen task.consumer = true := isOpen_iff.mpr (Or.inl ⟨consumer, hi, halive⟩)
  simp only [Deliveries.step, returned, hk] at hstep
  split at hstep
  . rw [← Option.some.inj hstep, if_pos hopen]
    exact ⟨_, List.getElem?_set_self (List.getElem?_eq_some_iff.mp hk).1, Or.inl rfl⟩
  . contradiction

theorem Answered.step {label : Label} (h : s.Answered k task result) (hacc : s.Accounted)
    (hstep : s.step label = some s') : s'.Answered k task result := by
  rcases h with ⟨state, hk, hstate⟩
  rcases hacc.tasks_cases hstep with htasks | ⟨_, _, htasks⟩
    | ⟨k', task', _, _, _, hk', hexecuting, htasks, _⟩ | ⟨k', task', result', _, hk', hanswering, htasks⟩
  . exact ⟨state, htasks ▸ hk, hstate⟩
  . refine ⟨state, ?_, hstate⟩
    rw [htasks, List.getElem?_append_left (List.getElem?_eq_some_iff.mp hk).1]
    exact hk
  . have hne : k' ≠ k := by
      rintro rfl
      rw [hk, Option.some.injEq] at hk'
      rw [← hk'] at hexecuting
      rcases hstate with rfl | rfl <;> contradiction
    refine ⟨state, ?_, hstate⟩
    rw [htasks, List.getElem?_set_ne hne]
    exact hk
  . by_cases heq : k' = k
    . subst heq
      rw [hk, Option.some.injEq] at hk'
      rw [← hk'] at hanswering htasks
      rcases hstate with rfl | rfl
      . rw [ProcessingState.answering.injEq] at hanswering
        subst hanswering
        refine ⟨.finished result true, ?_, Or.inr rfl⟩
        rw [htasks, List.getElem?_set_self (List.getElem?_eq_some_iff.mp hk).1]
      . contradiction
    . refine ⟨state, ?_, hstate⟩
      rw [htasks, List.getElem?_set_ne heq]
      exact hk

theorem returned_mem {labels : List Label} (hrun : System.run step init labels = some s)
    : ∀ k (task : ProcessingTask) result, s.tasks[k]? = some task →
        task.state.result? = some result → Label.returned k result ∈ labels := by
  apply System.run_induction (P := fun labels s => ∀ k (task : ProcessingTask) result,
    s.tasks[k]? = some task → task.state.result? = some result → Label.returned k result ∈ labels)
    _ _ hrun
  . intro k task result hk
    simp [init] at hk
  . intro labels label s s' hrun ih hstep k task result hk hresult
    rcases (accounted_of_run hrun).tasks_cases hstep with htasks | ⟨_, hexecuting, htasks⟩
      | ⟨k', task', result', state, hlabel, hk', _, htasks, hstate⟩
      | ⟨k', task', result', _, hk', hanswering, htasks⟩
    . exact List.mem_append_left _ (ih k task result (htasks ▸ hk) hresult)
    . rw [htasks] at hk
      rcases getElem?_append_singleton_cases hk with hk | ⟨_, rfl⟩
      . exact List.mem_append_left _ (ih k task result hk hresult)
      . rw [hexecuting] at hresult
        contradiction
    . rw [htasks] at hk
      rcases getElem?_set_cases hk with ⟨rfl, rfl⟩ | ⟨_, hk⟩
      . have heq : result' = result := by
          rcases hstate with rfl | rfl <;> exact Option.some.inj hresult
        rw [hlabel, heq]
        exact List.mem_append_right _ List.mem_cons_self
      . exact List.mem_append_left _ (ih k task result hk hresult)
    . rw [htasks] at hk
      rcases getElem?_set_cases hk with ⟨rfl, rfl⟩ | ⟨_, hk⟩
      . exact List.mem_append_left _ (ih k task' result hk' (by rw [hanswering]; exact hresult))
      . exact List.mem_append_left _ (ih k task result hk hresult)

/--
However deliveries, callbacks, answers and new consumers follow each other, a delivery is answered at
most once, on its channel, with what its callback has returned, and the answer gets into the queue of
its consumer whenever that is still there when the callback returns.
-/
theorem responses_sound (labels : List Label) (hrun : System.run step init labels = some s)
    : (∀ channel deliveryTag,
        s.answers.countP (fun entry =>
          decide (entry.1 = channel) && entry.2.1.covers deliveryTag) ≤ 1)
      ∧ (∀ entry ∈ s.answers, ∃ (k : Nat) (task : ProcessingTask) (result : Except ConsumeError Unit),
        s.tasks[k]? = some task
          ∧ .returned k result ∈ labels
          ∧ s.channelOf task.consumer = some entry.1
          ∧ (∀ deliveryTag, entry.2.1.covers deliveryTag = true ↔ deliveryTag = task.deliveryTag)
          ∧ entry.2.1 = match result with
            | .ok () => .basicAck task.deliveryTag false
            | .error err => .basicNack task.deliveryTag false err.requeue)
      ∧ ∀ before after k result s', labels = before ++ .returned k result :: after →
        System.run step init before = some s' →
          ∀ (task : ProcessingTask) (consumer : AsyncConsumer), s'.tasks[k]? = some task →
            s'.consumers[task.consumer]? = some consumer → consumer.alive = true →
              let response := ProcessingTask.response task.deliveryTag result
              ∃ consumer, s.consumers[task.consumer]? = some consumer
                ∧ (response ∈ consumer.responses
                  ∨ (∃ sent, (ResponseTask.answer response, sent) ∈ consumer.answered)
                  ∨ ∃ s'', s.step (.send k) = some s'' ∧ s''.consumers[task.consumer]?
                      = some { consumer with responses := consumer.responses ++ [response] }) := by
  have h := accounted_of_run hrun
  refine ⟨h.countP_covers_le_one, ?_, ?_⟩
  . intro entry hentry
    rcases h.task_of_mem_answers hentry with ⟨task, htask, hchannel, hput⟩
    rcases put?_eq_some_iff.mp hput with ⟨result, hstate, hanswer⟩
    rcases List.mem_iff_getElem?.mp htask with ⟨k, hk⟩
    refine ⟨k, task, result, hk, ?_, hchannel, ?_, ?_⟩
    . apply returned_mem hrun k task result hk
      rw [hstate]
      rfl
    . intro deliveryTag
      rw [hanswer, covers_answer, deliveryTag_answer_response, decide_eq_true_eq]
    . rw [hanswer]
      cases result <;> rfl
  . intro before after k result s' hlabels hbefore task consumer hk hi halive response
    rw [hlabels, System.run_append_eq_some] at hrun
    rcases hrun with ⟨t, ht, hrun⟩
    rw [hbefore, Option.some.injEq] at ht
    subst ht
    rw [System.run_cons_eq_some] at hrun
    rcases hrun with ⟨t, hstep, hrun⟩
    have hacc := accounted_of_run hbefore
    have hanswered : s.Answered k task result := by
      have hboth : s.Accounted ∧ s.Answered k task result := by
        apply System.run_invariant (P := fun s => s.Accounted ∧ s.Answered k task result) _
          ⟨hacc.step hstep, Answered.of_returned hk hi halive hstep⟩ hrun
        intro s label s' h hstep
        exact ⟨h.1.step hstep, h.2.step h.1 hstep⟩
      exact hboth.2
    rcases hanswered with ⟨state, hk, rfl | rfl⟩
    . rcases h.send_enabled hk rfl with ⟨consumer, s'', hi, hsend, hput⟩
      exact ⟨consumer, hi, Or.inr (Or.inr ⟨s'', hsend, hput⟩)⟩
    . rcases h.put_answered hk rfl with ⟨consumer, hi, hresponse | hanswered⟩
      . exact ⟨consumer, hi, Or.inl hresponse⟩
      . exact ⟨consumer, hi, Or.inr (Or.inl hanswered)⟩

-- The first delivery to each of two consumers is answered after the second one replaced the first.
def replacement : List Label := [
  .new 0, .consume 0 1 [], .consume 0 2 [], .returned 0 (.ok ()), .drop 0,
  .new 1, .consume 1 1 [], .returned 2 (.error ⟨true⟩), .send 2, .send 0,
  .respond 1 true, .respond 0 true, .finish 0, .returned 1 (.ok ())
]

def replaced : Deliveries := (System.run step init replacement).getD init

theorem responses_sound_replaced
    : replaced.answers = [(0, .basicAck 1 false, true), (1, .basicNack 1 false true, true)]
        ∧ ∀ channel deliveryTag,
          replaced.answers.countP (fun entry =>
            decide (entry.1 = channel) && entry.2.1.covers deliveryTag) ≤ 1 := by
  have hrun : System.run step init replacement = some replaced := by
    rfl
  exact ⟨by decide, (responses_sound replacement hrun).1⟩

end Deliveries

end TomNotifier.Rabbitmq.Consumer
