import Mathlib
import TomNotifier.Rabbitmq.Consumer.Redeliveries
import TomNotifier.System.Progress

/-!
This module contains what a queue comes to when its consumers are left to themselves: channels are not
closed any more, and no callback asks for its message to be requeued.
-/

namespace TomNotifier.Rabbitmq.Consumer

section Weights

variable {α : Type} {l : List α} {k : Nat} {a : α}

theorem sum_map_set (f : α → Nat) (h : l[k]? = some a) (a' : α)
    : ((l.set k a').map f).sum + f a = (l.map f).sum + f a' := by
  rcases exists_set_eq h with ⟨before, after, hl, hset⟩
  rw [hset, hl]
  simp only [List.map_append, List.map_cons, List.sum_append, List.sum_cons]
  omega

theorem countP_lt_countP {p q : α → Bool} (hle : ∀ a ∈ l, q a = true → p a = true) (ha : a ∈ l)
    (hp : p a = true) (hq : q a = false) : l.countP q < l.countP p := by
  rcases List.append_of_mem ha with ⟨before, after, rfl⟩
  have hbefore : before.countP q ≤ before.countP p :=
    List.countP_mono_left fun a ha => hle a (List.mem_append_left _ ha)
  have hafter : after.countP q ≤ after.countP p :=
    List.countP_mono_left fun a ha => hle a (List.mem_append_right _ (List.mem_cons_of_mem _ ha))
  rw [List.countP_append, List.countP_append, List.countP_cons, List.countP_cons, hp, hq, if_pos rfl,
    if_neg Bool.false_ne_true]
  omega

theorem countP_not_contains_lt {β : Type} [BEq β] [LawfulBEq β] (f : α → β) {seen seen' : List β}
    (hsubset : seen ⊆ seen') (ha : a ∈ l) (hnew : f a ∉ seen) (hseen : f a ∈ seen')
    : l.countP (fun a => !seen'.contains (f a)) < l.countP (fun a => !seen.contains (f a)) := by
  have hiff : ∀ (seen : List β) (a : α), (!seen.contains (f a)) = true ↔ f a ∉ seen := by
    intro seen a
    rw [Bool.not_eq_true', Bool.eq_false_iff, Ne, List.contains_iff_mem]
  apply countP_lt_countP _ ha
  . exact (hiff seen a).mpr hnew
  . rw [Bool.not_eq_false', List.contains_iff_mem]
    exact hseen
  . intro a _ hunseen
    exact (hiff seen a).mpr fun hold => (hiff seen' a).mp hunseen (hsubset hold)

end Weights

/-- The steps of a task and of its answer. -/
def ProcessingTask.load (task : ProcessingTask) : Nat :=
  match task.state with
  | .executing => 4
  | .answering _ => 3
  | .finished _ _ => 0

def ProcessingTask.requeues (task : ProcessingTask) : Nat :=
  match task.state with
  | .answering result => (ResponseTask.answer (response task.deliveryTag result)).requeues.toNat
  | _ => 0

namespace Deliveries

variable {s s' : Deliveries} {k i : Nat} {task : ProcessingTask} {consumer : AsyncConsumer}

/-- Something that is counted for each task and each response that has not been answered. -/
def total (f : ProcessingTask → Nat) (g : DeliveryResponse → Nat) (s : Deliveries) : Nat :=
  (s.tasks.map f).sum + (s.consumers.map (fun consumer => (consumer.responses.map g).sum)).sum

theorem total_set_task (f : ProcessingTask → Nat) (g : DeliveryResponse → Nat)
    (hk : s.tasks[k]? = some task) (task' : ProcessingTask)
    : total f g { s with tasks := s.tasks.set k task' } + f task = s.total f g + f task' := by
  have hsum := sum_map_set f hk task'
  unfold total
  dsimp only
  omega

theorem total_set_consumer (f : ProcessingTask → Nat) (g : DeliveryResponse → Nat)
    (hi : s.consumers[i]? = some consumer) (consumer' : AsyncConsumer)
    : total f g { s with consumers := s.consumers.set i consumer' } + (consumer.responses.map g).sum
        = s.total f g + (consumer'.responses.map g).sum := by
  have hsum := sum_map_set (fun consumer => (consumer.responses.map g).sum) hi consumer'
  unfold total
  dsimp only at hsum ⊢
  omega

/-- Only the answers of consumers that have been dropped are discarded. -/
def Discarding (s : Deliveries) : Prop :=
  ∀ task ∈ s.tasks, ∀ result, task.state = .finished result false →
    ∀ consumer, s.consumers[task.consumer]? = some consumer → consumer.alive = false

theorem discarding_init : init.Discarding := by
  intro task htask
  simp [init] at htask

theorem alive_step {label : Label} (hstep : s.step label = some s') {consumer' : AsyncConsumer}
    (hi : s.consumers[i]? = some consumer) (hi' : s'.consumers[i]? = some consumer')
    (halive : consumer'.alive = true) : consumer.alive = true := by
  have hset : ∀ {j : Nat} {c c' : AsyncConsumer}, s.consumers[j]? = some c →
      s'.consumers = s.consumers.set j c' → (c'.alive = true → c.alive = true) →
      consumer.alive = true := by
    intro j c c' hj hconsumers hkeeps
    rw [hconsumers] at hi'
    rcases getElem?_set_cases hi' with ⟨rfl, rfl⟩ | ⟨_, hi'⟩
    . rw [hi, Option.some.injEq] at hj
      exact hj ▸ hkeeps halive
    . rw [hi, Option.some.injEq] at hi'
      exact hi' ▸ halive
  have hsame : s'.consumers = s.consumers → consumer.alive = true := by
    intro hconsumers
    rw [hconsumers, hi, Option.some.injEq] at hi'
    exact hi' ▸ halive
  cases effect_of_step hstep with
  | new =>
    rw [List.getElem?_append_left (List.getElem?_eq_some_iff.mp hi).1, hi, Option.some.injEq] at hi'
    exact hi' ▸ halive
  | drop hj =>
    apply hset hj rfl
    intro halive
    contradiction
  | consume => exact hsame rfl
  | answering => exact hsame rfl
  | discarded => exact hsame rfl
  | sent _ _ hj => exact hset hj rfl id
  | lost => exact hsame rfl
  | responded hj => exact hset hj rfl id
  | finished hj => exact hset hj rfl id

theorem Discarding.step (h : s.Discarding) (hacc : s.Accounted) {label : Label}
    (hstep : s.step label = some s') : s'.Discarding := by
  intro task htask result hstate consumer' hi'
  have hold : ∀ {i : Nat} {c : AsyncConsumer}, s.consumers[i]? = some c → c.alive = false →
      s'.consumers[i]? = some consumer' → consumer'.alive = false := by
    intro i c hi hdead hi'
    by_contra halive
    rw [alive_step hstep hi hi' (Bool.eq_true_of_not_eq_false halive)] at hdead
    contradiction
  have hkept : task ∈ s.tasks → consumer'.alive = false := by
    intro htask
    have hi := List.getElem?_eq_getElem (hacc.known task htask)
    exact hold hi (h task htask result hstate _ hi) hi'
  have hset : ∀ {k : Nat} {task' : ProcessingTask} {state : ProcessingState},
      s'.tasks = s.tasks.set k { task' with state } → state ≠ .finished result false →
      consumer'.alive = false := by
    intro k task' state htasks hne
    rw [htasks] at htask
    rcases List.mem_or_eq_of_mem_set htask with htask | rfl
    . exact hkept htask
    . exact absurd hstate hne
  cases effect_of_step hstep with
  | new => exact hkept htask
  | drop => exact hkept htask
  | consume =>
    rcases List.mem_append.mp htask with htask | htask
    . exact hkept htask
    . rw [List.mem_singleton.mp htask] at hstate
      contradiction
  | answering => exact hset rfl (by simp)
  | @discarded k task' _ hk _ hclosed =>
    rcases List.mem_or_eq_of_mem_set htask with htask | rfl
    . exact hkept htask
    . by_contra halive
      have hopen : s.isOpen task'.consumer = true :=
        isOpen_iff.mpr (Or.inl ⟨consumer', hi', Bool.eq_true_of_not_eq_false halive⟩)
      rw [hclosed] at hopen
      contradiction
  | sent _ _ _ hrunning => exact hset rfl (by simp [hrunning])
  | lost hk hstate' hj hrunning =>
    rw [hacc.listening _ _ hj (isOpen_of_answering hk hstate')] at hrunning
    contradiction
  | responded => exact hkept htask
  | finished => exact hkept htask

theorem consumer_step {label : Label} (hstep : s.step label = some s')
    (hdrop : ∀ i, label ≠ .drop i) (hi : s.consumers[i]? = some consumer)
    : ∃ consumer', s'.consumers[i]? = some consumer'
        ∧ consumer'.channel = consumer.channel
        ∧ consumer'.alive = consumer.alive
        ∧ (consumer'.answered = consumer.answered
          ∨ ∃ answer sent, label = .respond i sent
            ∧ consumer'.answered = consumer.answered ++ [(answer, sent)]) := by
  have hlt := (List.getElem?_eq_some_iff.mp hi).1
  have hset : ∀ {j : Nat} {c c' : AsyncConsumer}, s.consumers[j]? = some c →
      c'.channel = c.channel → c'.alive = c.alive →
      (c'.answered = c.answered ∨ ∃ answer sent, label = .respond j sent
        ∧ c'.answered = c.answered ++ [(answer, sent)]) →
      ∃ consumer', (s.consumers.set j c')[i]? = some consumer'
        ∧ consumer'.channel = consumer.channel ∧ consumer'.alive = consumer.alive
        ∧ (consumer'.answered = consumer.answered ∨ ∃ answer sent, label = .respond i sent
          ∧ consumer'.answered = consumer.answered ++ [(answer, sent)]) := by
    intro j c c' hj hchannel halive hanswered
    by_cases heq : j = i
    . subst heq
      rw [hi, Option.some.injEq] at hj
      subst hj
      exact ⟨c', List.getElem?_set_self hlt, hchannel, halive, hanswered⟩
    . exact ⟨consumer, by rw [List.getElem?_set_ne heq, hi], rfl, rfl, Or.inl rfl⟩
  cases effect_of_step hstep with
  | new => exact ⟨consumer, by rw [List.getElem?_append_left hlt, hi], rfl, rfl, Or.inl rfl⟩
  | drop => exact absurd rfl (hdrop _)
  | consume => exact ⟨consumer, hi, rfl, rfl, Or.inl rfl⟩
  | answering => exact ⟨consumer, hi, rfl, rfl, Or.inl rfl⟩
  | discarded => exact ⟨consumer, hi, rfl, rfl, Or.inl rfl⟩
  | sent _ _ hj => exact hset hj rfl rfl (Or.inl rfl)
  | lost => exact ⟨consumer, hi, rfl, rfl, Or.inl rfl⟩
  | responded hj => exact hset hj rfl rfl (Or.inr ⟨_, _, rfl, rfl⟩)
  | finished hj => exact hset hj rfl rfl (Or.inl rfl)

/-- No task executes its callback again. -/
theorem executing_of_step {label : Label} (hstep : s.step label = some s') (hlt : k < s.tasks.length)
    {task' : ProcessingTask} (hk : s'.tasks[k]? = some task') (hexecuting : task'.state = .executing)
    : s.tasks[k]? = some task' := by
  have hset : ∀ {j : Nat} {task : ProcessingTask} {state : ProcessingState},
      s'.tasks = s.tasks.set j { task with state } → state ≠ .executing →
      s.tasks[k]? = some task' := by
    intro j task state htasks hne
    rw [htasks] at hk
    rcases getElem?_set_cases hk with ⟨_, rfl⟩ | ⟨_, hold⟩
    . exact absurd hexecuting hne
    . exact hold
  cases effect_of_step hstep with
  | new => exact hk
  | drop => exact hk
  | consume => rwa [List.getElem?_append_left hlt] at hk
  | answering => exact hset rfl (by simp)
  | discarded => exact hset rfl (by simp)
  | sent => exact hset rfl (by simp)
  | lost => exact hset rfl (by simp)
  | responded => exact hk
  | finished => exact hk

theorem exists_executing_of_returned {result : Except ConsumeError Unit}
    (hstep : s.step (.returned k result) = some s')
    : ∃ task, s.tasks[k]? = some task ∧ task.state = .executing := by
  cases effect_of_step hstep with
  | answering hk hstate => exact ⟨_, hk, hstate⟩
  | discarded hk hstate => exact ⟨_, hk, hstate⟩

end Deliveries

namespace Queue

/-- Nothing fails but what is sent on a closed channel, and nothing is requeued. -/
def Cooperates (s : Queue) : QueueLabel → Prop
  | .deliver i _ => ∃ consumer, s.deliveries.consumers[i]? = some consumer ∧ consumer.alive = true
  | .receive _ => True
  | .client (.consume _ _ _) => True
  | .client (.returned _ result) => result ≠ .error ⟨true⟩
  | .client (.send _) => True
  | .client (.respond i sent) =>
    sent = true ∨ ∃ consumer, s.deliveries.consumers[i]? = some consumer ∧ consumer.channel ∈ s.closed
  | _ => False

/-- The consumers of all that is unacked are still there, and none of their answers to it was lost. -/
def Settled (s : Queue) : Prop :=
  ∀ d ∈ s.unacked, ∃ consumer, s.deliveries.consumers[d.consumer]? = some consumer
    ∧ consumer.alive = true
    ∧ ∀ entry ∈ consumer.answered, entry.1.covers d.deliveryTag = true → entry.2 = true

/-- There is a consumer the broker can deliver to. -/
def Listening (s : Queue) : Prop :=
  ∃ (i : Nat) (consumer : AsyncConsumer), s.deliveries.consumers[i]? = some consumer
    ∧ consumer.alive = true ∧ consumer.channel ∉ s.closed

/-- There is a channel on which every delivery tag has been used. -/
def Exhausted (s : Queue) : Prop :=
  ∃ channel, ∀ deliveryTag, (channel, deliveryTag) ∈ s.delivered.map Delivery.key

/-- What has not got to its consumer yet. -/
def undelivered (delivered : List Delivery) (handed : List (Nat × AmqpDeliveryTag × Bytes)) : Nat :=
  delivered.countP (fun d => !handed.contains d.handed)

def load (s : Queue) : Nat :=
  -- A message has to be delivered and taken in before the steps of its task.
  6 * s.ready.length + 5 * undelivered s.delivered s.deliveries.handed
    + s.deliveries.total ProcessingTask.load (fun _ => 2) + s.answering.length

def requeues (s : Queue) : Nat :=
  s.deliveries.total ProcessingTask.requeues
      (fun response => (ResponseTask.answer response).requeues.toNat)
    + (s.answering.map (·.2.requeues.toNat)).sum

/-- A message that is put back is delivered anew, but no more are put back than there are now. -/
def measure (s : Queue) : Nat ×ₗ Nat := toLex (s.requeues, s.load)

variable {s s' : Queue} {k i : Nat} {entry : ChannelId × Answer} {label : QueueLabel}

/-- It takes as many deliveries as there are delivery tags. -/
theorem Exhausted.le_length (h : s.Exhausted) : UInt64.size ≤ s.delivered.length := by
  rcases h with ⟨channel, hall⟩
  let key : Fin UInt64.size → ChannelId × AmqpDeliveryTag := fun i => (channel, UInt64.ofFin i)
  have hinjective : Function.Injective key := by
    intro i j heq
    exact congrArg (fun key => key.2.toFin) heq
  have hsubset : Finset.univ.image key ⊆ (s.delivered.map Delivery.key).toFinset := by
    intro entry hentry
    rcases Finset.mem_image.mp hentry with ⟨i, _, rfl⟩
    exact List.mem_toFinset.mpr (hall (UInt64.ofFin i))
  calc UInt64.size
      = (Finset.univ.image key).card := by
        rw [Finset.card_image_of_injective _ hinjective, Finset.card_univ, Fintype.card_fin]
    _ ≤ (s.delivered.map Delivery.key).toFinset.card := Finset.card_le_card hsubset
    _ ≤ (s.delivered.map Delivery.key).length := List.toFinset_card_le _
    _ = s.delivered.length := List.length_map _

theorem measure_lt (hrequeues : s'.requeues ≤ s.requeues) (hload : s'.load < s.load)
    : s'.measure < s.measure := by
  rw [measure, measure, Prod.Lex.toLex_lt_toLex]
  rcases Nat.lt_or_eq_of_le hrequeues with hlt | heq
  . exact Or.inl hlt
  . exact Or.inr ⟨heq, hload⟩

theorem lowers_deliver {message : QueuedMessage} {ready : List QueuedMessage} {d : Delivery}
    (hready : s.ready = message :: ready)
    : measure { s with
        ready
        unacked := s.unacked ++ [d]
        delivered := s.delivered ++ [d]
      } < s.measure := by
  refine measure_lt (Nat.le_refl _) ?_
  have hone : [d].countP (fun d => !s.deliveries.handed.contains d.handed) ≤ 1 :=
    List.countP_le_length
  simp only [load, undelivered, hready, List.length_cons, List.countP_append]
  omega

theorem lowers_receive (hk : s.answering[k]? = some entry) (hdeliveries : s'.deliveries = s.deliveries)
    (hanswering : s'.answering = s.answering.eraseIdx k) (hdelivered : s'.delivered = s.delivered)
    (hready : entry.2.requeues = true ∨ s'.ready = s.ready) : s'.measure < s.measure := by
  rcases List.getElem?_eq_some_iff.mp hk with ⟨hlt, rfl⟩
  have hperm := List.getElem_cons_eraseIdx_perm hlt
  have hsum := (hperm.map (·.2.requeues.toNat)).sum_nat
  have hlength := hperm.length_eq
  rw [List.map_cons, List.sum_cons] at hsum
  rw [List.length_cons] at hlength
  have hrequeues : s'.requeues + s.answering[k].2.requeues.toNat = s.requeues := by
    rw [requeues, requeues, hdeliveries, hanswering]
    omega
  rcases hready with hrequeue | hready
  . rw [measure, measure, Prod.Lex.toLex_lt_toLex]
    rw [hrequeue, Bool.toNat_true] at hrequeues
    exact Or.inl (by dsimp only; omega)
  . apply measure_lt (by omega)
    rw [load, load, hready, hdeliveries, hanswering, hdelivered]
    omega

theorem lowers_settle (h : s.Kept) (hk : s.answering[k]? = some entry) (hopen : entry.1 ∉ s.closed)
    : ((s.arrive k entry).settle entry.1 entry.2).measure < s.measure := by
  rcases h.exists_unacked (List.mem_of_getElem? hk) hopen with ⟨d, hd, hanswered⟩
  simp only [settle]
  split
  . next hnil =>
    exact absurd hnil (List.ne_nil_of_mem (List.mem_filter.mpr ⟨hd, hanswered⟩))
  split
  . next hrequeues => exact lowers_receive hk rfl rfl rfl (Or.inl hrequeues)
  . exact lowers_receive hk rfl rfl rfl (Or.inr rfl)

section

variable {deliveries : Deliveries} {task task' : ProcessingTask} {answering : List (ChannelId × Answer)}

theorem lowers_task {state : ProcessingState} (hk : s.deliveries.tasks[k]? = some task)
    (htask' : task' = { task with state }) (hload : task'.load < task.load)
    (hrequeues : task'.requeues ≤ task.requeues)
    : measure { s with
        deliveries := { s.deliveries with tasks := s.deliveries.tasks.set k task' }
        answering := s.answering ++ []
      } < s.measure := by
  have hloads := Deliveries.total_set_task ProcessingTask.load (fun _ => 2) hk task'
  have hrequeueds := Deliveries.total_set_task ProcessingTask.requeues
    (fun response => (ResponseTask.answer response).requeues.toNat) hk task'
  rw [List.append_nil]
  apply measure_lt
  . simp only [Queue.requeues]
    omega
  . have hhanded : Deliveries.handed { s.deliveries with tasks := s.deliveries.tasks.set k task' }
        = s.deliveries.handed := map_set_of_eq hk (by rw [htask'])
    simp only [load, hhanded]
    omega

theorem lowers_consume {i : Nat} {consumer : AsyncConsumer}
    {deliveryTag : AmqpDeliveryTag} {content : Bytes}
    (hi : s.deliveries.consumers[i]? = some consumer)
    (hnew : (some consumer.channel, deliveryTag) ∉ s.deliveries.delivered)
    (hmem : (i, deliveryTag, content) ∈ s.delivered.map Delivery.handed)
    : measure { s with
        deliveries := { s.deliveries with
          tasks := s.deliveries.tasks ++ [⟨i, deliveryTag, content, .executing⟩] }
        answering := s.answering ++ []
      } < s.measure := by
  rw [List.append_nil]
  apply measure_lt
  . simp [Queue.requeues, Deliveries.total, ProcessingTask.requeues]
  . have hundelivered : undelivered s.delivered (s.deliveries.handed ++ [(i, deliveryTag, content)])
        < undelivered s.delivered s.deliveries.handed := by
      rcases List.mem_map.mp hmem with ⟨d, hd, hhanded⟩
      apply countP_not_contains_lt Delivery.handed (List.subset_append_left _ _) hd
      . rw [hhanded]
        intro hold
        rcases List.mem_map.mp hold with ⟨task, htask, heq⟩
        simp only [Prod.mk.injEq] at heq
        apply hnew
        rw [← Deliveries.channelOf_eq_some hi, ← heq.1, ← heq.2.1]
        exact List.mem_map_of_mem htask
      . rw [hhanded]
        exact List.mem_append_right _ List.mem_cons_self
    have hhanded : Deliveries.handed { s.deliveries with
        tasks := s.deliveries.tasks ++ [⟨i, deliveryTag, content, .executing⟩] }
        = s.deliveries.handed ++ [(i, deliveryTag, content)] := by
      rw [Deliveries.handed, List.map_append]
      rfl
    have htotal : Deliveries.total ProcessingTask.load (fun _ => 2) { s.deliveries with
        tasks := s.deliveries.tasks ++ [⟨i, deliveryTag, content, .executing⟩] }
        = s.deliveries.total ProcessingTask.load (fun _ => 2) + 4 := by
      simp only [Deliveries.total, List.map_append, List.sum_append, List.map_cons, List.map_nil,
        List.sum_cons, List.sum_nil, ProcessingTask.load]
      omega
    simp only [load, htotal, hhanded]
    omega

theorem lowers_send {consumer : AsyncConsumer} {result : Except ConsumeError Unit}
    (hk : s.deliveries.tasks[k]? = some task) (hstate : task.state = .answering result)
    (hi : s.deliveries.consumers[task.consumer]? = some consumer)
    : measure { s with
        deliveries := {
          tasks := s.deliveries.tasks.set k { task with state := .finished result consumer.running }
          consumers := s.deliveries.consumers.set task.consumer { consumer with
            responses := consumer.responses ++ [ProcessingTask.response task.deliveryTag result] }
        }
        answering := s.answering ++ []
      } < s.measure := by
  rw [List.append_nil]
  generalize htask' : { task with state := .finished result consumer.running } = task'
  generalize hconsumer' : { consumer with
    responses := consumer.responses ++ [ProcessingTask.response task.deliveryTag result] } = consumer'
  have htotal : ∀ f g, Deliveries.total f g
        ⟨s.deliveries.consumers.set task.consumer consumer', s.deliveries.tasks.set k task'⟩ + f task
      = s.deliveries.total f g + f task' + g (ProcessingTask.response task.deliveryTag result) := by
    intro f g
    have htasks := sum_map_set f hk task'
    have hconsumers := sum_map_set (fun consumer => (consumer.responses.map g).sum) hi consumer'
    simp only [← hconsumer', List.map_append, List.sum_append, List.map_cons, List.map_nil,
      List.sum_cons, List.sum_nil] at hconsumers
    simp only [Deliveries.total, ← hconsumer']
    omega
  have hload : task.load = 3 ∧ task'.load = 0 := by
    rw [ProcessingTask.load, ProcessingTask.load, hstate, ← htask']
    exact ⟨rfl, rfl⟩
  have hrequeues : task.requeues
        = (ResponseTask.answer (ProcessingTask.response task.deliveryTag result)).requeues.toNat
      ∧ task'.requeues = 0 := by
    rw [ProcessingTask.requeues, ProcessingTask.requeues, hstate, ← htask']
    exact ⟨rfl, rfl⟩
  apply measure_lt
  . have := htotal ProcessingTask.requeues
      (fun response => (ResponseTask.answer response).requeues.toNat)
    simp only [Queue.requeues]
    omega
  . have := htotal ProcessingTask.load (fun _ => 2)
    have hhanded : Deliveries.handed ⟨s.deliveries.consumers.set task.consumer consumer',
        s.deliveries.tasks.set k task'⟩ = s.deliveries.handed := map_set_of_eq hk (by rw [← htask'])
    simp only [load, hhanded]
    omega

theorem lowers_respond {consumer : AsyncConsumer} {response : DeliveryResponse}
    {responses : List DeliveryResponse} {sent : Bool}
    (hi : s.deliveries.consumers[i]? = some consumer)
    (hresponses : consumer.responses = response :: responses)
    : measure { s with
        deliveries := { s.deliveries with
          consumers := s.deliveries.consumers.set i { consumer with
            responses
            answered := consumer.answered ++ [(ResponseTask.answer response, sent)]
          }
        }
        answering := s.answering ++ s.deliveries.sends (.respond i sent)
      } < s.measure := by
  have hsends : s.deliveries.sends (.respond i sent)
      = if sent then [(consumer.channel, ResponseTask.answer response)] else [] := by
    cases sent with
    | false => rfl
    | true => simp only [Deliveries.sends, hi, hresponses, if_pos]
  have htotal : ∀ f g, _ := fun f g => Deliveries.total_set_consumer f g hi { consumer with
    responses
    answered := consumer.answered ++ [(ResponseTask.answer response, sent)]
  }
  simp only [hresponses, List.map_cons, List.sum_cons] at htotal
  rw [hsends]
  apply measure_lt
  . have := htotal ProcessingTask.requeues
      (fun response => (ResponseTask.answer response).requeues.toNat)
    simp only [Queue.requeues, List.map_append, List.sum_append]
    cases sent with
    | false =>
      simp only [Bool.false_eq_true, if_false, List.map_nil, List.sum_nil]
      omega
    | true =>
      simp only [if_true, List.map_cons, List.map_nil, List.sum_cons, List.sum_nil]
      omega
  . have := htotal ProcessingTask.load (fun _ => 2)
    have hhanded : Deliveries.handed { s.deliveries with
        consumers := s.deliveries.consumers.set i { consumer with
          responses
          answered := consumer.answered ++ [(ResponseTask.answer response, sent)]
        }
      } = s.deliveries.handed := rfl
    simp only [load, hhanded, List.length_append]
    cases sent with
    | false =>
      simp only [Bool.false_eq_true, if_false, List.length_nil]
      omega
    | true =>
      simp only [if_true, List.length_singleton]
      omega

theorem lowers_client (h : s.Kept) {label : Deliveries.Label} (hcooperates : s.Cooperates (.client label))
    (hhanded : ∀ i deliveryTag content, label = .consume i deliveryTag content →
      (i, deliveryTag, content) ∈ s.delivered.map Delivery.handed)
    (hstep : s.deliveries.step label = some deliveries)
    : measure { s with deliveries, answering := s.answering ++ s.deliveries.sends label }
        < s.measure := by
  cases Deliveries.effect_of_step hstep with
  | consume hi _ hnew => exact lowers_consume hi hnew (hhanded _ _ _ rfl)
  | @answering k task result hk hstate =>
    apply lowers_task hk rfl
    . simp only [ProcessingTask.load, hstate]
      omega
    . have hrequeues : (ResponseTask.answer
          (ProcessingTask.response task.deliveryTag result)).requeues = false := by
        rcases result with ⟨⟨_ | _⟩⟩ | _
        . rfl
        . exact absurd rfl hcooperates
        . rfl
      simp only [ProcessingTask.requeues, hstate, hrequeues, Bool.toNat_false, Nat.le_refl]
  | discarded hk hstate =>
    apply lowers_task hk rfl
    . simp only [ProcessingTask.load, hstate]
      omega
    . simp only [ProcessingTask.requeues, hstate, Nat.le_refl]
  | sent hk hstate hi => exact lowers_send hk hstate hi
  | lost hk hstate hi hrunning =>
    rw [h.accounted.listening _ _ hi (Deliveries.isOpen_of_answering hk hstate)] at hrunning
    contradiction
  | responded hi _ hresponses => exact lowers_respond hi hresponses
  | new => contradiction
  | drop => contradiction
  | finished => contradiction

end

theorem lowers_of_step (h : s.Kept) (hcooperates : s.Cooperates label)
    (hstep : s.step label = some s') : s'.measure < s.measure := by
  cases effect_of_step hstep with
  | publish => contradiction
  | deliver _ hready => exact lowers_deliver hready
  | close => contradiction
  | ignored hk => exact lowers_receive hk rfl rfl rfl (Or.inr rfl)
  | settled hk hopen => exact lowers_settle h hk hopen
  | client hhanded hdeliveries => exact lowers_client h hcooperates hhanded hdeliveries

theorem Kept.delivery_of_mem_answered (h : s.Kept) {consumer : AsyncConsumer}
    (hi : s.deliveries.consumers[i]? = some consumer) {entry : Answer × Bool}
    (hentry : entry ∈ consumer.answered) {deliveryTag : AmqpDeliveryTag}
    (hcovers : entry.1.covers deliveryTag = true)
    : (consumer.channel, deliveryTag) ∈ s.delivered.map Delivery.key := by
  rcases h.accounted.put_of_answered hi hentry with ⟨task, htask, rfl, hput⟩
  rcases List.mem_map.mp (h.handed (List.mem_map_of_mem htask)) with ⟨d, hd, hhanded⟩
  simp only [Delivery.handed, Prod.mk.injEq] at hhanded
  have hchannel := h.channel d hd
  rw [hhanded.1, Deliveries.channelOf_eq_some hi, Option.some.injEq] at hchannel
  rcases Deliveries.put?_eq_some_iff.mp hput with ⟨result, _, hanswer⟩
  rw [hanswer, covers_answer, decide_eq_true_eq, deliveryTag_answer_response] at hcovers
  rw [hchannel, hcovers, ← hhanded.2.1]
  exact List.mem_map_of_mem hd

theorem unacked_subset_settle {channel : ChannelId} {answer : Answer}
    : (s.settle channel answer).unacked ⊆ s.unacked := by
  simp only [settle]
  split
  . exact List.filter_subset_self _
  split
  . exact List.filter_subset_self _
  . exact List.filter_subset_self _

theorem Settled.step (h : s.Settled) (hkept : s.Kept) (hcooperates : s.Cooperates label)
    (hstep : s.step label = some s') : s'.Settled := by
  cases effect_of_step hstep with
  | publish => contradiction
  | @deliver i consumer deliveryTag message ready hi _ hopen hnew =>
    rcases hcooperates with ⟨consumer', hi', halive⟩
    rw [hi, Option.some.injEq] at hi'
    subst hi'
    intro d hd
    rcases List.mem_append.mp hd with hd | hd
    . exact h d hd
    . rw [List.mem_singleton.mp hd]
      refine ⟨consumer, hi, halive, ?_⟩
      intro entry hentry hcovers
      exact absurd (hkept.delivery_of_mem_answered hi hentry hcovers) hnew
  | close => contradiction
  | ignored => exact h
  | settled hk hopen =>
    intro d hd
    rcases deliveries_step hstep with ⟨_, heq⟩ | ⟨_, hclient, _⟩
    . rw [heq]
      exact h d (unacked_subset_settle (s := s.arrive _ _) hd)
    . contradiction
  | @client label deliveries _ hdeliveries =>
    intro d hd
    rcases h d hd with ⟨consumer, hi, halive, hanswered⟩
    have hdrop : ∀ i, label ≠ .drop i := by
      rintro i rfl
      contradiction
    rcases Deliveries.consumer_step hdeliveries hdrop hi with ⟨consumer', hi', hchannel, halive', hcases⟩
    refine ⟨consumer', hi', halive'.trans halive, ?_⟩
    intro entry hentry hcovers
    rcases hcases with hsame | ⟨answer, sent, hlabel, hnew⟩
    . exact hanswered entry (hsame ▸ hentry) hcovers
    . rw [hnew, List.mem_append, List.mem_singleton] at hentry
      rcases hentry with hentry | rfl
      . exact hanswered entry hentry hcovers
      . subst hlabel
        rcases hcooperates with hsent | ⟨consumer'', hi'', hclosed⟩
        . exact hsent
        . rw [hi, Option.some.injEq] at hi''
          subst hi''
          have hunacked := (hkept.unacked d).mp hd
          have hchannel := hkept.channel d hunacked.1
          rw [Deliveries.channelOf_eq_some hi, Option.some.injEq] at hchannel
          exact absurd (hchannel ▸ hclosed) hunacked.2.1

theorem Listening.step (h : s.Listening) (hkept : s.Kept) (hcooperates : s.Cooperates label)
    (hstep : s.step label = some s') : s'.Listening := by
  rcases h with ⟨i, consumer, hi, halive, hopen⟩
  cases label with
  | publish => contradiction
  | deliver =>
    cases effect_of_step hstep with
    | deliver => exact ⟨i, consumer, hi, halive, hopen⟩
  | close => contradiction
  | receive k =>
    rcases deliveries_step hstep with ⟨_, heq⟩ | ⟨_, hclient, _⟩
    . refine ⟨i, consumer, heq ▸ hi, halive, ?_⟩
      rw [hkept.closed_receive hstep]
      exact hopen
    . contradiction
  | client label =>
    cases effect_of_step hstep with
    | client _ hdeliveries =>
      have hdrop : ∀ i, label ≠ .drop i := by
        rintro i rfl
        contradiction
      rcases Deliveries.consumer_step hdeliveries hdrop hi with ⟨consumer', hi', hchannel, halive', _⟩
      exact ⟨i, consumer', hi', halive'.trans halive, hchannel ▸ hopen⟩

structure Draining (s : Queue) : Prop where
  kept : s.Kept
  discarding : s.deliveries.Discarding
  settled : s.Settled
  listening : s.Listening

theorem discarding_step (h : s.deliveries.Discarding) (hkept : s.Kept)
    (hstep : s.step label = some s') : s'.deliveries.Discarding := by
  rcases deliveries_step hstep with ⟨_, heq⟩ | ⟨label', _, hdeliveries⟩
  . rw [heq]
    exact h
  . exact h.step hkept.accounted hdeliveries

theorem progress : System.Progress step Cooperates Draining measure where
  invariant _ _ _ h hcooperates hstep := {
    kept := h.kept.step hstep
    discarding := discarding_step h.discarding h.kept hstep
    settled := h.settled.step h.kept hcooperates hstep
    listening := h.listening.step h.kept hcooperates hstep
  }
  lowers _ _ _ h hcooperates hstep := lowers_of_step h.kept hcooperates hstep

namespace Draining

theorem ready_eq_nil (h : s.Draining) (hquiescent : System.Quiescent step Cooperates s)
    : s.ready = [] ∨ s.Exhausted := by
  rcases h.listening with ⟨i, consumer, hi, halive, hopen⟩
  cases hready : s.ready with
  | nil => exact Or.inl rfl
  | cons message ready =>
    refine Or.inr ⟨consumer.channel, ?_⟩
    intro deliveryTag
    by_contra hnew
    have hdeliver := hquiescent (.deliver i deliveryTag) ⟨consumer, hi, halive⟩
    simp only [Queue.step, Queue.deliver, hi, hready, hopen, hnew, not_false_eq_true, and_self,
      if_true] at hdeliver
    contradiction

/-- A delivery gets to its consumer. -/
theorem exists_task (h : s.Draining) (hquiescent : System.Quiescent step Cooperates s) {d : Delivery}
    (hd : d ∈ s.unacked)
    : ∃ (k : Nat) (task : ProcessingTask), s.deliveries.tasks[k]? = some task
        ∧ (task.consumer, task.deliveryTag, task.content) = d.handed := by
  by_contra hnone
  have hunacked := (h.kept.unacked d).mp hd
  have hchannel := h.kept.channel d hunacked.1
  rcases h.settled d hd with ⟨consumer, hi, halive, _⟩
  rw [Deliveries.channelOf_eq_some hi, Option.some.injEq] at hchannel
  have hnew : (some consumer.channel, d.deliveryTag) ∉ s.deliveries.delivered := by
    intro hmem
    rcases List.mem_map.mp hmem with ⟨task, htask, heq⟩
    rw [Prod.mk.injEq] at heq
    rcases List.mem_map.mp (h.kept.handed (List.mem_map_of_mem htask)) with ⟨d', hd', hhanded⟩
    have hchannel' := h.kept.channel d' hd'
    have hsame := hhanded
    simp only [Delivery.handed, Prod.mk.injEq] at hsame
    rw [hsame.1, heq.1, Option.some.injEq] at hchannel'
    have hkey : d'.key = d.key := by
      rw [Delivery.key, Delivery.key, ← hchannel', hchannel, hsame.2.1, heq.2]
    rw [h.kept.eq_of_key hd' hunacked.1 hkey] at hhanded
    rcases List.mem_iff_getElem?.mp htask with ⟨k, hk⟩
    exact hnone ⟨k, task, hk, hhanded.symm⟩
  have hconsume := hquiescent (.client (.consume d.consumer d.deliveryTag d.message.content)) trivial
  have hmem : (d.consumer, d.deliveryTag, d.message.content) ∈ s.delivered.map Delivery.handed :=
    List.mem_map_of_mem hunacked.1
  simp only [Queue.step, Queue.client, Deliveries.step, Deliveries.consume, hi, halive, hnew, hmem,
    not_false_eq_true, and_self, if_true] at hconsume
  contradiction

/-- A task executes its callback, and has the answer sent. -/
theorem exists_answered (h : s.Draining) (hquiescent : System.Quiescent step Cooperates s)
    {d : Delivery} {task : ProcessingTask} (hd : d ∈ s.unacked)
    (hk : s.deliveries.tasks[k]? = some task)
    (hhanded : (task.consumer, task.deliveryTag, task.content) = d.handed)
    : ∃ consumer, s.deliveries.consumers[d.consumer]? = some consumer
        ∧ ∃ entry ∈ consumer.answered, entry.1.covers d.deliveryTag = true := by
  simp only [Delivery.handed, Prod.mk.injEq] at hhanded
  rcases h.settled d hd with ⟨consumer, hi, halive, _⟩
  rw [← hhanded.1] at hi
  cases hstate : task.state with
  | executing =>
    have hreturned := hquiescent (.client (.returned k (.ok ()))) (by simp [Cooperates])
    simp [Queue.step, Queue.client, Deliveries.step, Deliveries.returned, hk, hstate] at hreturned
  | answering result =>
    rcases h.kept.accounted.send_enabled hk hstate with ⟨_, deliveries, _, hsend, _⟩
    have hquiet := hquiescent (.client (.send k)) trivial
    simp [Queue.step, Queue.client, hsend] at hquiet
  | finished result sent =>
    cases sent with
    | false =>
      rw [h.discarding task (List.mem_of_getElem? hk) result hstate consumer hi] at halive
      contradiction
    | true =>
      have hopen := Deliveries.isOpen_iff.mpr (Or.inl ⟨consumer, hi, halive⟩)
      have hrunning := h.kept.accounted.listening _ _ hi hopen
      rcases h.kept.accounted.put_answered hk hstate with ⟨consumer', hi', hput⟩
      rw [hi, Option.some.injEq] at hi'
      subst hi'
      rcases hput with hresponse | ⟨sent, hanswered⟩
      . cases hresponses : consumer.responses with
        | nil =>
          rw [hresponses] at hresponse
          contradiction
        | cons response responses =>
          have hrespond := hquiescent (.client (.respond task.consumer true)) (Or.inl rfl)
          simp [Queue.step, Queue.client, Deliveries.step, Deliveries.respond, hi, hrunning,
            hresponses] at hrespond
      . refine ⟨consumer, hhanded.1 ▸ hi, _, hanswered, ?_⟩
        rw [covers_answer, deliveryTag_answer_response, decide_eq_true_eq, hhanded.2.1]

theorem unacked_eq_nil (h : s.Draining) (hquiescent : System.Quiescent step Cooperates s)
    : s.unacked = [] := by
  rw [List.eq_nil_iff_forall_not_mem]
  intro d hd
  rcases h.exists_task hquiescent hd with ⟨k, task, hk, hhanded⟩
  rcases h.exists_answered hquiescent hd hk hhanded with ⟨consumer, hi, entry, hentry, hcovers⟩
  rcases h.settled d hd with ⟨consumer', hi', _, hsent⟩
  rw [hi, Option.some.injEq] at hi'
  subst hi'
  have hunacked := (h.kept.unacked d).mp hd
  have hchannel := h.kept.channel d hunacked.1
  rw [Deliveries.channelOf_eq_some hi, Option.some.injEq] at hchannel
  have hmem : (consumer.channel, entry.1) ∈ s.deliveries.sent := by
    refine List.mem_map.mpr ⟨(consumer.channel, entry), ?_, rfl⟩
    refine List.mem_filter.mpr ⟨?_, hsent entry hentry hcovers⟩
    exact List.mem_flatMap.mpr ⟨consumer, List.mem_of_getElem? hi, List.mem_map_of_mem hentry⟩
  rcases List.mem_append.mp (h.kept.sent.mem_iff.mpr hmem) with hanswering | hanswered
  . rcases List.mem_iff_getElem?.mp hanswering with ⟨k, hk⟩
    have hreceive := hquiescent (.receive k) trivial
    simp [Queue.step, Queue.receive, hk] at hreceive
  . exact hunacked.2.2 ⟨_, hanswered, Delivery.isAnswered_iff.mpr ⟨hchannel.symm, hcovers⟩⟩

theorem removed (h : s.Draining) (hquiescent : System.Quiescent step Cooperates s)
    : (s.removed.map (·.message)).Perm s.published ∨ s.Exhausted := by
  refine (h.ready_eq_nil hquiescent).imp_left ?_
  intro hready
  have hmessages := h.kept.messages
  rwa [Queue.messages, hready, h.unacked_eq_nil hquiescent] at hmessages

end Draining

theorem draining_of_run {labels : List QueueLabel} (hrun : System.run step init labels = some s)
    (hsettled : s.Settled) (hlistening : s.Listening) : s.Draining where
  kept := kept_of_run hrun
  discarding := by
    apply System.run_invariant (P := fun s => s.Kept ∧ s.deliveries.Discarding) _
      ⟨kept_init, Deliveries.discarding_init⟩ hrun |>.2
    intro s label s' h hstep
    exact ⟨h.1.step hstep, discarding_step h.2 h.1 hstep⟩
  settled := hsettled
  listening := hlistening

/--
Once nothing fails but what is sent on closed channels, and no callback asks for a message to be put back,
the consumers come to have had every message removed. This takes a consumer to deliver to, and that those
of what is unacked have neither been dropped nor failed to answer.
-/
theorem drained_eventually (labels : List QueueLabel)
    (hrun : System.run step init labels = some s) (hsettled : s.Settled) (hlistening : s.Listening)
    (path : Nat → Queue) (hstart : path 0 = s) (hpath : System.Path step Cooperates path)
    : ∃ k, ∀ j, k ≤ j →
        ((path j).removed.map (·.message)).Perm (path j).published ∨ (path j).Exhausted := by
  apply progress.eventually (G := fun s => (s.removed.map (·.message)).Perm s.published ∨ s.Exhausted)
    (fun s h hquiescent => h.removed hquiescent) hpath
  rw [hstart]
  exact draining_of_run hrun hsettled hlistening

-- The channel is lost before the first answer is sent, its message is delivered again.
def sampleLoss : List QueueLabel := [
  .publish [1], .publish [2], .client (.new 0), .deliver 0 1, .client (.consume 0 1 [1]),
  .client (.returned 0 (.ok ())), .close 0, .client (.drop 0), .client (.new 1), .deliver 1 1
]

def sampleLost : Queue := (System.run step init sampleLoss).getD init

-- It is delivered on the other channel, and so is the message after it.
def sampleSupply : List QueueLabel := [
  .client (.send 0), .client (.respond 0 false), .client (.consume 1 1 [1]),
  .client (.returned 1 (.ok ())), .client (.send 1), .client (.respond 1 true), .receive 0,
  .deliver 1 2, .client (.consume 1 2 [2]), .client (.returned 2 (.ok ())), .client (.send 2),
  .client (.respond 1 true), .receive 0
]

def sampleDrained : Queue := (System.run step sampleLost sampleSupply).getD sampleLost

instance (s : Queue) (label : QueueLabel) : Decidable (s.Cooperates label) :=
  match label with
  | .deliver i _ => inferInstanceAs
    (Decidable (∃ consumer ∈ s.deliveries.consumers[i]?, consumer.alive = true))
  | .receive _ => isTrue trivial
  | .client (.consume _ _ _) => isTrue trivial
  | .client (.returned _ result) => inferInstanceAs (Decidable (result ≠ .error ⟨true⟩))
  | .client (.send _) => isTrue trivial
  | .client (.respond i sent) => inferInstanceAs
    (Decidable (sent = true ∨ ∃ consumer ∈ s.deliveries.consumers[i]?, consumer.channel ∈ s.closed))
  | .publish _ => isFalse id
  | .close _ => isFalse id
  | .client (.new _) => isFalse id
  | .client (.drop _) => isFalse id
  | .client (.finish _) => isFalse id

theorem drained_eventually_lost
    : ∃ path, path 0 = sampleLost ∧ System.Path step Cooperates path
        ∧ ∃ k, ((path k).removed.map (·.message)).Perm (path k).published := by
  have hrun : System.run step init sampleLoss = some sampleLost := by
    rfl
  have hunacked : sampleLost.unacked = [⟨1, 1, 1, ⟨0, [1]⟩⟩] := by
    rfl
  have hsettled : sampleLost.Settled := by
    intro d hd
    rw [hunacked, List.mem_singleton] at hd
    refine ⟨.new 1, by rw [hd]; rfl, rfl, ?_⟩
    intro entry hentry
    contradiction
  have hlistening : sampleLost.Listening := ⟨1, .new 1, rfl, rfl, by decide⟩
  have hsupply : System.run step sampleLost sampleSupply = some sampleDrained := by
    rfl
  have hcooperates : System.Along step Cooperates sampleLost sampleSupply := by
    decide
  have hmeasure : sampleDrained.measure = ⊥ := by
    rfl
  have hdelivered : sampleDrained.delivered.length = 3 := by
    rfl
  rcases progress.exists_labelledPath (draining_of_run hrun hsettled hlistening) hsupply hcooperates
    hmeasure with ⟨path, hstart, hpath, hend⟩
  refine ⟨path, hstart, hpath.toPath, ?_⟩
  rcases drained_eventually sampleLoss hrun hsettled hlistening path hstart hpath.toPath
    with ⟨k, hremoved⟩
  refine ⟨max k sampleSupply.length, ?_⟩
  rcases hremoved _ (Nat.le_max_left _ _) with hremoved | hexhausted
  . exact hremoved
  . rw [hend _ (Nat.le_max_right _ _)] at hexhausted
    have hle := hexhausted.le_length
    rw [hdelivered] at hle
    contradiction

end Queue

end TomNotifier.Rabbitmq.Consumer
