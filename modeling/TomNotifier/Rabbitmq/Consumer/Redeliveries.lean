import TomNotifier.Rabbitmq.Consumer.Queue

/-!
This module contains what becomes of the messages of a consumer's queue: the broker removes a message
only after a callback has taken it or rejected it for good, whatever gets lost with the channels.
-/

namespace TomNotifier.Rabbitmq.Consumer

namespace Deliveries

variable {s s' : Deliveries} {label : Label} {i : Nat} {consumer consumer' : AsyncConsumer}
variable {channel : ChannelId}

/-- What the tasks were spawned for. -/
def handed (s : Deliveries) : List (Nat × AmqpDeliveryTag × Bytes) :=
  s.tasks.map (fun task => (task.consumer, task.deliveryTag, task.content))

theorem handed_step (hstep : s.step label = some s')
    : s'.handed = s.handed
      ∨ ∃ i deliveryTag content, label = .consume i deliveryTag content
        ∧ s'.handed = s.handed ++ [(i, deliveryTag, content)] := by
  cases effect_of_step hstep with
  | new => exact Or.inl rfl
  | drop => exact Or.inl rfl
  | @consume i _ deliveryTag content =>
    exact Or.inr ⟨i, deliveryTag, content, rfl, by rw [handed, List.map_append]; rfl⟩
  | answering hk => exact Or.inl (map_set_of_eq hk rfl)
  | discarded hk => exact Or.inl (map_set_of_eq hk rfl)
  | sent hk => exact Or.inl (map_set_of_eq hk rfl)
  | lost hk => exact Or.inl (map_set_of_eq hk rfl)
  | responded => exact Or.inl rfl
  | finished => exact Or.inl rfl

theorem channelOf_step (hstep : s.step label = some s') (h : s.channelOf i = some channel)
    : s'.channelOf i = some channel := by
  cases effect_of_step hstep with
  | new =>
    rcases Option.map_eq_some_iff.mp h with ⟨consumer, hi, hchannel⟩
    rw [channelOf, List.getElem?_append_left (List.getElem?_eq_some_iff.mp hi).1, hi, ← hchannel]
    rfl
  | drop hj => exact (congrFun (channelOf_set hj (by rfl) _) i).trans h
  | consume => exact h
  | answering => exact h
  | discarded => exact h
  | sent _ _ hj => exact (congrFun (channelOf_set hj (by rfl) _) i).trans h
  | lost => exact h
  | responded hj => exact (congrFun (channelOf_set hj (by rfl) _) i).trans h
  | finished hj => exact (congrFun (channelOf_set hj (by rfl) _) i).trans h

theorem answers_set (hi : s.consumers[i]? = some consumer) (consumer' : AsyncConsumer)
    (hchannel : consumer'.channel = consumer.channel) {answered : List (Answer × Bool)}
    (hanswered : consumer'.answered = consumer.answered ++ answered) (tasks : List ProcessingTask)
    : (answers ⟨s.consumers.set i consumer', tasks⟩).Perm
        (s.answers ++ answered.map (consumer.channel, ·)) := by
  rcases exists_set_eq hi with ⟨before, after, hconsumers, hset⟩
  rw [answers, answers, hset, hconsumers]
  simp only [List.flatMap_append, List.flatMap_cons, hchannel, hanswered, List.map_append,
    List.append_assoc]
  refine List.Perm.append_left _ (List.Perm.append_left _ ?_)
  exact List.perm_append_comm

theorem sent_set (hi : s.consumers[i]? = some consumer)
    (hchannel : consumer'.channel = consumer.channel)
    (hanswered : consumer'.answered = consumer.answered) (tasks : List ProcessingTask)
    : (sent ⟨s.consumers.set i consumer', tasks⟩).Perm s.sent := by
  have hperm := answers_set hi consumer' hchannel (hanswered.trans (List.append_nil _).symm) tasks
  rw [List.map_nil, List.append_nil] at hperm
  exact (hperm.filter _).map _

theorem sent_step (hstep : s.step label = some s') : s'.sent.Perm (s.sent ++ s.sends label) := by
  cases effect_of_step hstep with
  | new => simp [sent, answers, sends, AsyncConsumer.new]
  | drop hi =>
    simp only [sends, List.append_nil]
    exact sent_set hi (by rfl) (by rfl) _
  | consume => simp [sent, answers, sends]
  | answering => simp [sent, answers, sends]
  | discarded => simp [sent, answers, sends]
  | sent _ _ hi =>
    simp only [sends, List.append_nil]
    exact sent_set hi (by rfl) (by rfl) _
  | lost => simp [sent, answers, sends]
  | @responded i sent consumer response responses hi hrunning hresponses =>
    have hperm := answers_set hi { consumer with
      responses
      answered := consumer.answered ++ [(ResponseTask.answer response, sent)]
    } rfl rfl s.tasks
    have hsends : s.sends (.respond i sent)
        = ([(consumer.channel, ResponseTask.answer response, sent)].filter (·.2.2)).map
            (fun entry => (entry.1, entry.2.1)) := by
      cases sent
      . rfl
      . simp only [sends, hi, hresponses]
        rfl
    rw [hsends, Deliveries.sent, Deliveries.sent, ← List.map_append, ← List.filter_append]
    exact (hperm.filter _).map _
  | finished hi =>
    simp only [sends, List.append_nil]
    exact sent_set hi (by rfl) (by rfl) _

namespace Accounted

theorem nodup_sent (h : s.Accounted)
    : (s.sent.map (fun entry => (entry.1, entry.2.deliveryTag))).Nodup := by
  rw [Deliveries.sent, List.map_map]
  exact h.nodup_answers.sublist (List.filter_sublist.map _)

theorem task_of_mem_sent (h : s.Accounted) {entry : ChannelId × Answer} (hentry : entry ∈ s.sent)
    : ∃ task ∈ s.tasks, s.channelOf task.consumer = some entry.1
        ∧ ∃ result, task.state = .finished result true
          ∧ entry.2 = ResponseTask.answer (ProcessingTask.response task.deliveryTag result) := by
  rcases List.mem_map.mp hentry with ⟨answered, hanswered, rfl⟩
  rcases h.task_of_mem_answers (List.mem_of_mem_filter hanswered) with ⟨task, htask, hchannel, hput⟩
  exact ⟨task, htask, hchannel, put?_eq_some_iff.mp hput⟩

end Accounted

end Deliveries

namespace Delivery

variable {d : Delivery} {channel : ChannelId} {answer : Answer}

def IsAnsweredIn (answered : List (ChannelId × Answer)) (d : Delivery) : Prop :=
  ∃ entry ∈ answered, d.isAnswered entry.1 entry.2 = true

theorem isAnswered_iff
    : d.isAnswered channel answer = true
        ↔
      d.channel = channel ∧ answer.covers d.deliveryTag = true := by
  rw [isAnswered, isOn, Bool.and_eq_true, decide_eq_true_eq]

theorem isAnswered_answer_iff {response : DeliveryResponse}
    : d.isAnswered channel (ResponseTask.answer response) = true
        ↔
      d.key = (channel, (ResponseTask.answer response).deliveryTag) := by
  rw [isAnswered_iff, covers_answer, decide_eq_true_eq, key, Prod.mk.injEq]

theorem isAnsweredIn_append {answered answered' : List (ChannelId × Answer)}
    : d.IsAnsweredIn (answered ++ answered')
        ↔
      d.IsAnsweredIn answered ∨ d.IsAnsweredIn answered' := by
  simp only [IsAnsweredIn, List.mem_append, or_and_right, exists_or]

theorem isAnsweredIn_singleton {entry : ChannelId × Answer}
    : d.IsAnsweredIn [entry] ↔ d.isAnswered entry.1 entry.2 = true := by
  simp only [IsAnsweredIn, List.mem_singleton, exists_eq_left]

end Delivery

/-- A step of the consumers. -/
def QueueLabel.client? : QueueLabel → Option Deliveries.Label
  | .client label => some label
  | _ => none

namespace Queue

/-- The messages the broker has, and those it has removed. -/
def messages (s : Queue) : List QueuedMessage :=
  s.ready ++ s.unacked.map (·.message) ++ s.removed.map (·.message)

/--
What is unacked can still be told from the deliveries and the answers that have arrived, and the answers
from the tasks.
-/
structure Kept (s : Queue) : Prop where
  accounted : s.deliveries.Accounted
  nodup : (s.delivered.map Delivery.key).Nodup
  channel : ∀ d ∈ s.delivered, s.deliveries.channelOf d.consumer = some d.channel
  handed : s.deliveries.handed ⊆ s.delivered.map Delivery.handed
  sent : (s.answering ++ s.answered).Perm s.deliveries.sent
  unacked : ∀ d, d ∈ s.unacked
      ↔
    d ∈ s.delivered ∧ d.channel ∉ s.closed ∧ ¬d.IsAnsweredIn s.answered
  removed : ∀ d ∈ s.removed, d ∈ s.delivered ∧
    ∃ entry ∈ s.answered, d.isAnswered entry.1 entry.2 = true ∧ entry.2.requeues = false
  messages : s.messages.Perm s.published

variable {s s' : Queue} {k : Nat} {entry : ChannelId × Answer} {d : Delivery} {channel : ChannelId}
variable {answer : Answer}

theorem kept_init : init.Kept where
  accounted := Deliveries.accounted_init
  nodup := List.nodup_nil
  channel := by simp [init]
  handed := by simp [init, Deliveries.handed, Deliveries.init]
  sent := by simp [init, Deliveries.sent, Deliveries.answers, Deliveries.init]
  unacked := by simp [init]
  removed := by simp [init]
  messages := by simp [init, messages]

theorem count_filter_message (p : Delivery → Bool) (l : List Delivery) (message : QueuedMessage)
    : ((l.filter p).map (·.message)).count message
        + ((l.filter (fun d => !p d)).map (·.message)).count message
      = (l.map (·.message)).count message := by
  rw [← List.count_append, ← List.map_append]
  exact ((List.filter_append_perm p l).map _).count_eq message

namespace Kept

theorem isAnswered_iff_key (h : s.Kept) (hentry : entry ∈ s.deliveries.sent)
    : d.isAnswered entry.1 entry.2 = true ↔ d.key = (entry.1, entry.2.deliveryTag) := by
  rcases h.accounted.task_of_mem_sent hentry with ⟨task, _, _, result, _, hanswer⟩
  rw [hanswer, Delivery.isAnswered_answer_iff]

theorem eq_of_key (h : s.Kept) {d' : Delivery} (hd : d ∈ s.delivered) (hd' : d' ∈ s.delivered)
    (hkey : d.key = d'.key) : d = d' := by
  exact List.inj_on_of_nodup_map h.nodup hd hd' hkey

/-- An answer is the one to some delivery, from the task that was spawned for it. -/
theorem delivery_of_mem_sent (h : s.Kept) (hentry : entry ∈ s.deliveries.sent)
    : ∃ d ∈ s.delivered, d.isAnswered entry.1 entry.2 = true ∧
        ∃ task ∈ s.deliveries.tasks,
          d.handed = (task.consumer, task.deliveryTag, task.content) ∧
            ∃ result, task.state = .finished result true
              ∧ entry.2 = ResponseTask.answer (ProcessingTask.response task.deliveryTag result) := by
  rcases h.accounted.task_of_mem_sent hentry with ⟨task, htask, hchannel, result, hstate, hanswer⟩
  rcases List.mem_map.mp (h.handed (List.mem_map_of_mem htask)) with ⟨d, hd, hhanded⟩
  refine ⟨d, hd, ?_, task, htask, hhanded, result, hstate, hanswer⟩
  simp only [Delivery.handed, Prod.mk.injEq] at hhanded
  have hsame := h.channel d hd
  rw [hhanded.1, hchannel, Option.some.injEq] at hsame
  rw [h.isAnswered_iff_key hentry, Delivery.key, ← hsame, hhanded.2.1, hanswer,
    deliveryTag_answer_response]

theorem mem_sent_of_answering (h : s.Kept) (hentry : entry ∈ s.answering)
    : entry ∈ s.deliveries.sent := by
  exact h.sent.subset (List.mem_append_left _ hentry)

theorem mem_sent_of_answered (h : s.Kept) (hentry : entry ∈ s.answered)
    : entry ∈ s.deliveries.sent := by
  exact h.sent.subset (List.mem_append_right _ hentry)

theorem exists_unacked (h : s.Kept) (hentry : entry ∈ s.answering) (hopen : entry.1 ∉ s.closed)
    : ∃ d ∈ s.unacked, d.isAnswered entry.1 entry.2 = true := by
  have hsent := h.mem_sent_of_answering hentry
  rcases h.delivery_of_mem_sent hsent with ⟨d, hd, hanswered, _⟩
  refine ⟨d, (h.unacked d).mpr ⟨hd, ?_, ?_⟩, hanswered⟩
  . rw [(Delivery.isAnswered_iff.mp hanswered).1]
    exact hopen
  . rintro ⟨entry', hentry', hanswered'⟩
    have hnodup := (h.sent.map (fun entry => (entry.1, entry.2.deliveryTag))).nodup_iff.mpr
      h.accounted.nodup_sent
    rw [List.map_append, List.nodup_append] at hnodup
    apply hnodup.2.2 _ (List.mem_map_of_mem hentry) _ (List.mem_map_of_mem hentry')
    rw [h.isAnswered_iff_key hsent] at hanswered
    rw [h.isAnswered_iff_key (h.mem_sent_of_answered hentry')] at hanswered'
    exact hanswered.symm.trans hanswered'

theorem publish (h : s.Kept) (content : Bytes) : (s.publish content).Kept where
  accounted := h.accounted
  nodup := h.nodup
  channel := h.channel
  handed := h.handed
  sent := h.sent
  unacked := h.unacked
  removed := h.removed
  messages := by
    rw [List.perm_iff_count]
    intro message
    have hcount := h.messages.count_eq message
    simp only [Queue.messages, Queue.publish, List.count_append] at hcount ⊢
    omega

theorem deliver (h : s.Kept) {i : Nat} {consumer : AsyncConsumer} {deliveryTag : AmqpDeliveryTag}
    {message : QueuedMessage} {ready : List QueuedMessage}
    (hi : s.deliveries.consumers[i]? = some consumer) (hready : s.ready = message :: ready)
    (hopen : consumer.channel ∉ s.closed)
    (hnew : (consumer.channel, deliveryTag) ∉ s.delivered.map Delivery.key)
    : Kept { s with
        ready
        unacked := s.unacked ++ [⟨i, consumer.channel, deliveryTag, message⟩]
        delivered := s.delivered ++ [⟨i, consumer.channel, deliveryTag, message⟩]
      } := by
  generalize hd : (⟨i, consumer.channel, deliveryTag, message⟩ : Delivery) = d
  have hkey : d.key ∉ s.delivered.map Delivery.key := by
    rw [← hd]
    exact hnew
  -- An answer is to an earlier delivery.
  have hunanswered : ¬d.IsAnsweredIn s.answered := by
    rintro ⟨entry, hentry, hanswered⟩
    have hsent := h.mem_sent_of_answered hentry
    rcases h.delivery_of_mem_sent hsent with ⟨d', hd', hanswered', _⟩
    rw [h.isAnswered_iff_key hsent] at hanswered hanswered'
    apply hkey
    rw [hanswered, ← hanswered']
    exact List.mem_map_of_mem hd'
  refine ⟨h.accounted, ?_, ?_, ?_, h.sent, ?_, ?_, ?_⟩
  . rw [List.map_append, List.map_singleton, ← List.concat_eq_append]
    exact h.nodup.concat hkey
  . intro d' hd'
    rcases List.mem_append.mp hd' with hd' | hd'
    . exact h.channel d' hd'
    . rw [List.mem_singleton.mp hd', ← hd]
      exact Deliveries.channelOf_eq_some hi
  . rw [List.map_append]
    exact List.Subset.trans h.handed (List.subset_append_left _ _)
  . intro d'
    simp only [List.mem_append, List.mem_singleton, h.unacked]
    constructor
    . rintro (⟨hd', hopen', hunanswered'⟩ | rfl)
      . exact ⟨Or.inl hd', hopen', hunanswered'⟩
      . refine ⟨Or.inr rfl, ?_, hunanswered⟩
        rw [← hd]
        exact hopen
    . rintro ⟨hd' | hd', hopen', hunanswered'⟩
      . exact Or.inl ⟨hd', hopen', hunanswered'⟩
      . exact Or.inr hd'
  . intro d' hd'
    rcases h.removed d' hd' with ⟨hdelivered, hanswered⟩
    exact ⟨List.mem_append_left _ hdelivered, hanswered⟩
  . rw [List.perm_iff_count]
    intro message'
    have hcount := h.messages.count_eq message'
    simp only [Queue.messages, hready, List.count_append, List.count_cons, List.map_append,
      List.map_singleton, ← hd, List.count_nil] at hcount ⊢
    omega

theorem close (h : s.Kept) (channel : ChannelId) : (s.close channel).Kept where
  accounted := h.accounted
  nodup := h.nodup
  channel := h.channel
  handed := h.handed
  sent := h.sent
  unacked := by
    intro d
    simp only [Queue.close, List.mem_filter, h.unacked, Delivery.isOn, Bool.not_eq_true',
      decide_eq_false_iff_not, List.mem_cons, not_or]
    tauto
  removed := h.removed
  messages := by
    rw [List.perm_iff_count]
    intro message
    have hcount := h.messages.count_eq message
    have hsplit := count_filter_message (·.isOn channel) s.unacked message
    simp only [Queue.messages, Queue.close, List.count_append] at hcount ⊢
    omega

theorem arrive (h : s.Kept) (hk : s.answering[k]? = some entry) {ready : List QueuedMessage}
    {unacked removed : List Delivery}
    (hunacked : ∀ d, d ∈ unacked ↔ d ∈ s.unacked ∧ ¬d.isAnswered entry.1 entry.2 = true)
    (hremoved : ∀ d ∈ removed, d ∈ s.removed
      ∨ d ∈ s.unacked ∧ d.isAnswered entry.1 entry.2 = true ∧ entry.2.requeues = false)
    (hmessages : (ready ++ unacked.map (·.message) ++ removed.map (·.message)).Perm s.messages)
    : Kept { s.arrive k entry with ready, unacked, removed } where
  accounted := h.accounted
  nodup := h.nodup
  channel := h.channel
  handed := h.handed
  sent := by
    rcases List.getElem?_eq_some_iff.mp hk with ⟨hlt, rfl⟩
    refine List.Perm.trans ?_ h.sent
    rw [List.perm_iff_count]
    intro entry
    have hcount := (List.getElem_cons_eraseIdx_perm hlt).count_eq entry
    simp only [Queue.arrive, List.count_append, List.count_cons, List.count_nil] at hcount ⊢
    omega
  unacked := by
    intro d
    simp only [Queue.arrive, hunacked, h.unacked, Delivery.isAnsweredIn_append,
      Delivery.isAnsweredIn_singleton]
    tauto
  removed := by
    intro d hd
    rcases hremoved d hd with hd | ⟨hd, hanswered, hrequeues⟩
    . rcases h.removed d hd with ⟨hdelivered, entry', hentry', hanswered⟩
      exact ⟨hdelivered, entry', List.mem_append_left _ hentry', hanswered⟩
    . exact ⟨((h.unacked d).mp hd).1, entry, List.mem_append_right _ List.mem_cons_self, hanswered,
        hrequeues⟩
  messages := hmessages.trans h.messages

theorem settle (h : s.Kept) (hk : s.answering[k]? = some entry) (hopen : entry.1 ∉ s.closed)
    : ((s.arrive k entry).settle entry.1 entry.2).Kept := by
  have hsettled : s.unacked.filter (·.isAnswered entry.1 entry.2) ≠ [] := by
    rcases h.exists_unacked (List.mem_of_getElem? hk) hopen with ⟨d, hd, hanswered⟩
    exact List.ne_nil_of_mem (List.mem_filter.mpr ⟨hd, hanswered⟩)
  have hunacked : ∀ d, d ∈ s.unacked.filter (fun d => !d.isAnswered entry.1 entry.2)
      ↔ d ∈ s.unacked ∧ ¬d.isAnswered entry.1 entry.2 = true := by
    intro d
    rw [List.mem_filter, Bool.not_eq_true', Bool.not_eq_true]
  have hsplit := count_filter_message (·.isAnswered entry.1 entry.2) s.unacked
  simp only [Queue.settle]
  split
  . next hnil => exact absurd hnil hsettled
  split
  . apply h.arrive hk hunacked
    . intro d hd
      exact Or.inl hd
    . rw [List.perm_iff_count]
      intro message
      have := hsplit message
      simp only [Queue.messages, Queue.arrive, List.count_append]
      omega
  . next hrequeues =>
    apply h.arrive hk hunacked
    . intro d hd
      rcases List.mem_append.mp hd with hd | hd
      . exact Or.inl hd
      . rw [List.mem_filter] at hd
        exact Or.inr ⟨hd.1, hd.2, Bool.eq_false_iff.mpr hrequeues⟩
    . rw [List.perm_iff_count]
      intro message
      have := hsplit message
      simp only [Queue.messages, Queue.arrive, List.count_append, List.map_append]
      omega

theorem ignore (h : s.Kept) (hk : s.answering[k]? = some entry) (hclosed : entry.1 ∈ s.closed)
    : (s.arrive k entry).Kept := by
  apply h.arrive hk
  . intro d
    constructor
    . intro hd
      refine ⟨hd, ?_⟩
      intro hanswered
      apply ((h.unacked d).mp hd).2.1
      rw [(Delivery.isAnswered_iff.mp hanswered).1]
      exact hclosed
    . intro hd
      exact hd.1
  . intro d hd
    exact Or.inl hd
  . exact List.Perm.refl _

theorem client (h : s.Kept) {label : Deliveries.Label} {deliveries : Deliveries}
    (hhanded : ∀ i deliveryTag content, label = .consume i deliveryTag content →
      (i, deliveryTag, content) ∈ s.delivered.map Delivery.handed)
    (hstep : s.deliveries.step label = some deliveries)
    : Kept { s with deliveries, answering := s.answering ++ s.deliveries.sends label } where
  accounted := h.accounted.step hstep
  nodup := h.nodup
  channel := by
    intro d hd
    exact Deliveries.channelOf_step hstep (h.channel d hd)
  handed := by
    rcases Deliveries.handed_step hstep with heq | ⟨i, deliveryTag, content, hlabel, heq⟩
    . rw [heq]
      exact h.handed
    . rw [heq]
      apply List.append_subset.mpr ⟨h.handed, _⟩
      rw [List.cons_subset]
      exact ⟨hhanded i deliveryTag content hlabel, List.nil_subset _⟩
  sent := by
    refine List.Perm.trans ?_ (Deliveries.sent_step hstep).symm
    rw [List.perm_iff_count]
    intro entry
    have hcount := h.sent.count_eq entry
    simp only [List.count_append] at hcount ⊢
    omega
  unacked := h.unacked
  removed := h.removed
  messages := h.messages

end Kept

inductive Effect (s : Queue) : QueueLabel → Queue → Prop where
  | publish {content : Bytes} : Effect s (.publish content) (s.publish content)
  | deliver {i : Nat} {consumer : AsyncConsumer} {deliveryTag : AmqpDeliveryTag}
      {message : QueuedMessage} {ready : List QueuedMessage} :
      s.deliveries.consumers[i]? = some consumer → s.ready = message :: ready →
      consumer.channel ∉ s.closed →
      (consumer.channel, deliveryTag) ∉ s.delivered.map Delivery.key →
      Effect s (.deliver i deliveryTag) { s with
        ready
        unacked := s.unacked ++ [⟨i, consumer.channel, deliveryTag, message⟩]
        delivered := s.delivered ++ [⟨i, consumer.channel, deliveryTag, message⟩]
      }
  | close {channel : ChannelId} : Effect s (.close channel) (s.close channel)
  | ignored {k : Nat} {entry : ChannelId × Answer} : s.answering[k]? = some entry →
      entry.1 ∈ s.closed → Effect s (.receive k) (s.arrive k entry)
  | settled {k : Nat} {entry : ChannelId × Answer} : s.answering[k]? = some entry →
      entry.1 ∉ s.closed → Effect s (.receive k) ((s.arrive k entry).settle entry.1 entry.2)
  | client {label : Deliveries.Label} {deliveries : Deliveries} :
      (∀ i deliveryTag content, label = .consume i deliveryTag content →
        (i, deliveryTag, content) ∈ s.delivered.map Delivery.handed) →
      s.deliveries.step label = some deliveries →
      Effect s (.client label)
        { s with deliveries, answering := s.answering ++ s.deliveries.sends label }

theorem effect_of_step {label : QueueLabel} (hstep : s.step label = some s') : s.Effect label s' := by
  cases label with
  | publish content =>
    rw [← Option.some.inj hstep]
    exact .publish
  | deliver i deliveryTag =>
    simp only [Queue.step, Queue.deliver] at hstep
    split at hstep
    . next consumer message ready hi hready =>
      split at hstep
      . next hguard =>
        rw [← Option.some.inj hstep]
        exact .deliver hi hready hguard.1 hguard.2
      . contradiction
    . contradiction
  | close channel =>
    rw [← Option.some.inj hstep]
    exact .close
  | receive k =>
    simp only [Queue.step, Queue.receive] at hstep
    split at hstep
    . contradiction
    . next channel answer hk =>
      rw [← Option.some.inj hstep]
      split
      . next hclosed => exact .ignored hk hclosed
      . next hopen => exact .settled hk hopen
  | client label =>
    have hclient : ∀ hhanded : ∀ i deliveryTag content, label = .consume i deliveryTag content →
        (i, deliveryTag, content) ∈ s.delivered.map Delivery.handed,
        s.client label = some s' → s.Effect (.client label) s' := by
      intro hhanded hclient
      rcases Option.map_eq_some_iff.mp hclient with ⟨deliveries, hdeliveries, rfl⟩
      exact .client hhanded hdeliveries
    cases label with
    | consume i deliveryTag content =>
      simp only [Queue.step] at hstep
      split at hstep
      . next hmem =>
        apply hclient _ hstep
        intro i deliveryTag content heq
        cases heq
        exact hmem
      . contradiction
    | _ =>
      apply hclient _ hstep
      intro i deliveryTag content heq
      contradiction

theorem Kept.step {label : QueueLabel} (h : s.Kept) (hstep : s.step label = some s') : s'.Kept := by
  cases effect_of_step hstep with
  | publish => exact h.publish _
  | deliver hi hready hopen hnew => exact h.deliver hi hready hopen hnew
  | close => exact h.close _
  | ignored hk hclosed => exact h.ignore hk hclosed
  | settled hk hopen => exact h.settle hk hopen
  | client hhanded hdeliveries => exact h.client hhanded hdeliveries

theorem kept_of_run {labels : List QueueLabel} (hrun : System.run step init labels = some s)
    : s.Kept := by
  apply System.run_invariant _ kept_init hrun
  intro s label s' h hstep
  exact h.step hstep

/-- The broker does not act on the consumers itself. -/
theorem deliveries_step {label : QueueLabel} (hstep : s.step label = some s')
    : (label.client? = none ∧ s'.deliveries = s.deliveries)
      ∨ ∃ label', label.client? = some label' ∧ s.deliveries.step label' = some s'.deliveries := by
  cases effect_of_step hstep with
  | publish => exact Or.inl ⟨rfl, rfl⟩
  | deliver => exact Or.inl ⟨rfl, rfl⟩
  | close => exact Or.inl ⟨rfl, rfl⟩
  | ignored => exact Or.inl ⟨rfl, rfl⟩
  | settled =>
    refine Or.inl ⟨rfl, ?_⟩
    simp only [Queue.settle]
    split
    . rfl
    split
    . rfl
    . rfl
  | client _ hdeliveries => exact Or.inr ⟨_, rfl, hdeliveries⟩

theorem run_deliveries {labels : List QueueLabel} (hrun : System.run step init labels = some s)
    : System.run Deliveries.step Deliveries.init (labels.filterMap QueueLabel.client?)
        = some s.deliveries := by
  apply System.run_induction (P := fun labels s =>
    System.run Deliveries.step Deliveries.init (labels.filterMap QueueLabel.client?)
      = some s.deliveries) _ _ hrun
  . rfl
  . intro labels label s s' _ ih hstep
    rw [List.filterMap_append, System.run_append_eq_some]
    refine ⟨s.deliveries, ih, ?_⟩
    rcases deliveries_step hstep with ⟨hnone, heq⟩ | ⟨label', hsome, hdeliveries⟩
    . rw [List.filterMap_cons_none hnone, heq]
      rfl
    . rw [List.filterMap_cons_some hsome]
      exact System.run_cons_eq_some.mpr ⟨_, hdeliveries, rfl⟩

theorem handed_prefix_step {label : QueueLabel} (hstep : s.step label = some s')
    : s.deliveries.handed <+: s'.deliveries.handed := by
  rcases deliveries_step hstep with ⟨_, heq⟩ | ⟨label', _, hdeliveries⟩
  . exact heq ▸ List.prefix_rfl
  . rcases Deliveries.handed_step hdeliveries with heq | ⟨_, _, _, _, heq⟩
    . exact heq ▸ List.prefix_rfl
    . rw [heq]
      exact List.prefix_append _ _

theorem Kept.closed_receive (h : s.Kept) (hstep : s.step (.receive k) = some s')
    : s'.closed = s.closed := by
  cases effect_of_step hstep with
  | ignored => rfl
  | @settled _ entry hk hopen =>
    rcases h.exists_unacked (List.mem_of_getElem? hk) hopen with ⟨d, hd, hanswered⟩
    simp only [Queue.settle]
    split
    . next hnil =>
      exact absurd hnil (List.ne_nil_of_mem (List.mem_filter.mpr ⟨hd, hanswered⟩))
    split
    . rfl
    . rfl

theorem Kept.result_of_removed (h : s.Kept) (hd : d ∈ s.removed)
    : ∃ task ∈ s.deliveries.tasks,
        d.handed = (task.consumer, task.deliveryTag, task.content)
          ∧ ∃ result, task.state.result? = some result
            ∧ (result = .ok () ∨ result = .error ⟨false⟩) := by
  rcases h.removed d hd with ⟨hdelivered, entry, hentry, hanswered, hrequeues⟩
  have hsent := h.mem_sent_of_answered hentry
  rcases h.delivery_of_mem_sent hsent with
    ⟨d', hd', hanswered', task, htask, hhanded, result, hstate, hanswer⟩
  rw [h.isAnswered_iff_key hsent] at hanswered hanswered'
  rw [h.eq_of_key hdelivered hd' (hanswered.trans hanswered'.symm)]
  refine ⟨task, htask, hhanded, result, by rw [hstate]; rfl, ?_⟩
  rw [hanswer] at hrequeues
  match result with
  | .ok () => exact Or.inl rfl
  | .error ⟨requeue⟩ =>
    have hrequeue : requeue = false := hrequeues
    exact Or.inr (by rw [hrequeue])

/--
Whichever channels are closed and whatever gets lost with them, a published message is with the broker,
until that removes it. It does so only after a callback has been executed with the message, and has
returned that it has processed it or that it is not to be put back. And it knows the delivery tags it is
answered with, so that none of the answers gets their channel closed.
-/
theorem consumed_at_least_once (labels : List QueueLabel)
    (hrun : System.run step init labels = some s)
    : (s.ready ++ s.unacked.map (·.message) ++ s.removed.map (·.message)).Perm s.published
      ∧ (∀ d ∈ s.removed, ∃ (k : Nat) (task : ProcessingTask) (result : Except ConsumeError Unit),
        s.deliveries.tasks[k]? = some task
          ∧ task.consumer = d.consumer
          ∧ task.deliveryTag = d.deliveryTag
          ∧ task.content = d.message.content
          ∧ .client (.returned k result) ∈ labels
          ∧ (result = .ok () ∨ result = .error ⟨false⟩))
      ∧ ∀ k s', s.step (.receive k) = some s' → s'.closed = s.closed := by
  have h := kept_of_run hrun
  refine ⟨h.messages, ?_, ?_⟩
  . intro d hd
    rcases h.result_of_removed hd with ⟨task, htask, hhanded, result, hresult, hremoves⟩
    rcases List.mem_iff_getElem?.mp htask with ⟨k, hk⟩
    simp only [Delivery.handed, Prod.mk.injEq] at hhanded
    refine ⟨k, task, result, hk, hhanded.1.symm, hhanded.2.1.symm, hhanded.2.2.symm, ?_, hremoves⟩
    have hreturned := Deliveries.returned_mem (run_deliveries hrun) k task result hk hresult
    rcases List.mem_filterMap.mp hreturned with ⟨label, hlabel, hclient⟩
    cases label with
    | client label =>
      rw [← Option.some.inj hclient]
      exact hlabel
    | _ => contradiction
  . intro k s' hstep
    exact h.closed_receive hstep

-- The first message is processed twice: the channel is closed before the first ack arrives.
def redelivery : List QueueLabel := [
  .publish [1], .publish [2], .client (.new 0), .deliver 0 1, .deliver 0 2,
  .client (.consume 0 1 [1]), .client (.returned 0 (.ok ())), .client (.send 0),
  .client (.respond 0 true), .close 0, .receive 0,
  .client (.new 1), .deliver 1 1, .deliver 1 2,
  .client (.consume 1 1 [1]), .client (.consume 1 2 [2]),
  .client (.returned 2 (.error ⟨true⟩)), .client (.returned 1 (.ok ())),
  .client (.send 1), .client (.send 2), .client (.respond 1 true), .client (.respond 1 true),
  .receive 1, .receive 0
]

def redelivered : Queue := (System.run step init redelivery).getD init

theorem consumed_at_least_once_redelivered
    : redelivered.ready = [⟨1, [2]⟩]
        ∧ redelivered.removed = [⟨1, 1, 1, ⟨0, [1]⟩⟩]
        ∧ (redelivered.ready ++ redelivered.unacked.map (·.message)
          ++ redelivered.removed.map (·.message)).Perm redelivered.published := by
  have hrun : System.run step init redelivery = some redelivered := by
    rfl
  exact ⟨by decide, by decide, (consumed_at_least_once redelivery hrun).1⟩

end Queue

end TomNotifier.Rabbitmq.Consumer
