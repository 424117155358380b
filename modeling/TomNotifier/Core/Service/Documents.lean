import TomNotifier.Core.Service.Handovers

/-!
This module contains which documents the messages for the producer service are about, whoever else
writes to the store.
-/

namespace TomNotifier.Core

/-- The message is about what is stored, and about somebody the notification has been delivered to. -/
def ProducedNotification.About (n : NotificationEntity) : ProducedNotification → Prop
  | .updated userId id _ _ => n.id = id ∧ n.IsConfirmed userId
  | .deleted userId id _ => n.id = id ∧ n.IsConfirmed userId
  | m => n.IsAnnouncedBy m

namespace ProducedNotification

variable {n : NotificationEntity} {userId : Uuid} {m : ProducedNotification}

theorem About.id (h : m.About n) : n.id = m.id := by
  cases m with
  | new userIds id timestamp createdBy seen contentType content =>
    rcases h with ⟨_, _, hnew⟩
    rw [new.injEq] at hnew
    exact hnew.2.1.symm
  | updated userId id seen timestamp => exact h.1
  | deleted userId id timestamp => exact h.1

/-- A message is for recipients of the notification only. -/
theorem About.isRecipient (h : m.About n) (hvalid : n.Valid)
    (haddressed : m.userIds = [] ∨ userId ∈ m.userIds) : n.IsRecipient userId := by
  have hconfirmed : ∀ userId', n.IsConfirmed userId' → ([userId'] = [] ∨ userId ∈ [userId']) →
      n.IsRecipient userId := by
    rintro userId' ⟨c, hc, rfl⟩ (hnil | hmem)
    . simp at hnil
    . rw [List.mem_singleton] at hmem
      exact hmem ▸ hvalid.isRecipient c hc
  cases m with
  | new userIds id timestamp createdBy seen contentType content =>
    rcases h with ⟨_, _, hnew⟩
    rw [new.injEq] at hnew
    rcases hnew with ⟨rfl, _⟩
    exact haddressed
  | updated userId' id seen timestamp => exact hconfirmed userId' h.2 haddressed
  | deleted userId' id timestamp => exact hconfirmed userId' h.2 haddressed

end ProducedNotification

namespace Op

variable {n : NotificationEntity} {userId : Uuid} {m : ProducedNotification} {op : Op}

theorem isAnnouncedBy_onDocument (h : n.IsAnnouncedBy m) (op : Op)
    : (op.onDocument n).IsAnnouncedBy m := by
  rcases op.exists_onDocument_eq n with ⟨invalidateAt, confirmations, heq⟩
  rcases h with ⟨createdAt, hcreatedAt, hm⟩
  rw [heq]
  exact ⟨createdAt, hcreatedAt, hm⟩

theorem about_onDocument (hvalid : n.Valid) (h : m.About n) (op : Op) : m.About (op.onDocument n) := by
  have hcontinues := hvalid.continues_onDocument op
  cases m with
  | new userIds id timestamp createdBy seen contentType content => exact isAnnouncedBy_onDocument h op
  | updated userId id seen timestamp => exact ⟨(op.onDocument_id n).trans h.1, hcontinues.isConfirmed h.2⟩
  | deleted userId id timestamp => exact ⟨(op.onDocument_id n).trans h.1, hcontinues.isConfirmed h.2⟩

/-- A user is confirmed to have a notification by what has been there, or by a push. -/
theorem isConfirmed_onDocument (h : (op.onDocument n).IsConfirmed userId)
    : n.IsConfirmed userId ∨ ∃ now, op.Pushes n.id userId now := by
  rcases h with ⟨c, hc, rfl⟩
  rcases op.onDocument_cases n
    with ⟨userId, now, hpushes, _, heq⟩ | hsame | ⟨userId, q, f, _, heq, _, hf, _⟩
  . rw [heq, NotificationsRepository.pushConfirmation, List.mem_append, List.mem_singleton] at hc
    rcases hc with hold | rfl
    . exact .inl ⟨c, hold, rfl⟩
    . exact .inr ⟨now, hpushes⟩
  . exact .inl ⟨c, hsame ▸ hc, rfl⟩
  . rw [heq] at hc
    have hmem : c.userId ∈ (Mongo.updateFirst q f n.confirmations).map (·.userId) :=
      List.mem_map_of_mem hc
    rw [Mongo.map_updateFirst (fun c _ => hf c)] at hmem
    rcases List.mem_map.mp hmem with ⟨c', hc', huser⟩
    exact .inl ⟨c', hc', huser⟩

end Op

namespace Store

variable {store store' : Store} {userId : Uuid} {id : ObjectId} {n : NotificationEntity} {op : Op}

theorem isConfirmed_apply (hn : n ∈ (store.apply op).docs) (h : n.IsConfirmed userId)
    : (∃ n' ∈ store.docs, n = op.onDocument n' ∧ n'.IsConfirmed userId)
        ∨ ∃ now, op.Pushes n.id userId now := by
  rw [docs_apply, List.mem_append] at hn
  rcases hn with hn | hn
  . rcases List.mem_map.mp hn with ⟨n', hn', rfl⟩
    rw [Op.onDocument_id]
    rcases Op.isConfirmed_onDocument h with hold | hpushes
    . exact .inl ⟨n', hn', rfl, hold⟩
    . exact .inr hpushes
  . rcases op.inserted_cases store.docs with hnil | ⟨n', hn', hconf, _⟩
    . simp [hnil] at hn
    . rw [hn', List.mem_singleton] at hn
      rcases h with ⟨c, hc, _⟩
      simp [hn, hconf] at hc

theorem exists_isConfirmed_of_status {seen : Bool} (h : store.status id userId = .delivered seen)
    : ∃ n ∈ store.docs, n.id = id ∧ n.IsConfirmed userId := by
  unfold status at h
  split at h
  . simp at h
  . next n hfind =>
    refine ⟨n, List.mem_of_find?_eq_some hfind, by simpa using List.find?_some hfind, ?_⟩
    by_contra hconf
    rw [NotificationEntity.status_eq_undelivered_iff.mpr hconf] at h
    simp at h

theorem Leads.exists_about {m : ProducedNotification} (h : store.Leads store')
    (habout : ∃ n ∈ store.docs, m.About n) : ∃ n ∈ store'.docs, m.About n := by
  rcases habout with ⟨n, hn, hm⟩
  rcases h with hdocs | ⟨op, rfl⟩
  . exact ⟨n, hdocs ▸ hn, hm⟩
  . exact ⟨_, onDocument_mem_docs_apply hn op, Op.about_onDocument (store.valid n hn) hm op⟩

theorem Leads.exists_isConfirmed (h : store.Leads store')
    (hconf : ∃ n ∈ store.docs, n.id = id ∧ n.IsConfirmed userId)
    : ∃ n ∈ store'.docs, n.id = id ∧ n.IsConfirmed userId := by
  exact h.exists_about (m := .deleted userId id 0) hconf

end Store

namespace Service

variable {config : NotificationsServiceConfig} {s s' : Service} {i : Nat} {request : Request}
variable {label : Label} {store : Store}

/-- What a call is going to announce is there. -/
def Announceable (store : Store) : Call → Prop
  | ⟨_, .inserted inserted⟩ => ∃ n ∈ store.docs, (NotificationsService.sendNew inserted).About n
  | ⟨request, .updated⟩ => ∀ id userId, request.target? = some (id, userId) →
      ∃ n ∈ store.docs, n.id = id ∧ n.IsConfirmed userId
  | ⟨request, .stamped _⟩ => ∀ id userId, request.target? = some (id, userId) →
      ∃ n ∈ store.docs, n.id = id ∧ n.IsConfirmed userId
  | _ => True

structure Documented (s : Service) : Prop where
  messages : ∀ m ∈ s.messages, ∃ n ∈ s.store.docs, m.About n
  calls : ∀ call ∈ s.calls, Announceable s.store call

theorem Announceable.leads {store' : Store} {call : Call} (h : Announceable store call)
    (hleads : store.Leads store') : Announceable store' call := by
  rcases call with ⟨request, progress⟩
  cases progress with
  | inserted inserted => exact hleads.exists_about h
  | updated => exact fun id userId htarget => hleads.exists_isConfirmed (h id userId htarget)
  | stamped timestamp => exact fun id userId htarget => hleads.exists_isConfirmed (h id userId htarget)
  | _ => trivial

theorem Documented.leads (h : s.Documented) (hleads : s.store.Leads store)
    : Documented { s with store } where
  messages m hm := hleads.exists_about (h.messages m hm)
  calls call hcall := (h.calls call hcall).leads hleads

theorem Documented.set (h : s.Documented) {call : Call} (hleads : s.store.Leads s'.store)
    (hcalls : s'.calls = s.calls.set i call) (hcall : Announceable s'.store call)
    (hmessages : ∀ m ∈ s'.messages, m ∈ s.messages ∨ ∃ n ∈ s'.store.docs, m.About n)
    : s'.Documented where
  messages := by
    intro m hm
    rcases hmessages m hm with hold | hnew
    . exact hleads.exists_about (h.messages m hold)
    . exact hnew
  calls := by
    intro call' hcall'
    rw [hcalls] at hcall'
    rcases List.mem_or_eq_of_mem_set hcall' with hold | rfl
    . exact (h.calls call' hold).leads hleads
    . exact hcall

theorem Request.about_of_message? {timestamp : OffsetDateTime} {m : ProducedNotification}
    (h : ∀ id userId, request.target? = some (id, userId) →
      ∃ n ∈ store.docs, n.id = id ∧ n.IsConfirmed userId)
    (hm : request.message? timestamp = some m) : ∃ n ∈ store.docs, m.About n := by
  cases request with
  | saveNotification producerId notification => simp [Request.message?] at hm
  | deleteNotification id userId =>
    simp only [Request.message?, Option.some.injEq] at hm
    subst hm
    exact h id userId rfl
  | updateNotificationSeen id userId seen =>
    simp only [Request.message?, Option.some.injEq] at hm
    subst hm
    exact h id userId rfl

theorem CallStep.documented (hstep : CallStep s s' label i request) (h : s.Documented)
    : s'.Documented := by
  have hleads := hstep.leads
  cases hstep with
  | settled old new call before after calls messages docs =>
    refine h.set hleads calls ?_ (fun m hm => .inl (messages ▸ hm))
    rcases after with ⟨createdAt, rfl⟩ | ⟨err, rfl⟩
    . trivial
    . trivial
  | lost old op call before calls messages store =>
    exact h.set hleads calls trivial (fun m hm => .inl (messages ▸ hm))
  | inserted producerId notification createdAt inserted op n request_eq call fresh id saves announced
      calls messages store docs =>
    refine h.set hleads calls ?_ (fun m hm => .inl (messages ▸ hm))
    exact ⟨n, docs ▸ List.mem_append_right _ List.mem_cons_self, announced⟩
  | updated id userId op label_eq target call delivered status calls messages store =>
    refine h.set hleads calls ?_ (fun m hm => .inl (messages ▸ hm))
    intro id' userId' target'
    rw [target, Option.some.injEq, Prod.mk.injEq] at target'
    rcases target' with ⟨rfl, rfl⟩
    rcases delivered with ⟨seen, hseen⟩
    exact hleads.exists_isConfirmed (Store.exists_isConfirmed_of_status hseen)
  | stamped now call calls messages store =>
    refine h.set hleads calls ?_ (fun m hm => .inl (messages ▸ hm))
    have hupdated := h.calls _ (List.mem_of_getElem? call)
    rw [store]
    exact hupdated
  | sentNew inserted call calls messages store =>
    refine h.set hleads calls trivial ?_
    intro m hm
    rw [messages, List.mem_append, List.mem_singleton] at hm
    rcases hm with hold | rfl
    . exact .inl hold
    . rw [store]
      exact .inr (h.calls _ (List.mem_of_getElem? call))
  | sent timestamp call calls messages store =>
    refine h.set hleads calls trivial ?_
    intro m hm
    rw [messages, List.mem_append, Option.mem_toList] at hm
    rcases hm with hold | hnew
    . exact .inl hold
    . rw [store]
      exact .inr (Request.about_of_message? (h.calls _ (List.mem_of_getElem? call)) hnew)

theorem Documented.step (h : s.Documented) (hstep : Service.step config s label = some s')
    : s'.Documented := by
  cases hcall : label.call? with
  | none =>
    rcases otherStep_of_step hstep hcall with ⟨new, hother⟩
    constructor
    . intro m hm
      rw [hother.messages] at hm
      exact hother.leads.exists_about (h.messages m hm)
    . intro call hmem
      rw [hother.calls, List.mem_append] at hmem
      rcases hmem with hold | hnew
      . exact (h.calls call hold).leads hother.leads
      . rcases call with ⟨request, progress⟩
        have hstarted := hother.started _ hnew
        dsimp only at hstarted
        subst hstarted
        trivial
  | some i =>
    rcases callStep_of_step hstep hcall with ⟨request, hcallStep⟩
    exact hcallStep.documented h

theorem messages_subset_of_step (hstep : step config s label = some s')
    : s.messages ⊆ s'.messages := by
  cases hcall : label.call? with
  | none =>
    rcases otherStep_of_step hstep hcall with ⟨new, hother⟩
    exact hother.messages ▸ List.Subset.refl _
  | some i =>
    rcases callStep_of_step hstep hcall with ⟨request, hcallStep⟩
    cases hcallStep with
    | sentNew inserted call calls messages store => exact messages ▸ List.subset_append_left _ _
    | sent timestamp call calls messages store => exact messages ▸ List.subset_append_left _ _
    | settled old new call before after calls messages docs => exact messages ▸ List.Subset.refl _
    | lost old op call before calls messages store => exact messages ▸ List.Subset.refl _
    | inserted producerId notification createdAt inserted op n request_eq call fresh id saves
        announced calls messages store docs =>
      exact messages ▸ List.Subset.refl _
    | updated id userId op label_eq target call delivered status calls messages store =>
      exact messages ▸ List.Subset.refl _
    | stamped now call calls messages store => exact messages ▸ List.Subset.refl _

/-- The commands of the calls confirm nothing. -/
theorem not_pushes_of_op? {call : Call} {op : Op} {id id' : ObjectId} {userId : Uuid}
    {now : OffsetDateTime} (h : call.op? id = some op) : ¬op.Pushes id' userId now := by
  unfold Call.op? at h
  split at h
  . rw [← Option.some.inj h]
    exact not_false
  . rw [← Option.some.inj h]
    exact not_false
  . rw [← Option.some.inj h]
    exact not_false
  . simp at h

/-- What a step that is one of a call's own does to the store is what its request asks for. -/
theorem op_of_step (hstep : step config s label = some s') (hcall : label.call? = some i)
    : s'.store = s.store
        ∨ ∃ call, s.calls[i]? = some call ∧ ∃ id op, call.op? id = some op
          ∧ s'.store = s.store.apply op
          ∧ (call.progress = .started ∨ label = .insert i id ∨ label = .lost i id true) := by
  cases label with
  | call request => simp [Label.call?] at hcall
  | repository op => simp [Label.call?] at hcall
  | validate j now createdAt =>
    simp only [step] at hstep
    split at hstep
    . split at hstep
      . exact .inl (Option.some.inj hstep ▸ rfl)
      . exact .inl (Option.some.inj hstep ▸ rfl)
    . simp at hstep
  | insert j id =>
    cases hcall
    simp only [step] at hstep
    split at hstep
    . next producerId notification createdAt hj =>
      refine .inr ⟨_, hj, id, _, rfl, ?_, .inr (.inl rfl)⟩
      split at hstep
      . exact Option.some.inj hstep ▸ rfl
      . exact Option.some.inj hstep ▸ rfl
    . simp at hstep
  | update j =>
    cases hcall
    simp only [step] at hstep
    split at hstep
    . next id userId hj =>
      refine .inr ⟨_, hj, id, _, rfl, ?_, .inl rfl⟩
      split at hstep
      . exact Option.some.inj hstep ▸ rfl
      . exact Option.some.inj hstep ▸ rfl
    . next id userId seen hj =>
      refine .inr ⟨_, hj, id, _, rfl, ?_, .inl rfl⟩
      split at hstep
      . exact Option.some.inj hstep ▸ rfl
      . exact Option.some.inj hstep ▸ rfl
    . simp at hstep
  | lost j id applied =>
    cases hcall
    simp only [step] at hstep
    split at hstep
    . next call hj =>
      split at hstep
      . next op hop =>
        rw [← Option.some.inj hstep]
        cases applied with
        | true => exact .inr ⟨call, hj, id, op, hop, rfl, .inr (.inr rfl)⟩
        | false => exact .inl rfl
      . simp at hstep
    . simp at hstep
  | stamp j now =>
    simp only [step] at hstep
    split at hstep
    . exact .inl (Option.some.inj hstep ▸ rfl)
    . simp at hstep
  | send j =>
    simp only [step] at hstep
    split at hstep
    . exact .inl (Option.some.inj hstep ▸ rfl)
    . exact .inl (Option.some.inj hstep ▸ rfl)
    . simp at hstep

end Service

end TomNotifier.Core
