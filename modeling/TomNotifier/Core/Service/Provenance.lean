import TomNotifier.Core.Service.Documents

/-!
This module contains what a stored document owes to the commands that have been executed.
-/

namespace TomNotifier.Core

namespace NotificationEntity

def HasSeen (n : NotificationEntity) (userId : Uuid) : Prop :=
  ∃ c ∈ n.confirmations, c.userId = userId ∧ c.notificationSeen = true

def HasDeleted (n : NotificationEntity) (userId : Uuid) : Prop :=
  ∃ c ∈ n.confirmations, c.userId = userId ∧ c.notificationDeleted = true

theorem hasSeen_of_status {n : NotificationEntity} {userId : Uuid}
    (h : n.status userId = .delivered true) : n.HasSeen userId := by
  unfold status at h
  split at h
  . contradiction
  . next c hc =>
    refine ⟨c, List.mem_of_find?_eq_some hc, userId_of_confirmationOf hc, ?_⟩
    unfold NotificationConfirmation.status at h
    split at h
    . contradiction
    . exact Status.delivered.inj h

end NotificationEntity

namespace Op

variable {n n' : NotificationEntity} {userId : Uuid} {op : Op} {docs : Notifications}

theorem saves_onDocument {producerId : Uuid} {notification : InputNotification}
    (h : n.Saves producerId notification) (op : Op)
    : (op.onDocument n).Saves producerId notification := by
  rcases op.exists_onDocument_eq n with ⟨invalidateAt, confirmations, heq⟩
  rw [heq]
  exact ⟨h.producerId, h.producerNotificationId, h.userIds, h.contentType, h.content⟩

theorem invalidateAt_onDocument_cases (op : Op) (n : NotificationEntity)
    : (op.onDocument n).invalidateAt = n.invalidateAt
        ∨ ∃ invalidateAt, op = .updateInvalidateAt n.id n.producerId invalidateAt
          ∧ (op.onDocument n).invalidateAt = invalidateAt.map DateTime.ofOffsetDateTime := by
  cases op with
  | updateInvalidateAt id producerId invalidateAt =>
    by_cases h : n.id = id ∧ n.producerId = producerId
    . refine .inr ⟨invalidateAt, by rw [h.1, h.2], ?_⟩
      simp only [onDocument, if_pos h]
    . refine .inl ?_
      simp only [onDocument, if_neg h]
  | _ =>
    refine .inl ?_
    dsimp only [onDocument]
    try split <;> rfl

/-- A confirmation after a command has been there before, or is as it is pushed. -/
theorem confirmation_cases {c : NotificationConfirmation} (hc : c ∈ (op.onDocument n).confirmations)
    : c ∈ n.confirmations
        ∨ (c.notificationSeen = false ∧ c.notificationDeleted = false)
        ∨ (∃ c' ∈ n.confirmations, ∃ seen, op = .updateConfirmationSeen n.id c'.userId seen
          ∧ c = { c' with notificationSeen := seen })
        ∨ ∃ c' ∈ n.confirmations, op = .delete n.id c'.userId
          ∧ c = { c' with notificationDeleted := true } := by
  have hpush : ∀ {userId : Uuid} {now : DateTime},
      c ∈ (NotificationsRepository.pushConfirmation userId now n).confirmations →
        c ∈ n.confirmations ∨ (c.notificationSeen = false ∧ c.notificationDeleted = false) := by
    intro userId now h
    rw [NotificationsRepository.pushConfirmation, List.mem_append, List.mem_singleton] at h
    rcases h with hold | rfl
    . exact .inl hold
    . exact .inr ⟨rfl, rfl⟩
  cases op with
  | insert => exact .inl hc
  | updateInvalidateAt =>
    dsimp only [onDocument] at hc
    split at hc <;> exact .inl hc
  | insertConfirmation =>
    dsimp only [onDocument] at hc
    split at hc
    . exact (hpush hc).imp_right .inl
    . exact .inl hc
  | insertManyConfirmations =>
    dsimp only [onDocument] at hc
    split at hc
    . exact (hpush hc).imp_right .inl
    . exact .inl hc
  | insertManyConfirmationsAt =>
    dsimp only [onDocument] at hc
    split at hc
    . exact (hpush hc).imp_right .inl
    . exact .inl hc
  | updateConfirmationSeen id userId seen =>
    dsimp only [onDocument] at hc
    split at hc
    . next hid =>
      rcases Mongo.mem_updateFirst hc with hold | ⟨c', hc', hq, rfl⟩
      . exact .inl hold
      . have huser : c'.userId = userId := by
          rw [NotificationsRepository.notDeletedQuery_apply, Bool.and_eq_true, decide_eq_true_eq] at hq
          exact hq.1
        exact .inr (.inr (.inl ⟨c', hc', seen, by rw [huser, hid], rfl⟩))
    . exact .inl hc
  | delete id userId =>
    dsimp only [onDocument] at hc
    split at hc
    . next hid =>
      rcases Mongo.mem_updateFirst hc with hold | ⟨c', hc', hq, rfl⟩
      . exact .inl hold
      . have huser : c'.userId = userId := by
          simpa using hq
        exact .inr (.inr (.inr ⟨c', hc', by rw [huser, hid], rfl⟩))
    . exact .inl hc

theorem hasSeen_onDocument (h : (op.onDocument n).HasSeen userId)
    : n.HasSeen userId ∨ op = .updateConfirmationSeen n.id userId true := by
  rcases h with ⟨c, hc, rfl, hseen⟩
  rcases confirmation_cases hc with hold | ⟨hfalse, _⟩ | ⟨c', hc', seen, rfl, rfl⟩ | ⟨c', hc', rfl, rfl⟩
  . exact .inl ⟨c, hold, rfl, hseen⟩
  . simp [hseen] at hfalse
  . dsimp only at hseen
    subst hseen
    exact .inr rfl
  . exact .inl ⟨c', hc', rfl, hseen⟩

theorem hasDeleted_onDocument (h : (op.onDocument n).HasDeleted userId)
    : n.HasDeleted userId ∨ op = .delete n.id userId := by
  rcases h with ⟨c, hc, rfl, hdeleted⟩
  rcases confirmation_cases hc with hold | ⟨_, hfalse⟩ | ⟨c', hc', seen, rfl, rfl⟩ | ⟨c', hc', rfl, rfl⟩
  . exact .inl ⟨c, hold, rfl, hdeleted⟩
  . simp [hdeleted] at hfalse
  . exact .inl ⟨c', hc', rfl, hdeleted⟩
  . exact .inr rfl

theorem exists_of_mem_inserted (hn : n ∈ op.inserted docs)
    : ∃ createdAt notification,
        op = .insert n.id notification.userIds createdAt notification.invalidateAt n.producerId
            notification.producerNotificationId notification.contentType notification.content
          ∧ n.Saves n.producerId notification
          ∧ n.invalidateAt = notification.invalidateAt.map DateTime.ofOffsetDateTime
          ∧ n.confirmations = [] := by
  cases op with
  | insert id userIds createdAt invalidateAt producerId producerNotificationId contentType content =>
    simp only [inserted] at hn
    split at hn
    . simp at hn
    . rw [List.mem_singleton] at hn
      subst hn
      exact ⟨createdAt, ⟨invalidateAt, userIds, producerNotificationId, contentType, content⟩, rfl,
        ⟨rfl, rfl, rfl, rfl, rfl⟩, rfl, rfl⟩
  | _ => simp [inserted] at hn

end Op

namespace Service

variable {config : NotificationsServiceConfig} {s s' : Service} {label : Label}

/-- A call keeps its request. -/
theorem request_of_step (hstep : step config s label = some s') {call : Call} (hcall : call ∈ s'.calls)
    : (∃ call' ∈ s.calls, call'.request = call.request) ∨ label = .call call.request := by
  have hset : ∀ {i : Nat} {request : Request} {old new : Progress},
      s.calls[i]? = some ⟨request, old⟩ → s'.calls = s.calls.set i ⟨request, new⟩ →
        ∃ call' ∈ s.calls, call'.request = call.request := by
    intro i request old new hi hcalls
    rw [hcalls] at hcall
    rcases List.mem_or_eq_of_mem_set hcall with hold | rfl
    . exact ⟨call, hold, rfl⟩
    . exact ⟨_, List.mem_of_getElem? hi, rfl⟩
  cases hlabel : label.call? with
  | none =>
    cases label with
    | call request =>
      rw [← Option.some.inj hstep, List.mem_append, List.mem_singleton] at hcall
      rcases hcall with hold | rfl
      . exact .inl ⟨call, hold, rfl⟩
      . exact .inr rfl
    | repository op =>
      rcases otherStep_of_step hstep hlabel with ⟨new, hother⟩
      cases op <;> simp only [step, Option.some.injEq, reduceCtorEq] at hstep <;> subst hstep
      all_goals exact .inl ⟨call, hcall, rfl⟩
    | _ => simp [Label.call?] at hlabel
  | some i =>
    rcases callStep_of_step hstep hlabel with ⟨request, hcallStep⟩
    cases hcallStep with
    | settled old new call before after calls messages docs => exact .inl (hset call calls)
    | lost old op call before calls messages store => exact .inl (hset call calls)
    | inserted producerId notification createdAt inserted op n request_eq call fresh id saves announced
        calls messages store docs =>
      exact .inl (hset call calls)
    | updated id userId op label_eq target call delivered status calls messages store =>
      exact .inl (hset call calls)
    | stamped now call calls messages store => exact .inl (hset call calls)
    | sentNew inserted call calls messages store => exact .inl (hset call calls)
    | sent timestamp call calls messages store => exact .inl (hset call calls)

end Service

end TomNotifier.Core
