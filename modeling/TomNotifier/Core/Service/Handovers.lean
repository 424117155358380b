import TomNotifier.Core.Service.Convergence

/-!
This module contains which messages every single call hands to the producer service, and how often
the same thing is announced.
-/

namespace TomNotifier.Core

def Label.call? : Label → Option Nat
  | .validate i _ _ => some i
  | .insert i _ => some i
  | .update i => some i
  | .lost i _ _ => some i
  | .stamp i _ => some i
  | .send i => some i
  | _ => none

namespace NotificationEntity

structure Saves (producerId : Uuid) (notification : InputNotification) (n : NotificationEntity)
    : Prop where
  producerId : n.producerId = producerId
  producerNotificationId : n.producerNotificationId = notification.producerNotificationId
  userIds : n.userIds = notification.userIds
  contentType : n.contentType = notification.contentType
  content : n.content = notification.content

/-- The message is a NEW one with what is stored. -/
def IsAnnouncedBy (m : ProducedNotification) (n : NotificationEntity) : Prop :=
  ∃ createdAt, n.createdAt = DateTime.ofOffsetDateTime createdAt
    ∧ m = .new n.userIds n.id createdAt n.producerId false n.contentType n.content

end NotificationEntity

namespace ProducedNotification

def isNewOf (store : Store) (producerId : Uuid) (producerNotificationId : Int64)
    : ProducedNotification → Bool
  | .new _ id _ _ _ _ _ =>
    store.docs.any (fun n => decide (n.id = id ∧ n.producerId = producerId
      ∧ n.producerNotificationId = producerNotificationId))
  | _ => false

def isDeletedOf (id : ObjectId) (userId : Uuid) : ProducedNotification → Bool
  | .deleted userId' id' _ => decide (id' = id ∧ userId' = userId)
  | _ => false

end ProducedNotification

namespace Service

/-- What is handed to the producer service, with the call that does it. -/
def handovers (config : NotificationsServiceConfig) (s : Service)
    : List Label → List (Option Nat × ProducedNotification)
  | [] => []
  | label :: labels =>
    match step config s label with
    | none => []
    | some s' =>
      (s'.messages.drop s.messages.length).map (fun m => (label.call?, m)) ++ handovers config s' labels

def handedBy (i : Nat) (handovers : List (Option Nat × ProducedNotification))
    : List ProducedNotification :=
  (handovers.filter (fun handover => decide (handover.1 = some i))).map (·.2)

/-- If the step is one of the call, the store stays as it is. -/
def LeavesStore (config : NotificationsServiceConfig) (i : Nat) (s : Service) (label : Label) : Prop :=
  label.call? = some i → ∀ s', step config s label = some s' → s'.store.docs = s.store.docs

/-- The call has given the user's copy of the notification that status. -/
def Wrote (config : NotificationsServiceConfig) (store : Store) (labels : List Label) (i : Nat)
    (id : ObjectId) (userId : Uuid) (status : Status) : Prop :=
  ∃ before after s, labels = before ++ .update i :: after
    ∧ System.run (step config) (init store) (before ++ [.update i]) = some s
    ∧ s.store.status id userId = status

/-- The call has given the user's copy the status the request asks for. -/
def Written (config : NotificationsServiceConfig) (store : Store) (labels : List Label) (i : Nat)
    (request : Request) : Prop :=
  ∃ id userId status, request.target? = some (id, userId) ∧ request.status? = some status
    ∧ Wrote config store labels i id userId status

/-- The message is the one about what the call has done. -/
def Announces (config : NotificationsServiceConfig) (store : Store) (labels : List Label) (s : Service)
    (i : Nat) (x : Option ObjectId) (m : ProducedNotification) : Request → Prop
  | .saveNotification producerId notification =>
    ∃ n ∈ s.store.docs, n.Saves producerId notification ∧ x = some n.id ∧ n.IsAnnouncedBy m
  | .deleteNotification id userId =>
    x = none ∧ Wrote config store labels i id userId .deleted
      ∧ ∃ timestamp, m = .deleted userId id timestamp
  | .updateNotificationSeen id userId seen =>
    x = none ∧ Wrote config store labels i id userId (.delivered seen)
      ∧ ∃ timestamp, m = .updated userId id seen timestamp

end Service

namespace NotificationsRepository

theorem insert_eq_ok {id : ObjectId} {userIds : List Uuid} {createdAt : OffsetDateTime}
    {invalidateAt : Option OffsetDateTime} {producerId : Uuid} {producerNotificationId : Int64}
    {contentType : String} {content : Bytes} {docs : Notifications} {inserted : InsertedNotification}
    (h : (insert id userIds createdAt invalidateAt producerId producerNotificationId contentType
      content docs).1 = .ok inserted)
    : (∀ n ∈ docs, n.id ≠ id)
      ∧ inserted = ⟨id, createdAt, invalidateAt, userIds, producerId, producerNotificationId,
          contentType, content⟩
      ∧ (insert id userIds createdAt invalidateAt producerId producerNotificationId contentType
          content docs).2
        = docs ++ [⟨id, DateTime.ofOffsetDateTime createdAt,
            invalidateAt.map DateTime.ofOffsetDateTime, userIds, producerId, producerNotificationId,
            contentType, content, []⟩] := by
  unfold insert Mongo.insertOne at h ⊢
  dsimp only at h ⊢
  split at h
  . next hconflict => simp at h
  . next docs' hconflict =>
    split at hconflict
    . simp at hconflict
    . next hany =>
      rw [Option.some.injEq] at hconflict
      rw [Except.ok.injEq] at h
      refine ⟨?_, h.symm, hconflict.symm⟩
      intro n hn hid
      exact hany (List.any_eq_true.mpr ⟨n, hn, by simp [conflict, hid]⟩)

end NotificationsRepository

namespace Store

def Leads (store store' : Store) : Prop := store'.docs = store.docs ∨ ∃ op, store' = store.apply op

variable {store store' : Store} {id : ObjectId} {userId : Uuid}

theorem Leads.exists_document (h : store.Leads store') {n : NotificationEntity} (hn : n ∈ store.docs)
    : ∃ invalidateAt confirmations, { n with invalidateAt, confirmations } ∈ store'.docs := by
  rcases h with hdocs | ⟨op, rfl⟩
  . exact ⟨n.invalidateAt, n.confirmations, hdocs ▸ hn⟩
  . rcases op.exists_onDocument_eq n with ⟨invalidateAt, confirmations, heq⟩
    exact ⟨invalidateAt, confirmations, heq ▸ onDocument_mem_docs_apply hn op⟩

theorem Leads.status_deleted (h : store.Leads store') (hdeleted : store.status id userId = .deleted)
    : store'.status id userId = .deleted := by
  rcases h with hdocs | ⟨op, rfl⟩
  . rw [status, hdocs]
    exact hdeleted
  . rw [status_apply, hdeleted]
    cases (store.docs.find? (fun n => decide (n.id = id))).bind (op.event? · userId) with
    | none => rfl
    | some event => cases event <;> rfl

end Store

namespace Service

inductive CallStep (s s' : Service) (label : Label) (i : Nat) (request : Request) : Prop where
  | settled (old new : Progress) (call : s.calls[i]? = some ⟨request, old⟩)
    (before : old = .started ∨ ∃ createdAt, old = .validated createdAt)
    (after : (∃ createdAt, new = .validated createdAt) ∨ ∃ err, new = .returned (.error err))
    (calls : s'.calls = s.calls.set i ⟨request, new⟩) (messages : s'.messages = s.messages)
    (docs : s'.store.docs = s.store.docs)
  | lost (old : Progress) (op : Op) (call : s.calls[i]? = some ⟨request, old⟩)
    (before : old = .started ∨ ∃ createdAt, old = .validated createdAt)
    (calls : s'.calls = s.calls.set i ⟨request, .returned (.error (.database .mongo))⟩)
    (messages : s'.messages = s.messages) (store : s'.store = s.store.apply op)
  | inserted (producerId : Uuid) (notification : InputNotification) (createdAt : OffsetDateTime)
    (inserted : InsertedNotification) (op : Op) (n : NotificationEntity)
    (request_eq : request = .saveNotification producerId notification)
    (call : s.calls[i]? = some ⟨request, .validated createdAt⟩)
    (fresh : ∀ n' ∈ s.store.docs, n'.id ≠ inserted.id) (id : n.id = inserted.id)
    (saves : n.Saves producerId notification)
    (announced : n.IsAnnouncedBy (NotificationsService.sendNew inserted))
    (calls : s'.calls = s.calls.set i ⟨request, .inserted inserted⟩)
    (messages : s'.messages = s.messages) (store : s'.store = s.store.apply op)
    (docs : s'.store.docs = s.store.docs ++ [n])
  | updated (id : ObjectId) (userId : Uuid) (op : Op) (label_eq : label = .update i)
    (target : request.target? = some (id, userId)) (call : s.calls[i]? = some ⟨request, .started⟩)
    (delivered : ∃ seen, s.store.status id userId = .delivered seen)
    (status : request.status? = some (s'.store.status id userId))
    (calls : s'.calls = s.calls.set i ⟨request, .updated⟩) (messages : s'.messages = s.messages)
    (store : s'.store = s.store.apply op)
  | stamped (now : OffsetDateTime) (call : s.calls[i]? = some ⟨request, .updated⟩)
    (calls : s'.calls = s.calls.set i ⟨request, .stamped now⟩) (messages : s'.messages = s.messages)
    (store : s'.store = s.store)
  | sentNew (inserted : InsertedNotification) (call : s.calls[i]? = some ⟨request, .inserted inserted⟩)
    (calls : s'.calls = s.calls.set i ⟨request, .returned (.ok (some inserted.id))⟩)
    (messages : s'.messages = s.messages ++ [NotificationsService.sendNew inserted])
    (store : s'.store = s.store)
  | sent (timestamp : OffsetDateTime) (call : s.calls[i]? = some ⟨request, .stamped timestamp⟩)
    (calls : s'.calls = s.calls.set i ⟨request, .returned (.ok none)⟩)
    (messages : s'.messages = s.messages ++ (request.message? timestamp).toList)
    (store : s'.store = s.store)

variable {config : NotificationsServiceConfig} {s s' : Service} {i : Nat} {request : Request}
variable {store : Store} {labels : List Label} {label : Label}

theorem callStep_of_insert {id : ObjectId} (h : step config s (.insert i id) = some s')
    : ∃ request, CallStep s s' (.insert i id) i request := by
  simp only [step] at h
  split at h
  swap
  . contradiction
  . next producerId notification createdAt hcall =>
    refine ⟨.saveNotification producerId notification, ?_⟩
    split at h
    . next err hres =>
      rw [Option.some.injEq] at h
      rw [← h]
      have hdocs := NotificationsRepository.insert_snd_of_error hres
      exact .settled _ _ hcall (.inr ⟨createdAt, rfl⟩) (.inr ⟨_, rfl⟩) rfl rfl hdocs
    . next inserted hres =>
      rw [Option.some.injEq] at h
      rcases NotificationsRepository.insert_eq_ok hres with ⟨hfresh, rfl, hdocs⟩
      rw [← h]
      exact .inserted producerId notification createdAt _ _ _ rfl hcall hfresh (by rfl)
        ⟨rfl, rfl, rfl, rfl, rfl⟩ ⟨createdAt, rfl, rfl⟩ rfl rfl rfl hdocs

theorem callStep_of_update (h : step config s (.update i) = some s')
    : ∃ request, CallStep s s' (.update i) i request := by
  simp only [step] at h
  split at h
  . next id userId hcall =>
    refine ⟨.deleteNotification id userId, ?_⟩
    split at h
    . next err hres =>
      rw [Option.some.injEq] at h
      rw [← h]
      have hdocs := NotificationsRepository.delete_snd_of_error hres
      exact .settled _ _ hcall (.inl rfl) (.inr ⟨_, rfl⟩) rfl rfl hdocs
    . next hres =>
      rw [Option.some.injEq] at h
      rw [← h]
      rcases (NotificationsRepository.delete_fst_eq_ok_iff s.store).mp hres with ⟨n, hn, hid, hdel⟩
      rcases (s.store.valid n hn).isDelivered_iff.mp hdel with ⟨seen, hstatus⟩
      have hop : Call.op? id ⟨.deleteNotification id userId, .started⟩ = some (.delete id userId) := by
        rfl
      have hok := Store.status_apply_of_ok hop (by rfl) hres
      exact .updated id userId _ rfl rfl hcall
        ⟨seen, Store.status_eq_of_mem hn hid ▸ hstatus⟩ hok rfl rfl rfl
  . next id userId seen hcall =>
    refine ⟨.updateNotificationSeen id userId seen, ?_⟩
    split at h
    . next err hres =>
      rw [Option.some.injEq] at h
      rw [← h]
      have hdocs := NotificationsRepository.updateConfirmationSeen_snd_of_error hres
      exact .settled _ _ hcall (.inl rfl) (.inr ⟨_, rfl⟩) rfl rfl hdocs
    . next hres =>
      rw [Option.some.injEq] at h
      rw [← h]
      rcases NotificationsRepository.updateConfirmationSeen_fst_eq_ok_iff.mp hres with
        ⟨n, hn, hid, hdel⟩
      rcases (s.store.valid n hn).isDelivered_iff.mp hdel with ⟨seen', hstatus⟩
      have hop : Call.op? id ⟨.updateNotificationSeen id userId seen, .started⟩
          = some (.updateConfirmationSeen id userId seen) := by
        rfl
      have hok := Store.status_apply_of_ok hop (by rfl) hres
      exact .updated id userId _ rfl rfl hcall
        ⟨seen', Store.status_eq_of_mem hn hid ▸ hstatus⟩ hok rfl rfl rfl
  . contradiction

theorem callStep_of_lost {id : ObjectId} {applied : Bool}
    (h : step config s (.lost i id applied) = some s')
    : ∃ request, CallStep s s' (.lost i id applied) i request := by
  simp only [step] at h
  split at h
  swap
  . contradiction
  . next call hcall =>
    split at h
    swap
    . contradiction
    . next op hop =>
      rw [Option.some.injEq] at h
      rw [← h]
      have hbefore : call.progress = .started ∨ ∃ createdAt, call.progress = .validated createdAt := by
        rcases call with ⟨request, progress⟩
        cases progress with
        | started => exact .inl rfl
        | validated createdAt => exact .inr ⟨createdAt, rfl⟩
        | _ => cases request <;> contradiction
      refine ⟨call.request, ?_⟩
      cases applied with
      | true => exact .lost call.progress op hcall hbefore rfl rfl rfl
      | false => exact .settled call.progress _ hcall hbefore (.inr ⟨_, rfl⟩) rfl rfl rfl

theorem callStep_of_step (h : step config s label = some s') (hi : label.call? = some i)
    : ∃ request, CallStep s s' label i request := by
  cases label with
  | call request => simp [Label.call?] at hi
  | repository op => simp [Label.call?] at hi
  | validate j now createdAt =>
    simp only [Label.call?, Option.some.injEq] at hi
    subst hi
    simp only [step] at h
    split at h
    swap
    . contradiction
    . next producerId notification hcall =>
      refine ⟨.saveNotification producerId notification, ?_⟩
      split at h
      all_goals
        rw [Option.some.injEq] at h
        rw [← h]
      . exact .settled _ _ hcall (.inl rfl) (.inr ⟨_, rfl⟩) rfl rfl rfl
      . exact .settled _ _ hcall (.inl rfl) (.inl ⟨_, rfl⟩) rfl rfl rfl
  | insert j id =>
    simp only [Label.call?, Option.some.injEq] at hi
    exact hi ▸ callStep_of_insert h
  | update j =>
    simp only [Label.call?, Option.some.injEq] at hi
    exact hi ▸ callStep_of_update h
  | lost j id applied =>
    simp only [Label.call?, Option.some.injEq] at hi
    exact hi ▸ callStep_of_lost h
  | stamp j now =>
    simp only [Label.call?, Option.some.injEq] at hi
    subst hi
    simp only [step] at h
    split at h
    . next request hcall =>
      rw [Option.some.injEq] at h
      rw [← h]
      exact ⟨request, .stamped now hcall rfl rfl rfl⟩
    . contradiction
  | send j =>
    simp only [Label.call?, Option.some.injEq] at hi
    subst hi
    simp only [step] at h
    split at h
    . next request inserted hcall =>
      rw [Option.some.injEq] at h
      rw [← h]
      exact ⟨request, .sentNew inserted hcall rfl rfl rfl⟩
    . next request timestamp hcall =>
      rw [Option.some.injEq] at h
      rw [← h]
      exact ⟨request, .sent timestamp hcall rfl rfl rfl⟩
    . contradiction

/-- What a step that is none of a call's own does. -/
structure OtherStep (s s' : Service) (new : List Call) : Prop where
  calls : s'.calls = s.calls ++ new
  started : ∀ call ∈ new, call.progress = .started
  leads : s.store.Leads s'.store
  messages : s'.messages = s.messages

theorem otherStep_of_step (h : step config s label = some s') (hi : label.call? = none)
    : ∃ new, OtherStep s s' new := by
  cases label with
  | call request =>
    simp only [step, Option.some.injEq] at h
    rw [← h]
    exact ⟨[⟨request, .started⟩], rfl, by simp, .inl rfl, rfl⟩
  | repository op =>
    simp only [step] at h
    split at h
    . contradiction
    . contradiction
    . rw [Option.some.injEq] at h
      rw [← h]
      exact ⟨[], by simp, by simp, .inr ⟨op, rfl⟩, rfl⟩
  | _ => simp [Label.call?] at hi

end Service

/-- What must not be announced twice. -/
inductive Announcement where
  | new (id : ObjectId)
  | deleted (id : ObjectId) (userId : Uuid)

def Announcement.Due (store : Store) : Announcement → Prop
  | .new id => ∃ n ∈ store.docs, n.id = id
  | .deleted id userId => store.status id userId = .deleted

theorem Announcement.Due.leads {store store' : Store} {a : Announcement} (h : a.Due store)
    (hleads : store.Leads store') : a.Due store' := by
  cases a with
  | new id =>
    rcases h with ⟨n, hn, hid⟩
    rcases hleads.exists_document hn with ⟨_, _, hn'⟩
    exact ⟨_, hn', hid⟩
  | deleted id userId => exact hleads.status_deleted h

/-- What the call has announced or is going to announce. -/
def Call.announcement? : Call → Option Announcement
  | ⟨_, .inserted inserted⟩ => some (.new inserted.id)
  | ⟨_, .returned (.ok (some id))⟩ => some (.new id)
  | ⟨.deleteNotification id userId, .updated⟩ => some (.deleted id userId)
  | ⟨.deleteNotification id userId, .stamped _⟩ => some (.deleted id userId)
  | ⟨.deleteNotification id userId, .returned (.ok none)⟩ => some (.deleted id userId)
  | _ => none

def ProducedNotification.announcement? : ProducedNotification → Option Announcement
  | .new _ id _ _ _ _ _ => some (.new id)
  | .updated .. => none
  | .deleted userId id _ => some (.deleted id userId)

/-- A call that is there has left the store as it was. -/
def Progress.Untouching : Progress → Prop
  | .started => True
  | .validated _ => True
  | .returned (.error err) => ∀ e, err ≠ .database e
  | _ => False

namespace Service

structure Distinct (s : Service) : Prop where
  due : ∀ (i : Nat) (call : Call) (a : Announcement), s.calls[i]? = some call →
    call.announcement? = some a → a.Due s.store
  unique : ∀ (i j : Nat) (call call' : Call) (a : Announcement), s.calls[i]? = some call →
    s.calls[j]? = some call' → call.announcement? = some a → call'.announcement? = some a → i = j

variable {config : NotificationsServiceConfig} {s s' : Service} {i j : Nat} {request : Request}
variable {store : Store} {labels : List Label} {label : Label} {call call' : Call}

theorem calls_cases (hcall : s.calls[i]? = some call) (hcalls : s'.calls = s.calls.set i call')
    : s'.calls[j]? = if j = i then some call' else s.calls[j]? := by
  rw [hcalls, List.getElem?_set]
  by_cases hij : i = j
  . rw [if_pos hij, if_pos hij.symm, if_pos (List.getElem?_eq_some_iff.mp hcall).1]
  . rw [if_neg hij, if_neg (Ne.symm hij)]

theorem calls_self (hcall : s.calls[i]? = some call) (hcalls : s'.calls = s.calls.set i call')
    : s'.calls[i]? = some call' := by
  rw [calls_cases hcall hcalls, if_pos rfl]

theorem Distinct.set (h : s.Distinct) (hcall : s.calls[i]? = some call)
    (hcalls : s'.calls = s.calls.set i call') (hleads : s.store.Leads s'.store)
    (hnew : ∀ a, call'.announcement? = some a →
      call.announcement? = some a ∨ (¬a.Due s.store ∧ a.Due s'.store)) : s'.Distinct := by
  constructor
  . intro j callj a hj ha
    rw [calls_cases hcall hcalls] at hj
    split at hj
    . rw [Option.some.injEq] at hj
      subst hj
      rcases hnew a ha with hold | ⟨_, hdue⟩
      . exact (h.due i call a hcall hold).leads hleads
      . exact hdue
    . exact (h.due j callj a hj ha).leads hleads
  . -- A call with the announcement in the old state is another one or is the one that moves.
    have hother : ∀ j callj a, s.calls[j]? = some callj → callj.announcement? = some a →
        call'.announcement? = some a → j = i := by
      intro j callj a hj ha ha'
      rcases hnew a ha' with hold | ⟨hfresh, _⟩
      . exact h.unique j i callj call a hj hcall ha hold
      . exact absurd (h.due j callj a hj ha) hfresh
    intro j k callj callk a hj hk haj hak
    rw [calls_cases hcall hcalls] at hj hk
    split at hj
    . next heqj =>
      rw [Option.some.injEq] at hj
      subst hj
      split at hk
      . next heqk => rw [heqj, heqk]
      . rw [heqj, hother k callk a hk hak haj]
    . split at hk
      . next heqk =>
        rw [Option.some.injEq] at hk
        subst hk
        rw [heqk, hother j callj a hj haj hak]
      . exact h.unique j k callj callk a hj hk haj hak

theorem CallStep.leads (h : CallStep s s' label i request) : s.store.Leads s'.store := by
  cases h with
  | settled old new call before after calls messages docs => exact .inl docs
  | lost old op call before calls messages store => exact .inr ⟨op, store⟩
  | inserted producerId notification createdAt inserted op n request_eq call fresh id saves announced
      calls messages store docs => exact .inr ⟨op, store⟩
  | updated id userId op label_eq target call delivered status calls messages store =>
    exact .inr ⟨op, store⟩
  | stamped now call calls messages store => exact .inl (by rw [store])
  | sentNew inserted call calls messages store => exact .inl (by rw [store])
  | sent timestamp call calls messages store => exact .inl (by rw [store])

theorem CallStep.distinct (h : CallStep s s' label i request) (hdistinct : s.Distinct) : s'.Distinct := by
  have hleads := h.leads
  cases h with
  | settled old new call before after calls messages docs =>
    apply hdistinct.set call calls hleads
    rcases after with ⟨createdAt, rfl⟩ | ⟨err, rfl⟩
    . cases request <;> simp [Call.announcement?]
    . cases request <;> simp [Call.announcement?]
  | lost old op call before calls messages store =>
    apply hdistinct.set call calls hleads
    cases request <;> simp [Call.announcement?]
  | inserted producerId notification createdAt inserted op n request_eq call fresh id saves announced
      calls messages store docs =>
    apply hdistinct.set call calls hleads
    intro a ha
    simp only [Call.announcement?, Option.some.injEq] at ha
    subst ha
    refine .inr ⟨?_, n, by simp [docs], id⟩
    rintro ⟨n', hn', hid⟩
    exact fresh n' hn' hid
  | updated id userId op label_eq target call delivered status calls messages store =>
    apply hdistinct.set call calls hleads
    intro a ha
    cases request with
    | saveNotification producerId notification => simp [Request.target?] at target
    | updateNotificationSeen id' userId' seen => simp [Call.announcement?] at ha
    | deleteNotification id' userId' =>
      simp only [Request.target?, Option.some.injEq, Prod.mk.injEq] at target
      rcases target with ⟨rfl, rfl⟩
      simp only [Call.announcement?, Option.some.injEq] at ha
      subst ha
      simp only [Request.status?, Option.some.injEq] at status
      refine .inr ⟨?_, status.symm⟩
      rcases delivered with ⟨seen, hseen⟩
      simp [Announcement.Due, hseen]
  | stamped now call calls messages store =>
    apply hdistinct.set call calls hleads
    cases request <;> simp [Call.announcement?]
  | sentNew inserted call calls messages store =>
    apply hdistinct.set call calls hleads
    simp [Call.announcement?]
  | sent timestamp call calls messages store =>
    apply hdistinct.set call calls hleads
    cases request <;> simp [Call.announcement?]

/-- How many messages a call has handed over, and why it may hand over the next one. -/
def Told (config : NotificationsServiceConfig) (store : Store) (labels : List Label) (s : Service)
    (i : Nat) (request : Request) (sent : List ProducedNotification) : Progress → Prop
  | .inserted inserted =>
    sent = [] ∧ ∃ producerId notification, request = .saveNotification producerId notification
      ∧ ∃ n ∈ s.store.docs, n.Saves producerId notification ∧ n.id = inserted.id
        ∧ n.IsAnnouncedBy (NotificationsService.sendNew inserted)
  | .updated => sent = [] ∧ Written config store labels i request
  | .stamped _ => sent = [] ∧ Written config store labels i request
  | .returned (.ok x) => ∃ m, sent = [m] ∧ Announces config store labels s i x m request
  | _ => sent = []

structure Reported (config : NotificationsServiceConfig) (store : Store) (labels : List Label)
    (s : Service) : Prop where
  messages : s.messages = (handovers config (init store) labels).map (·.2)
  calls : ∀ handover ∈ handovers config (init store) labels, ∃ i < s.calls.length,
    handover.1 = some i
  told : ∀ (i : Nat) (request : Request) (progress : Progress),
    s.calls[i]? = some ⟨request, progress⟩ →
      Told config store labels s i request (handedBy i (handovers config (init store) labels)) progress
  untouched : ∀ i, (∀ call ∈ s.calls[i]?, call.progress.Untouching) →
    System.Along (step config) (LeavesStore config i) (init store) labels
  distinct : s.Distinct

theorem handovers_append_singleton {t : Service} (hrun : System.run (step config) t labels = some s)
    (hstep : step config s label = some s')
    : handovers config t (labels ++ [label])
        =
      handovers config t labels
        ++ (s'.messages.drop s.messages.length).map (fun m => (label.call?, m)) := by
  induction labels generalizing t with
  | nil =>
    rw [System.run_nil, Option.some.injEq] at hrun
    subst hrun
    simp [handovers, hstep]
  | cons label' labels ih =>
    rw [System.run_cons_eq_some] at hrun
    rcases hrun with ⟨u, hu, hrun⟩
    simp only [List.cons_append, handovers, hu, ih hrun, List.append_assoc]

theorem handedBy_append {l l' : List (Option Nat × ProducedNotification)}
    : handedBy i (l ++ l') = handedBy i l ++ handedBy i l' := by
  simp [handedBy]

theorem handedBy_map {call? : Option Nat} {ms : List ProducedNotification}
    : handedBy i (ms.map (fun m => (call?, m))) = if call? = some i then ms else [] := by
  unfold handedBy
  split
  . next h => simp [List.filter_map, Function.comp_def, h]
  . next h => simp [List.filter_map, Function.comp_def, h]

theorem Wrote.append {id : ObjectId} {userId : Uuid} {status : Status}
    (h : Wrote config store labels i id userId status)
    : Wrote config store (labels ++ [label]) i id userId status := by
  rcases h with ⟨before, after, t, rfl, hrun, hstatus⟩
  exact ⟨before, after ++ [label], t, by simp, hrun, hstatus⟩

theorem Written.append (h : Written config store labels i request)
    : Written config store (labels ++ [label]) i request := by
  rcases h with ⟨id, userId, status, htarget, hstatus, hwrote⟩
  exact ⟨id, userId, status, htarget, hstatus, hwrote.append⟩

theorem Announces.append {x : Option ObjectId} {m : ProducedNotification}
    (h : Announces config store labels s i x m request) (hleads : s.store.Leads s'.store)
    : Announces config store (labels ++ [label]) s' i x m request := by
  cases request with
  | saveNotification producerId notification =>
    rcases h with ⟨n, hn, hsaves, hx, createdAt, hcreatedAt, hm⟩
    rcases hleads.exists_document hn with ⟨_, _, hn'⟩
    exact ⟨_, hn', ⟨hsaves.1, hsaves.2, hsaves.3, hsaves.4, hsaves.5⟩, hx, createdAt, hcreatedAt, hm⟩
  | deleteNotification id userId => exact ⟨h.1, h.2.1.append, h.2.2⟩
  | updateNotificationSeen id userId seen => exact ⟨h.1, h.2.1.append, h.2.2⟩

theorem Told.append {sent : List ProducedNotification} {progress : Progress}
    (h : Told config store labels s i request sent progress) (hleads : s.store.Leads s'.store)
    : Told config store (labels ++ [label]) s' i request sent progress := by
  cases progress with
  | started => exact h
  | validated createdAt => exact h
  | inserted inserted =>
    rcases h with ⟨hsent, producerId, notification, hrequest, n, hn, hsaves, hid, createdAt,
      hcreatedAt, hm⟩
    rcases hleads.exists_document hn with ⟨_, _, hn'⟩
    exact ⟨hsent, producerId, notification, hrequest, _, hn',
      ⟨hsaves.1, hsaves.2, hsaves.3, hsaves.4, hsaves.5⟩, hid, createdAt, hcreatedAt, hm⟩
  | updated => exact ⟨h.1, h.2.append⟩
  | stamped timestamp => exact ⟨h.1, h.2.append⟩
  | returned result =>
    cases result with
    | error err => exact h
    | ok x =>
      rcases h with ⟨m, hsent, hannounces⟩
      exact ⟨m, hsent, hannounces.append hleads⟩

theorem Written.announces (h : Written config store labels i request) (timestamp : OffsetDateTime)
    : ∃ m, request.message? timestamp = some m ∧ Announces config store labels s i none m request := by
  rcases h with ⟨id, userId, status, htarget, hstatus, hwrote⟩
  cases request with
  | saveNotification producerId notification => simp [Request.target?] at htarget
  | deleteNotification id' userId' =>
    simp only [Request.target?, Request.status?, Option.some.injEq, Prod.mk.injEq] at htarget hstatus
    rcases htarget with ⟨rfl, rfl⟩
    subst hstatus
    exact ⟨_, rfl, rfl, hwrote, timestamp, rfl⟩
  | updateNotificationSeen id' userId' seen =>
    simp only [Request.target?, Request.status?, Option.some.injEq, Prod.mk.injEq] at htarget hstatus
    rcases htarget with ⟨rfl, rfl⟩
    subst hstatus
    exact ⟨_, rfl, rfl, hwrote, timestamp, rfl⟩

-- A step of a call keeps or ends the silence, and hands over exactly when it returns.
theorem CallStep.told (h : CallStep s s' label i request) {sent : List ProducedNotification}
    (hrun : System.run (step config) (init store) labels = some s)
    (hstep : step config s label = some s')
    (htold : ∀ progress, s.calls[i]? = some ⟨request, progress⟩ →
      Told config store labels s i request sent progress)
    : ∃ progress, s'.calls[i]? = some ⟨request, progress⟩
        ∧ Told config store (labels ++ [label]) s' i request
            (sent ++ s'.messages.drop s.messages.length) progress := by
  cases h with
  | settled old new call before after calls messages docs =>
    have hsent : sent = [] := by
      have hold := htold old call
      rcases before with rfl | ⟨createdAt, rfl⟩
      . exact hold
      . exact hold
    refine ⟨new, calls_self call calls, ?_⟩
    rw [hsent, messages, List.drop_length]
    rcases after with ⟨createdAt, rfl⟩ | ⟨err, rfl⟩
    . rfl
    . rfl
  | lost old op call before calls messages store =>
    have hsent : sent = [] := by
      have hold := htold old call
      rcases before with rfl | ⟨createdAt, rfl⟩
      . exact hold
      . exact hold
    refine ⟨_, calls_self call calls, ?_⟩
    rw [hsent, messages, List.drop_length]
    rfl
  | inserted producerId notification createdAt inserted op n request_eq call fresh id saves announced
      calls messages store docs =>
    have hsent : sent = [] := htold _ call
    refine ⟨_, calls_self call calls, ?_⟩
    rw [hsent, messages, List.drop_length]
    exact ⟨rfl, producerId, notification, request_eq, n, by simp [docs], saves, id, announced⟩
  | updated id userId op label_eq target call delivered status calls messages store =>
    have hsent : sent = [] := htold _ call
    refine ⟨_, calls_self call calls, ?_⟩
    rw [hsent, messages, List.drop_length]
    subst label_eq
    have hrun' := System.run_append_eq_some.mpr
      ⟨s, hrun, System.run_cons_eq_some.mpr ⟨s', hstep, System.run_nil⟩⟩
    exact ⟨rfl, id, userId, _, target, status, labels, [], s', rfl, hrun', rfl⟩
  | stamped now call calls messages store =>
    rcases htold _ call with ⟨hsent, hwritten⟩
    refine ⟨_, calls_self call calls, ?_⟩
    rw [hsent, messages, List.drop_length]
    exact ⟨rfl, hwritten.append⟩
  | sentNew inserted call calls messages store =>
    rcases htold _ call with ⟨hsent, producerId, notification, hrequest, n, hn, hsaves, hid, hm⟩
    refine ⟨_, calls_self call calls, _, by rw [hsent, messages, List.drop_left, List.nil_append], ?_⟩
    rw [hrequest]
    exact ⟨n, store ▸ hn, hsaves, by rw [hid], hm⟩
  | sent timestamp call calls messages store =>
    rcases htold _ call with ⟨hsent, hwritten⟩
    rcases hwritten.append.announces timestamp with ⟨m, hm, hannounces⟩
    refine ⟨_, calls_self call calls, m, ?_, hannounces⟩
    rw [hsent, messages, List.drop_left, hm]
    rfl

theorem CallStep.untouching (h : CallStep s s' label i request)
    (hafter : ∀ call ∈ s'.calls[i]?, call.progress.Untouching)
    : (∀ call ∈ s.calls[i]?, call.progress.Untouching) ∧ s'.store.docs = s.store.docs := by
  have hset : ∀ old new : Progress, s.calls[i]? = some ⟨request, old⟩ →
      s'.calls = s.calls.set i ⟨request, new⟩ → new.Untouching := by
    intro old new call calls
    exact hafter ⟨request, new⟩ (calls_self call calls)
  cases h with
  | settled old new call before after calls messages docs =>
    refine ⟨?_, docs⟩
    rintro call' hcall'
    rw [call, Option.mem_some_iff] at hcall'
    subst hcall'
    rcases before with rfl | ⟨createdAt, rfl⟩
    . trivial
    . trivial
  | lost old op call before calls messages store => exact absurd rfl (hset _ _ call calls .mongo)
  | inserted producerId notification createdAt inserted op n request_eq call fresh id saves announced
      calls messages store docs => exact (hset _ _ call calls).elim
  | updated id userId op label_eq target call delivered status calls messages store =>
    exact (hset _ _ call calls).elim
  | stamped now call calls messages store => exact (hset _ _ call calls).elim
  | sentNew inserted call calls messages store => exact (hset _ _ call calls).elim
  | sent timestamp call calls messages store => exact (hset _ _ call calls).elim

theorem CallStep.calls_eq (h : CallStep s s' label i request)
    : i < s.calls.length ∧ ∃ progress, s'.calls = s.calls.set i ⟨request, progress⟩ := by
  cases h with
  | settled old new call before after calls messages docs =>
    exact ⟨(List.getElem?_eq_some_iff.mp call).1, new, calls⟩
  | lost old op call before calls messages store =>
    exact ⟨(List.getElem?_eq_some_iff.mp call).1, _, calls⟩
  | inserted producerId notification createdAt inserted op n request_eq call fresh id saves announced
      calls messages store docs => exact ⟨(List.getElem?_eq_some_iff.mp call).1, _, calls⟩
  | updated id userId op label_eq target call delivered status calls messages store =>
    exact ⟨(List.getElem?_eq_some_iff.mp call).1, _, calls⟩
  | stamped now call calls messages store => exact ⟨(List.getElem?_eq_some_iff.mp call).1, _, calls⟩
  | sentNew inserted call calls messages store =>
    exact ⟨(List.getElem?_eq_some_iff.mp call).1, _, calls⟩
  | sent timestamp call calls messages store => exact ⟨(List.getElem?_eq_some_iff.mp call).1, _, calls⟩

theorem CallStep.messages_prefix (h : CallStep s s' label i request) : s.messages <+: s'.messages := by
  cases h with
  | sentNew inserted call calls messages store => exact ⟨_, messages.symm⟩
  | sent timestamp call calls messages store => exact ⟨_, messages.symm⟩
  | _ => simp [*]

theorem OtherStep.getElem?_cases {new : List Call} (h : OtherStep s s' new)
    (hi : s'.calls[i]? = some call)
    : s.calls[i]? = some call ∨ (s.calls.length ≤ i ∧ call.progress = .started) := by
  rw [h.calls, List.getElem?_append] at hi
  split at hi
  . exact .inl hi
  . next hge => exact .inr ⟨Nat.le_of_not_lt hge, h.started call (List.mem_of_getElem? hi)⟩

theorem OtherStep.distinct {new : List Call} (h : OtherStep s s' new) (hdistinct : s.Distinct)
    : s'.Distinct := by
  have hold : ∀ (i : Nat) (call : Call) a, s'.calls[i]? = some call → call.announcement? = some a →
      s.calls[i]? = some call := by
    intro i call a hi ha
    rcases h.getElem?_cases hi with hi' | ⟨_, hstarted⟩
    . exact hi'
    . rcases call with ⟨request, progress⟩
      dsimp only at hstarted
      subst hstarted
      cases request <;> simp [Call.announcement?] at ha
  constructor
  . intro i call a hi ha
    exact (hdistinct.due i call a (hold i call a hi ha) ha).leads h.leads
  . intro i j call call' a hi hj ha ha'
    exact hdistinct.unique i j call call' a (hold i call a hi ha) (hold j call' a hj ha') ha ha'

theorem handedBy_eq_nil {l : List (Option Nat × ProducedNotification)}
    (h : ∀ handover ∈ l, ∃ j < s.calls.length, handover.1 = some j) (hi : s.calls.length ≤ i)
    : handedBy i l = [] := by
  unfold handedBy
  rw [List.map_eq_nil_iff, List.filter_eq_nil_iff]
  intro handover hmem heq
  rcases h handover hmem with ⟨j, hj, heq'⟩
  rw [heq', decide_eq_true_eq, Option.some.injEq] at heq
  omega

theorem Reported.other (h : Reported config store labels s) {new : List Call}
    (hrun : System.run (step config) (init store) labels = some s)
    (hstep : step config s label = some s') (hlabel : label.call? = none)
    (hother : OtherStep s s' new) : Reported config store (labels ++ [label]) s' := by
  have hhandovers : handovers config (init store) (labels ++ [label])
      = handovers config (init store) labels := by
    rw [handovers_append_singleton hrun hstep, hother.messages, List.drop_length, List.map_nil,
      List.append_nil]
  constructor
  . rw [hhandovers, hother.messages, h.messages]
  . rw [hhandovers]
    intro handover hmem
    rcases h.calls handover hmem with ⟨i, hi, heq⟩
    refine ⟨i, ?_, heq⟩
    rw [hother.calls, List.length_append]
    exact Nat.lt_add_right _ hi
  . rw [hhandovers]
    intro i request progress hi
    rcases hother.getElem?_cases hi with hi' | ⟨hge, hstarted⟩
    . exact (h.told i request progress hi').append hother.leads
    . dsimp only at hstarted
      subst hstarted
      exact handedBy_eq_nil h.calls hge
  . intro i huntouching
    rw [System.along_append_singleton]
    refine ⟨h.untouched i ?_, fun _ _ hi => by rw [hlabel] at hi; contradiction⟩
    intro call hi
    apply huntouching call
    rw [Option.mem_def] at hi ⊢
    rw [hother.calls, List.getElem?_append_left (List.getElem?_eq_some_iff.mp hi).1, hi]
  . exact hother.distinct h.distinct

theorem Reported.callStep (h : Reported config store labels s)
    (hrun : System.run (step config) (init store) labels = some s)
    (hstep : step config s label = some s') (hlabel : label.call? = some i)
    (hcall : CallStep s s' label i request) : Reported config store (labels ++ [label]) s' := by
  rcases hcall.calls_eq with ⟨hlt, progress, hcalls⟩
  have hget : ∀ j, s'.calls[j]? = if j = i then some ⟨request, progress⟩ else s.calls[j]? := by
    intro j
    exact calls_cases (List.getElem?_eq_getElem hlt) hcalls
  have hhandovers := handovers_append_singleton hrun hstep
  constructor
  . rw [hhandovers, List.map_append, ← h.messages, List.map_map]
    simp only [Function.comp_def, List.map_id']
    exact (List.prefix_iff_eq_append.mp hcall.messages_prefix).symm
  . rw [hhandovers]
    intro handover hmem
    rw [hcalls, List.length_set]
    rcases List.mem_append.mp hmem with hold | hnew
    . exact h.calls handover hold
    . rcases List.mem_map.mp hnew with ⟨m, _, rfl⟩
      exact ⟨i, hlt, hlabel⟩
  . intro j request' progress' hj
    rw [hhandovers, handedBy_append, handedBy_map, hlabel]
    by_cases hij : j = i
    . subst hij
      rw [if_pos rfl]
      rcases hcall.told hrun hstep (fun _ hold => h.told j request _ hold) with
        ⟨progress'', hj', htold⟩
      rw [hj, Option.some.injEq, Call.mk.injEq] at hj'
      rw [hj'.1, hj'.2]
      exact htold
    . rw [if_neg (by simpa using Ne.symm hij), List.append_nil]
      rw [hget, if_neg hij] at hj
      exact (h.told j request' progress' hj).append hcall.leads
  . intro j huntouching
    rw [System.along_append_singleton]
    by_cases hij : j = i
    . subst hij
      rcases hcall.untouching huntouching with ⟨hbefore, hdocs⟩
      refine ⟨h.untouched j hbefore, ?_⟩
      intro t ht _ t' ht'
      rw [hrun, Option.some.injEq] at ht
      subst ht
      rw [hstep, Option.some.injEq] at ht'
      rw [← ht', hdocs]
    . refine ⟨h.untouched j ?_, ?_⟩
      . intro call hj
        apply huntouching call
        rw [hget, if_neg hij]
        exact hj
      . intro _ _ hj
        exact absurd (Option.some.inj (hlabel.symm.trans hj)) (Ne.symm hij)
  . exact hcall.distinct h.distinct

theorem reported_of_run (hrun : System.run (step config) (init store) labels = some s)
    : Reported config store labels s := by
  apply System.run_induction (P := Reported config store) _ _ hrun
  . refine ⟨rfl, by simp [handovers], by simp [init], fun _ _ => trivial, ?_⟩
    constructor
    all_goals simp [init]
  . intro labels label s s' hrun h hstep
    cases hlabel : label.call? with
    | none =>
      rcases otherStep_of_step hstep hlabel with ⟨new, hother⟩
      exact h.other hrun hstep hlabel hother
    | some i =>
      rcases callStep_of_step hstep hlabel with ⟨request, hcall⟩
      exact h.callStep hrun hstep hlabel hcall

theorem Reported.exists_returned (h : Reported config store labels s)
    {handover : Option Nat × ProducedNotification}
    (hmem : handover ∈ handovers config (init store) labels)
    : ∃ i request x, handover.1 = some i ∧ s.calls[i]? = some ⟨request, .returned (.ok x)⟩
        ∧ handedBy i (handovers config (init store) labels) = [handover.2]
        ∧ Announces config store labels s i x handover.2 request := by
  rcases h.calls handover hmem with ⟨i, hlt, hi⟩
  have hcall := List.getElem?_eq_getElem hlt
  have htold := h.told i _ _ hcall
  have hsent : handover.2 ∈ handedBy i (handovers config (init store) labels) :=
    List.mem_map.mpr ⟨handover, List.mem_filter.mpr ⟨hmem, by simp [hi]⟩, rfl⟩
  have hne := List.ne_nil_of_mem hsent
  generalize hprogress : (s.calls.get ⟨i, hlt⟩).progress = progress at htold
  cases progress with
  | started => exact absurd htold hne
  | validated createdAt => exact absurd htold hne
  | inserted inserted => exact absurd htold.1 hne
  | updated => exact absurd htold.1 hne
  | stamped timestamp => exact absurd htold.1 hne
  | returned result =>
    cases result with
    | error err => exact absurd htold hne
    | ok x =>
      rcases htold with ⟨m, hm, hannounces⟩
      rw [hm, List.mem_singleton] at hsent
      rw [hsent]
      exact ⟨i, _, x, hi, by rw [hcall, ← hprogress]; rfl, hm, hannounces⟩

theorem length_filter_le_one {l : List (Option Nat × ProducedNotification)}
    {p : Option Nat × ProducedNotification → Bool}
    (hsame : ∀ h ∈ l, ∀ h' ∈ l, p h → p h' → h'.1 = h.1)
    (hone : ∀ h ∈ l, (l.filter (fun h' => decide (h'.1 = h.1))).length ≤ 1)
    : (l.filter p).length ≤ 1 := by
  cases hfilter : l.filter p with
  | nil => exact Nat.zero_le _
  | cons h rest =>
    have hmem := List.mem_filter.mp (hfilter ▸ List.mem_cons_self : h ∈ l.filter p)
    have hcall : l.filter p = (l.filter (fun h' => decide (h'.1 = h.1))).filter p := by
      rw [List.filter_filter]
      apply List.filter_congr
      intro h' hmem'
      cases hp : p h' with
      | false => rfl
      | true => simp [hsame h hmem.1 h' hmem' hmem.2 hp]
    rw [← hfilter, hcall]
    exact (List.length_filter_le _ _).trans (hone h hmem.1)

theorem Announces.announcement {x : Option ObjectId} {m : ProducedNotification}
    (h : Announces config store labels s i x m request)
    : m.announcement? = Call.announcement? ⟨request, .returned (.ok x)⟩ := by
  cases request with
  | saveNotification producerId notification =>
    rcases h with ⟨n, _, _, rfl, createdAt, _, rfl⟩
    rfl
  | deleteNotification id userId =>
    rcases h with ⟨rfl, _, timestamp, rfl⟩
    rfl
  | updateNotificationSeen id userId seen =>
    rcases h with ⟨rfl, _, timestamp, rfl⟩
    rfl

theorem Reported.length_filter_messages_le_one (h : Reported config store labels s)
    {p : ProducedNotification → Bool}
    (hp : ∀ m m', p m → p m' → ∃ a, m.announcement? = some a ∧ m'.announcement? = some a)
    : (s.messages.filter p).length ≤ 1 := by
  rw [h.messages, List.filter_map, List.length_map]
  apply length_filter_le_one
  . intro handover hmem handover' hmem' hm hm'
    rcases h.exists_returned hmem with ⟨i, request, x, hi, hcall, _, hannounces⟩
    rcases h.exists_returned hmem' with ⟨j, request', x', hj, hcall', _, hannounces'⟩
    rcases hp handover.2 handover'.2 hm hm' with ⟨a, ha, ha'⟩
    have heq := h.distinct.unique i j _ _ a hcall hcall' (hannounces.announcement.symm.trans ha)
      (hannounces'.announcement.symm.trans ha')
    rw [hi, hj, heq]
  . intro handover hmem
    rcases h.exists_returned hmem with ⟨i, _, _, hi, _, hsent, _⟩
    have hlength := congrArg List.length hsent
    unfold handedBy at hlength
    rw [List.length_map, List.length_singleton] at hlength
    rw [hi, hlength]

theorem Reported.length_new_le_one (h : Reported config store labels s) (producerId : Uuid)
    (producerNotificationId : Int64)
    : (s.messages.filter (·.isNewOf s.store producerId producerNotificationId)).length ≤ 1 := by
  apply h.length_filter_messages_le_one
  intro m m' hm hm'
  cases m with
  | updated userId id seen timestamp => simp [ProducedNotification.isNewOf] at hm
  | deleted userId id timestamp => simp [ProducedNotification.isNewOf] at hm
  | new userIds id timestamp createdBy seen contentType content =>
    cases m' with
    | updated userId id' seen timestamp => simp [ProducedNotification.isNewOf] at hm'
    | deleted userId id' timestamp => simp [ProducedNotification.isNewOf] at hm'
    | new userIds' id' timestamp' createdBy' seen' contentType' content' =>
      simp only [ProducedNotification.isNewOf, List.any_eq_true, decide_eq_true_eq] at hm hm'
      rcases hm with ⟨n, hn, rfl, hproducer, hnumber⟩
      rcases hm' with ⟨n', hn', rfl, hproducer', hnumber'⟩
      have heq : n = n' := by
        apply List.inj_on_of_nodup_map s.store.producers_nodup hn hn'
        rw [hproducer, hproducer', hnumber, hnumber']
      exact ⟨.new n.id, rfl, by rw [heq]; rfl⟩

theorem Reported.length_deleted_le_one (h : Reported config store labels s) (id : ObjectId)
    (userId : Uuid) : (s.messages.filter (·.isDeletedOf id userId)).length ≤ 1 := by
  apply h.length_filter_messages_le_one
  have hdeleted : ∀ m : ProducedNotification, m.isDeletedOf id userId →
      m.announcement? = some (.deleted id userId) := by
    intro m hm
    cases m with
    | deleted userId' id' timestamp =>
      simp only [ProducedNotification.isDeletedOf, decide_eq_true_eq] at hm
      rw [← hm.1, ← hm.2]
      rfl
    | _ => simp [ProducedNotification.isDeletedOf] at hm
  intro m m' hm hm'
  exact ⟨.deleted id userId, hdeleted m hm, hdeleted m' hm'⟩

/--
A call that fails hands over nothing, and one that succeeds hands over exactly the message about what
it has stored; nothing else is handed over, and neither a new notification nor a deletion twice.
-/
theorem handed_over_once (config : NotificationsServiceConfig) (ops : List Op) (labels : List Label)
    (s : Service) (hrun : System.run (step config) (init (.ofOps ops)) labels = some s)
    : s.messages = (handovers config (init (.ofOps ops)) labels).map (·.2)
        ∧ (∀ handover ∈ handovers config (init (.ofOps ops)) labels, ∃ i request x,
          handover.1 = some i ∧ s.calls[i]? = some ⟨request, .returned (.ok x)⟩)
        ∧ (∀ (i : Nat) (request : Request) (err : Error),
          s.calls[i]? = some ⟨request, .returned (.error err)⟩ →
            handedBy i (handovers config (init (.ofOps ops)) labels) = []
              ∧ ((∀ e, err ≠ .database e) →
                System.Along (step config) (LeavesStore config i) (init (.ofOps ops)) labels))
        ∧ (∀ (i : Nat) (request : Request) (x : Option ObjectId),
          s.calls[i]? = some ⟨request, .returned (.ok x)⟩ →
            ∃ m, handedBy i (handovers config (init (.ofOps ops)) labels) = [m]
              ∧ Announces config (.ofOps ops) labels s i x m request)
        ∧ (∀ producerId producerNotificationId,
          (s.messages.filter (·.isNewOf s.store producerId producerNotificationId)).length ≤ 1)
        ∧ ∀ id userId, (s.messages.filter (·.isDeletedOf id userId)).length ≤ 1 := by
  have h := reported_of_run hrun
  refine ⟨h.messages, ?_, ?_, ?_, h.length_new_le_one, h.length_deleted_le_one⟩
  . intro handover hmem
    rcases h.exists_returned hmem with ⟨i, request, x, hi, hcall, _⟩
    exact ⟨i, request, x, hi, hcall⟩
  . intro i request err hcall
    refine ⟨h.told i request _ hcall, ?_⟩
    intro herr
    apply h.untouched i
    intro call hcall'
    rw [hcall, Option.mem_some_iff] at hcall'
    rw [← hcall']
    exact herr
  . intro i request x hcall
    exact h.told i request _ hcall

def sampleInput : InputNotification where
  invalidateAt := none
  userIds := [⟨1⟩]
  producerNotificationId := 5
  contentType := "utf-8"
  content := [104, 105]

-- A producer that saves a notification twice, and a user who deletes it on two devices.
def repeatedCalls : List Label := [
  .call (.saveNotification ⟨2⟩ sampleInput),
  .call (.saveNotification ⟨2⟩ sampleInput),
  .validate 0 1000000 2000000,
  .validate 1 1000000 3000000,
  .insert 0 ⟨7⟩,
  .insert 1 ⟨8⟩,
  .send 0,
  .repository (.insertConfirmation ⟨7⟩ ⟨1⟩ 4000000),
  .call (.deleteNotification ⟨7⟩ ⟨1⟩),
  .call (.deleteNotification ⟨7⟩ ⟨1⟩),
  .update 3,
  .update 2,
  .stamp 3 5000000,
  .send 3
]

theorem handed_over_once_repeated
    : ∃ s, System.run (step ⟨100⟩) (init (.ofOps [])) repeatedCalls = some s
        ∧ s.messages = [
          .new [⟨1⟩] ⟨7⟩ 2000000 ⟨2⟩ false "utf-8" [104, 105],
          .deleted ⟨1⟩ ⟨7⟩ 5000000
        ]
        ∧ handedBy 1 (handovers ⟨100⟩ (init (.ofOps [])) repeatedCalls) = []
        ∧ System.Along (step ⟨100⟩) (LeavesStore ⟨100⟩ 2) (init (.ofOps [])) repeatedCalls
        ∧ (s.messages.filter (·.isDeletedOf ⟨7⟩ ⟨1⟩)).length ≤ 1 := by
  refine ⟨_, rfl, rfl, ?_⟩
  rcases handed_over_once ⟨100⟩ [] repeatedCalls _ rfl with ⟨_, _, herror, _, _, hdeleted⟩
  refine ⟨(herror 1 (.saveNotification ⟨2⟩ sampleInput) .notificationAlreadySaved rfl).1, ?_,
    hdeleted ⟨7⟩ ⟨1⟩⟩
  exact (herror 2 (.deleteNotification ⟨7⟩ ⟨1⟩) .notificationNotExist rfl).2 (by simp)

end Service

end TomNotifier.Core
