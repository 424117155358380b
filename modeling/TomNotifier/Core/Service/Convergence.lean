import TomNotifier.Core.Repository.Status
import TomNotifier.Core.Service.Calls

/-!
This module contains when the messages about one confirmation agree with what is stored of it: which
of the calls read the clock last decides the message that is kept, which of them updated the store
last decides what is stored.
-/

namespace TomNotifier.Core

open Mongo

namespace Request

def target? : Request → Option (ObjectId × Uuid)
  | .saveNotification .. => none
  | .deleteNotification id userId => some (id, userId)
  | .updateNotificationSeen id userId _ => some (id, userId)

def status? : Request → Option Status
  | .saveNotification .. => none
  | .deleteNotification .. => some .deleted
  | .updateNotificationSeen _ _ seen => some (.delivered seen)

end Request

namespace ProducedNotification

def target? : ProducedNotification → Option (ObjectId × Uuid)
  | .new .. => none
  | .updated userId id _ _ => some (id, userId)
  | .deleted userId id _ => some (id, userId)

def status? : ProducedNotification → Option Status
  | .new .. => none
  | .updated _ _ seen _ => some (.delivered seen)
  | .deleted .. => some .deleted

end ProducedNotification

namespace Service

def IsLatestMessage (s : Service) (id : ObjectId) (userId : Uuid) (m : ProducedNotification)
    : Prop :=
  m ∈ s.messages
    ∧ m.target? = some (id, userId)
    ∧ ∀ m' ∈ s.messages, m'.target? = some (id, userId) → m' ≠ m → m'.timestamp < m.timestamp

def lastUpdate? (s : Service) (id : ObjectId) (userId : Uuid) : Option Request :=
  (s.updates.filter (fun request => decide (request.target? = some (id, userId)))).getLast?

def lastStamp? (s : Service) (id : ObjectId) (userId : Uuid) : Option Request :=
  ((s.stamps.map (·.1)).filter (fun request => decide (request.target? = some (id, userId)))).getLast?

end Service

section

variable {request request' : Request} {timestamp : OffsetDateTime} {m : ProducedNotification}

theorem Request.message?_eq_some (h : request.message? timestamp = some m)
    : m.target? = request.target? ∧ m.status? = request.status? ∧ m.timestamp = timestamp := by
  cases request with
  | saveNotification => contradiction
  | deleteNotification =>
    simp only [message?, Option.some.injEq] at h
    rw [← h]
    exact ⟨rfl, rfl, rfl⟩
  | updateNotificationSeen =>
    simp only [message?, Option.some.injEq] at h
    rw [← h]
    exact ⟨rfl, rfl, rfl⟩

theorem Request.eq_of_target?_of_status? (htarget : request.target? = request'.target?)
    (hsome : request.target?.isSome) (hstatus : request.status? = request'.status?)
    : request = request' := by
  cases request with
  | saveNotification => contradiction
  | deleteNotification => cases request' <;> simp_all [target?, status?]
  | updateNotificationSeen => cases request' <;> simp_all [target?, status?]

theorem Request.status?_ne_undelivered : request.status? ≠ some .undelivered := by
  cases request <;> simp [status?]

end

theorem Store.status_apply_of_isDelivered {store : Store} {n : NotificationEntity} {op : Op}
    {userId : Uuid} (hn : n ∈ store.docs) (hdel : n.IsDelivered userId)
    : ∃ seen, (store.apply op).status n.id userId
        = (Status.delivered seen).apply (op.event? n userId) := by
  rcases (store.valid n hn).isDelivered_iff.mp hdel with ⟨seen, hstatus⟩
  refine ⟨seen, ?_⟩
  rw [status_apply, status_eq_of_mem hn rfl, hstatus, find?_eq_some_of_mem hn rfl]
  rfl

theorem Store.status_apply_of_ok {store : Store} {call : Call} {op : Op} {newId id : ObjectId}
    {userId : Uuid} (hop : call.op? newId = some op)
    (htarget : call.request.target? = some (id, userId)) (hok : (op.apply store.docs).1 = .ok ())
    : call.request.status? = some ((store.apply op).status id userId) := by
  rcases call with ⟨request, progress⟩
  cases request with
  | saveNotification => contradiction
  | deleteNotification =>
    simp only [Request.target?, Option.some.injEq, Prod.mk.injEq] at htarget
    rcases htarget with ⟨rfl, rfl⟩
    cases progress with
    | started =>
      simp only [Call.op?, Option.some.injEq] at hop
      subst hop
      rcases (NotificationsRepository.delete_fst_eq_ok_iff store).mp hok with ⟨n, hn, rfl, hdel⟩
      rcases status_apply_of_isDelivered hn hdel with ⟨seen, hstatus⟩
      rw [hstatus]
      simp [Op.event?, Status.apply, Status.next, Request.status?]
    | _ => contradiction
  | updateNotificationSeen =>
    simp only [Request.target?, Option.some.injEq, Prod.mk.injEq] at htarget
    rcases htarget with ⟨rfl, rfl⟩
    cases progress with
    | started =>
      simp only [Call.op?, Option.some.injEq] at hop
      subst hop
      rcases NotificationsRepository.updateConfirmationSeen_fst_eq_ok_iff.mp hok with
        ⟨n, hn, rfl, hdel⟩
      rcases status_apply_of_isDelivered hn hdel with ⟨seen, hstatus⟩
      rw [hstatus]
      simp [Op.event?, Status.apply, Status.next, Request.status?]
    | _ => contradiction

theorem Call.op?_ne {call : Call} {op : Op} {newId id : ObjectId} {userId : Uuid}
    (hop : call.op? newId = some op) (htarget : call.request.target? ≠ some (id, userId))
    : (∀ seen, op ≠ .updateConfirmationSeen id userId seen) ∧ op ≠ .delete id userId := by
  rcases call with ⟨request, progress⟩
  cases request <;> cases progress <;> simp [op?] at hop
  all_goals
    subst hop
    simp_all [Request.target?]

theorem Call.progress_ne_stamped {call : Call} {id : ObjectId} {op : Op} (hop : call.op? id = some op)
    (t : OffsetDateTime) : call.progress ≠ .stamped t := by
  rcases call with ⟨request, progress⟩
  rintro rfl
  cases request <;> contradiction

namespace Service

/--
What a step does, as far as the messages about confirmations are concerned.
-/
inductive Effect (s : Service) : Service → List OffsetDateTime → Prop where
  | call (request : Request) : Effect s { s with calls := s.calls ++ [⟨request, .started⟩] } []
  | moved {i : Nat} {call : Call} {result : Progress} {readings : List OffsetDateTime}
      (hcall : s.calls[i]? = some call) (hold : ∀ t, call.progress ≠ .stamped t)
      (hupdated : result ≠ .updated) (hstamped : ∀ t, result ≠ .stamped t)
      (hok : ∀ x, result ≠ .returned (.ok x))
      (hinserted : ∀ n, result = .inserted n → call.request.target? = none)
      : Effect s (s.progress i call.request result) readings
  | applied {i : Nat} {call : Call} {id : ObjectId} {op : Op} {result : Progress}
      (hcall : s.calls[i]? = some call) (hop : call.op? id = some op)
      (hupdated : result = .updated → (op.apply s.store.docs).1 = .ok ())
      (hstamped : ∀ t, result ≠ .stamped t) (hok : ∀ x, result ≠ .returned (.ok x))
      (hinserted : ∀ n, result = .inserted n → call.request.target? = none)
      : Effect s ((s.apply call.request op).progress i call.request result) []
  | stamp {i : Nat} {request : Request} {now : OffsetDateTime}
      (hcall : s.calls[i]? = some ⟨request, .updated⟩)
      : Effect s
          ({ s with stamps := s.stamps ++ [(request, now)] }.progress i request (.stamped now)) [now]
  | sendNew {i : Nat} {request : Request} {inserted : InsertedNotification}
      (hcall : s.calls[i]? = some ⟨request, .inserted inserted⟩)
      : Effect s
          ({ s with messages := s.messages ++ [NotificationsService.sendNew inserted] }.progress i
            request (.returned (.ok (some inserted.id)))) []
  | send {i : Nat} {request : Request} {timestamp : OffsetDateTime}
      (hcall : s.calls[i]? = some ⟨request, .stamped timestamp⟩)
      : Effect s
          ({ s with messages := s.messages ++ (request.message? timestamp).toList }.progress i
            request (.returned (.ok none))) []
  | repository {op : Op} (hseen : ∀ id userId seen, op ≠ .updateConfirmationSeen id userId seen)
      (hdelete : ∀ id userId, op ≠ .delete id userId)
      : Effect s { s with store := s.store.apply op } []

theorem effect_of_step {config : NotificationsServiceConfig} {s s' : Service} {label : Label}
    (h : step config s label = some s') : Effect s s' label.readings := by
  cases label with
  | call request =>
    simp only [step, Option.some.injEq] at h
    rw [← h]
    exact .call request
  | validate i now createdAt =>
    simp only [step] at h
    split at h
    . next producerId notification hcall =>
      split at h
      . rw [Option.some.injEq] at h
        rw [← h]
        exact .moved hcall (by simp) (by simp) (by simp) (by simp) (by simp)
      . rw [Option.some.injEq] at h
        rw [← h]
        exact .moved hcall (by simp) (by simp) (by simp) (by simp) (by simp)
    . contradiction
  | insert i id =>
    simp only [step] at h
    split at h
    . next producerId notification createdAt hcall =>
      split at h
      . rw [Option.some.injEq] at h
        rw [← h]
        exact .applied hcall rfl (by simp) (by simp) (by simp) (by simp)
      . rw [Option.some.injEq] at h
        rw [← h]
        exact .applied hcall rfl (by simp) (by simp) (by simp) (by simp [Request.target?])
    . contradiction
  | update i =>
    simp only [step] at h
    split at h
    . next id userId hcall =>
      have hop : Call.op? id ⟨.deleteNotification id userId, .started⟩ = some (.delete id userId) := by
        rfl
      split at h
      . rw [Option.some.injEq] at h
        rw [← h]
        exact .applied hcall hop (by simp) (by simp) (by simp) (by simp)
      . next hres =>
        rw [Option.some.injEq] at h
        rw [← h]
        exact .applied hcall hop (fun _ => hres) (by simp) (by simp) (by simp)
    . next id userId seen hcall =>
      have hop : Call.op? id ⟨.updateNotificationSeen id userId seen, .started⟩
          = some (.updateConfirmationSeen id userId seen) := by
        rfl
      split at h
      . rw [Option.some.injEq] at h
        rw [← h]
        exact .applied hcall hop (by simp) (by simp) (by simp) (by simp)
      . next hres =>
        rw [Option.some.injEq] at h
        rw [← h]
        exact .applied hcall hop (fun _ => hres) (by simp) (by simp) (by simp)
    . contradiction
  | lost i id applied =>
    simp only [step] at h
    split at h
    . next call hcall =>
      split at h
      . next op hop =>
        rw [Option.some.injEq] at h
        rw [← h]
        cases applied with
        | true => exact .applied hcall hop (by simp) (by simp) (by simp) (by simp)
        | false =>
          exact .moved hcall (call.progress_ne_stamped hop) (by simp) (by simp) (by simp) (by simp)
      . contradiction
    . contradiction
  | stamp i now =>
    simp only [step] at h
    split at h
    . next request hcall =>
      rw [Option.some.injEq] at h
      rw [← h]
      exact .stamp hcall
    . contradiction
  | send i =>
    simp only [step] at h
    split at h
    . next request inserted hcall =>
      rw [Option.some.injEq] at h
      rw [← h]
      exact .sendNew hcall
    . next request timestamp hcall =>
      rw [Option.some.injEq] at h
      rw [← h]
      exact .send hcall
    . contradiction
  | repository op =>
    simp only [step] at h
    split at h
    . contradiction
    . contradiction
    . next hseen hdelete =>
      rw [Option.some.injEq] at h
      rw [← h]
      exact .repository hseen hdelete

section

variable {s : Service} {i : Nat} {call call' : Call} {request : Request} {result : Progress}

theorem mem_calls_progress (h : call ∈ (s.progress i request result).calls)
    : call ∈ s.calls ∨ call = ⟨request, result⟩ := by
  exact List.mem_or_eq_of_mem_set h

theorem mem_calls_progress_of_ne (hmem : call ∈ s.calls) (hcall : s.calls[i]? = some call')
    (hne : call ≠ call') : call ∈ (s.progress i request result).calls := by
  rcases List.mem_iff_getElem?.mp hmem with ⟨j, hj⟩
  have hij : i ≠ j := by
    rintro rfl
    rw [hcall, Option.some.injEq] at hj
    exact hne hj.symm
  rw [progress, List.mem_iff_getElem?]
  exact ⟨j, by rw [List.getElem?_set_ne hij, hj]⟩

end

def Explains (s : Service) (call : Call) : Prop :=
  match call.progress with
  | .started => True
  | .validated _ => True
  | .inserted _ => call.request.target? = none
  | .updated => call.request ∈ s.updates
  | .stamped t => (call.request, t) ∈ s.stamps
  | .returned (.ok _) => call.request.target?.isSome → ∃ t, (call.request, t) ∈ s.stamps
  | .returned (.error _) => True

theorem Explains.mono {s s' : Service} {call : Call} (h : s.Explains call)
    (hupdates : s.updates ⊆ s'.updates) (hstamps : s.stamps ⊆ s'.stamps) : s'.Explains call := by
  rcases call with ⟨request, progress⟩
  cases progress with
  | started => trivial
  | validated => trivial
  | inserted => exact h
  | updated => exact hupdates h
  | stamped => exact hstamps h
  | returned result =>
    cases result with
    | error => trivial
    | ok x =>
      intro htarget
      rcases h htarget with ⟨t, ht⟩
      exact ⟨t, hstamps ht⟩

theorem explains_of_ne {s : Service} {request : Request} {result : Progress}
    (hupdated : result = .updated → request ∈ s.updates) (hstamped : ∀ t, result ≠ .stamped t)
    (hok : ∀ x, result ≠ .returned (.ok x))
    (hinserted : ∀ n, result = .inserted n → request.target? = none)
    : s.Explains ⟨request, result⟩ := by
  cases result with
  | started => trivial
  | validated => trivial
  | inserted n => exact hinserted n rfl
  | updated => exact hupdated rfl
  | stamped t => exact absurd rfl (hstamped t)
  | returned res =>
    cases res with
    | error => trivial
    | ok x => exact absurd rfl (hok x)

structure Accounted (s : Service) : Prop where
  calls : ∀ call ∈ s.calls, s.Explains call
  stamps : ∀ stamp ∈ s.stamps, stamp.1 ∈ s.updates
    ∧ ∀ m, stamp.1.message? stamp.2 = some m →
        ⟨stamp.1, .stamped stamp.2⟩ ∈ s.calls ∨ m ∈ s.messages
  messages : ∀ m ∈ s.messages, m.target?.isSome →
    ∃ stamp ∈ s.stamps, stamp.1.message? stamp.2 = some m

theorem accounted_init (store : Store) : (init store).Accounted := by
  constructor <;> simp [init]

theorem Accounted.explains_progress {s s' : Service} {i : Nat} {request : Request}
    {result : Progress} (h : s.Accounted) (hcalls : s'.calls = s.calls)
    (hupdates : s.updates ⊆ s'.updates) (hstamps : s.stamps ⊆ s'.stamps)
    (hnew : (s'.progress i request result).Explains ⟨request, result⟩)
    : ∀ call ∈ (s'.progress i request result).calls,
        (s'.progress i request result).Explains call := by
  intro call hmem
  rcases mem_calls_progress hmem with hmem | rfl
  . rw [hcalls] at hmem
    exact (h.calls call hmem).mono hupdates hstamps
  . exact hnew

theorem Accounted.stamps_progress {s s' : Service} {i : Nat} {call : Call} {request : Request}
    {result : Progress} (h : s.Accounted) (hcall : s.calls[i]? = some call)
    (hold : ∀ t, call.progress ≠ .stamped t) (hcalls : s'.calls = s.calls)
    (hupdates : s.updates ⊆ s'.updates) (hmessages : s.messages ⊆ s'.messages)
    : ∀ stamp ∈ s.stamps, stamp.1 ∈ (s'.progress i request result).updates
        ∧ ∀ m, stamp.1.message? stamp.2 = some m →
            ⟨stamp.1, .stamped stamp.2⟩ ∈ (s'.progress i request result).calls
              ∨ m ∈ (s'.progress i request result).messages := by
  intro stamp hstamp
  refine ⟨hupdates (h.stamps stamp hstamp).1, ?_⟩
  intro m hm
  refine ((h.stamps stamp hstamp).2 m hm).imp ?_ (@hmessages m)
  intro hmem
  rw [← hcalls] at hmem hcall
  apply mem_calls_progress_of_ne hmem hcall
  rintro rfl
  exact hold stamp.2 rfl

theorem Accounted.effect {s s' : Service} {readings : List OffsetDateTime} (h : s.Accounted)
    (heffect : Effect s s' readings) : s'.Accounted := by
  cases heffect with
  | call request =>
    constructor
    . intro call hmem
      rcases List.mem_append.mp hmem with hmem | hmem
      . exact (h.calls call hmem).mono (List.Subset.refl _) (List.Subset.refl _)
      . rw [List.mem_singleton.mp hmem]
        trivial
    . intro stamp hstamp
      refine ⟨(h.stamps stamp hstamp).1, ?_⟩
      intro m hm
      exact ((h.stamps stamp hstamp).2 m hm).imp_left (List.mem_append_left _)
    . exact h.messages
  | @moved i call result _ hcall hold hupdated hstamped hok hinserted =>
    constructor
    . apply h.explains_progress (by rfl) (List.Subset.refl _) (List.Subset.refl _)
      exact explains_of_ne (fun heq => absurd heq hupdated) hstamped hok hinserted
    . exact h.stamps_progress hcall hold (by rfl) (List.Subset.refl _) (List.Subset.refl _)
    . exact h.messages
  | @applied i call id op result hcall hop hupdated hstamped hok hinserted =>
    have hupdates : s.updates ⊆ (s.apply call.request op).updates := List.subset_append_left _ _
    constructor
    . apply h.explains_progress (by rfl) hupdates (List.Subset.refl _)
      apply explains_of_ne _ hstamped hok hinserted
      intro heq
      apply List.mem_append_right
      simp [hupdated heq]
    . exact h.stamps_progress hcall (call.progress_ne_stamped hop) (by rfl) hupdates (List.Subset.refl _)
    . exact h.messages
  | @stamp i request now hcall =>
    have hmem := List.mem_of_getElem? hcall
    have hlen : i < s.calls.length := (List.getElem?_eq_some_iff.mp hcall).1
    constructor
    . refine h.explains_progress (by rfl) ?_ ?_ ?_
      . exact List.Subset.refl _
      . exact List.subset_append_left _ _
      . exact List.mem_append_right _ (List.mem_singleton_self _)
    . intro stamp hstamp
      rcases List.mem_append.mp hstamp with hstamp | hstamp
      . exact h.stamps_progress hcall (by simp) (by rfl) (List.Subset.refl _) (List.Subset.refl _) stamp
          hstamp
      . rw [List.mem_singleton.mp hstamp]
        refine ⟨h.calls _ hmem, ?_⟩
        intro m hm
        exact Or.inl (List.mem_set hlen _)
    . intro m hm htarget
      rcases h.messages m hm htarget with ⟨stamp, hstamp, heq⟩
      exact ⟨stamp, List.mem_append_left _ hstamp, heq⟩
  | @sendNew i request inserted hcall =>
    have htarget : request.target? = none := h.calls _ (List.mem_of_getElem? hcall)
    constructor
    . apply h.explains_progress (by rfl) (List.Subset.refl _) (List.Subset.refl _)
      intro hsome
      simp [htarget] at hsome
    . exact h.stamps_progress hcall (by simp) (by rfl) (List.Subset.refl _) (List.subset_append_left _ _)
    . intro m hm hsome
      rcases List.mem_append.mp hm with hm | hm
      . exact h.messages m hm hsome
      . rw [List.mem_singleton.mp hm] at hsome
        contradiction
  | @send i request timestamp hcall =>
    have hstamp : (request, timestamp) ∈ s.stamps := h.calls _ (List.mem_of_getElem? hcall)
    constructor
    . apply h.explains_progress (by rfl) (List.Subset.refl _) (List.Subset.refl _)
      intro _
      exact ⟨timestamp, hstamp⟩
    . intro stamp hmem
      refine ⟨(h.stamps stamp hmem).1, ?_⟩
      intro m hm
      by_cases hcases : stamp = (request, timestamp)
      . -- the message of this call is sent now
        subst hcases
        refine Or.inr (List.mem_append_right _ ?_)
        rw [hm]
        exact List.mem_singleton_self m
      . refine ((h.stamps stamp hmem).2 m hm).imp ?_ (List.mem_append_left _)
        intro hmem'
        apply mem_calls_progress_of_ne hmem' hcall
        rintro heq
        rw [Call.mk.injEq, Progress.stamped.injEq] at heq
        exact hcases (Prod.ext heq.1 heq.2)
    . intro m hm hsome
      rcases List.mem_append.mp hm with hm | hm
      . exact h.messages m hm hsome
      . exact ⟨(request, timestamp), hstamp, Option.mem_toList.mp hm⟩
  | repository hseen hdelete => exact ⟨h.calls, h.stamps, h.messages⟩

/--
The confirmation is stored as the request whose update was applied last wants it to be.
-/
def Tracked (s : Service) : Prop :=
  ∀ id userId request, s.lastUpdate? id userId = some request →
    request.status? = some (s.store.status id userId)

theorem Tracked.of_status_eq {s s' : Service} (h : s.Tracked) (hupdates : s'.updates = s.updates)
    (hstatus : ∀ id userId, s.store.status id userId ≠ .undelivered →
      s'.store.status id userId = s.store.status id userId) : s'.Tracked := by
  intro id userId request hlast
  rw [lastUpdate?, hupdates] at hlast
  have hrequest := h id userId request hlast
  rw [hstatus id userId, hrequest]
  intro hundelivered
  rw [hundelivered] at hrequest
  exact Request.status?_ne_undelivered hrequest

theorem Tracked.apply {s : Service} {call : Call} {newId : ObjectId} {op : Op} (h : s.Tracked)
    (hop : call.op? newId = some op) : (s.apply call.request op).Tracked := by
  cases hres : (op.apply s.store.docs).1 with
  | error e =>
    apply h.of_status_eq
    . simp [Service.apply, hres]
    . intro id userId _
      exact Store.status_apply_of_error hres
  | ok =>
    intro id userId request hlast
    simp only [lastUpdate?, Service.apply, hres, if_true, List.filter_append] at hlast
    by_cases htarget : call.request.target? = some (id, userId)
    . -- this update is the last one
      simp only [htarget, List.filter_cons, List.filter_nil, decide_true, if_true,
        List.getLast?_append, List.getLast?_singleton, Option.some_or, Option.some.injEq] at hlast
      rw [← hlast]
      exact Store.status_apply_of_ok hop htarget hres
    . simp only [htarget, List.filter_cons, List.filter_nil, decide_false, Bool.false_eq_true,
        if_false, List.append_nil] at hlast
      have hrequest := h id userId request hlast
      have hne := Call.op?_ne hop htarget
      rw [hrequest, Option.some.injEq]
      symm
      apply Store.status_apply_of_ne_undelivered _ hne.1 hne.2
      intro hundelivered
      rw [hundelivered] at hrequest
      exact Request.status?_ne_undelivered hrequest

theorem Tracked.effect {s s' : Service} {readings : List OffsetDateTime} (h : s.Tracked)
    (heffect : Effect s s' readings) : s'.Tracked := by
  cases heffect with
  | call => exact h
  | moved => exact h
  | applied hcall hop => exact h.apply hop
  | stamp => exact h
  | sendNew => exact h
  | send => exact h
  | repository hseen hdelete =>
    apply h.of_status_eq (by rfl)
    intro id userId hne
    exact Store.status_apply_of_ne_undelivered hne (hseen id userId) (hdelete id userId)

theorem stamps_sublist {config : NotificationsServiceConfig} {store : Store} {labels : List Label}
    {s : Service} (hrun : System.run (step config) (init store) labels = some s)
    : (s.stamps.map (·.2)).Sublist (labels.flatMap Label.readings) := by
  apply System.run_induction (P := fun labels s =>
    (s.stamps.map (·.2)).Sublist (labels.flatMap Label.readings)) _ _ hrun
  . exact List.nil_sublist _
  . intro labels label s s' _ ih hstep
    rw [List.flatMap_append, List.flatMap_singleton]
    have heffect := effect_of_step hstep
    revert heffect
    generalize label.readings = readings
    intro heffect
    cases heffect with
    | stamp =>
      simp only [progress, List.map_append, List.map_singleton]
      exact ih.append (List.Sublist.refl _)
    | call => exact ih.trans (List.sublist_append_left _ _)
    | moved => exact ih.trans (List.sublist_append_left _ _)
    | applied => exact ih.trans (List.sublist_append_left _ _)
    | sendNew => exact ih.trans (List.sublist_append_left _ _)
    | send => exact ih.trans (List.sublist_append_left _ _)
    | repository => exact ih.trans (List.sublist_append_left _ _)

theorem accounted_and_tracked {config : NotificationsServiceConfig} {store : Store}
    {labels : List Label} {s : Service}
    (hrun : System.run (step config) (init store) labels = some s) : s.Accounted ∧ s.Tracked := by
  apply System.run_invariant (P := fun s => s.Accounted ∧ s.Tracked) _ _ hrun
  . intro s label s' h hstep
    exact ⟨h.1.effect (effect_of_step hstep), h.2.effect (effect_of_step hstep)⟩
  . refine ⟨accounted_init store, ?_⟩
    intro id userId request hlast
    simp [lastUpdate?, init] at hlast

def IsFinished (s : Service) : Prop :=
  ∀ call ∈ s.calls, ∃ result, call.progress = .returned result

def HasSucceeded (s : Service) (id : ObjectId) (userId : Uuid) : Prop :=
  ∃ call ∈ s.calls, call.request.target? = some (id, userId)
    ∧ ∃ x, call.progress = .returned (.ok x)

theorem IsLatestMessage.unique {s : Service} {id : ObjectId} {userId : Uuid}
    {m m' : ProducedNotification} (h : s.IsLatestMessage id userId m)
    (h' : s.IsLatestMessage id userId m') : m = m' := by
  by_contra hne
  have hlt := h.2.2 m' h'.1 h'.2.1 (Ne.symm hne)
  have hgt := h'.2.2 m h.1 h.2.1 hne
  exact lt_asymm hlt hgt

theorem target?_of_getLast?_filter {requests : List Request} {target : ObjectId × Uuid}
    {request : Request}
    (h : (requests.filter (fun request => decide (request.target? = some target))).getLast?
      = some request)
    : request.target? = some target := by
  have hmem := (List.mem_filter.mp (List.mem_of_getLast? h)).2
  simpa using hmem

theorem exists_getLast?_filter {requests : List Request} {target : ObjectId × Uuid}
    {request : Request} (hmem : request ∈ requests) (htarget : request.target? = some target)
    : ∃ request', (requests.filter (fun request => decide (request.target? = some target))).getLast?
        = some request' := by
  rw [← Option.isSome_iff_exists, List.getLast?_isSome]
  apply List.ne_nil_of_mem
  exact List.mem_filter.mpr ⟨hmem, by simpa using htarget⟩

theorem Accounted.isLatestMessage_iff {s : Service} (h : s.Accounted) (hfinished : s.IsFinished)
    (hclock : (s.stamps.map (·.2)).Pairwise (· < ·)) {id : ObjectId} {userId : Uuid}
    {request : Request} (hlast : s.lastStamp? id userId = some request)
    : ∃ m, m.status? = request.status? ∧ ∀ m', s.IsLatestMessage id userId m' ↔ m' = m := by
  have htarget := target?_of_getLast?_filter hlast
  rw [lastStamp?, List.filter_map, List.getLast?_map, Option.map_eq_some_iff] at hlast
  rcases hlast with ⟨⟨request, t⟩, hlast, rfl⟩
  dsimp only at htarget ⊢
  rw [List.getLast?_eq_some_iff] at hlast
  rcases hlast with ⟨earlier, hlast⟩
  have hbefore : ∀ stamp ∈ earlier, stamp.2 < t := by
    rw [List.pairwise_map] at hclock
    have hpairwise := hclock.filter
      ((fun request => decide (request.target? = some (id, userId))) ∘ (fun stamp => stamp.1))
    rw [hlast, List.pairwise_append] at hpairwise
    intro stamp hstamp
    exact hpairwise.2.2 stamp hstamp _ (List.mem_singleton_self _)
  have hmem : (request, t) ∈ s.stamps := by
    apply List.mem_of_mem_filter
    rw [hlast]
    exact List.mem_append_right _ (List.mem_singleton_self _)
  have hmessage : ∃ m, request.message? t = some m := by
    cases request <;> simp_all [Request.message?, Request.target?]
  rcases hmessage with ⟨m, hm⟩
  rcases Request.message?_eq_some hm with ⟨hmtarget, hmstatus, hmtimestamp⟩
  have hlatest : s.IsLatestMessage id userId m := by
    refine ⟨?_, hmtarget.trans htarget, ?_⟩
    . rcases (h.stamps _ hmem).2 m hm with hcall | hsent
      . rcases hfinished _ hcall with ⟨result, hresult⟩
        contradiction
      . exact hsent
    . intro m' hm' htarget' hne
      rcases h.messages m' hm' (by simp [htarget']) with ⟨stamp, hstamp, hstampm⟩
      rcases Request.message?_eq_some hstampm with ⟨hmtarget', _, hmtimestamp'⟩
      have hfilter : stamp ∈ earlier ++ [(request, t)] := by
        rw [← hlast, List.mem_filter]
        exact ⟨hstamp, by simpa [← hmtarget'] using htarget'⟩
      rcases List.mem_append.mp hfilter with hearlier | heq
      . rw [hmtimestamp, hmtimestamp']
        exact hbefore stamp hearlier
      . rw [List.mem_singleton.mp heq, hm, Option.some.injEq] at hstampm
        exact absurd hstampm.symm hne
  refine ⟨m, hmstatus, ?_⟩
  intro m'
  constructor
  . intro hlatest'
    exact hlatest'.unique hlatest
  . rintro rfl
    exact hlatest

/--
The message that is kept describes what is stored exactly when the call that read the clock last
asked for the same as the call that updated the store last.
-/
theorem converges_iff (config : NotificationsServiceConfig) (ops : List Op) (labels : List Label)
    (s : Service)
    (hrun : System.run (step config) (init (Store.ofOps ops)) labels = some s)
    (hclock : (labels.flatMap Label.readings).Pairwise (· < ·)) (hfinished : s.IsFinished)
    (id : ObjectId) (userId : Uuid) (hok : s.HasSucceeded id userId)
    : (∃ m, s.IsLatestMessage id userId m ∧ m.status? = some (s.store.status id userId))
        ↔
      s.lastUpdate? id userId = s.lastStamp? id userId := by
  rcases accounted_and_tracked hrun with ⟨haccounted, htracked⟩
  have hsorted := hclock.sublist (stamps_sublist hrun)
  have hstamp : ∃ request t, (request, t) ∈ s.stamps ∧ request.target? = some (id, userId) := by
    rcases hok with ⟨⟨request, progress⟩, hmem, htarget, x, rfl⟩
    rcases haccounted.calls _ hmem (by simp [htarget]) with ⟨t, ht⟩
    exact ⟨request, t, ht, htarget⟩
  rcases hstamp with ⟨request, t, hmem, htarget⟩
  have hstamps : request ∈ s.stamps.map (·.1) := List.mem_map_of_mem hmem
  rcases exists_getLast?_filter hstamps htarget with ⟨stamped, hstamped⟩
  rcases exists_getLast?_filter (haccounted.stamps _ hmem).1 htarget with ⟨updated, hupdated⟩
  have hstatus : updated.status? = some (s.store.status id userId) := htracked _ _ _ hupdated
  rcases haccounted.isLatestMessage_iff hfinished hsorted hstamped with ⟨m, hm, hlatest⟩
  rw [lastUpdate?, lastStamp?, hupdated, hstamped, Option.some.injEq, ← hstatus]
  simp only [hlatest, exists_eq_left, hm]
  have htargets := target?_of_getLast?_filter hstamped
  constructor
  . intro heq
    symm
    apply Request.eq_of_target?_of_status? _ _ heq
    . rw [htargets, target?_of_getLast?_filter hupdated]
    . simp [htargets]
  . rintro rfl
    rfl

def deliveredBroadcast : List Op :=
  [.insert ⟨7⟩ [] 0 none ⟨2⟩ 0 "utf-8" [], .insertConfirmation ⟨7⟩ ⟨1⟩ 0]

def twoDevices (stamps : List Label) : List Label :=
  [
    .call (.updateNotificationSeen ⟨7⟩ ⟨1⟩ true),
    .call (.updateNotificationSeen ⟨7⟩ ⟨1⟩ false),
    .update 0,
    .update 1
  ] ++ stamps ++ [.send 0, .send 1]

def twoDevicesFinished (messages : List ProducedNotification)
    (stamps : List (Request × OffsetDateTime)) : Service where
  store :=
    ((Store.ofOps deliveredBroadcast).apply (.updateConfirmationSeen ⟨7⟩ ⟨1⟩ true)).apply
      (.updateConfirmationSeen ⟨7⟩ ⟨1⟩ false)
  calls := [
    ⟨.updateNotificationSeen ⟨7⟩ ⟨1⟩ true, .returned (.ok none)⟩,
    ⟨.updateNotificationSeen ⟨7⟩ ⟨1⟩ false, .returned (.ok none)⟩
  ]
  messages
  updates := [.updateNotificationSeen ⟨7⟩ ⟨1⟩ true, .updateNotificationSeen ⟨7⟩ ⟨1⟩ false]
  stamps

section

variable {messages : List ProducedNotification} {stamps : List (Request × OffsetDateTime)}

theorem isFinished_twoDevicesFinished : (twoDevicesFinished messages stamps).IsFinished := by
  simp [IsFinished, twoDevicesFinished]

theorem hasSucceeded_twoDevicesFinished
    : (twoDevicesFinished messages stamps).HasSucceeded ⟨7⟩ ⟨1⟩ :=
  ⟨_, List.mem_cons_self, rfl, none, rfl⟩

end

theorem converges_iff_in_order
    : ∃ s, System.run (step ⟨100⟩) (init (Store.ofOps deliveredBroadcast))
          (twoDevices [.stamp 0 10, .stamp 1 20]) = some s
        ∧ ∃ m, s.IsLatestMessage ⟨7⟩ ⟨1⟩ m ∧ m.status? = some (s.store.status ⟨7⟩ ⟨1⟩) := by
  let s := twoDevicesFinished [.updated ⟨1⟩ ⟨7⟩ true 10, .updated ⟨1⟩ ⟨7⟩ false 20]
    [(.updateNotificationSeen ⟨7⟩ ⟨1⟩ true, 10), (.updateNotificationSeen ⟨7⟩ ⟨1⟩ false, 20)]
  have hrun : System.run (step ⟨100⟩) (init (Store.ofOps deliveredBroadcast))
      (twoDevices [.stamp 0 10, .stamp 1 20]) = some s := by
    rfl
  refine ⟨s, hrun, ?_⟩
  rw [converges_iff ⟨100⟩ deliveredBroadcast _ s hrun]
  . rfl
  . decide
  . exact isFinished_twoDevicesFinished
  . exact hasSucceeded_twoDevicesFinished

/--
The second device reads the clock first: the message that is kept says the flag is set, the store
says it is not.
-/
theorem not_converges_inverted
    : ∃ s, System.run (step ⟨100⟩) (init (Store.ofOps deliveredBroadcast))
          (twoDevices [.stamp 1 10, .stamp 0 20]) = some s
        ∧ ((twoDevices [.stamp 1 10, .stamp 0 20]).flatMap Label.readings).Pairwise (· < ·)
        ∧ s.IsFinished
        ∧ s.HasSucceeded ⟨7⟩ ⟨1⟩
        ∧ s.IsLatestMessage ⟨7⟩ ⟨1⟩ (.updated ⟨1⟩ ⟨7⟩ true 20)
        ∧ s.store.status ⟨7⟩ ⟨1⟩ = .delivered false
        ∧ ¬∃ m, s.IsLatestMessage ⟨7⟩ ⟨1⟩ m ∧ m.status? = some (s.store.status ⟨7⟩ ⟨1⟩) := by
  let s := twoDevicesFinished [.updated ⟨1⟩ ⟨7⟩ true 20, .updated ⟨1⟩ ⟨7⟩ false 10]
    [(.updateNotificationSeen ⟨7⟩ ⟨1⟩ false, 10), (.updateNotificationSeen ⟨7⟩ ⟨1⟩ true, 20)]
  have hlatest : s.IsLatestMessage ⟨7⟩ ⟨1⟩ (.updated ⟨1⟩ ⟨7⟩ true 20) := by
    simp [s, IsLatestMessage, twoDevicesFinished, ProducedNotification.target?,
      ProducedNotification.timestamp]
  have hstatus : s.store.status ⟨7⟩ ⟨1⟩ = .delivered false := by
    rfl
  refine ⟨s, rfl, by decide, isFinished_twoDevicesFinished, hasSucceeded_twoDevicesFinished,
    hlatest, hstatus, ?_⟩
  rintro ⟨m, hm, hm'⟩
  rw [hm.unique hlatest, hstatus] at hm'
  contradiction

end Service

end TomNotifier.Core
