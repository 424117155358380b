import TomNotifier.Core.Repository.Isolation
import TomNotifier.Core.Service.Impl

/-!
This module contains one call of `find_undelivered_notifications` over a store that others use at
the same time, and when it has delivered what it returns.
-/

namespace TomNotifier.Core

/--
How far the call has come. `confirming` is the bulk update under way: it still has to get to the
documents in `pending`, all at the clock reading `now`.
-/
inductive FetchProgress where
  | started
  | found (notifications : List Notification) (readAt : OffsetDateTime)
  | confirming (notifications : List Notification) (now : OffsetDateTime) (pending : List ObjectId)
  | returned (result : Except Error (List Notification))

/--
The last three fields are history: the ids of the notifications the call has pushed a confirmation
to, of those that were not expired when the bulk update got to them, and of those that others have
confirmed on behalf of the user.
-/
structure Fetch where
  store : Store
  progress : FetchProgress
  added : List ObjectId
  unexpired : List ObjectId
  others : List ObjectId

inductive FetchLabel where
  -- `fail` is an error of the driver in either command.
  | find (now : OffsetDateTime)
  | insertManyConfirmations (now : OffsetDateTime)
  | update (id : ObjectId)
  | finish
  | fail
  | other (op : Op)

namespace Fetch

def init (store : Store) : Fetch where
  store
  progress := .started
  added := []
  unexpired := []
  others := []

def confirmedBy (store : Store) (userId : Uuid) (op : Op) : List ObjectId :=
  (store.docs.filter (fun n =>
    decide (¬n.IsConfirmed userId ∧ (op.onDocument n).IsConfirmed userId))).map (·.id)

def update (userId : Uuid) (s : Fetch) (id : ObjectId) (ids : List ObjectId) (now : OffsetDateTime)
    : Fetch :=
  let op := .insertManyConfirmationsAt id ids userId now
  { s with
    store := s.store.apply op
    added := s.added ++ confirmedBy s.store userId op
    unexpired := s.unexpired
      ++ (s.store.docs.filter (fun n => decide (n.id = id ∧ n.Unexpired now))).map (·.id)
  }

def step (userId : Uuid) (s : Fetch) (label : FetchLabel) : Option Fetch :=
  match label with
  | .find now =>
    match s.progress with
    | .started =>
      let notifications := NotificationsRepository.findManyUndelivered userId now s.store.docs
      if notifications.isEmpty then
        some { s with progress := .returned (.ok notifications) }
      else
        some { s with progress := .found notifications now }
    | _ => none
  | .insertManyConfirmations now =>
    match s.progress with
    | .found notifications readAt =>
      if readAt ≤ now then
        some { s with progress := .confirming notifications now (notifications.map (·.id)) }
      else
        none
    | _ => none
  | .update id =>
    match s.progress with
    | .confirming notifications now pending =>
      if id ∈ pending then
        some { s.update userId id (notifications.map (·.id)) now with
          progress := .confirming notifications now (pending.erase id) }
      else
        none
    | _ => none
  | .finish =>
    match s.progress with
    | .confirming notifications _ [] => some { s with progress := .returned (.ok notifications) }
    | _ => none
  | .fail =>
    match s.progress with
    | .returned _ => none
    | _ => some { s with progress := .returned (.error (.database .mongo)) }
  | .other op =>
    some { s with
      store := s.store.apply op
      others := s.others ++ confirmedBy s.store userId op }

def notifications (s : Fetch) : List Notification :=
  match s.progress with
  | .started => []
  | .found notifications _ => notifications
  | .confirming notifications _ _ => notifications
  | .returned (.ok notifications) => notifications
  | .returned (.error _) => []

theorem mem_confirmedBy_iff {store : Store} {userId : Uuid} {op : Op} {id : ObjectId}
    : id ∈ confirmedBy store userId op
        ↔
      ∃ n ∈ store.docs, n.id = id ∧ ¬n.IsConfirmed userId ∧ (op.onDocument n).IsConfirmed userId
    := by
  simp only [confirmedBy, List.mem_map, List.mem_filter, decide_eq_true_eq]
  constructor
  . rintro ⟨n, ⟨hn, hconf⟩, hid⟩
    exact ⟨n, hn, hid, hconf⟩
  . rintro ⟨n, hn, hid, hconf⟩
    exact ⟨n, ⟨hn, hconf⟩, hid⟩

inductive Effect (userId : Uuid) (s : Fetch) : FetchLabel → Fetch → Prop where
  | find {now : OffsetDateTime} {progress : FetchProgress} (started : s.progress = .started)
    (found : progress
        = .returned (.ok (NotificationsRepository.findManyUndelivered userId now s.store.docs))
      ∨ progress = .found (NotificationsRepository.findManyUndelivered userId now s.store.docs) now)
    : Effect userId s (.find now) { s with progress }
  | insertManyConfirmations {now readAt : OffsetDateTime} {notifications : List Notification}
    (found : s.progress = .found notifications readAt) (le : readAt ≤ now)
    : Effect userId s (.insertManyConfirmations now)
      { s with progress := .confirming notifications now (notifications.map (·.id)) }
  | update {id : ObjectId} {notifications : List Notification} {now : OffsetDateTime}
    {pending : List ObjectId} (confirming : s.progress = .confirming notifications now pending)
    (id_mem : id ∈ pending)
    : Effect userId s (.update id) { s.update userId id (notifications.map (·.id)) now with
        progress := .confirming notifications now (pending.erase id) }
  | finish {notifications : List Notification} {now : OffsetDateTime}
    (confirming : s.progress = .confirming notifications now [])
    : Effect userId s .finish { s with progress := .returned (.ok notifications) }
  | fail (unreturned : ∀ result, s.progress ≠ .returned result)
    : Effect userId s .fail { s with progress := .returned (.error (.database .mongo)) }
  | other {op : Op}
    : Effect userId s (.other op) { s with
        store := s.store.apply op
        others := s.others ++ confirmedBy s.store userId op }

structure Accounted (userId : Uuid) (s : Fetch) : Prop where
  found : ∀ m ∈ s.notifications, ∃ n ∈ s.store.docs,
    n.id = m.id
      ∧ n.IsRecipient userId
      ∧ (n.IsConfirmed userId ↔ m.id ∈ s.unexpired ∨ m.id ∈ s.others)
  others : ∀ id ∈ s.others, ∃ n ∈ s.store.docs, n.id = id ∧ n.IsConfirmed userId
  unexpired : s.progress = .started → s.unexpired = []
  added : (∀ e, s.progress ≠ .returned (.error e)) →
    ∀ id ∈ s.added, ∃ m ∈ s.notifications, m.id = id

section

variable {userId : Uuid} {s s' : Fetch}

theorem accounted_init (store : Store) : (init store).Accounted userId := by
  constructor <;> simp [init, notifications]

theorem isConfirmed_onDocument {store : Store} {n : NotificationEntity} (hn : n ∈ store.docs)
    {op : Op} (hconf : n.IsConfirmed userId) : (op.onDocument n).IsConfirmed userId :=
  ((store.valid n hn).continues_onDocument op).isConfirmed hconf

theorem isConfirmed_onDocument_iff {store : Store} {n : NotificationEntity} (hn : n ∈ store.docs)
    {op : Op}
    : (op.onDocument n).IsConfirmed userId
        ↔
      n.IsConfirmed userId ∨ n.id ∈ confirmedBy store userId op := by
  constructor
  . intro hconf
    by_cases hold : n.IsConfirmed userId
    . exact Or.inl hold
    . exact Or.inr (mem_confirmedBy_iff.mpr ⟨n, hn, rfl, hold, hconf⟩)
  . rintro (hconf | hmem)
    . exact isConfirmed_onDocument hn hconf
    . rcases mem_confirmedBy_iff.mp hmem with ⟨n', hn', hid, _, hconf⟩
      rwa [Store.eq_of_id_eq hn' hn hid] at hconf

theorem isConfirmed_pushConfirmation {n : NotificationEntity} {t : DateTime}
    : (NotificationsRepository.pushConfirmation userId t n).IsConfirmed userId :=
  ⟨_, List.mem_append_right _ (List.mem_singleton_self _), rfl⟩

theorem isConfirmed_insertManyConfirmationsAt_iff {n : NotificationEntity} {id : ObjectId}
    {ids : List ObjectId} {now : OffsetDateTime} (hrec : n.IsRecipient userId) (hid : n.id ∈ ids)
    : ((Op.insertManyConfirmationsAt id ids userId now).onDocument n).IsConfirmed userId
        ↔
      n.IsConfirmed userId ∨ (n.id = id ∧ n.Unexpired now) := by
  rw [Op.onDocument_insertManyConfirmationsAt]
  split
  . next h =>
    simp only [isConfirmed_pushConfirmation, true_iff]
    exact Or.inr ⟨h.1, h.2.2.2.1⟩
  . next h =>
    constructor
    . exact Or.inl
    . rintro (hconf | ⟨heq, hexp⟩)
      . exact hconf
      . by_contra hconf
        exact h ⟨heq, hid, hrec, hexp, hconf⟩

theorem effect_of_step {label : FetchLabel} (hstep : s.step userId label = some s')
    : Effect userId s label s' := by
  unfold step at hstep
  split at hstep
  . split at hstep
    . next hstarted =>
      dsimp only at hstep
      split at hstep
      . rw [← Option.some.inj hstep]
        exact .find hstarted (.inl rfl)
      . rw [← Option.some.inj hstep]
        exact .find hstarted (.inr rfl)
    . contradiction
  . split at hstep
    . next hfound =>
      split at hstep
      . next hle =>
        rw [← Option.some.inj hstep]
        exact .insertManyConfirmations hfound hle
      . contradiction
    . contradiction
  . split at hstep
    . next hconfirming =>
      split at hstep
      . next hid =>
        rw [← Option.some.inj hstep]
        exact .update hconfirming hid
      . contradiction
    . contradiction
  . split at hstep
    . next hconfirming =>
      rw [← Option.some.inj hstep]
      exact .finish hconfirming
    . contradiction
  . split at hstep
    . contradiction
    . next hunreturned =>
      rw [← Option.some.inj hstep]
      exact .fail hunreturned
  . rw [← Option.some.inj hstep]
    exact .other

/-- A call only comes to hold what it finds in the collection. -/
theorem notifications_of_step {label : FetchLabel} (hstep : s.step userId label = some s')
    : ∀ m ∈ s'.notifications, m ∈ s.notifications
        ∨ ∃ now, m ∈ NotificationsRepository.findManyUndelivered userId now s.store.docs := by
  intro m hm
  cases effect_of_step hstep with
  | @find now _ _ found =>
    rcases found with rfl | rfl
    . exact .inr ⟨now, hm⟩
    . exact .inr ⟨now, hm⟩
  | insertManyConfirmations found =>
    left
    rwa [notifications, found]
  | update confirming =>
    left
    rwa [notifications, confirming]
  | finish confirming =>
    left
    rwa [notifications, confirming]
  | fail => simp [notifications] at hm
  | other => exact .inl hm

theorem Accounted.find {now : OffsetDateTime} {progress : FetchProgress} (h : s.Accounted userId)
    (hstarted : s.progress = .started)
    (hnotifications : { s with progress }.notifications
      = NotificationsRepository.findManyUndelivered userId now s.store.docs)
    (hprogress : progress ≠ .started)
    : Accounted userId { s with progress } := by
  have hempty : s.notifications = [] := by simp [notifications, hstarted]
  constructor
  . intro m hm
    rw [hnotifications] at hm
    rcases NotificationsRepository.mem_findManyUndelivered_iff.mp hm with ⟨n, hn, haccepts, rfl⟩
    refine ⟨n, hn, rfl, haccepts.1, ?_⟩
    simp only [haccepts.2.2, h.unexpired hstarted, List.not_mem_nil, false_or, false_iff]
    intro hothers
    rcases h.others _ hothers with ⟨n', hn', hid, hconf⟩
    rw [Store.eq_of_id_eq hn' hn hid] at hconf
    exact haccepts.2.2 hconf
  . exact h.others
  . intro hstarted'
    exact absurd hstarted' hprogress
  . intro _ id hid
    have hadded := h.added (by simp [hstarted]) id hid
    simp [hempty] at hadded

theorem Accounted.update {id : ObjectId} {now : OffsetDateTime} (h : s.Accounted userId)
    {progress : FetchProgress} (hnotifications : { s with progress }.notifications = s.notifications)
    (hprogress : progress ≠ .started) (hold : ∀ e, s.progress ≠ .returned (.error e))
    : Accounted userId { s.update userId id (s.notifications.map (·.id)) now with progress } := by
  constructor
  . intro m hm
    have hm : m ∈ s.notifications := by rwa [← hnotifications]
    rcases h.found m hm with ⟨n, hn, hid, hrec, hconf⟩
    refine ⟨_, Store.onDocument_mem_docs_apply hn _, by simpa using hid, by simpa using hrec, ?_⟩
    rw [isConfirmed_insertManyConfirmationsAt_iff hrec (hid ▸ List.mem_map_of_mem hm), hconf]
    have hmem : m.id ∈ (s.store.docs.filter (fun n => decide (n.id = id ∧ n.Unexpired now))).map
        (·.id) ↔ n.id = id ∧ n.Unexpired now := by
      simp only [List.mem_map, List.mem_filter, decide_eq_true_eq]
      constructor
      . rintro ⟨n', ⟨hn', hexp⟩, hid'⟩
        rwa [Store.eq_of_id_eq hn' hn (hid'.trans hid.symm)] at hexp
      . intro hexp
        exact ⟨n, ⟨hn, hexp⟩, hid⟩
    simp only [Fetch.update, List.mem_append, hmem]
    tauto
  . intro id' hothers
    rcases h.others id' hothers with ⟨n, hn, hid, hconf⟩
    exact ⟨_, Store.onDocument_mem_docs_apply hn _, by simpa using hid,
      isConfirmed_onDocument hn hconf⟩
  . intro hstarted
    exact absurd hstarted hprogress
  . intro _ id' hadded
    rcases List.mem_append.mp hadded with hadded | hadded
    . rcases h.added hold id' hadded with ⟨m, hm, hid⟩
      exact ⟨m, by rwa [← hnotifications] at hm, hid⟩
    . rcases mem_confirmedBy_iff.mp hadded with ⟨n, _, hid, hconf, hconf'⟩
      rw [Op.onDocument_insertManyConfirmationsAt] at hconf'
      split at hconf'
      . next haccepts =>
        rcases List.mem_map.mp haccepts.2.1 with ⟨m, hm, hmid⟩
        exact ⟨m, by rwa [← hnotifications] at hm, hmid.trans hid⟩
      . exact absurd hconf' hconf

theorem Accounted.progress {progress : FetchProgress} (h : s.Accounted userId)
    (hnotifications : { s with progress }.notifications = s.notifications)
    (hprogress : progress ≠ .started) (hold : ∀ e, s.progress ≠ .returned (.error e))
    : Accounted userId { s with progress } := by
  constructor
  . rw [hnotifications]
    exact h.found
  . exact h.others
  . intro hstarted
    exact absurd hstarted hprogress
  . intro _
    rw [hnotifications]
    exact h.added hold

theorem Accounted.other {op : Op} (h : s.Accounted userId)
    : Accounted userId { s with
        store := s.store.apply op
        others := s.others ++ confirmedBy s.store userId op } := by
  constructor
  . intro m hm
    rcases h.found m hm with ⟨n, hn, hid, hrec, hconf⟩
    refine ⟨_, Store.onDocument_mem_docs_apply hn _, by simpa using hid, by simpa using hrec, ?_⟩
    rw [isConfirmed_onDocument_iff hn, hconf, hid, List.mem_append]
    tauto
  . intro id hothers
    rcases List.mem_append.mp hothers with hothers | hothers
    . rcases h.others id hothers with ⟨n, hn, hid, hconf⟩
      exact ⟨_, Store.onDocument_mem_docs_apply hn _, by simpa using hid,
        isConfirmed_onDocument hn hconf⟩
    . rcases mem_confirmedBy_iff.mp hothers with ⟨n, hn, hid, _, hconf⟩
      exact ⟨_, Store.onDocument_mem_docs_apply hn _, by simpa using hid, hconf⟩
  . exact h.unexpired
  . exact h.added

theorem Accounted.step {label : FetchLabel} (h : s.Accounted userId)
    (hstep : step userId s label = some s') : s'.Accounted userId := by
  cases effect_of_step hstep with
  | find started found =>
    rcases found with rfl | rfl
    . exact h.find started rfl (by simp)
    . exact h.find started rfl (by simp)
  | insertManyConfirmations found =>
    apply h.progress _ (by simp) (by simp [found])
    simp [notifications, found]
  | @update id notifications now pending confirming =>
    have hnotifications : s.notifications = notifications := by
      simp [Fetch.notifications, confirming]
    subst hnotifications
    exact h.update rfl (by simp) (by simp [confirming])
  | finish confirming =>
    apply h.progress _ (by simp) (by simp [confirming])
    simp [notifications, confirming]
  | fail =>
    refine ⟨?_, h.others, by simp, ?_⟩
    . intro m hm
      simp [notifications] at hm
    . intro hne
      exact absurd rfl (hne _)
  | other => exact h.other

end

/--
What the call returns is confirmed in the end exactly when every returned notification was not
expired at the second clock reading, at the time the bulk update got to it, or has been confirmed
on behalf of the user by somebody else. The call never confirms anything it does not return.
-/
theorem delivers_iff (ops : List Op) (userId : Uuid) (labels : List FetchLabel) (s : Fetch)
    (notifications : List Notification)
    (hrun : System.run (step userId) (init (Store.ofOps ops)) labels = some s)
    (hreturned : s.progress = .returned (.ok notifications))
    : ((∀ m ∈ notifications, ∃ n ∈ s.store.docs, n.id = m.id ∧ n.IsConfirmed userId)
        ∧ ∀ id ∈ s.added, ∃ m ∈ notifications, m.id = id)
        ↔
      ∀ m ∈ notifications, m.id ∈ s.unexpired ∨ m.id ∈ s.others := by
  have h : s.Accounted userId := by
    apply System.run_invariant (P := Accounted userId) _ (accounted_init _) hrun
    intro s label s' h hstep
    exact h.step hstep
  have hnotifications : s.notifications = notifications := by
    simp [Fetch.notifications, hreturned]
  subst hnotifications
  constructor
  . rintro ⟨hconfirmed, _⟩ m hm
    rcases h.found m hm with ⟨n, hn, hid, _, hconf⟩
    rcases hconfirmed m hm with ⟨n', hn', hid', hconf'⟩
    rw [Store.eq_of_id_eq hn' hn (hid'.trans hid.symm)] at hconf'
    exact hconf.mp hconf'
  . intro hall
    constructor
    . intro m hm
      rcases h.found m hm with ⟨n, hn, hid, _, hconf⟩
      exact ⟨n, hn, hid, hconf.mpr (hall m hm)⟩
    . exact h.added (by simp [hreturned])

def expiringBroadcast : List Op :=
  [.insert ⟨7⟩ [] 0 (some 1000000000) ⟨2⟩ 0 "utf-8" []]

def fetchAlone (now : OffsetDateTime) : List FetchLabel :=
  [.find 0, .insertManyConfirmations now, .update ⟨7⟩, .finish]

def expiringNotification : Notification := ⟨⟨7⟩, 0, ⟨2⟩, false, "utf-8", []⟩

theorem delivers_iff_before_expiry
    : ∃ s, System.run (step ⟨1⟩) (init (Store.ofOps expiringBroadcast)) (fetchAlone 500000000) = some s
        ∧ s.progress = .returned (.ok [expiringNotification])
        ∧ (∀ m ∈ [expiringNotification], ∃ n ∈ s.store.docs, n.id = m.id ∧ n.IsConfirmed ⟨1⟩)
        ∧ ∀ id ∈ s.added, ∃ m ∈ [expiringNotification], m.id = id := by
  let s : Fetch := {
    store := (Store.ofOps expiringBroadcast).apply
      (.insertManyConfirmationsAt ⟨7⟩ [⟨7⟩] ⟨1⟩ 500000000)
    progress := .returned (.ok [expiringNotification])
    added := [⟨7⟩]
    unexpired := [⟨7⟩]
    others := []
  }
  have hrun : System.run (step ⟨1⟩) (init (Store.ofOps expiringBroadcast)) (fetchAlone 500000000)
      = some s := by
    rfl
  refine ⟨s, hrun, rfl, ?_⟩
  rw [delivers_iff expiringBroadcast ⟨1⟩ _ s [expiringNotification] hrun rfl]
  simp [s, expiringNotification]

/--
The notification expires between the two commands: it is returned and stays undelivered.
-/
theorem not_delivers_expired_meanwhile
    : ∃ s, System.run (step ⟨1⟩) (init (Store.ofOps expiringBroadcast)) (fetchAlone 2000000000) = some s
        ∧ s.progress = .returned (.ok [expiringNotification])
        ∧ ¬((∀ m ∈ [expiringNotification], ∃ n ∈ s.store.docs, n.id = m.id ∧ n.IsConfirmed ⟨1⟩)
          ∧ ∀ id ∈ s.added, ∃ m ∈ [expiringNotification], m.id = id) := by
  let s : Fetch := {
    store := (Store.ofOps expiringBroadcast).apply
      (.insertManyConfirmationsAt ⟨7⟩ [⟨7⟩] ⟨1⟩ 2000000000)
    progress := .returned (.ok [expiringNotification])
    added := []
    unexpired := []
    others := []
  }
  refine ⟨s, rfl, rfl, ?_⟩
  have hnone : ∀ n ∈ s.store.docs, ¬n.IsConfirmed ⟨1⟩ := by decide
  rintro ⟨hconfirmed, _⟩
  rcases hconfirmed expiringNotification List.mem_cons_self with ⟨n, hn, _, hconf⟩
  exact hnone n hn hconf

end Fetch

end TomNotifier.Core
