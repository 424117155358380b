import TomNotifier.Core.Repository.Isolation
import TomNotifier.Core.Repository.Status
import TomNotifier.System.Paging

/-!
This module contains what the queries that hand out notifications find, as one list of each user:
the notifications delivered to that user, the latest first.
-/

namespace TomNotifier.Core

open Mongo

/--
What the user is shown of a document, provided that it is delivered and the filter lets it pass.
-/
def NotificationEntity.delivered? (n : NotificationEntity) (userId : Uuid)
    (filters : NotificationFilters) : Option Notification :=
  match n.status userId with
  | .delivered seen =>
    if filters.seen.all (fun seen' => decide (seen' = seen)) then
      some {
        id := n.id
        createdAt := OffsetDateTime.ofDateTime n.createdAt
        producerId := n.producerId
        seen
        contentType := n.contentType
        content := n.content
      }
    else
      none
  | _ => none

/--
Documents created at the same time keep the order the collection has them in.
-/
def deliveredNotifications (userId : Uuid) (filters : NotificationFilters) (docs : Notifications)
    : List Notification :=
  (docs.insertionSort (fun n n' => n.createdAt ≥ n'.createdAt)).filterMap
    (·.delivered? userId filters)

section

variable {n : NotificationEntity} {userId : Uuid} {filters : NotificationFilters} {m : Notification}

theorem NotificationsRepository.confirmationFilter_apply {c : NotificationConfirmation}
    : confirmationFilter userId filters c
        =
      (decide (c.userId = userId) && decide (c.notificationDeleted = false)
        && filters.seen.all (fun seen => decide (seen = c.notificationSeen))) := by
  unfold confirmationFilter
  cases filters.seen with
  | none => simp
  | some seen =>
    simp only [Query.and_cons, Query.and_nil, Query.eq_apply, Bool.and_true, Option.all_some,
      Bool.and_assoc, eq_comm (a := seen)]

theorem NotificationEntity.Valid.find?_eq_filter (h : n.Valid) {q : Query NotificationConfirmation}
    (hq : ∀ c, q c = true → c.userId = userId)
    : n.confirmations.find? q = (n.confirmationOf userId).filter q := by
  cases hfind : n.confirmations.find? q with
  | none =>
    rw [eq_comm, Option.filter_eq_none_iff]
    intro c hc
    have hmem := h.confirmationOf_eq_some_iff.mp hc
    exact List.find?_eq_none.mp hfind c hmem.1
  | some c =>
    have hqc := List.find?_some hfind
    have hc := h.confirmationOf_eq_some_iff.mpr ⟨List.mem_of_find?_eq_some hfind, hq c hqc⟩
    rw [hc, Option.filter_some, if_pos hqc]

/--
The element a query selects is the user's only one, whether the filter or the projection selects it.
-/
theorem NotificationEntity.Valid.delivered?_eq (h : n.Valid)
    : n.delivered? userId filters
        =
      if n.confirmations.any (NotificationsRepository.confirmationFilter userId filters) then
        some (Notification.ofFindEntity (NotificationsRepository.projectDelivered
          (NotificationsRepository.confirmationFilter userId filters) n))
      else
        none := by
  have hfind : n.confirmations.find? (NotificationsRepository.confirmationFilter userId filters)
      = (n.confirmationOf userId).filter (NotificationsRepository.confirmationFilter userId filters) :=
    h.find?_eq_filter (fun c => NotificationsRepository.userId_of_confirmationFilter)
  rw [← List.isSome_find?]
  simp only [NotificationsRepository.projectDelivered, projectFirst, hfind, delivered?, status]
  cases hconf : n.confirmationOf userId with
  | none => rfl
  | some c =>
    have huser := userId_of_confirmationOf hconf
    have hc := @NotificationsRepository.confirmationFilter_apply userId filters c
    rw [Option.filter_some, hc]
    cases hdel : c.notificationDeleted with
    | true => simp [NotificationConfirmation.status, hdel]
    | false =>
      cases hseen : filters.seen.all (fun seen => decide (seen = c.notificationSeen)) with
      | true => simp [NotificationConfirmation.status, hdel, huser, hseen, Notification.ofFindEntity]
      | false => simp [NotificationConfirmation.status, hdel, hseen]

theorem NotificationEntity.Valid.found_iff (h : n.Valid)
    : n.confirmations.any (NotificationsRepository.confirmationFilter userId filters) = true
          ∧ Notification.ofFindEntity (NotificationsRepository.projectDelivered
              (NotificationsRepository.confirmationFilter userId filters) n) = m
        ↔
      n.delivered? userId filters = some m := by
  rw [h.delivered?_eq, Option.ite_none_right_eq_some, Option.some.injEq]

theorem NotificationEntity.delivered?_eq_some_iff
    : n.delivered? userId filters = some m
        ↔
      n.status userId = .delivered m.seen
        ∧ (∀ seen ∈ filters.seen, seen = m.seen)
        ∧ m = {
            id := n.id
            createdAt := OffsetDateTime.ofDateTime n.createdAt
            producerId := n.producerId
            seen := m.seen
            contentType := n.contentType
            content := n.content
          } := by
  rw [delivered?]
  cases n.status userId with
  | undelivered => simp
  | deleted => simp
  | delivered seen =>
    simp only [Option.ite_none_right_eq_some, Option.all_eq_true, decide_eq_true_eq,
      Option.some.injEq, Status.delivered.injEq]
    constructor
    . rintro ⟨hfilter, rfl⟩
      exact ⟨rfl, hfilter, rfl⟩
    . rintro ⟨rfl, hfilter, hm⟩
      exact ⟨hfilter, hm.symm⟩

theorem NotificationEntity.id_of_delivered? (h : n.delivered? userId filters = some m)
    : m.id = n.id := by
  rw [(NotificationEntity.delivered?_eq_some_iff.mp h).2.2]

theorem NotificationEntity.delivered?_seen (seen : Bool)
    : n.delivered? userId ⟨some seen⟩
        =
      (n.delivered? userId ⟨none⟩).filter (fun m => decide (m.seen = seen)) := by
  simp only [delivered?]
  cases n.status userId with
  | undelivered => rfl
  | deleted => rfl
  | delivered seen' => simp [Option.filter_some, eq_comm]

end

section

variable {docs : Notifications} {userId : Uuid} {filters : NotificationFilters} {m : Notification}

theorem mem_deliveredNotifications_iff
    : m ∈ deliveredNotifications userId filters docs
        ↔
      ∃ n ∈ docs, n.delivered? userId filters = some m := by
  simp only [deliveredNotifications, List.mem_filterMap, List.mem_insertionSort]

theorem deliveredNotifications_seen (seen : Bool)
    : deliveredNotifications userId ⟨some seen⟩ docs
        =
      (deliveredNotifications userId ⟨none⟩ docs).filter (fun m => decide (m.seen = seen)) := by
  simp only [deliveredNotifications, NotificationEntity.delivered?_seen, List.filter_filterMap]

instance NotificationEntity.isTrans_createdAt_ge
    : IsTrans NotificationEntity (fun n n' => n.createdAt ≥ n'.createdAt) where
  trans _ _ _ h h' := Int.le_trans h' h

instance NotificationEntity.total_createdAt_ge
    : Std.Total (fun n n' : NotificationEntity => n.createdAt ≥ n'.createdAt) where
  total n n' := Int.le_total n'.createdAt n.createdAt

theorem pairwise_deliveredNotifications
    : (deliveredNotifications userId filters docs).Pairwise (fun m m' => m.createdAt ≥ m'.createdAt)
    := by
  apply List.Pairwise.filterMap _ _ (List.pairwise_insertionSort _ docs)
  intro n n' hle m hm m' hm'
  rw [(NotificationEntity.delivered?_eq_some_iff.mp hm).2.2]
  rw [(NotificationEntity.delivered?_eq_some_iff.mp hm').2.2]
  exact Int.mul_le_mul_of_nonneg_right hle (by decide)

theorem Store.nodup_deliveredNotifications (store : Store)
    : ((deliveredNotifications userId filters store.docs).map (·.id)).Nodup := by
  have hsorted := (List.perm_insertionSort (fun n n' : NotificationEntity =>
    n.createdAt ≥ n'.createdAt) store.docs).map (·.id)
  have hnodup := hsorted.nodup_iff.mpr store.ids_nodup
  rw [List.nodup_iff_pairwise_ne, List.pairwise_map] at hnodup ⊢
  apply List.Pairwise.filterMap _ _ hnodup
  intro n n' hne m hm m' hm'
  rwa [NotificationEntity.id_of_delivered? hm, NotificationEntity.id_of_delivered? hm']

end

namespace NotificationsRepository

variable {store : Store} {userId : Uuid} {id : ObjectId} {filters : NotificationFilters}
  {m : Notification}

theorem findManyDelivered_eq (store : Store) (userId : Uuid) (pagination : Pagination)
    (filters : NotificationFilters)
    : findManyDelivered userId pagination filters store.docs
        =
      limit pagination.pageSize.toNat
        ((deliveredNotifications userId filters store.docs).drop
          (pagination.pageSize * pagination.pageIdx).toNat) := by
  have hlist : deliveredNotifications userId filters store.docs
      = ((store.docs.filter
          (Query.elemMatch (·.confirmations) (confirmationFilter userId filters))).insertionSort
          (fun n n' => n.createdAt ≥ n'.createdAt)).map
        (Notification.ofFindEntity ∘ projectDelivered (confirmationFilter userId filters)) := by
    rw [← filter_insertionSort, deliveredNotifications, ← List.filterMap_eq_map,
      List.filterMap_filter]
    apply List.filterMap_congr
    intro n hn
    rw [List.mem_insertionSort] at hn
    exact (store.valid n hn).delivered?_eq
  rw [findManyDelivered, hlist, ← List.map_drop, ← map_limit, List.map_map]

theorem mem_of_mem_findManyDelivered {pagination : Pagination}
    (h : m ∈ findManyDelivered userId pagination filters store.docs)
    : m ∈ deliveredNotifications userId filters store.docs := by
  rw [findManyDelivered_eq] at h
  exact List.mem_of_mem_drop (mem_of_mem_limit h)

theorem findManyDelivered_eq_all {pageSize : UInt32}
    (h : (deliveredNotifications userId filters store.docs).length ≤ pageSize.toNat)
    : findManyDelivered userId ⟨0, pageSize⟩ filters store.docs
        =
      deliveredNotifications userId filters store.docs := by
  rw [findManyDelivered_eq, UInt32.mul_zero, UInt32.toNat_zero, List.drop_zero, limit]
  split
  . rfl
  . exact List.take_of_length_le h

theorem findDelivered_eq_some_iff
    : findDelivered id userId store.docs = some m
        ↔
      m ∈ deliveredNotifications userId ⟨none⟩ store.docs ∧ m.id = id := by
  rw [mem_deliveredNotifications_iff, findDelivered, Option.map_map, Option.map_eq_some_iff]
  constructor
  . rintro ⟨n, hfind, hm⟩
    have hmem := List.mem_of_find?_eq_some hfind
    have hq := List.find?_some hfind
    rw [elemMatchQuery_apply, Bool.and_eq_true, decide_eq_true_eq] at hq
    refine ⟨⟨n, hmem, (store.valid n hmem).found_iff.mp ⟨hq.2, hm⟩⟩, ?_⟩
    rw [← hm, ← hq.1]
    rfl
  . rintro ⟨⟨n, hmem, hm⟩, hid⟩
    rw [NotificationEntity.id_of_delivered? hm] at hid
    rw [← (store.valid n hmem).found_iff] at hm
    refine ⟨n, ?_, hm.2⟩
    apply find?_eq_some_of_nodup_map id store.ids_nodup
    . intro n' _
      simp +contextual
    . exact hmem
    . rw [elemMatchQuery_apply, Bool.and_eq_true, decide_eq_true_eq]
      exact ⟨hid, hm.1⟩

theorem not_mem_findManyUndelivered (hm : m ∈ deliveredNotifications userId filters store.docs)
    {now : OffsetDateTime} : ∀ m' ∈ findManyUndelivered userId now store.docs, m'.id ≠ m.id := by
  intro m' hm' hid
  rcases mem_findManyUndelivered_iff.mp hm' with ⟨n', hn', haccepts, rfl⟩
  rcases mem_deliveredNotifications_iff.mp hm with ⟨n, hn, hdelivered⟩
  rw [NotificationEntity.id_of_delivered? hdelivered] at hid
  have heq : n' = n := Store.eq_of_id_eq hn' hn hid
  subst heq
  have hstatus := NotificationEntity.status_eq_undelivered_iff.mpr haccepts.2.2
  rw [(NotificationEntity.delivered?_eq_some_iff.mp hdelivered).1] at hstatus
  contradiction

end NotificationsRepository

/-- The value a step writes to the flag of the notification on behalf of the user. -/
def Op.seenWrite? (op : Op) (id : ObjectId) (userId : Uuid) (docs : Notifications) : Option Bool :=
  match op with
  | .updateConfirmationSeen id' userId' seen =>
    if id' = id ∧ userId' = userId ∧ (op.apply docs).1 = .ok () then some seen else none
  | _ => none

def seenWrites (id : ObjectId) (userId : Uuid) (docs : Notifications) : List Op → List Bool
  | [] => []
  | op :: ops =>
    (op.seenWrite? id userId docs).toList ++ seenWrites id userId (op.apply docs).2 ops

section

variable {op : Op} {ops : List Op} {store : Store} {docs : Notifications} {id : ObjectId}
  {userId : Uuid}

theorem seenWrites_append_singleton
    : seenWrites id userId docs (ops ++ [op])
        =
      seenWrites id userId docs ops ++ (op.seenWrite? id userId (exec ops docs)).toList := by
  induction ops generalizing docs with
  | nil => simp [seenWrites]
  | cons op' ops ih => simp [seenWrites, ih]

theorem Op.eq_of_event?_eq_see {n : NotificationEntity} {seen : Bool}
    (h : op.event? n userId = some (.see seen)) : op = .updateConfirmationSeen n.id userId seen := by
  cases op with
  | insert => contradiction
  | updateInvalidateAt => contradiction
  | insertConfirmation => simp [event?] at h
  | insertManyConfirmations => simp [event?] at h
  | insertManyConfirmationsAt => simp [event?] at h
  | updateConfirmationSeen id' userId' seen' =>
    simp only [event?, Option.ite_none_right_eq_some, Option.some.injEq, Event.see.injEq] at h
    rw [h.1.1, h.1.2, h.2]
  | delete => simp [event?] at h

theorem Op.seenWrite?_eq_none (h : ∀ seen, op ≠ .updateConfirmationSeen id userId seen)
    : op.seenWrite? id userId docs = none := by
  cases op with
  | updateConfirmationSeen id' userId' seen =>
    apply if_neg
    rintro ⟨rfl, rfl, _⟩
    exact h seen rfl
  | _ => rfl

/-- What the status of a notification says about the writes to its flag. -/
def Status.Records (s : Status) (writes : List Bool) : Prop :=
  match s with
  | .undelivered => writes = []
  | .delivered seen => writes.getLast?.getD false = seen
  | .deleted => True

theorem Status.Records.apply {s : Status} {writes : List Bool} (h : s.Records writes)
    {e : Option Event} (he : ∀ seen, e ≠ some (.see seen)) : (s.apply e).Records writes := by
  cases e with
  | none => exact h
  | some e =>
    cases e with
    | confirm =>
      cases s with
      | undelivered =>
        have hnil : writes = [] := h
        simp [Status.apply, Status.next, Records, hnil]
      | delivered => exact h
      | deleted => exact h
    | see seen => exact absurd rfl (he seen)
    | delete =>
      cases s with
      | undelivered => exact h
      | delivered => trivial
      | deleted => exact h

theorem Store.records_apply {writes : List Bool} (h : (store.status id userId).Records writes)
    : ((store.apply op).status id userId).Records
        (writes ++ (op.seenWrite? id userId store.docs).toList) := by
  by_cases hop : ∃ seen, op = .updateConfirmationSeen id userId seen
  . rcases hop with ⟨seen, rfl⟩
    cases hres : ((Op.updateConfirmationSeen id userId seen).apply store.docs).1 with
    | error e =>
      rw [status_apply_of_error hres]
      simpa [Op.seenWrite?, hres] using h
    | ok =>
      rcases NotificationsRepository.updateConfirmationSeen_fst_eq_ok_iff.mp hres with
        ⟨n, hn, hid, hdelivered⟩
      rcases (store.valid n hn).isDelivered_iff.mp hdelivered with ⟨seen', hstatus⟩
      rw [status_apply, status_eq_of_mem hn hid, hstatus, find?_eq_some_of_mem hn hid]
      simp [Op.event?, hid, Status.apply, Status.next, Status.Records, Op.seenWrite?, hres]
  . rw [not_exists] at hop
    rw [Op.seenWrite?_eq_none hop, Option.toList_none, List.append_nil, status_apply]
    apply h.apply
    intro seen hsee
    rcases Option.bind_eq_some_iff.mp hsee with ⟨n, hfind, hevent⟩
    have hid : n.id = id := by simpa using List.find?_some hfind
    rw [← hid] at hop
    exact hop seen (Op.eq_of_event?_eq_see hevent)

theorem Store.records_ofOps (ops : List Op) (id : ObjectId) (userId : Uuid)
    : ((ofOps ops).status id userId).Records (seenWrites id userId [] ops) := by
  induction ops using List.reverseRecOn with
  | nil => rfl
  | append_singleton ops op ih =>
    rw [ofOps, exec_append, seenWrites_append_singleton, ← docs_ofOps]
    exact records_apply ih

theorem seen_of_mem_deliveredNotifications {filters : NotificationFilters} {m : Notification}
    (hm : m ∈ deliveredNotifications userId filters (exec ops []))
    : m.seen = (seenWrites m.id userId [] ops).getLast?.getD false := by
  rcases mem_deliveredNotifications_iff.mp hm with ⟨n, hn, hdelivered⟩
  have hid := NotificationEntity.id_of_delivered? hdelivered
  have hrecords := Store.records_ofOps ops m.id userId
  rw [← Store.docs_ofOps] at hn
  rw [Store.status_eq_of_mem hn hid.symm,
    (NotificationEntity.delivered?_eq_some_iff.mp hdelivered).1] at hrecords
  exact hrecords.symm

end

/--
The queries agree on what is delivered to a user, on its flag, and that it is not undelivered.
-/
theorem read_paths_agree (ops : List Op) (userId : Uuid) (pageSize : UInt32)
    (hlarge : (deliveredNotifications userId ⟨none⟩ (exec ops [])).length ≤ pageSize.toNat)
    : (∀ id m,
        NotificationsRepository.findDelivered id userId (exec ops []) = some m
          ↔
        m ∈ NotificationsRepository.findManyDelivered userId ⟨0, pageSize⟩ ⟨none⟩ (exec ops [])
          ∧ m.id = id)
      ∧ (∀ m ∈ NotificationsRepository.findManyDelivered userId ⟨0, pageSize⟩ ⟨none⟩ (exec ops []),
        m.seen = (seenWrites m.id userId [] ops).getLast?.getD false)
      ∧ (∀ seen,
        NotificationsRepository.findManyDelivered userId ⟨0, pageSize⟩ ⟨some seen⟩ (exec ops [])
          =
        (NotificationsRepository.findManyDelivered userId ⟨0, pageSize⟩ ⟨none⟩ (exec ops [])).filter
          (fun m => decide (m.seen = seen)))
      ∧ ∀ now, ∀ m' ∈ NotificationsRepository.findManyUndelivered userId now (exec ops []),
        (∀ id, ∀ m ∈ NotificationsRepository.findDelivered id userId (exec ops []), m'.id ≠ m.id)
        ∧ ∀ pagination filters,
          ∀ m ∈ NotificationsRepository.findManyDelivered userId pagination filters (exec ops []),
            m'.id ≠ m.id := by
  have hdocs := Store.docs_ofOps ops
  rw [← hdocs] at hlarge ⊢
  have hall := NotificationsRepository.findManyDelivered_eq_all hlarge
  rw [hall]
  refine ⟨?_, ?_, ?_, ?_⟩
  . intro id m
    exact NotificationsRepository.findDelivered_eq_some_iff
  . intro m hm
    rw [hdocs] at hm
    exact seen_of_mem_deliveredNotifications hm
  . intro seen
    rw [NotificationsRepository.findManyDelivered_eq_all]
    . exact deliveredNotifications_seen seen
    . rw [deliveredNotifications_seen]
      exact Nat.le_trans (List.length_filter_le _ _) hlarge
  . intro now m' hm'
    constructor
    . intro id m hm
      have hmem := (NotificationsRepository.findDelivered_eq_some_iff.mp hm).1
      exact NotificationsRepository.not_mem_findManyUndelivered hmem m' hm'
    . intro pagination filters m hm
      have hmem := NotificationsRepository.mem_of_mem_findManyDelivered hm
      exact NotificationsRepository.not_mem_findManyUndelivered hmem m' hm'

/-- A broadcast that one user has received and seen. -/
def seenBroadcast : List Op := [
  .insert ⟨7⟩ [] 0 none ⟨2⟩ 1 "utf-8" [],
  .insertConfirmation ⟨7⟩ ⟨1⟩ 5000000,
  .updateConfirmationSeen ⟨7⟩ ⟨1⟩ true
]

theorem read_paths_agree_seen
    : (∃ m, NotificationsRepository.findDelivered ⟨7⟩ ⟨1⟩ (exec seenBroadcast []) = some m
        ∧ m ∈ NotificationsRepository.findManyDelivered ⟨1⟩ ⟨0, 1⟩ ⟨none⟩ (exec seenBroadcast []))
      ∧ ∀ m ∈ NotificationsRepository.findManyDelivered ⟨1⟩ ⟨0, 1⟩ ⟨none⟩ (exec seenBroadcast []),
        m.seen = (seenWrites m.id ⟨1⟩ [] seenBroadcast).getLast?.getD false := by
  have hagree := read_paths_agree seenBroadcast ⟨1⟩ 1 (by decide)
  refine ⟨?_, hagree.2.1⟩
  have hsome : (NotificationsRepository.findDelivered ⟨7⟩ ⟨1⟩ (exec seenBroadcast [])).isSome := by
    decide
  rcases Option.isSome_iff_exists.mp hsome with ⟨m, hm⟩
  exact ⟨m, hm, ((hagree.1 ⟨7⟩ m).mp hm).1⟩

/--
Where the code cuts a page of a list of this length exactly: the offset fits in 32 bits and there is
a limit, or there is nothing left behind the offset.
-/
def Pagination.CutsExactly (pagination : Pagination) (length : Nat) : Prop :=
  (pagination.pageSize ≠ 0 ∧ pagination.pageIdx.toNat * pagination.pageSize.toNat < UInt32.size)
    ∨ length ≤ pagination.pageIdx.toNat * pagination.pageSize.toNat % UInt32.size

theorem NotificationsRepository.findManyDelivered_eq_page_iff {store : Store} {userId : Uuid}
    {pagination : Pagination} {filters : NotificationFilters}
    : findManyDelivered userId pagination filters store.docs
          =
        Paging.page pagination.pageSize.toNat pagination.pageIdx.toNat
          (deliveredNotifications userId filters store.docs)
        ↔
      pagination.CutsExactly (deliveredNotifications userId filters store.docs).length := by
  have hnodup : (deliveredNotifications userId filters store.docs).Nodup :=
    store.nodup_deliveredNotifications.of_map
  rw [findManyDelivered_eq, Pagination.CutsExactly, UInt32.toNat_mul, Nat.mul_comm, limit]
  by_cases hsize : pagination.pageSize = 0
  . -- the code takes everything, the page is empty
    simp [hsize, Paging.page]
  . have hsize' : pagination.pageSize.toNat ≠ 0 := by
      simpa [← UInt32.toNat_inj] using hsize
    rw [if_neg hsize', Paging.take_drop_eq_page_iff hnodup hsize' (Nat.mod_le _ _)]
    simp only [ne_eq, hsize, not_false_eq_true, true_and, UInt32.size]
    omega

theorem findManyDelivered_exact (ops : List Op) (userId : Uuid) (filters : NotificationFilters)
    : let delivered := deliveredNotifications userId filters (exec ops [])
      let page pageSize pageIdx :=
        NotificationsRepository.findManyDelivered userId ⟨pageIdx, pageSize⟩ filters (exec ops [])
      delivered.Pairwise (fun m m' => m.createdAt ≥ m'.createdAt)
      ∧ (∀ pageSize pageIdx,
        page pageSize pageIdx = Paging.page pageSize.toNat pageIdx.toNat delivered
          ↔
        Pagination.CutsExactly ⟨pageIdx, pageSize⟩ delivered.length)
      ∧ ∀ pageSize,
        (∀ pageIdx, Pagination.CutsExactly ⟨pageIdx, pageSize⟩ delivered.length →
          (page pageSize pageIdx).length ≤ pageSize.toNat)
        ∧ (∀ pageIdx pageIdx', Pagination.CutsExactly ⟨pageIdx, pageSize⟩ delivered.length →
          Pagination.CutsExactly ⟨pageIdx', pageSize⟩ delivered.length → pageIdx ≠ pageIdx' →
            (page pageSize pageIdx).Disjoint (page pageSize pageIdx'))
        ∧ (pageSize ≠ 0 →
          ∀ i, (h : i < delivered.length) → i / pageSize.toNat * pageSize.toNat < UInt32.size →
            ∃ pageIdx, Pagination.CutsExactly ⟨pageIdx, pageSize⟩ delivered.length
              ∧ delivered[i] ∈ page pageSize pageIdx) := by
  intro delivered page
  have hexact : ∀ pageSize pageIdx,
      page pageSize pageIdx = Paging.page pageSize.toNat pageIdx.toNat delivered
        ↔
      Pagination.CutsExactly ⟨pageIdx, pageSize⟩ delivered.length := by
    intro pageSize pageIdx
    dsimp only [page, delivered]
    rw [← Store.docs_ofOps]
    exact NotificationsRepository.findManyDelivered_eq_page_iff
  have hnodup : delivered.Nodup := by
    dsimp only [delivered]
    rw [← Store.docs_ofOps]
    exact (Store.nodup_deliveredNotifications (Store.ofOps ops)).of_map
  refine ⟨pairwise_deliveredNotifications, hexact, ?_⟩
  intro pageSize
  refine ⟨?_, ?_, ?_⟩
  . intro pageIdx hcuts
    rw [(hexact pageSize pageIdx).mpr hcuts]
    exact Paging.length_page_le
  . intro pageIdx pageIdx' hcuts hcuts' hne
    rw [(hexact pageSize pageIdx).mpr hcuts, (hexact pageSize pageIdx').mpr hcuts']
    apply Paging.disjoint_page hnodup
    rwa [ne_eq, UInt32.toNat_inj]
  . intro hsize i hi hoffset
    have hsize' : pageSize.toNat ≠ 0 := by
      simpa [← UInt32.toNat_inj] using hsize
    have hidx : (UInt32.ofNat (i / pageSize.toNat)).toNat = i / pageSize.toNat := by
      apply UInt32.toNat_ofNat_of_lt'
      exact Nat.lt_of_le_of_lt (Nat.le_mul_of_pos_right _ (Nat.pos_of_ne_zero hsize')) hoffset
    have hcuts : Pagination.CutsExactly ⟨UInt32.ofNat (i / pageSize.toNat), pageSize⟩
        delivered.length := by
      refine Or.inl ⟨hsize, ?_⟩
      rwa [hidx]
    refine ⟨_, hcuts, ?_⟩
    rw [(hexact pageSize _).mpr hcuts, hidx]
    exact Paging.getElem_mem_page hsize' hi

/--
The offset of the last page wraps around to 0, and page size 0 stands for no limit.
-/
theorem findManyDelivered_not_exact
    : let page pageSize pageIdx :=
        NotificationsRepository.findManyDelivered ⟨1⟩ ⟨pageIdx, pageSize⟩ ⟨none⟩
          (exec seenBroadcast [])
      let delivered := deliveredNotifications ⟨1⟩ ⟨none⟩ (exec seenBroadcast [])
      page 65536 65536 ≠ Paging.page 65536 65536 delivered
        ∧ page 65536 65536 = page 65536 0
        ∧ page 65536 0 ≠ []
        ∧ page 0 0 ≠ Paging.page 0 0 delivered := by
  decide

end TomNotifier.Core
