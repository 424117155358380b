import TomNotifier.Core.Repository.Delivered

/-!
This module contains what a user gets to see who asks for one page of delivered notifications after
another, while the collection changes.
-/

namespace TomNotifier.Core

open Mongo

/-- The step can take a notification from the user that the filter lets pass. -/
def Op.Withdraws (op : Op) (userId : Uuid) (filters : NotificationFilters) : Prop :=
  match op with
  | .delete _ userId' => userId' = userId
  | .updateConfirmationSeen _ userId' _ => userId' = userId ∧ filters.seen.isSome
  | _ => False

/-- The collection after `ops` and what happens before each of the first `pageIdx` next pages. -/
def docsAt (ops : List Op) (between : Nat → List Op) (pageIdx : Nat) : Notifications :=
  exec (ops ++ (List.range pageIdx).flatMap between) []

def scroll (userId : Uuid) (filters : NotificationFilters) (pageSize : UInt32) (ops : List Op)
    (between : Nat → List Op) (pageIdx : Nat) : List Notification :=
  NotificationsRepository.findManyDelivered userId ⟨UInt32.ofNat pageIdx, pageSize⟩ filters
    (docsAt ops between pageIdx)

section

variable {op : Op} {userId : Uuid} {filters : NotificationFilters} {n : NotificationEntity}
  {m : Notification} {store : Store}

theorem sublist_filterMap {α β : Type} {f g : α → Option β} {l : List α}
    (h : ∀ a ∈ l, ∀ b, f a = some b → g a = some b) : (l.filterMap f).Sublist (l.filterMap g) := by
  induction l with
  | nil => exact List.Sublist.slnil
  | cons a l ih =>
    have hl := ih fun a' ha' => h a' (List.mem_cons_of_mem a ha')
    cases hf : f a with
    | none =>
      rw [List.filterMap_cons_none hf]
      apply hl.trans
      exact (List.sublist_cons_self a l).filterMap g
    | some b =>
      rw [List.filterMap_cons_some hf, List.filterMap_cons_some (h a List.mem_cons_self b hf)]
      exact hl.cons_cons b

theorem Op.onDocument_createdAt : (op.onDocument n).createdAt = n.createdAt := by
  rcases op.exists_onDocument_eq n with ⟨invalidateAt, confirmations, heq⟩
  rw [heq]

/-- The sorted documents before the step are among those after it. -/
theorem Store.sublist_insertionSort_apply (op : Op) (store : Store)
    : ((store.docs.insertionSort (fun n n' => n.createdAt ≥ n'.createdAt)).map op.onDocument).Sublist
        ((store.apply op).docs.insertionSort (fun n n' => n.createdAt ≥ n'.createdAt)) := by
  have hold : (store.apply op).docs.filter (fun n => decide (n.id ∈ store.docs.map (·.id)))
      = store.docs.map op.onDocument := by
    rw [docs_apply, List.filter_append]
    have hmap : (store.docs.map op.onDocument).filter
        (fun n => decide (n.id ∈ store.docs.map (·.id))) = store.docs.map op.onDocument := by
      rw [List.filter_eq_self]
      intro n hn
      rcases List.mem_map.mp hn with ⟨n', hn', rfl⟩
      rw [decide_eq_true_eq, Op.onDocument_id]
      exact List.mem_map_of_mem hn'
    have hinserted : (op.inserted store.docs).filter
        (fun n => decide (n.id ∈ store.docs.map (·.id))) = [] := by
      rcases op.inserted_cases store.docs with hnil | ⟨n, hn, _, hfresh⟩
      . rw [hnil, List.filter_nil]
      . rw [hn, List.filter_eq_nil_iff]
        intro n' hn' hmem
        rw [List.mem_singleton.mp hn', decide_eq_true_eq, List.mem_map] at hmem
        rcases hmem with ⟨n'', hn'', hid⟩
        have hconflict := hfresh n'' hn''
        simp [NotificationsRepository.conflict, hid] at hconflict
    rw [hmap, hinserted, List.append_nil]
  have hsorted : (store.docs.insertionSort (fun n n' => n.createdAt ≥ n'.createdAt)).map op.onDocument
      = (store.docs.map op.onDocument).insertionSort (fun n n' => n.createdAt ≥ n'.createdAt) := by
    apply List.map_insertionSort
    intro n _ n' _
    rw [Op.onDocument_createdAt, Op.onDocument_createdAt]
  rw [hsorted, ← hold, ← filter_insertionSort]
  exact List.filter_sublist

theorem NotificationEntity.delivered?_isSome_iff
    : (n.delivered? userId filters).isSome = true
        ↔
      ∃ seen, n.status userId = .delivered seen ∧ ∀ seen' ∈ filters.seen, seen' = seen := by
  rw [delivered?]
  cases n.status userId with
  | delivered seen =>
    simp only [Option.isSome_ite, Option.all_eq_true, decide_eq_true_eq, Status.delivered.injEq]
    constructor
    . intro hfilter
      exact ⟨seen, rfl, hfilter⟩
    . rintro ⟨_, rfl, hfilter⟩
      exact hfilter
  | _ => simp

theorem Op.event?_of_not_withdraws (h : ¬op.Withdraws userId filters)
    : op.event? n userId ≠ some .delete
        ∧ (filters.seen.isSome → ∀ seen, op.event? n userId ≠ some (.see seen)) := by
  cases op with
  | delete id userId' =>
    have hother : userId ≠ userId' := fun heq => h heq.symm
    simp [event?, hother]
  | updateConfirmationSeen id userId' seen =>
    constructor
    . simp [event?]
    . intro hfilter
      have hother : userId ≠ userId' := fun heq => h ⟨heq.symm, hfilter⟩
      simp [event?, hother]
  | _ => simp [event?]

theorem Status.apply_of_delivered (seen : Bool) {e : Option Event} (hdelete : e ≠ some .delete)
    : ∃ seen', (Status.delivered seen).apply e = .delivered seen'
        ∧ ((∀ seen', e ≠ some (.see seen')) → seen' = seen) := by
  cases e with
  | none => exact ⟨seen, rfl, fun _ => rfl⟩
  | some e =>
    cases e with
    | confirm => exact ⟨seen, rfl, fun _ => rfl⟩
    | see seen' => exact ⟨seen', rfl, fun h => absurd rfl (h seen')⟩
    | delete => contradiction

theorem NotificationEntity.Valid.delivered?_onDocument (h : n.Valid)
    (hop : ¬op.Withdraws userId filters) (hm : n.delivered? userId filters = some m)
    : ∃ m', (op.onDocument n).delivered? userId filters = some m' ∧ m'.id = m.id := by
  rcases NotificationEntity.delivered?_isSome_iff.mp (Option.isSome_of_eq_some hm)
    with ⟨seen, hstatus, hfilter⟩
  rcases Op.event?_of_not_withdraws (n := n) hop with ⟨hdelete, hsee⟩
  rcases Status.apply_of_delivered seen hdelete with ⟨seen', happly, hsame⟩
  have hsome : ((op.onDocument n).delivered? userId filters).isSome := by
    rw [NotificationEntity.delivered?_isSome_iff, h.status_onDocument, hstatus]
    refine ⟨seen', happly, ?_⟩
    intro seen'' hseen''
    rw [hsame (hsee (Option.isSome_of_mem hseen''))]
    exact hfilter seen'' hseen''
  rcases Option.isSome_iff_exists.mp hsome with ⟨m', hm'⟩
  refine ⟨m', hm', ?_⟩
  rw [NotificationEntity.id_of_delivered? hm', NotificationEntity.id_of_delivered? hm, Op.onDocument_id]

theorem Store.sublist_apply (hop : ¬op.Withdraws userId filters)
    : ((deliveredNotifications userId filters store.docs).map (·.id)).Sublist
        ((deliveredNotifications userId filters (store.apply op).docs).map (·.id)) := by
  have hkept := ((store.sublist_insertionSort_apply op).filterMap
    (·.delivered? userId filters)).map (·.id)
  apply List.Sublist.trans _ hkept
  rw [deliveredNotifications, List.filterMap_map, List.map_filterMap, List.map_filterMap]
  apply sublist_filterMap
  intro n hn id hid
  rw [List.mem_insertionSort] at hn
  rw [Option.map_eq_some_iff] at hid
  rcases hid with ⟨m, hm, rfl⟩
  rcases (store.valid n hn).delivered?_onDocument hop hm with ⟨m', hm', hid⟩
  rw [Function.comp_apply, hm', Option.map_some, hid]

theorem Store.sublist_exec {ops : List Op} (hops : ∀ op ∈ ops, ¬op.Withdraws userId filters)
    : ((deliveredNotifications userId filters store.docs).map (·.id)).Sublist
        ((deliveredNotifications userId filters (store.exec ops).docs).map (·.id)) := by
  induction ops generalizing store with
  | nil => exact List.Sublist.refl _
  | cons op ops ih =>
    apply (sublist_apply (hops op List.mem_cons_self)).trans
    apply ih
    intro op' hop'
    exact hops op' (List.mem_cons_of_mem op hop')

theorem Op.event?_of_userId? (hop : op.userId? ≠ some userId) : op.event? n userId = none := by
  cases op with
  | insert => rfl
  | updateInvalidateAt => rfl
  | _ =>
    have hother := fun heq => hop (congrArg some heq)
    simp [event?, Ne.symm hother]

theorem NotificationEntity.Valid.delivered?_onDocument_of_userId? (h : n.Valid)
    (hop : op.userId? ≠ some userId)
    : (op.onDocument n).delivered? userId filters = n.delivered? userId filters := by
  rw [delivered?, h.status_onDocument, Op.event?_of_userId? hop, Status.apply_none, delivered?]
  rcases op.exists_onDocument_eq n with ⟨invalidateAt, confirmations, heq⟩
  rw [heq]

theorem filterMap_insertionSort {α β : Type} {r : α → α → Prop} [DecidableRel r] [IsTrans α r]
    [Std.Total r] {f : α → Option β} {l : List α}
    : (l.insertionSort r).filterMap f
        =
      ((l.filter (fun a => (f a).isSome)).insertionSort r).filterMap f := by
  rw [← filter_insertionSort, List.filterMap_filter]
  apply List.filterMap_congr
  intro a _
  cases f a <;> rfl

theorem Store.deliveredNotifications_apply (hop : op.userId? ≠ some userId)
    : deliveredNotifications userId filters (store.apply op).docs
        =
      deliveredNotifications userId filters store.docs := by
  have hsame : ∀ n ∈ store.docs,
      (op.onDocument n).delivered? userId filters = n.delivered? userId filters :=
    fun n hn => (store.valid n hn).delivered?_onDocument_of_userId? hop
  have hdelivered : (store.apply op).docs.filter (fun n => (n.delivered? userId filters).isSome)
      = (store.docs.filter (fun n => (n.delivered? userId filters).isSome)).map op.onDocument := by
    rw [docs_apply, List.filter_append, List.filter_map]
    have hinserted : (op.inserted store.docs).filter
        (fun n => (n.delivered? userId filters).isSome) = [] := by
      rcases op.inserted_cases store.docs with hnil | ⟨n, hn, hconfirmations, _⟩
      . rw [hnil, List.filter_nil]
      . rw [hn, List.filter_eq_nil_iff]
        intro n' hn'
        rw [List.mem_singleton.mp hn']
        simp [NotificationEntity.delivered?, NotificationEntity.status,
          NotificationEntity.confirmationOf, hconfirmations]
    rw [hinserted, List.append_nil]
    congr 1
    apply List.filter_congr
    intro n hn
    rw [Function.comp_apply, hsame n hn]
  rw [deliveredNotifications, filterMap_insertionSort, hdelivered,
    ← List.map_insertionSort (r := fun n n' : NotificationEntity => n.createdAt ≥ n'.createdAt),
    List.filterMap_map, deliveredNotifications, filterMap_insertionSort (l := store.docs)]
  . apply List.filterMap_congr
    intro n hn
    rw [List.mem_insertionSort, List.mem_filter] at hn
    exact hsame n hn.1
  . intro n _ n' _
    rw [Op.onDocument_createdAt, Op.onDocument_createdAt]

theorem Store.deliveredNotifications_exec {ops : List Op}
    (hops : ∀ op ∈ ops, op.userId? ≠ some userId)
    : deliveredNotifications userId filters (store.exec ops).docs
        =
      deliveredNotifications userId filters store.docs := by
  induction ops generalizing store with
  | nil => rfl
  | cons op ops ih =>
    have hrest : deliveredNotifications userId filters ((store.apply op).exec ops).docs
        = deliveredNotifications userId filters (store.apply op).docs := by
      apply ih
      intro op' hop'
      exact hops op' (List.mem_cons_of_mem op hop')
    exact hrest.trans (deliveredNotifications_apply (hops op List.mem_cons_self))

end

section

variable {userId : Uuid} {filters : NotificationFilters} {pageSize : UInt32} {ops : List Op}
  {between : Nat → List Op} {pageIdx last : Nat}

theorem docsAt_eq : docsAt ops between pageIdx
    = (Store.ofOps (ops ++ (List.range pageIdx).flatMap between)).docs := by
  rw [Store.docs_ofOps, docsAt]

theorem docsAt_succ : docsAt ops between (pageIdx + 1)
    = ((Store.ofOps (ops ++ (List.range pageIdx).flatMap between)).exec (between pageIdx)).docs := by
  rw [Store.docs_exec, Store.docs_ofOps, docsAt, List.range_succ, List.flatMap_append,
    List.flatMap_singleton, ← List.append_assoc, exec_append]

theorem scroll_eq_page (hsize : pageSize ≠ 0) (hoffset : pageIdx * pageSize.toNat < UInt32.size)
    : scroll userId filters pageSize ops between pageIdx
        =
      Paging.page pageSize.toNat pageIdx
        (deliveredNotifications userId filters (docsAt ops between pageIdx)) := by
  have hpos : 0 < pageSize.toNat := by
    rw [Nat.pos_iff_ne_zero, ne_eq, ← UInt32.toNat_zero, UInt32.toNat_inj]
    exact hsize
  have hidx : (UInt32.ofNat pageIdx).toNat = pageIdx := by
    apply UInt32.toNat_ofNat_of_lt'
    exact Nat.lt_of_le_of_lt (Nat.le_mul_of_pos_right _ hpos) hoffset
  have hcuts : Pagination.CutsExactly ⟨UInt32.ofNat pageIdx, pageSize⟩
      (deliveredNotifications userId filters (docsAt ops between pageIdx)).length := by
    refine .inl ⟨hsize, ?_⟩
    rwa [hidx]
  rw [docsAt_eq] at hcuts
  rw [scroll, docsAt_eq, NotificationsRepository.findManyDelivered_eq_page_iff.mpr hcuts, hidx]

theorem docsAt_zero : docsAt ops between 0 = exec ops [] := by
  rw [docsAt, List.range_zero, List.flatMap_nil, List.append_nil]

theorem scroll_eq_page_of_le (hsize : pageSize ≠ 0) (hoffset : last * pageSize.toNat < UInt32.size)
    (hle : pageIdx ≤ last)
    : scroll userId filters pageSize ops between pageIdx
        =
      Paging.page pageSize.toNat pageIdx
        (deliveredNotifications userId filters (docsAt ops between pageIdx)) := by
  apply scroll_eq_page hsize
  exact Nat.lt_of_le_of_lt (Nat.mul_le_mul_right _ hle) hoffset

theorem exists_mem_scroll {m : Notification} (hsize : pageSize ≠ 0)
    (hoffset : last * pageSize.toNat < UInt32.size)
    (hlast : (scroll userId filters pageSize ops between last).length < pageSize.toNat)
    (hkeeps : ∀ pageIdx, pageIdx < last → ∀ op ∈ between pageIdx, ¬op.Withdraws userId filters)
    (hm : m ∈ deliveredNotifications userId filters (exec ops []))
    : ∃ pageIdx, pageIdx ≤ last
        ∧ ∃ m' ∈ scroll userId filters pageSize ops between pageIdx, m'.id = m.id := by
  -- The pages of the ids are looked at, as the flag of a notification may change.
  let ids := fun pageIdx =>
    (deliveredNotifications userId filters (docsAt ops between pageIdx)).map (·.id)
  have hids : ∀ pageIdx, pageIdx ≤ last →
      (scroll userId filters pageSize ops between pageIdx).map (·.id)
        = Paging.page pageSize.toNat pageIdx (ids pageIdx) := by
    intro pageIdx hle
    rw [scroll_eq_page_of_le hsize hoffset hle]
    simp only [Paging.page, ids, List.map_take, List.map_drop]
  have hgrows : ∀ pageIdx, pageIdx < last → (ids pageIdx).Sublist (ids (pageIdx + 1)) := by
    intro pageIdx hlt
    dsimp only [ids]
    rw [docsAt_eq, docsAt_succ]
    exact Store.sublist_exec (hkeeps pageIdx hlt)
  have hfull : (Paging.page pageSize.toNat last (ids last)).length < pageSize.toNat := by
    rw [← hids last (Nat.le_refl last), List.length_map]
    exact hlast
  have hmem : m.id ∈ ids 0 := by
    dsimp only [ids]
    rw [docsAt_zero]
    exact List.mem_map_of_mem hm
  rcases Paging.exists_mem_page_of_sublist hgrows hfull m.id hmem with ⟨pageIdx, hle, hshown⟩
  rw [← hids pageIdx hle, List.mem_map] at hshown
  exact ⟨pageIdx, hle, hshown⟩

theorem deliveredNotifications_docsAt
    (hquiet : ∀ pageIdx, pageIdx < last → ∀ op ∈ between pageIdx, op.userId? ≠ some userId)
    : ∀ pageIdx, pageIdx ≤ last → deliveredNotifications userId filters (docsAt ops between pageIdx)
        = deliveredNotifications userId filters (exec ops []) := by
  intro pageIdx
  induction pageIdx with
  | zero => exact fun _ => by rw [docsAt_zero]
  | succ pageIdx ih =>
    intro hlt
    rw [docsAt_succ, Store.deliveredNotifications_exec (hquiet pageIdx hlt), ← docsAt_eq]
    exact ih (Nat.le_of_succ_le hlt)

theorem flatMap_scroll (hsize : pageSize ≠ 0) (hoffset : last * pageSize.toNat < UInt32.size)
    (hlast : (scroll userId filters pageSize ops between last).length < pageSize.toNat)
    (hquiet : ∀ pageIdx, pageIdx < last → ∀ op ∈ between pageIdx, op.userId? ≠ some userId)
    : (List.range (last + 1)).flatMap (scroll userId filters pageSize ops between)
        =
      deliveredNotifications userId filters (exec ops []) := by
  have hpage : ∀ pageIdx, pageIdx ≤ last → scroll userId filters pageSize ops between pageIdx
      = Paging.page pageSize.toNat pageIdx (deliveredNotifications userId filters (exec ops [])) := by
    intro pageIdx hle
    rw [scroll_eq_page_of_le hsize hoffset hle, deliveredNotifications_docsAt hquiet pageIdx hle]
  have hshown : (List.range (last + 1)).flatMap (scroll userId filters pageSize ops between)
      = (List.range (last + 1)).flatMap fun pageIdx => Paging.page pageSize.toNat pageIdx
        (deliveredNotifications userId filters (exec ops [])) := by
    apply List.flatMap_congr
    intro pageIdx hpageIdx
    exact hpage pageIdx (Nat.le_of_lt_succ (List.mem_range.mp hpageIdx))
  have hall := Paging.flatMap_page pageSize.toNat
    (deliveredNotifications userId filters (exec ops [])) (last + 1)
  rw [hpage last (Nat.le_refl last)] at hlast
  rw [Paging.drop_eq_nil_of_length_page_lt hlast, List.append_nil] at hall
  rw [hshown, ← hall]

end

/--
Someone who asks for page after page of what has been delivered to them, until one is not full, gets to
see everything that was there when they began, whatever else is delivered in the meantime, unless they
delete something or, with a filter, change a flag. They see just that, once and in order, if
nothing is done on their behalf in the meantime. The offsets have to fit in 32 bits.
-/
theorem scroll_complete (ops : List Op) (between : Nat → List Op) (userId : Uuid)
    (filters : NotificationFilters) (pageSize : UInt32) (last : Nat) (hsize : pageSize ≠ 0)
    (hoffset : last * pageSize.toNat < UInt32.size)
    (hlast : (scroll userId filters pageSize ops between last).length < pageSize.toNat)
    : ((∀ pageIdx, pageIdx < last → ∀ op ∈ between pageIdx, ¬op.Withdraws userId filters) →
        ∀ m ∈ deliveredNotifications userId filters (exec ops []),
          ∃ pageIdx, pageIdx ≤ last
            ∧ ∃ m' ∈ scroll userId filters pageSize ops between pageIdx, m'.id = m.id)
      ∧ ((∀ pageIdx, pageIdx < last → ∀ op ∈ between pageIdx, op.userId? ≠ some userId) →
        (List.range (last + 1)).flatMap (scroll userId filters pageSize ops between)
          =
        deliveredNotifications userId filters (exec ops [])) := by
  constructor
  . intro hkeeps m hm
    exact exists_mem_scroll hsize hoffset hlast hkeeps hm
  . intro hquiet
    exact flatMap_scroll hsize hoffset hlast hquiet

-- Two broadcasts are delivered before the first page, and a later one before the second.
def sampleDelivered : List Op := [
  .insert ⟨7⟩ [] 0 none ⟨2⟩ 1 "utf-8" [],
  .insertConfirmation ⟨7⟩ ⟨1⟩ 5000000,
  .insert ⟨8⟩ [] 6000000 none ⟨2⟩ 2 "utf-8" [],
  .insertConfirmation ⟨8⟩ ⟨1⟩ 7000000
]

def sampleBetween (pageIdx : Nat) : List Op :=
  if pageIdx = 0 then
    [.insert ⟨9⟩ [] 8000000 none ⟨2⟩ 3 "utf-8" [], .insertConfirmation ⟨9⟩ ⟨1⟩ 9000000]
  else
    []

theorem scroll_complete_sampleDelivered
    : (scroll ⟨1⟩ ⟨none⟩ 2 sampleDelivered sampleBetween 0).map (·.id) = [⟨8⟩, ⟨7⟩]
        ∧ (scroll ⟨1⟩ ⟨none⟩ 2 sampleDelivered sampleBetween 1).map (·.id) = [⟨7⟩]
        ∧ ∀ m ∈ deliveredNotifications ⟨1⟩ ⟨none⟩ (exec sampleDelivered []), ∃ pageIdx, pageIdx ≤ 1
          ∧ ∃ m' ∈ scroll ⟨1⟩ ⟨none⟩ 2 sampleDelivered sampleBetween pageIdx, m'.id = m.id := by
  have hcomplete := scroll_complete sampleDelivered sampleBetween ⟨1⟩ ⟨none⟩ 2 1 (by decide) (by decide)
    (by decide)
  refine ⟨by decide, by decide, hcomplete.1 ?_⟩
  intro pageIdx hlt op hop
  rw [Nat.lt_one_iff.mp hlt] at hop
  simp only [sampleBetween, if_true, List.mem_cons, List.not_mem_nil, or_false] at hop
  rcases hop with rfl | rfl <;> exact id

end TomNotifier.Core
