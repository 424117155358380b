import TomNotifier.Core.Repository.Store
import Mathlib.Data.List.Induction

/-!
This module contains the invariant of the notifications collection and that every step keeps it.
-/

namespace TomNotifier.Core

open Mongo

structure NotificationEntity.Valid (n : NotificationEntity) : Prop where
  nodup : (n.confirmations.map (·.userId)).Nodup
  isRecipient : ∀ c ∈ n.confirmations, n.IsRecipient c.userId

structure Store where
  docs : Notifications
  ids_nodup : (docs.map (·.id)).Nodup
  producers_nodup : (docs.map (fun n => (n.producerId, n.producerNotificationId))).Nodup
  valid : ∀ n ∈ docs, n.Valid

namespace Op

def Pushes (op : Op) (id : ObjectId) (userId : Uuid) (now : OffsetDateTime) : Prop :=
  match op with
  | .insertConfirmation id' userId' now' => id = id' ∧ userId = userId' ∧ now = now'
  | .insertManyConfirmations ids userId' now' => id ∈ ids ∧ userId = userId' ∧ now = now'
  | .insertManyConfirmationsAt id' ids userId' now' =>
    (id = id' ∧ id ∈ ids) ∧ userId = userId' ∧ now = now'
  | .insert .. => False
  | .updateInvalidateAt .. => False
  | .updateConfirmationSeen .. => False
  | .delete .. => False

theorem Pushes.userId?_eq {op : Op} {id : ObjectId} {userId : Uuid} {now : OffsetDateTime}
    (h : op.Pushes id userId now) : op.userId? = some userId := by
  cases op <;> simp_all [Pushes, userId?]

theorem exists_onDocument_eq (op : Op) (n : NotificationEntity)
    : ∃ invalidateAt confirmations,
        op.onDocument n = { n with invalidateAt := invalidateAt, confirmations := confirmations } := by
  cases op with
  | insert => exact ⟨_, _, rfl⟩
  | updateInvalidateAt => dsimp only [onDocument]; split <;> exact ⟨_, _, rfl⟩
  | insertConfirmation => dsimp only [onDocument]; split <;> exact ⟨_, _, rfl⟩
  | insertManyConfirmations => dsimp only [onDocument]; split <;> exact ⟨_, _, rfl⟩
  | insertManyConfirmationsAt => dsimp only [onDocument]; split <;> exact ⟨_, _, rfl⟩
  | updateConfirmationSeen => dsimp only [onDocument]; split <;> exact ⟨_, _, rfl⟩
  | delete => dsimp only [onDocument]; split <;> exact ⟨_, _, rfl⟩

section

variable (op : Op) (n : NotificationEntity)

@[simp]
theorem onDocument_id : (op.onDocument n).id = n.id := by
  rcases op.exists_onDocument_eq n with ⟨_, _, h⟩
  rw [h]

@[simp]
theorem onDocument_userIds : (op.onDocument n).userIds = n.userIds := by
  rcases op.exists_onDocument_eq n with ⟨_, _, h⟩
  rw [h]

@[simp]
theorem onDocument_producerId : (op.onDocument n).producerId = n.producerId := by
  rcases op.exists_onDocument_eq n with ⟨_, _, h⟩
  rw [h]

@[simp]
theorem onDocument_producerNotificationId
    : (op.onDocument n).producerNotificationId = n.producerNotificationId := by
  rcases op.exists_onDocument_eq n with ⟨_, _, h⟩
  rw [h]

@[simp]
theorem onDocument_isRecipient_iff {userId : Uuid}
    : (op.onDocument n).IsRecipient userId ↔ n.IsRecipient userId := by
  simp [NotificationEntity.IsRecipient]

/--
What a step can do to the confirmations of a document: push one, leave them alone, or rewrite one
of the acting user's in place.
-/
theorem onDocument_cases
    : (∃ userId now, op.Pushes n.id userId now ∧ n.Accepts userId now
        ∧ op.onDocument n
            = NotificationsRepository.pushConfirmation userId (DateTime.ofOffsetDateTime now) n)
      ∨ (op.onDocument n).confirmations = n.confirmations
      ∨ ∃ userId q f, op.userId? = some userId
        ∧ (op.onDocument n).confirmations = updateFirst q f n.confirmations
        ∧ (∀ c, q c = true → c.userId = userId)
        ∧ (∀ c, (f c).userId = c.userId)
        ∧ (∀ c, (f c).notificationDeliveredAt = c.notificationDeliveredAt) := by
  cases op with
  | insert => exact Or.inr (Or.inl rfl)
  | updateInvalidateAt =>
    refine Or.inr (Or.inl ?_)
    dsimp only [onDocument]
    split <;> rfl
  | insertConfirmation id userId now =>
    dsimp only [onDocument]
    split
    . next h => exact Or.inl ⟨userId, now, ⟨h.1, rfl, rfl⟩, h.2, rfl⟩
    . exact Or.inr (Or.inl rfl)
  | insertManyConfirmations ids userId now =>
    dsimp only [onDocument]
    split
    . next h => exact Or.inl ⟨userId, now, ⟨h.1, rfl, rfl⟩, h.2, rfl⟩
    . exact Or.inr (Or.inl rfl)
  | insertManyConfirmationsAt id ids userId now =>
    dsimp only [onDocument]
    split
    . next h => exact Or.inl ⟨userId, now, ⟨⟨h.1, h.2.1⟩, rfl, rfl⟩, h.2.2, rfl⟩
    . exact Or.inr (Or.inl rfl)
  | updateConfirmationSeen id userId seen =>
    dsimp only [onDocument]
    split
    . refine Or.inr (Or.inr ⟨userId, _, _, rfl, rfl, ?_, ?_, ?_⟩)
      . intro c
        simp +contextual
      . intro c
        rfl
      . intro c
        rfl
    . exact Or.inr (Or.inl rfl)
  | delete id userId =>
    dsimp only [onDocument]
    split
    . refine Or.inr (Or.inr ⟨userId, _, _, rfl, rfl, ?_, ?_, ?_⟩)
      . intro c
        simp
      . intro c
        rfl
      . intro c
        rfl
    . exact Or.inr (Or.inl rfl)

end

end Op

namespace NotificationEntity

theorem Valid.pushConfirmation {n : NotificationEntity} (h : n.Valid) {userId : Uuid}
    {now : OffsetDateTime} {t : DateTime} (haccepts : n.Accepts userId now)
    : (NotificationsRepository.pushConfirmation userId t n).Valid where
  nodup := by
    apply nodup_map_concat h.nodup
    intro c hc heq
    exact haccepts.2.2 ⟨c, hc, heq⟩
  isRecipient := by
    intro c hc
    rcases List.mem_append.mp hc with hc | hc
    . exact h.isRecipient c hc
    . rw [List.mem_singleton.mp hc]
      exact haccepts.1

theorem Valid.onDocument {n : NotificationEntity} (h : n.Valid) (op : Op)
    : (op.onDocument n).Valid := by
  rcases op.onDocument_cases n with ⟨_, _, _, haccepts, heq⟩ | heq | ⟨_, q, f, _, heq, _, hf, _⟩
  . rw [heq]
    exact h.pushConfirmation haccepts
  . constructor
    . rw [heq]
      exact h.nodup
    . rw [heq]
      intro c hc
      simpa using h.isRecipient c hc
  . constructor
    . rw [heq, map_updateFirst (fun c _ => hf c)]
      exact h.nodup
    . rw [heq]
      intro c hc
      rw [Op.onDocument_isRecipient_iff]
      rcases mem_updateFirst hc with hc | ⟨c', hc', _, rfl⟩
      . exact h.isRecipient c hc
      . rw [hf]
        exact h.isRecipient c' hc'

end NotificationEntity

namespace Op

theorem inserted_cases (op : Op) (docs : Notifications)
    : op.inserted docs = []
      ∨ ∃ n : NotificationEntity, op.inserted docs = [n] ∧ n.confirmations = []
        ∧ ∀ n' ∈ docs, NotificationsRepository.conflict n n' = false := by
  cases op with
  | insert =>
    simp only [inserted]
    split
    . exact Or.inl rfl
    . next h =>
      refine Or.inr ⟨_, rfl, rfl, ?_⟩
      simpa using h
  | updateInvalidateAt => exact Or.inl rfl
  | insertConfirmation => exact Or.inl rfl
  | insertManyConfirmations => exact Or.inl rfl
  | insertManyConfirmationsAt => exact Or.inl rfl
  | updateConfirmationSeen => exact Or.inl rfl
  | delete => exact Or.inl rfl

theorem nodup_map_apply (op : Op) {α : Type} {key : NotificationEntity → α} {docs : Notifications}
    (hids : (docs.map (·.id)).Nodup) (hkey : ∀ n, key (op.onDocument n) = key n)
    (hconflict : ∀ n n', key n = key n' → NotificationsRepository.conflict n n' = true)
    (h : (docs.map key).Nodup) : ((op.apply docs).2.map key).Nodup := by
  have hmap : (docs.map op.onDocument).map key = docs.map key := by
    rw [List.map_map]
    apply List.map_congr_left
    intro n _
    exact hkey n
  rw [← hmap] at h
  rw [op.apply_snd hids]
  rcases op.inserted_cases docs with hnil | ⟨n, hn, _, hfresh⟩
  . rwa [hnil, List.append_nil]
  . rw [hn]
    apply nodup_map_concat h
    intro n' hmem heq
    rcases List.mem_map.mp hmem with ⟨n'', hn'', rfl⟩
    have := hconflict n n'' (by rw [← heq, hkey])
    rw [hfresh n'' hn''] at this
    contradiction

end Op

namespace Store

def empty : Store where
  docs := []
  ids_nodup := by simp
  producers_nodup := by simp
  valid := by simp

def apply (op : Op) (store : Store) : Store where
  docs := (op.apply store.docs).2
  ids_nodup := by
    apply op.nodup_map_apply store.ids_nodup
    . intro n
      simp
    . intro n n' h
      simp [NotificationsRepository.conflict, h]
    . exact store.ids_nodup
  producers_nodup := by
    apply op.nodup_map_apply store.ids_nodup
    . intro n
      simp
    . intro n n' h
      rw [Prod.mk.injEq] at h
      simp [NotificationsRepository.conflict, h]
    . exact store.producers_nodup
  valid := by
    intro n hn
    rw [op.apply_snd store.ids_nodup] at hn
    rcases List.mem_append.mp hn with hn | hn
    . rcases List.mem_map.mp hn with ⟨n', hn', rfl⟩
      exact (store.valid n' hn').onDocument op
    . rcases op.inserted_cases store.docs with hnil | ⟨n', hn', hconf, _⟩
      . simp [hnil] at hn
      . rw [hn', List.mem_singleton] at hn
        rw [hn]
        constructor
        . simp [hconf]
        . simp [hconf]

theorem docs_apply (op : Op) (store : Store)
    : (store.apply op).docs = store.docs.map op.onDocument ++ op.inserted store.docs := by
  exact op.apply_snd store.ids_nodup

theorem onDocument_mem_docs_apply {store : Store} {n : NotificationEntity} (hn : n ∈ store.docs)
    (op : Op) : op.onDocument n ∈ (store.apply op).docs := by
  rw [docs_apply]
  exact List.mem_append_left _ (List.mem_map_of_mem hn)

theorem eq_of_id_eq {store : Store} {n n' : NotificationEntity} (hn : n ∈ store.docs)
    (hn' : n' ∈ store.docs) (hid : n.id = n'.id) : n = n' :=
  List.inj_on_of_nodup_map store.ids_nodup hn hn' hid

def exec (ops : List Op) (store : Store) : Store :=
  ops.foldl (fun store op => store.apply op) store

theorem docs_exec (ops : List Op) (store : Store)
    : (store.exec ops).docs = Core.exec ops store.docs := by
  induction ops generalizing store with
  | nil => rfl
  | cons op ops ih => exact ih (store.apply op)

def ofOps (ops : List Op) : Store := empty.exec ops

theorem docs_ofOps (ops : List Op) : (ofOps ops).docs = Core.exec ops [] := by
  exact docs_exec ops empty

end Store

section

variable {ids : List ObjectId} {userId : Uuid} {now : OffsetDateTime} {n : NotificationEntity}

theorem NotificationEntity.not_accepts_pushConfirmation {t : DateTime}
    : ¬(NotificationsRepository.pushConfirmation userId t n).Accepts userId now := by
  intro h
  apply h.2.2
  exact ⟨_, List.mem_append_right _ (List.mem_singleton_self _), rfl⟩

theorem Op.onDocument_insertManyConfirmationsAt {id : ObjectId}
    : (Op.insertManyConfirmationsAt id ids userId now).onDocument n
        =
      if n.id = id ∧ n.id ∈ ids ∧ n.Accepts userId now then
        NotificationsRepository.pushConfirmation userId (DateTime.ofOffsetDateTime now) n
      else
        n := by
  rfl

theorem foldl_insertManyConfirmationsAt (ids' : List ObjectId)
    : ids'.foldl (fun n id => (Op.insertManyConfirmationsAt id ids userId now).onDocument n) n
        =
      if n.id ∈ ids' ∧ n.id ∈ ids ∧ n.Accepts userId now then
        NotificationsRepository.pushConfirmation userId (DateTime.ofOffsetDateTime now) n
      else
        n := by
  induction ids' generalizing n with
  | nil => simp
  | cons id ids' ih =>
    rw [List.foldl_cons, ih, Op.onDocument_id, Op.onDocument_insertManyConfirmationsAt]
    split
    . next h =>
      rw [if_neg (fun h' => NotificationEntity.not_accepts_pushConfirmation h'.2.2)]
      rw [if_pos ⟨h.1 ▸ List.mem_cons_self, h.2⟩]
    . next h =>
      apply if_congr _ rfl rfl
      simp only [List.mem_cons]
      tauto

/--
A bulk update that nothing runs in between is the sequence of its single-document updates.
-/
theorem insertManyConfirmations_eq_exec (store : Store)
    : (NotificationsRepository.insertManyConfirmations ids userId now store.docs).2
        =
      exec (ids.map (.insertManyConfirmationsAt · ids userId now)) store.docs := by
  have hexec (ids' : List ObjectId) (store : Store)
      : exec (ids'.map (.insertManyConfirmationsAt · ids userId now)) store.docs
          =
        store.docs.map (fun n =>
          ids'.foldl (fun n id => (Op.insertManyConfirmationsAt id ids userId now).onDocument n) n)
        := by
    induction ids' generalizing store with
    | nil => simp
    | cons id ids' ih =>
      have hstep := ih (store.apply (.insertManyConfirmationsAt id ids userId now))
      simp only [Store.apply, Op.apply_snd _ store.ids_nodup, Op.inserted, List.append_nil,
        List.map_map] at hstep
      simp only [List.map_cons, exec_cons, Op.apply_snd _ store.ids_nodup, Op.inserted,
        List.append_nil, hstep]
      rfl
  rw [hexec, NotificationsRepository.insertManyConfirmations_snd]
  apply List.map_congr_left
  intro n _
  rw [foldl_insertManyConfirmationsAt]
  simp [Op.onDocument]

end

/--
A confirmation was pushed to its document at some step of the run, the document accepting it at the
clock reading it carries.
-/
def PushedBy (ops : List Op) (id : ObjectId) (c : NotificationConfirmation) : Prop :=
  ∃ before op after now n,
    ops = before ++ op :: after
      ∧ op.Pushes id c.userId now
      ∧ c.notificationDeliveredAt = DateTime.ofOffsetDateTime now
      ∧ n ∈ exec before []
      ∧ n.id = id
      ∧ n.Accepts c.userId now
      ∧ NotificationsRepository.pushConfirmation c.userId c.notificationDeliveredAt n
          ∈ exec (before ++ [op]) []

theorem PushedBy.append {ops : List Op} {id : ObjectId} {c c' : NotificationConfirmation}
    (h : PushedBy ops id c) (ops' : List Op) (huser : c'.userId = c.userId)
    (hat : c'.notificationDeliveredAt = c.notificationDeliveredAt)
    : PushedBy (ops ++ ops') id c' := by
  rcases h with ⟨before, op, after, now, n, hops, h⟩
  refine ⟨before, op, after ++ ops', now, n, by simp [hops], ?_⟩
  rwa [huser, hat]

theorem pushedBy_of_mem (ops : List Op)
    : ∀ n ∈ exec ops [], ∀ c ∈ n.confirmations, PushedBy ops n.id c := by
  induction ops using List.reverseRecOn with
  | nil => simp
  | append_singleton ops op ih =>
    intro n hn c hc
    have hids : ((exec ops []).map (·.id)).Nodup := by
      rw [← Store.docs_ofOps]
      exact (Store.ofOps ops).ids_nodup
    have hstep : exec (ops ++ [op]) []
        = (exec ops []).map op.onDocument ++ op.inserted (exec ops []) := by
      rw [exec_append, exec_cons, exec_nil, op.apply_snd hids]
    rw [hstep] at hn
    rcases List.mem_append.mp hn with hn | hn
    . rcases List.mem_map.mp hn with ⟨n', hn', rfl⟩
      rw [Op.onDocument_id]
      rcases op.onDocument_cases n' with
        ⟨userId, now, hpush, haccepts, heq⟩ | heq | ⟨_, q, f, _, heq, _, huser, hat⟩
      . rw [heq] at hc
        rcases List.mem_append.mp hc with hc | hc
        . exact (ih n' hn' c hc).append [op] rfl rfl
        . rw [List.mem_singleton.mp hc]
          refine ⟨ops, op, [], now, n', rfl, hpush, rfl, hn', rfl, haccepts, ?_⟩
          rw [hstep, ← heq]
          exact List.mem_append_left _ (List.mem_map_of_mem hn')
      . rw [heq] at hc
        exact (ih n' hn' c hc).append [op] rfl rfl
      . rw [heq] at hc
        rcases mem_updateFirst hc with hc | ⟨c', hc', _, rfl⟩
        . exact (ih n' hn' c hc).append [op] rfl rfl
        . exact (ih n' hn' c' hc').append [op] (huser c') (hat c')
    . rcases op.inserted_cases (exec ops []) with hnil | ⟨n', hn', hconf, _⟩
      . simp [hnil] at hn
      . rw [hn', List.mem_singleton] at hn
        simp [hn, hconf] at hc

/--
The invariant of every store reachable from the empty collection. The last part holds for the
stored points in time and for the untruncated ones they come from.
-/
theorem exec_invariant (ops : List Op)
    : (∀ n ∈ exec ops [], (n.confirmations.map (·.userId)).Nodup)
      ∧ (∀ n ∈ exec ops [], ∀ c ∈ n.confirmations, n.userIds = [] ∨ c.userId ∈ n.userIds)
      ∧ ((exec ops []).map (fun n => (n.producerId, n.producerNotificationId))).Nodup
      ∧ (∀ n ∈ exec ops [], ∀ c ∈ n.confirmations,
          ∃ before op after now n',
            ops = before ++ op :: after
              ∧ op.Pushes n.id c.userId now
              ∧ c.notificationDeliveredAt = DateTime.ofOffsetDateTime now
              ∧ n' ∈ exec before []
              ∧ n'.id = n.id
              ∧ ¬n'.IsConfirmed c.userId
              ∧ NotificationsRepository.pushConfirmation c.userId c.notificationDeliveredAt n'
                  ∈ exec (before ++ [op]) []
              ∧ ∀ t ∈ n'.invalidateAt,
                  c.notificationDeliveredAt < t
                    ∧ ∀ t', DateTime.ofOffsetDateTime t' = t → now < t') := by
  have hdocs := Store.docs_ofOps ops
  refine ⟨?_, ?_, ?_, ?_⟩
  . intro n hn
    exact ((Store.ofOps ops).valid n (hdocs ▸ hn)).nodup
  . intro n hn c hc
    exact ((Store.ofOps ops).valid n (hdocs ▸ hn)).isRecipient c hc
  . rw [← hdocs]
    exact (Store.ofOps ops).producers_nodup
  . intro n hn c hc
    rcases pushedBy_of_mem ops n hn c hc with
      ⟨before, op, after, now, n', hops, hpush, hnow, hn', hid, haccepts, hn''⟩
    refine ⟨before, op, after, now, n', hops, hpush, hnow, hn', hid, haccepts.2.2, hn'', ?_⟩
    intro t ht
    have hlt := haccepts.2.1 t ht
    constructor
    . rwa [hnow]
    . intro t' ht'
      apply DateTime.lt_of_ofOffsetDateTime_lt
      rwa [ht']

end TomNotifier.Core
