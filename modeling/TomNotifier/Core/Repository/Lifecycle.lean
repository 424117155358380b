import TomNotifier.Core.Repository.Invariant
import TomNotifier.System.Run

/-!
This module contains what the collection is for, seen by one user of one notification: the
notification is undelivered, then delivered, then deleted. Every step of the collection is shown to
be a step of that machine, and every call to succeed exactly when the machine enables it.
-/

namespace TomNotifier.Core

open Mongo

inductive Status where
  | undelivered
  | delivered (seen : Bool)
  | deleted
  deriving DecidableEq, Repr

inductive Event where
  | confirm
  | see (seen : Bool)
  | delete
  deriving DecidableEq, Repr

namespace Status

def next : Status → Event → Option Status
  | .undelivered, .confirm => some (.delivered false)
  | .delivered _, .see seen => some (.delivered seen)
  | .delivered _, .delete => some .deleted
  | _, _ => none

def apply (s : Status) (e : Option Event) : Status := (e.bind s.next).getD s

def stage : Status → Nat
  | .undelivered => 0
  | .delivered _ => 1
  | .deleted => 2

@[simp]
theorem apply_none (s : Status) : s.apply none = s := by
  rfl

theorem stage_le_stage_apply (s : Status) (e : Option Event) : s.stage ≤ (s.apply e).stage := by
  cases e with
  | none => exact Nat.le_refl _
  | some e => cases s <;> cases e <;> simp [apply, next, stage]

end Status

def NotificationConfirmation.status (c : NotificationConfirmation) : Status :=
  if c.notificationDeleted then .deleted else .delivered c.notificationSeen

namespace NotificationEntity

/-- The first confirmation of the user, the one positional operators select. -/
def confirmationOf (n : NotificationEntity) (userId : Uuid) : Option NotificationConfirmation :=
  n.confirmations.find? (fun c => decide (c.userId = userId))

def status (n : NotificationEntity) (userId : Uuid) : Status :=
  match n.confirmationOf userId with
  | none => .undelivered
  | some c => c.status

def IsDelivered (n : NotificationEntity) (userId : Uuid) : Prop :=
  ∃ c ∈ n.confirmations, c.userId = userId ∧ c.notificationDeleted = false

def IsDeleted (n : NotificationEntity) (userId : Uuid) : Prop :=
  ∃ c ∈ n.confirmations, c.userId = userId ∧ c.notificationDeleted = true

section

variable {n : NotificationEntity} {userId : Uuid} {c : NotificationConfirmation}

theorem confirmationOf_eq_none_iff : n.confirmationOf userId = none ↔ ¬n.IsConfirmed userId := by
  simp [confirmationOf, IsConfirmed]

theorem userId_of_confirmationOf (h : n.confirmationOf userId = some c) : c.userId = userId := by
  simpa using List.find?_some h

theorem Valid.confirmationOf_eq_some_iff (h : n.Valid)
    : n.confirmationOf userId = some c ↔ c ∈ n.confirmations ∧ c.userId = userId := by
  constructor
  . intro hfind
    exact ⟨List.mem_of_find?_eq_some hfind, userId_of_confirmationOf hfind⟩
  . rintro ⟨hmem, huser⟩
    apply find?_eq_some_of_nodup_map userId h.nodup
    . intro c' _ hc'
      simpa using hc'
    . exact hmem
    . simpa using huser

theorem status_eq_undelivered_iff : n.status userId = .undelivered ↔ ¬n.IsConfirmed userId := by
  rw [← confirmationOf_eq_none_iff, status]
  cases n.confirmationOf userId with
  | none => simp
  | some c => simp [NotificationConfirmation.status, apply_ite (· = Status.undelivered)]

theorem Valid.isDelivered_iff (h : n.Valid)
    : n.IsDelivered userId ↔ ∃ seen, n.status userId = .delivered seen := by
  constructor
  . rintro ⟨c, hmem, huser, hdel⟩
    have hc := h.confirmationOf_eq_some_iff.mpr ⟨hmem, huser⟩
    exact ⟨c.notificationSeen, by simp [status, hc, NotificationConfirmation.status, hdel]⟩
  . rintro ⟨seen, hstatus⟩
    rw [status] at hstatus
    cases hc : n.confirmationOf userId with
    | none => simp [hc] at hstatus
    | some c =>
      simp only [hc, NotificationConfirmation.status] at hstatus
      split at hstatus
      . contradiction
      . next hdel =>
        have hmem := h.confirmationOf_eq_some_iff.mp hc
        exact ⟨c, hmem.1, hmem.2, by simpa using hdel⟩

theorem Valid.isDeleted_iff (h : n.Valid) : n.IsDeleted userId ↔ n.status userId = .deleted := by
  constructor
  . rintro ⟨c, hmem, huser, hdel⟩
    have hc := h.confirmationOf_eq_some_iff.mpr ⟨hmem, huser⟩
    simp [status, hc, NotificationConfirmation.status, hdel]
  . intro hstatus
    rw [status] at hstatus
    cases hc : n.confirmationOf userId with
    | none => simp [hc] at hstatus
    | some c =>
      simp only [hc, NotificationConfirmation.status] at hstatus
      split at hstatus
      . next hdel =>
        have hmem := h.confirmationOf_eq_some_iff.mp hc
        exact ⟨c, hmem.1, hmem.2, hdel⟩
      . contradiction

end

section

variable {n : NotificationEntity} {userId userId' : Uuid}

theorem status_pushConfirmation {t : DateTime}
    : (NotificationsRepository.pushConfirmation userId t n).status userId'
        =
      (n.status userId').apply (if userId' = userId then some .confirm else none) := by
  simp only [status, confirmationOf, NotificationsRepository.pushConfirmation, List.find?_append]
  cases hfind : n.confirmations.find? (fun c => decide (c.userId = userId')) with
  | none =>
    by_cases huser : userId' = userId
    . subst huser
      simp [NotificationConfirmation.status, Status.apply, Status.next]
    . simp [huser, Ne.symm huser]
  | some c =>
    dsimp only [Option.some_or, NotificationConfirmation.status]
    cases c.notificationDeleted with
    | true => by_cases huser : userId' = userId <;> simp [huser, Status.apply, Status.next]
    | false => by_cases huser : userId' = userId <;> simp [huser, Status.apply, Status.next]

theorem confirmationOf_updateFirst_of_ne {q : Query NotificationConfirmation}
    {f : NotificationConfirmation → NotificationConfirmation}
    (hq : ∀ c, q c = true → c.userId = userId) (hf : ∀ c, (f c).userId = c.userId)
    (hne : userId' ≠ userId)
    : { n with confirmations := updateFirst q f n.confirmations }.confirmationOf userId'
        =
      n.confirmationOf userId' := by
  apply find?_updateFirst_of_disjoint
  intro c _ hc
  simp [hf, hq c hc, Ne.symm hne]

theorem Valid.confirmationOf_updateFirst {q : Query NotificationConfirmation}
    {f : NotificationConfirmation → NotificationConfirmation} (h : n.Valid)
    (hq : ∀ c, q c = true → c.userId = userId) (hf : ∀ c, (f c).userId = c.userId)
    : { n with confirmations := updateFirst q f n.confirmations }.confirmationOf userId
        =
      (n.confirmationOf userId).map (fun c => if q c then f c else c) := by
  cases hfind : n.confirmationOf userId with
  | none =>
    have hnone : ∀ c ∈ n.confirmations, q c = true → c.userId = userId → False := by
      intro c hc _ huser
      exact confirmationOf_eq_none_iff.mp hfind ⟨c, hc, huser⟩
    have heq : updateFirst q f n.confirmations = n.confirmations := by
      rw [updateFirst_eq_self_iff]
      intro c hc
      have hqc := List.find?_some hc
      exact (hnone c (List.mem_of_find?_eq_some hc) hqc (hq c hqc)).elim
    simpa [heq] using hfind
  | some c =>
    have hmem := h.confirmationOf_eq_some_iff.mp hfind
    cases hqc : q c with
    | true =>
      rw [confirmationOf, find?_updateFirst]
      . simp only [confirmationOf] at hfind
        simp [hfind, hqc]
      . intro c' _
        simp [hf]
      . intro c' hc'
        have : some c = some c' := by rw [← hfind, ← hc', confirmationOf]
        rw [Option.some.injEq] at this
        rwa [← this]
      . intro c' _ hc'
        simpa using hq c' hc'
    | false =>
      have heq : updateFirst q f n.confirmations = n.confirmations := by
        rw [updateFirst_eq_self_iff]
        intro c' hc'
        have hqc' := List.find?_some hc'
        have huser := h.confirmationOf_eq_some_iff.mpr ⟨List.mem_of_find?_eq_some hc', hq c' hqc'⟩
        rw [hfind, Option.some.injEq] at huser
        rw [← huser, hqc] at hqc'
        contradiction
      simp [heq, hfind, hqc]

theorem Valid.status_updateFirst {q : Query NotificationConfirmation}
    {f : NotificationConfirmation → NotificationConfirmation} (h : n.Valid)
    (hq : ∀ c, q c = true → c.userId = userId) (hf : ∀ c, (f c).userId = c.userId) {e : Event}
    (he : Status.undelivered.next e = none)
    (hstatus : ∀ c, c.userId = userId →
      (if q c then f c else c).status = c.status.apply (some e))
    : { n with confirmations := updateFirst q f n.confirmations }.status userId'
        =
      (n.status userId').apply (if userId' = userId then some e else none) := by
  by_cases huser : userId' = userId
  . subst huser
    rw [if_pos rfl, status, status, h.confirmationOf_updateFirst hq hf]
    cases hconf : n.confirmationOf userId' with
    | none => simp [Status.apply, he]
    | some c => exact hstatus c (userId_of_confirmationOf hconf)
  . rw [if_neg huser, status, status, confirmationOf_updateFirst_of_ne hq hf huser]
    rfl

theorem status_ite_pushConfirmation {P : Prop} [Decidable P] {now : OffsetDateTime} {t : DateTime}
    : (if P ∧ n.Accepts userId now then NotificationsRepository.pushConfirmation userId t n
        else n).status userId'
        =
      (n.status userId').apply
        (if P ∧ userId' = userId ∧ n.IsRecipient userId' ∧ n.Unexpired now then some .confirm
          else none) := by
  split
  . next h =>
    rw [status_pushConfirmation]
    by_cases huser : userId' = userId
    . subst huser
      simp [h.1, h.2.1, h.2.2.1]
    . simp [huser]
  . next h =>
    split
    . next h' =>
      rcases h' with ⟨hP, rfl, hrec, hexp⟩
      have hconf : n.IsConfirmed userId' := by
        by_contra hconf
        exact h ⟨hP, hrec, hexp, hconf⟩
      have hne := mt status_eq_undelivered_iff.mp (not_not.mpr hconf)
      cases hstatus : n.status userId' with
      | undelivered => contradiction
      | delivered seen => rfl
      | deleted => rfl
    . rfl

end

end NotificationEntity

namespace Op

def event? (op : Op) (n : NotificationEntity) (userId : Uuid) : Option Event :=
  match op with
  | .insert .. => none
  | .updateInvalidateAt .. => none
  | .insertConfirmation id userId' now =>
    if n.id = id ∧ userId = userId' ∧ n.IsRecipient userId ∧ n.Unexpired now then
      some .confirm
    else
      none
  | .insertManyConfirmations ids userId' now =>
    if n.id ∈ ids ∧ userId = userId' ∧ n.IsRecipient userId ∧ n.Unexpired now then
      some .confirm
    else
      none
  | .insertManyConfirmationsAt id ids userId' now =>
    if (n.id = id ∧ n.id ∈ ids) ∧ userId = userId' ∧ n.IsRecipient userId ∧ n.Unexpired now then
      some .confirm
    else
      none
  | .updateConfirmationSeen id userId' seen =>
    if n.id = id ∧ userId = userId' then some (.see seen) else none
  | .delete id userId' =>
    if n.id = id ∧ userId = userId' then some .delete else none

end Op

/--
A step of the collection is a step of the life of every notification for every user.
-/
theorem NotificationEntity.Valid.status_onDocument {n : NotificationEntity} (h : n.Valid) (op : Op)
    (userId : Uuid) : (op.onDocument n).status userId = (n.status userId).apply (op.event? n userId)
    := by
  cases op with
  | insert => rfl
  | updateInvalidateAt =>
    dsimp only [Op.onDocument]
    split <;> rfl
  | insertConfirmation => exact NotificationEntity.status_ite_pushConfirmation
  | insertManyConfirmations => exact NotificationEntity.status_ite_pushConfirmation
  | insertManyConfirmationsAt id ids userId' now =>
    simp only [Op.onDocument, ← and_assoc (a := n.id = id)]
    exact NotificationEntity.status_ite_pushConfirmation
  | updateConfirmationSeen id userId' seen =>
    dsimp only [Op.onDocument, Op.event?]
    by_cases hid : n.id = id
    . subst hid
      simp only [true_and, if_true]
      apply h.status_updateFirst
      . intro c
        simp +contextual
      . intro c
        rfl
      . rfl
      . intro c huser
        cases hdel : c.notificationDeleted with
        | true => simp [huser, hdel, NotificationConfirmation.status, Status.apply, Status.next]
        | false => simp [huser, hdel, NotificationConfirmation.status, Status.apply, Status.next]
    . simp [hid]
  | delete id userId' =>
    dsimp only [Op.onDocument, Op.event?]
    by_cases hid : n.id = id
    . subst hid
      simp only [true_and, if_true]
      apply h.status_updateFirst
      . intro c
        simp
      . intro c
        rfl
      . rfl
      . intro c huser
        cases hdel : c.notificationDeleted with
        | true => simp [huser, hdel, NotificationConfirmation.status, Status.apply, Status.next]
        | false => simp [huser, hdel, NotificationConfirmation.status, Status.apply, Status.next]
    . simp [hid]

end TomNotifier.Core
