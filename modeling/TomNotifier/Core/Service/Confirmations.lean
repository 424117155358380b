import TomNotifier.Common.Protobuf
import TomNotifier.Core.Repository.Isolation

/-!
This module contains the confirmations consumer: the queue of confirmations, delivered in any order
and again until they are acked, and the set of confirmations the collection holds in the end.
-/

namespace TomNotifier.Core

structure Confirmation where
  userId : Uuid
  id : ObjectId
  deriving DecidableEq

structure ConsumeError where
  requeue : Bool
  deriving DecidableEq

namespace ConfirmationsConsumer

def tryFrom (codec : Codec) (value : RabbitmqConfirmationProtobuf) : Option Confirmation := do
  let userId ← codec.uuidFromStr value.userId
  let id ← codec.objectIdFromStr value.id
  return { userId, id }

def decode (codec : Codec) (content : Bytes) : Except ConsumeError Confirmation :=
  match codec.decodeRabbitmqConfirmation content with
  | none => .error { requeue := false }
  | some message =>
    match tryFrom codec message with
    | none => .error { requeue := false }
    | some confirmation => .ok confirmation

def answer : Except RepositoryError Unit → Except ConsumeError Unit
  | .ok () => .ok ()
  | .error .noDocumentUpdated => .ok ()
  | .error _ => .error { requeue := true }

end ConfirmationsConsumer

/--
`queue` holds the messages that have not been acked. `attempts` is history: the confirmations the
collection was asked to insert, each at its clock reading.
-/
structure Consumer where
  store : Store
  queue : List Bytes
  attempts : List (Confirmation × OffsetDateTime)

/--
`deliver i now acked` is a delivery that runs to its end; its ack may get lost. `lost i now applied`
is a delivery on which the driver fails, after the database has applied the command or not.
-/
inductive ConsumerLabel where
  | deliver (i : Nat) (now : OffsetDateTime) (acked : Bool)
  | lost (i : Nat) (now : OffsetDateTime) (applied : Bool)

namespace Consumer

open ConfirmationsConsumer

def init (store : Store) (queue : List Bytes) : Consumer where
  store
  queue
  attempts := []

def insertConfirmation (s : Consumer) (confirmation : Confirmation) (now : OffsetDateTime)
    : Consumer :=
  { s with
    store := s.store.apply (.insertConfirmation confirmation.id confirmation.userId now)
    attempts := s.attempts ++ [(confirmation, now)] }

def settle (s : Consumer) (i : Nat) (result : Except ConsumeError Unit) : Consumer :=
  -- The broker drops a message that is acked, or nacked without being requeued.
  match result with
  | .ok () => { s with queue := s.queue.eraseIdx i }
  | .error { requeue := false } => { s with queue := s.queue.eraseIdx i }
  | .error { requeue := true } => s

def step (codec : Codec) (s : Consumer) (label : ConsumerLabel) : Option Consumer :=
  match label with
  | .deliver i now acked =>
    match s.queue[i]? with
    | none => none
    | some content =>
      match decode codec content with
      | .error err => some (if acked then s.settle i (.error err) else s)
      | .ok confirmation =>
        let res := NotificationsRepository.insertConfirmation confirmation.id confirmation.userId now
          s.store.docs
        let s := s.insertConfirmation confirmation now
        some (if acked then s.settle i (answer res.1) else s)
  | .lost i now applied =>
    match s.queue[i]? with
    | none => none
    | some content =>
      match decode codec content with
      | .error _ => none
      | .ok confirmation =>
        let s := if applied then s.insertConfirmation confirmation now else s
        some (s.settle i (answer (.error .mongo)))

def Holds (store : Store) (confirmation : Confirmation) : Prop :=
  ∃ n ∈ store.docs, n.id = confirmation.id ∧ n.IsConfirmed confirmation.userId

def Admits (store : Store) (confirmation : Confirmation) : Prop :=
  ∃ n ∈ store.docs, n.id = confirmation.id ∧ n.IsRecipient confirmation.userId

def AdmitsAt (store : Store) (confirmation : Confirmation) (now : OffsetDateTime) : Prop :=
  ∃ n ∈ store.docs,
    n.id = confirmation.id ∧ n.IsRecipient confirmation.userId ∧ n.Unexpired now

def listed (codec : Codec) (queue : List Bytes) : List Confirmation :=
  queue.filterMap (fun content => (decode codec content).toOption)

section

variable {store : Store} {confirmation confirmation' : Confirmation} {now : OffsetDateTime}

theorem docs_insertConfirmation
    : (store.apply (.insertConfirmation confirmation.id confirmation.userId now)).docs
        =
      store.docs.map (Op.insertConfirmation confirmation.id confirmation.userId now).onDocument := by
  rw [Store.docs_apply, Op.inserted, List.append_nil]

theorem admitsAt_insertConfirmation_iff {t : OffsetDateTime}
    : AdmitsAt (store.apply (.insertConfirmation confirmation.id confirmation.userId now))
        confirmation' t
        ↔
      AdmitsAt store confirmation' t := by
  have hunexpired (n : NotificationEntity)
      : ((Op.insertConfirmation confirmation.id confirmation.userId now).onDocument n).Unexpired t
          ↔ n.Unexpired t := by
    rw [NotificationEntity.Unexpired, Op.onDocument_invalidateAt rfl]
    rfl
  simp only [AdmitsAt, docs_insertConfirmation, List.mem_map, exists_exists_and_eq_and,
    Op.onDocument_id, Op.onDocument_isRecipient_iff, hunexpired]

theorem isConfirmed_insertConfirmation_iff {n : NotificationEntity} {userId : Uuid}
    : ((Op.insertConfirmation confirmation.id confirmation.userId now).onDocument n).IsConfirmed userId
        ↔
      n.IsConfirmed userId
        ∨ (n.id = confirmation.id ∧ userId = confirmation.userId
          ∧ n.IsRecipient confirmation.userId ∧ n.Unexpired now) := by
  dsimp only [Op.onDocument]
  split
  . next h =>
    have hpush : (NotificationsRepository.pushConfirmation confirmation.userId
          (DateTime.ofOffsetDateTime now) n).IsConfirmed userId
        ↔ n.IsConfirmed userId ∨ userId = confirmation.userId := by
      simp [NotificationEntity.IsConfirmed, NotificationsRepository.pushConfirmation, or_and_right,
        exists_or, eq_comm]
    rw [hpush]
    simp [h.1, h.2.1, h.2.2.1]
  . next h =>
    constructor
    . exact Or.inl
    . rintro (hconf | ⟨hid, rfl, hrec, hexp⟩)
      . exact hconf
      . by_contra hconf
        exact h ⟨hid, hrec, hexp, hconf⟩

theorem holds_insertConfirmation_iff
    : Holds (store.apply (.insertConfirmation confirmation.id confirmation.userId now)) confirmation'
        ↔
      Holds store confirmation' ∨ (confirmation' = confirmation ∧ AdmitsAt store confirmation now)
    := by
  simp only [Holds, AdmitsAt, docs_insertConfirmation, List.mem_map, exists_exists_and_eq_and,
    Op.onDocument_id, isConfirmed_insertConfirmation_iff]
  constructor
  . rintro ⟨n, hn, hid, hconf | ⟨hid', huser, hrec, hexp⟩⟩
    . exact Or.inl ⟨n, hn, hid, hconf⟩
    . refine Or.inr ⟨?_, n, hn, hid', hrec, hexp⟩
      rcases confirmation with ⟨userId, id⟩
      rcases confirmation' with ⟨userId', id'⟩
      dsimp only at hid hid' huser
      rw [huser, ← hid, hid']
  . rintro (⟨n, hn, hid, hconf⟩ | ⟨rfl, n, hn, hid, hrec, hexp⟩)
    . exact ⟨n, hn, hid, Or.inl hconf⟩
    . exact ⟨n, hn, hid, Or.inr ⟨hid, rfl, hrec, hexp⟩⟩

end

structure Accounted (codec : Codec) (store : Store) (queue : List Bytes) (s : Consumer) : Prop where
  admits : ∀ confirmation now,
    AdmitsAt s.store confirmation now ↔ AdmitsAt store confirmation now
  holds : ∀ confirmation, Holds s.store confirmation
    ↔ Holds store confirmation
      ∨ ∃ now, (confirmation, now) ∈ s.attempts ∧ AdmitsAt store confirmation now
  subset : s.queue ⊆ queue
  attempts : ∀ attempt ∈ s.attempts, attempt.1 ∈ listed codec queue
  attempted : ∀ confirmation ∈ listed codec queue,
    confirmation ∈ listed codec s.queue ∨ ∃ now, (confirmation, now) ∈ s.attempts

section

variable {codec : Codec} {store : Store} {queue : List Bytes} {s s' : Consumer}
variable {confirmation : Confirmation} {now : OffsetDateTime} {content : Bytes} {i : Nat}

theorem accounted_init : Accounted codec store queue (init store queue) := by
  constructor
  . exact fun _ _ => Iff.rfl
  . simp [init]
  . exact List.Subset.refl _
  . simp [init]
  . exact fun _ => Or.inl

theorem mem_listed_iff
    : confirmation ∈ listed codec queue
        ↔
      ∃ content ∈ queue, decode codec content = .ok confirmation := by
  have hok (content : Bytes) : (decode codec content).toOption = some confirmation
      ↔ decode codec content = .ok confirmation := by
    cases decode codec content <;> simp [Except.toOption]
  simp only [listed, List.mem_filterMap, hok]

theorem Accounted.insertConfirmation (h : s.Accounted codec store queue)
    (hcontent : content ∈ s.queue) (hdecode : decode codec content = .ok confirmation)
    : (s.insertConfirmation confirmation now).Accounted codec store queue := by
  constructor
  . intro confirmation' t
    exact admitsAt_insertConfirmation_iff.trans (h.admits confirmation' t)
  . intro confirmation'
    rw [Consumer.insertConfirmation, holds_insertConfirmation_iff, h.holds, h.admits]
    simp only [List.mem_append, List.mem_singleton, Prod.mk.injEq]
    constructor
    . rintro ((hholds | ⟨t, hmem, hadmits⟩) | ⟨rfl, hadmits⟩)
      . exact Or.inl hholds
      . exact Or.inr ⟨t, Or.inl hmem, hadmits⟩
      . exact Or.inr ⟨now, Or.inr ⟨rfl, rfl⟩, hadmits⟩
    . rintro (hholds | ⟨t, hmem | ⟨rfl, rfl⟩, hadmits⟩)
      . exact Or.inl (Or.inl hholds)
      . exact Or.inl (Or.inr ⟨t, hmem, hadmits⟩)
      . exact Or.inr ⟨rfl, hadmits⟩
  . exact h.subset
  . intro attempt hattempt
    rcases List.mem_append.mp hattempt with hattempt | hattempt
    . exact h.attempts attempt hattempt
    . rw [List.mem_singleton.mp hattempt]
      exact mem_listed_iff.mpr ⟨content, h.subset hcontent, hdecode⟩
  . intro confirmation' hlisted
    refine (h.attempted confirmation' hlisted).imp_right ?_
    rintro ⟨t, hmem⟩
    exact ⟨t, List.mem_append_left _ hmem⟩

theorem Accounted.eraseIdx (h : s.Accounted codec store queue) (hcontent : s.queue[i]? = some content)
    (hattempted : ∀ confirmation, decode codec content = .ok confirmation →
      ∃ now, (confirmation, now) ∈ s.attempts)
    : Accounted codec store queue { s with queue := s.queue.eraseIdx i } := by
  refine ⟨h.admits, h.holds, ?_, h.attempts, ?_⟩
  . exact fun _ hmem => h.subset (List.mem_of_mem_eraseIdx hmem)
  . intro confirmation hlisted
    rcases h.attempted confirmation hlisted with hqueued | hattempt
    . rcases mem_listed_iff.mp hqueued with ⟨content', hmem, hdecode⟩
      rcases List.mem_iff_getElem?.mp hmem with ⟨j, hj⟩
      by_cases hij : j = i
      . rw [hij, hcontent, Option.some.injEq] at hj
        exact Or.inr (hattempted confirmation (hj ▸ hdecode))
      . refine Or.inl (mem_listed_iff.mpr ⟨content', ?_, hdecode⟩)
        exact List.mem_eraseIdx_iff_getElem?.mpr ⟨j, hij, hj⟩
    . exact Or.inr hattempt

theorem Accounted.settle {result : Except ConsumeError Unit} (h : s.Accounted codec store queue)
    (hcontent : s.queue[i]? = some content)
    (hattempted : ∀ confirmation, decode codec content = .ok confirmation →
      ∃ now, (confirmation, now) ∈ s.attempts)
    : (s.settle i result).Accounted codec store queue := by
  unfold Consumer.settle
  split
  . exact h.eraseIdx hcontent hattempted
  . exact h.eraseIdx hcontent hattempted
  . exact h

theorem Accounted.step {label : ConsumerLabel} (h : s.Accounted codec store queue)
    (hstep : step codec s label = some s') : s'.Accounted codec store queue := by
  cases label with
  | deliver i now acked =>
    simp only [Consumer.step] at hstep
    split at hstep
    . contradiction
    . next content hcontent =>
      split at hstep
      . next err hdecode =>
        rw [Option.some.injEq] at hstep
        rw [← hstep]
        split
        . apply h.settle hcontent
          intro confirmation hok
          rw [hdecode] at hok
          contradiction
        . exact h
      . next confirmation hdecode =>
        rw [Option.some.injEq] at hstep
        rw [← hstep]
        have h' : (s.insertConfirmation confirmation now).Accounted codec store queue :=
          h.insertConfirmation (List.mem_of_getElem? hcontent) hdecode
        split
        . apply h'.settle hcontent
          intro confirmation' hok
          rw [hdecode, Except.ok.injEq] at hok
          exact ⟨now, List.mem_append_right _ (by simp [hok])⟩
        . exact h'
  | lost i now applied =>
    simp only [Consumer.step] at hstep
    split at hstep
    . contradiction
    . next content hcontent =>
      split at hstep
      . contradiction
      . next confirmation hdecode =>
        -- an error of the driver requeues the message
        have hrequeue (s : Consumer) : s.settle i (answer (.error .mongo)) = s := by
          rfl
        rw [Option.some.injEq, hrequeue] at hstep
        rw [← hstep]
        split
        . exact h.insertConfirmation (List.mem_of_getElem? hcontent) hdecode
        . exact h

end

/--
Once every message is acked, the stored confirmations are the initial ones and those listed whose
notification exists, is addressed to the user and was not expired at one of the attempts. Neither
the order of the deliveries nor their number matters.
-/
theorem confirmations_iff (codec : Codec) (ops : List Op) (queue : List Bytes)
    (labels : List ConsumerLabel) (s : Consumer)
    (hrun : System.run (step codec) (init (Store.ofOps ops) queue) labels = some s)
    (hacked : s.queue = [])
    : (∀ confirmation ∈ listed codec queue, ∃ now, (confirmation, now) ∈ s.attempts)
      ∧ ∀ confirmation, Holds s.store confirmation
          ↔
        Holds (Store.ofOps ops) confirmation
          ∨ (confirmation ∈ listed codec queue
            ∧ ∃ now, (confirmation, now) ∈ s.attempts
              ∧ AdmitsAt (Store.ofOps ops) confirmation now) := by
  have h : s.Accounted codec (Store.ofOps ops) queue := by
    apply System.run_invariant (P := Accounted codec (Store.ofOps ops) queue) _ accounted_init hrun
    intro s label s' h hstep
    exact h.step hstep
  constructor
  . intro confirmation hlisted
    rcases h.attempted confirmation hlisted with hqueued | hattempted
    . simp [hacked, listed] at hqueued
    . exact hattempted
  . intro confirmation
    rw [h.holds]
    constructor
    . rintro (hholds | ⟨now, hmem, hadmits⟩)
      . exact Or.inl hholds
      . exact Or.inr ⟨h.attempts _ hmem, now, hmem, hadmits⟩
    . rintro (hholds | ⟨_, hattempt⟩)
      . exact Or.inl hholds
      . exact Or.inr hattempt

def sampleMessage : RabbitmqConfirmationProtobuf where
  userId := "00000000-0000-0000-0000-000000000001"
  id := "000000000000000000000007"

def sampleContent : Bytes :=
  let ascii (s : String) : Bytes := s.toList.map (fun c => UInt8.ofNat c.toNat)
  [10, 36] ++ ascii sampleMessage.userId ++ [18, 24] ++ ascii sampleMessage.id

def sampleCodec : Codec where
  encodeRabbitmqNotification _ := []
  decodeRabbitmqNotification _ := none
  encodeRabbitmqConfirmation message := if message = sampleMessage then sampleContent else []
  decodeRabbitmqConfirmation content := if content = sampleContent then some sampleMessage else none
  uuidToString uuid := if uuid = ⟨1⟩ then sampleMessage.userId else ""
  uuidFromStr s := if s = sampleMessage.userId then some ⟨1⟩ else none
  objectIdToHex id := if id = ⟨7⟩ then sampleMessage.id else ""
  objectIdFromStr s := if s = sampleMessage.id then some ⟨7⟩ else none
  minSeconds := -377705116800
  maxSeconds := 253402300799

def expiringBroadcast : List Op :=
  [.insert ⟨7⟩ [] 0 (some 1000000000) ⟨2⟩ 0 "utf-8" []]

def redeliveries (now : OffsetDateTime) : List ConsumerLabel :=
  [.lost 0 now false, .deliver 1 now true, .deliver 0 now true]

def redelivered (now : OffsetDateTime) : Consumer where
  store :=
    ((Store.ofOps expiringBroadcast).apply (.insertConfirmation ⟨7⟩ ⟨1⟩ now)).apply
      (.insertConfirmation ⟨7⟩ ⟨1⟩ now)
  queue := []
  attempts := [(⟨⟨1⟩, ⟨7⟩⟩, now), (⟨⟨1⟩, ⟨7⟩⟩, now)]

theorem confirmations_iff_in_time
    : System.run (step sampleCodec) (init (Store.ofOps expiringBroadcast) [sampleContent, sampleContent])
          (redeliveries 0) = some (redelivered 0)
        ∧ Holds (redelivered 0).store ⟨⟨1⟩, ⟨7⟩⟩ := by
  have hrun : System.run (step sampleCodec)
      (init (Store.ofOps expiringBroadcast) [sampleContent, sampleContent]) (redeliveries 0)
      = some (redelivered 0) := by
    rfl
  refine ⟨hrun, ?_⟩
  have hiff := confirmations_iff sampleCodec expiringBroadcast _ _ _ hrun rfl
  rw [hiff.2]
  refine Or.inr ⟨?_, 0, List.mem_cons_self, ?_⟩
  . exact mem_listed_iff.mpr ⟨sampleContent, List.mem_cons_self, rfl⟩
  . unfold AdmitsAt
    decide

/--
The notification has expired when the confirmation arrives: it is acked and not stored.
-/
theorem confirmations_expired
    : System.run (step sampleCodec) (init (Store.ofOps expiringBroadcast) [sampleContent, sampleContent])
          (redeliveries 2000000000) = some (redelivered 2000000000)
        ∧ (redelivered 2000000000).queue = []
        ∧ ¬∀ confirmation, Holds (redelivered 2000000000).store confirmation
            ↔
          Holds (Store.ofOps expiringBroadcast) confirmation
            ∨ (confirmation ∈ listed sampleCodec [sampleContent, sampleContent]
              ∧ Admits (Store.ofOps expiringBroadcast) confirmation) := by
  refine ⟨rfl, rfl, ?_⟩
  intro h
  have hlisted : ⟨⟨1⟩, ⟨7⟩⟩ ∈ listed sampleCodec [sampleContent, sampleContent] :=
    mem_listed_iff.mpr ⟨sampleContent, List.mem_cons_self, rfl⟩
  have hadmits : Admits (Store.ofOps expiringBroadcast) ⟨⟨1⟩, ⟨7⟩⟩ := by
    unfold Admits
    decide
  have hholds := (h ⟨⟨1⟩, ⟨7⟩⟩).mpr (Or.inr ⟨hlisted, hadmits⟩)
  revert hholds
  unfold Holds
  decide

end Consumer

end TomNotifier.Core
