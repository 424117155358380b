import TomNotifier.Core.Producer.Impl
import TomNotifier.WsDelivery.Consumer.Suppression

/-!
This module contains what the notifications consumer makes of the messages of the core server, and of
any other message.
-/

namespace TomNotifier

namespace OffsetDateTime

-- The seconds are floored, so the nanoseconds are not negative before the epoch either.
theorem toNat_nanosecond (t : Int) : ((nanosecond t).toNat : Int) = t % 1000000000 := by
  have hnonneg := Int.emod_nonneg t (b := 1000000000) (by decide)
  have hlt := Int.emod_lt_of_pos t (b := 1000000000) (by decide)
  unfold nanosecond
  rw [UInt32.toNat_ofNat_of_lt']
  . exact Int.toNat_of_nonneg hnonneg
  . show (t % 1000000000).toNat < 4294967296
    omega

theorem toInt_unixTimestamp {t : Int} (hmin : -9223372036854775808 ≤ t / 1000000000)
    (hmax : t / 1000000000 < 9223372036854775808)
    : (unixTimestamp t).toInt = t / 1000000000 := by
  exact Int64.toInt_ofInt_of_le hmin hmax

theorem unixTimestamp_mul_add {seconds : Int64} {nanos : UInt32} (h : nanos.toNat ≤ 999999999)
    : unixTimestamp (seconds.toInt * 1000000000 + nanos.toNat) = seconds := by
  have hseconds : (seconds.toInt * 1000000000 + nanos.toNat) / 1000000000 = seconds.toInt := by
    omega
  unfold unixTimestamp
  rw [hseconds, Int64.ofInt_toInt]

theorem nanosecond_mul_add {seconds : Int} {nanos : UInt32} (h : nanos.toNat ≤ 999999999)
    : nanosecond (seconds * 1000000000 + nanos.toNat) = nanos := by
  have hnanos : (seconds * 1000000000 + nanos.toNat) % 1000000000 = nanos.toNat := by
    omega
  unfold nanosecond
  rw [hnanos, Int.toNat_natCast, UInt32.ofNat_toNat]

end OffsetDateTime

-- A negative number is one above `i32::MAX` after the cast.
theorem Int32.toUInt32_le_iff {n : Int32}
    : n.toUInt32 ≤ 999999999 ↔ 0 ≤ n ∧ n ≤ 999999999 := by
  have htoInt : n.toInt = n.toUInt32.toNat ∨
      (n.toInt = n.toUInt32.toNat - 4294967296 ∧ 2147483648 ≤ n.toUInt32.toNat) := by
    have h := BitVec.toInt_eq_toNat_cond n.toBitVec
    split at h
    . exact Or.inl h
    . next hlarge =>
      refine Or.inr ⟨h, ?_⟩
      show 2147483648 ≤ n.toBitVec.toNat
      omega
  have hlt := n.toUInt32.toNat_lt
  have hnonneg := Int32.toInt_lt n
  rw [UInt32.le_iff_toNat_le, Int32.le_iff_toInt_le, Int32.le_iff_toInt_le]
  show n.toUInt32.toNat ≤ 999999999 ↔ 0 ≤ n.toInt ∧ n.toInt ≤ 999999999
  omega

/-- The crates read what they have written of the message. -/
structure Codec.ReadsBack (codec : Codec) (notification : Core.ProducedNotification) : Prop where
  message :
    codec.decodeRabbitmqNotification (codec.encodeRabbitmqNotification
      (Core.NotificationsProducerService.message codec notification))
        =
      some (Core.NotificationsProducerService.message codec notification)
  userIds : ∀ userId ∈ notification.userIds,
    codec.uuidFromStr (codec.uuidToString userId) = some userId
  objectId : codec.objectIdFromStr (codec.objectIdToHex notification.id) = some notification.id

/-- The points in time `OffsetDateTime` stands for. -/
def Codec.InRange (codec : Codec) (t : OffsetDateTime) : Prop :=
  let seconds : Int := t / 1000000000
  codec.minSeconds.toInt ≤ seconds ∧ seconds ≤ codec.maxSeconds.toInt

namespace WsDelivery

open Core.NotificationsProducerService

variable {codec : Codec}

namespace NotificationStatusUpdate

theorem parseTimestamp_eq_ok_iff {timestamp : Timestamp} {t : OffsetDateTime}
    : parseTimestamp codec timestamp = .ok t
        ↔
      (codec.minSeconds ≤ timestamp.seconds ∧ timestamp.seconds ≤ codec.maxSeconds)
        ∧ (0 ≤ timestamp.nanos ∧ timestamp.nanos ≤ 999999999)
        ∧ timestamp.seconds.toInt * 1000000000 + timestamp.nanos.toUInt32.toNat = t := by
  unfold parseTimestamp
  rw [← Int32.toUInt32_le_iff]
  dsimp only
  split
  . next hseconds =>
    rw [← Int64.not_le, ← Int64.not_le] at hseconds
    simp only [reduceCtorEq, false_iff]
    rintro ⟨⟨hmin, hmax⟩, _⟩
    exact hseconds.elim (fun h => h hmin) (fun h => h hmax)
  . next hseconds =>
    rw [not_or, Int64.not_lt, Int64.not_lt] at hseconds
    split
    . next hnanos =>
      rw [← UInt32.not_le] at hnanos
      simp only [reduceCtorEq, false_iff]
      rintro ⟨_, hle, _⟩
      exact hnanos hle
    . next hnanos =>
      rw [UInt32.not_lt] at hnanos
      simp [hseconds, hnanos]

theorem timestampOf_of_parseTimestamp {timestamp : Timestamp} {t : OffsetDateTime}
    (h : parseTimestamp codec timestamp = .ok t) : timestampOf t = timestamp := by
  rw [parseTimestamp_eq_ok_iff, ← Int32.toUInt32_le_iff, UInt32.le_iff_toNat_le] at h
  rcases h with ⟨_, hnanos, rfl⟩
  unfold timestampOf
  rw [OffsetDateTime.unixTimestamp_mul_add hnanos, OffsetDateTime.nanosecond_mul_add hnanos,
    Int32.toInt32_toUInt32]

theorem parseTimestamp_timestampOf {t : OffsetDateTime} (h : codec.InRange t)
    : parseTimestamp codec (timestampOf t) = .ok t := by
  have hmin := codec.minSeconds.le_toInt
  have hmax := codec.maxSeconds.toInt_lt
  have hnanos := OffsetDateTime.toNat_nanosecond t
  have hlt := Int.emod_lt_of_pos t (b := 1000000000) (by decide)
  rcases h with ⟨hseconds, hseconds'⟩
  have hunix := OffsetDateTime.toInt_unixTimestamp (t := t) (by omega) (by omega)
  rw [parseTimestamp_eq_ok_iff, ← Int32.toUInt32_le_iff, UInt32.le_iff_toNat_le]
  unfold timestampOf
  rw [UInt32.toUInt32_toInt32, hnanos, Int64.le_iff_toInt_le, Int64.le_iff_toInt_le, hunix]
  refine ⟨⟨hseconds, hseconds'⟩, ?_, Int.mul_comm _ _ ▸ Int.mul_ediv_add_emod t 1000000000⟩
  show t.nanosecond.toNat ≤ 999999999
  omega

theorem tryFrom_eq_ok_iff {value : NotificationProtobuf} {update : NotificationStatusUpdate}
    : tryFrom codec value = .ok update
        ↔
      codec.objectIdFromStr value.id = some update.id
        ∧ ∃ timestamp, value.timestamp = some timestamp
          ∧ parseTimestamp codec timestamp = .ok update.timestamp := by
  rcases update with ⟨id', t'⟩
  unfold tryFrom
  cases hid : codec.objectIdFromStr value.id with
  | none => simp
  | some id =>
    cases htimestamp : value.timestamp with
    | none => simp
    | some timestamp =>
      cases hparse : parseTimestamp codec timestamp with
      | error err => simp [hparse]
      | ok t => simp [hparse]

section

variable {value : NotificationProtobuf} {timestamp : Timestamp} {objectId : ObjectId}

theorem tryFrom_isOk_iff (htimestamp : value.timestamp = some timestamp)
    (hid : codec.objectIdFromStr value.id = some objectId)
    : (∃ update, tryFrom codec value = .ok update)
        ↔
      (codec.minSeconds ≤ timestamp.seconds ∧ timestamp.seconds ≤ codec.maxSeconds)
        ∧ 0 ≤ timestamp.nanos ∧ timestamp.nanos ≤ 999999999 := by
  constructor
  . rintro ⟨update, hupdate⟩
    rcases tryFrom_eq_ok_iff.mp hupdate with ⟨_, timestamp', htimestamp', hparse⟩
    rw [htimestamp, Option.some.injEq] at htimestamp'
    subst htimestamp'
    rw [parseTimestamp_eq_ok_iff] at hparse
    exact ⟨hparse.1, hparse.2.1⟩
  . rintro ⟨hseconds, hnanos⟩
    have hparse := parseTimestamp_eq_ok_iff.mpr ⟨hseconds, hnanos, rfl⟩
    exact ⟨⟨objectId, _⟩, tryFrom_eq_ok_iff.mpr ⟨hid, timestamp, htimestamp, hparse⟩⟩

theorem timestampOf_of_tryFrom {update : NotificationStatusUpdate}
    (htimestamp : value.timestamp = some timestamp)
    (hid : codec.objectIdFromStr value.id = some objectId)
    (hupdate : tryFrom codec value = .ok update)
    : update.id = objectId ∧ timestampOf update.timestamp = timestamp := by
  rcases tryFrom_eq_ok_iff.mp hupdate with ⟨hid', timestamp', htimestamp', hparse⟩
  rw [hid, Option.some.injEq] at hid'
  rw [htimestamp, Option.some.injEq] at htimestamp'
  subst htimestamp'
  exact ⟨hid'.symm, timestampOf_of_parseTimestamp hparse⟩

end

end NotificationStatusUpdate

namespace DeliveryCallback

theorem parseUserIds_map {userIds : List Uuid}
    (h : ∀ userId ∈ userIds, codec.uuidFromStr (codec.uuidToString userId) = some userId)
    : parseUserIds codec (userIds.map codec.uuidToString) = some userIds := by
  induction userIds with
  | nil => rfl
  | cons userId userIds ih =>
    rw [List.forall_mem_cons] at h
    rw [List.map_cons, parseUserIds, h.1, ih h.2]
    rfl

-- The first string that is no id makes the whole list fail, so no id is left out.
theorem length_of_parseUserIds {userIds : List String} {uuids : List Uuid}
    (h : parseUserIds codec userIds = some uuids) : uuids.length = userIds.length := by
  induction userIds generalizing uuids with
  | nil =>
    rw [parseUserIds, Option.some.injEq] at h
    rw [← h]
    rfl
  | cons uuidStr userIds ih =>
    rw [parseUserIds] at h
    split at h
    . contradiction
    . rw [Option.map_eq_some_iff] at h
      rcases h with ⟨uuids', huuids', rfl⟩
      rw [List.length_cons, List.length_cons, ih huuids']

theorem parse_produce {notification : Core.ProducedNotification} (hreads : codec.ReadsBack notification)
    (hrange : codec.InRange notification.timestamp)
    : ∃ protobuf, (message codec notification).notification = some protobuf
        ∧ parse codec (produce codec notification).content
            =
          .ok {
            userIds := notification.userIds
            notification := protobuf
            update := { id := notification.id, timestamp := notification.timestamp }
          } := by
  rcases message_eq codec notification with ⟨status, createdBy, seen, contentType, content, hmessage⟩
  refine ⟨_, congrArg RabbitmqNotificationProtobuf.notification hmessage, ?_⟩
  rw [parse_eq_ok_iff]
  refine ⟨message codec notification, ?_, ?_, ?_, ?_⟩
  . rw [produce_content, hreads.message]
  . rw [hmessage]
    rfl
  . rw [hmessage]
    exact parseUserIds_map hreads.userIds
  . rw [NotificationStatusUpdate.tryFrom_eq_ok_iff]
    exact ⟨hreads.objectId, timestampOf notification.timestamp, rfl,
      NotificationStatusUpdate.parseTimestamp_timestampOf hrange⟩

/-- The callback forwards nothing, or to the users the message names. -/
theorem execute_websocketsService_cases {content : Bytes} {now : OffsetDateTime} {messageId : Uuid}
    {s : DeliveryCallback}
    : (execute codec content now messageId s).2.websocketsService = s.websocketsService
        ∨ ∃ request, parse codec content = .ok request
          ∧ (execute codec content now messageId s).2.websocketsService
              =
            s.websocketsService.send codec request.userIds request.notification now messageId := by
  unfold execute
  split
  . exact Or.inl rfl
  . next request hparse =>
    split
    . exact Or.inr ⟨request, hparse, rfl⟩
    . exact Or.inl rfl
    . exact Or.inl rfl

theorem forwarded_of_userIds_ne_nil {content : Bytes} {message : RabbitmqNotificationProtobuf}
    {now : OffsetDateTime} {messageId : Uuid} {s : DeliveryCallback}
    (hmessage : codec.decodeRabbitmqNotification content = some message) (hne : message.userIds ≠ [])
    : (execute codec content now messageId s).2.websocketsService = s.websocketsService
        ∨ ∃ request, parse codec content = .ok request
          ∧ request.userIds ≠ []
          ∧ (execute codec content now messageId s).2.websocketsService
              =
            s.websocketsService.send codec request.userIds request.notification now messageId := by
  rcases execute_websocketsService_cases with hsame | ⟨request, hparse, hsend⟩
  . exact Or.inl hsame
  . refine Or.inr ⟨request, hparse, ?_, hsend⟩
    rcases parse_eq_ok_iff.mp hparse with ⟨message', hmessage', _, huserIds, _⟩
    rw [hmessage, Option.some.injEq] at hmessage'
    subst hmessage'
    have hlength := length_of_parseUserIds huserIds
    rw [← List.length_pos_iff] at hne ⊢
    omega

/--
What core announces is read as it was meant, a timestamp is read iff it is one, and then it is the one
that would be written again, and no message about somebody is read as one for everybody.
-/
theorem events_decode (codec : Codec)
    : (∀ notification, codec.ReadsBack notification → codec.InRange notification.timestamp →
        ∃ protobuf, (message codec notification).notification = some protobuf
          ∧ parse codec (produce codec notification).content
              =
            .ok {
              userIds := notification.userIds
              notification := protobuf
              update := { id := notification.id, timestamp := notification.timestamp }
            })
      ∧ (∀ (value : NotificationProtobuf) timestamp objectId, value.timestamp = some timestamp →
          codec.objectIdFromStr value.id = some objectId →
            ((∃ update, NotificationStatusUpdate.tryFrom codec value = .ok update)
                ↔
              (codec.minSeconds ≤ timestamp.seconds ∧ timestamp.seconds ≤ codec.maxSeconds)
                ∧ 0 ≤ timestamp.nanos ∧ timestamp.nanos ≤ 999999999)
              ∧ ∀ update, NotificationStatusUpdate.tryFrom codec value = .ok update →
                  update.id = objectId ∧ timestampOf update.timestamp = timestamp)
      ∧ ∀ content (message : RabbitmqNotificationProtobuf) now messageId (s : DeliveryCallback),
          codec.decodeRabbitmqNotification content = some message → message.userIds ≠ [] →
            let s' := (execute codec content now messageId s).2
            s'.websocketsService = s.websocketsService
              ∨ ∃ request, parse codec content = .ok request
                ∧ request.userIds ≠ []
                ∧ s'.websocketsService
                    =
                  s.websocketsService.send codec request.userIds request.notification now
                    messageId := by
  refine ⟨fun _ => parse_produce, ?_, ?_⟩
  . intro value timestamp objectId htimestamp hid
    exact ⟨NotificationStatusUpdate.tryFrom_isOk_iff htimestamp hid,
      fun _ => NotificationStatusUpdate.timestampOf_of_tryFrom htimestamp hid⟩
  . intro content message now messageId s
    exact forwarded_of_userIds_ne_nil

theorem events_decode_own_event
    : parse sampleCodec (produce sampleCodec (.updated ⟨1⟩ ⟨7⟩ true 1000000000)).content
          =
        .ok ⟨[⟨1⟩], sampleNotification 1, ⟨⟨7⟩, 1000000000⟩⟩
        ∧ (¬∃ update, NotificationStatusUpdate.tryFrom sampleCodec
            { sampleNotification 1 with timestamp := some ⟨1, -1⟩ } = .ok update)
        ∧ ∃ request : Request, request.userIds ≠ []
          ∧ (execute sampleCodec (sampleContent 1 1) 0 ⟨9⟩ ⟨fun _ => none, connected⟩).2.websocketsService
              =
            connected.send sampleCodec request.userIds request.notification 0 ⟨9⟩ := by
  rcases events_decode sampleCodec with ⟨hproduced, htimestamps, hforwarded⟩
  refine ⟨?_, ?_, ?_⟩
  . have hreads : sampleCodec.ReadsBack (.updated ⟨1⟩ ⟨7⟩ true 1000000000) := by
      refine ⟨by rfl, ?_, by rfl⟩
      intro userId huserId
      rw [List.mem_singleton.mp huserId]
      rfl
    rcases hproduced _ hreads ⟨by decide, by decide⟩ with ⟨protobuf, hprotobuf, hparse⟩
    have hsample : some protobuf = some (sampleNotification 1) := hprotobuf.symm.trans (by rfl)
    rw [hparse, Option.some.inj hsample]
    rfl
  . rw [(htimestamps _ ⟨1, -1⟩ ⟨7⟩ rfl (by rfl)).1]
    decide
  . rcases hforwarded (sampleContent 1 1) (sampleMessage 1 1) 0 ⟨9⟩ ⟨fun _ => none, connected⟩
      (by rfl) (by decide) with hsame | ⟨request, _, hne, hsend⟩
    . have hqueued := congrArg (fun s => s.channels.map (·.queued.length)) hsame
      exact absurd hqueued (by decide)
    . exact ⟨request, hne, hsend⟩

end DeliveryCallback

end WsDelivery

end TomNotifier
