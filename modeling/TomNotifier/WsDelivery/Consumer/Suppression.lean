import Mathlib.Data.List.Flatten
import TomNotifier.WsDelivery.Consumer.Impl
import TomNotifier.WsDelivery.WebSockets.Send

/-!
This module contains what one user is shown of a sequence of deliveries, and when it is what the user
would be shown without the messages for others.
-/

namespace TomNotifier.WsDelivery

open LatestWins
open NotificationsDeduplicationService

namespace WebSocketsServiceImpl

variable {s : WebSocketsServiceImpl} {userId : Uuid}

def queuedNotifications (userId : Uuid) (s : WebSocketsServiceImpl) : List NotificationProtobuf :=
  match s.usersConnections.lookup userId with
  | none => []
  | some tx =>
    match s.channels[tx]? with
    | none => []
    | some channel => channel.queued.filterMap (·.payload.notification)

section

variable {codec : Codec} {userIds : List Uuid} {notification : NotificationProtobuf}
variable {now : OffsetDateTime} {messageId : Uuid}

theorem Connected.send (h : s.Connected userId)
    : (s.send codec userIds notification now messageId).Connected userId := by
  rcases h with ⟨tx, channel, hlookup, hchannel, hreceivers⟩
  let message := (s.createMessage codec now messageId .ok (some notification)).1
  have hsend
      : (s.send codec userIds notification now messageId).channels[tx]?
          =
        some (channel.sendMany message (copies userIds userId)) := by
    rw [send_channels hlookup, hchannel]
    rfl
  exact ⟨tx, _, by simpa using hlookup, hsend, by simpa using hreceivers⟩

theorem Connected.queuedNotifications_send (h : s.Connected userId)
    : (s.send codec userIds notification now messageId).queuedNotifications userId
        =
      s.queuedNotifications userId ++ List.replicate (copies userIds userId) notification := by
  rcases h with ⟨tx, channel, hlookup, hchannel, hreceivers⟩
  unfold queuedNotifications
  rw [send_usersConnections, hlookup]
  dsimp only
  rw [send_channels hlookup, hchannel]
  simp only [Option.map_some, Channel.sendMany_queued hreceivers, List.filterMap_append,
    List.filterMap_replicate, createMessage_notification]

end

end WebSocketsServiceImpl

namespace DeliveryCallback

/-- A delivery `execute` does not refuse, with the clock reading and the random id of its message. -/
structure ValidDelivery (codec : Codec) where
  content : Bytes
  now : OffsetDateTime
  messageId : Uuid
  request : Request
  parse_eq : parse codec content = .ok request

namespace ValidDelivery

variable {codec : Codec}

abbrev id (d : ValidDelivery codec) : ObjectId := d.request.update.id

abbrev timestamp (d : ValidDelivery codec) : OffsetDateTime := d.request.update.timestamp

def addressedTo (userId : Uuid) (d : ValidDelivery codec) : Bool :=
  d.request.userIds.isEmpty || decide (userId ∈ d.request.userIds)

def shown (userId : Uuid) (d : ValidDelivery codec) : List NotificationProtobuf :=
  List.replicate (WebSocketsServiceImpl.copies d.request.userIds userId) d.request.notification

theorem shown_eq_nil_iff {userId : Uuid} {d : ValidDelivery codec}
    : d.shown userId = [] ↔ d.addressedTo userId = false := by
  have hpos := @WebSocketsServiceImpl.copies_pos_iff userId d.request.userIds
  unfold shown addressedTo
  rw [List.replicate_eq_nil_iff, Bool.or_eq_false_iff, List.isEmpty_eq_false_iff,
    decide_eq_false_iff_not, ← not_or, ← hpos]
  omega

end ValidDelivery

def executeAll {codec : Codec} (ds : List (ValidDelivery codec)) (s : DeliveryCallback)
    : DeliveryCallback :=
  ds.foldl (fun s d => (execute codec d.content d.now d.messageId s).2) s

section

variable {codec : Codec} {s : DeliveryCallback} {d : ValidDelivery codec}
variable {ds : List (ValidDelivery codec)} {userId : Uuid}

theorem execute_eq
    : (execute codec d.content d.now d.messageId s).2
        =
      {
        lastUpdates := present s.lastUpdates d.id d.timestamp
        websocketsService :=
          if Accepts s.lastUpdates d.id d.timestamp then
            s.websocketsService.send codec d.request.userIds d.request.notification d.now d.messageId
          else
            s.websocketsService
      } := by
  unfold execute
  rw [d.parse_eq]
  simp only [deduplicate_eq]
  by_cases h : Accepts s.lastUpdates d.id d.timestamp
  . simp [h]
  . simp [h]

theorem queuedNotifications_executeAll (h : s.websocketsService.Connected userId)
    : (executeAll ds s).websocketsService.queuedNotifications userId
        =
      s.websocketsService.queuedNotifications userId
        ++ (accepted ValidDelivery.id ValidDelivery.timestamp s.lastUpdates ds).flatMap
          (·.shown userId) := by
  induction ds generalizing s with
  | nil => simp [executeAll, accepted]
  | cons d ds ih =>
    rw [executeAll, List.foldl_cons, ← executeAll, execute_eq]
    by_cases haccepts : Accepts s.lastUpdates d.id d.timestamp
    . simp only [haccepts, if_true]
      rw [ih h.send]
      simp only [h.queuedNotifications_send, accepted, haccepts, if_true, List.flatMap_cons,
        List.append_assoc]
      rfl
    . simp only [haccepts, if_false]
      rw [ih (s := ⟨present s.lastUpdates d.id d.timestamp, s.websocketsService⟩) h]
      simp only [accepted, haccepts, if_false]

theorem flatMap_filter_addressedTo
    : (ds.filter (·.addressedTo userId)).flatMap (·.shown userId) = ds.flatMap (·.shown userId) := by
  induction ds with
  | nil => rfl
  | cons d ds ih =>
    rw [List.filter_cons]
    split
    . rw [List.flatMap_cons, List.flatMap_cons, ih]
    . next h =>
      rw [List.flatMap_cons, ValidDelivery.shown_eq_nil_iff.mpr (by simpa using h), ih]
      rfl

theorem flatMap_shown_eq_iff {ds' : List (ValidDelivery codec)} (h : ds'.Sublist ds)
    (haddressed : ∀ d ∈ ds, d.addressedTo userId = true)
    : ds'.flatMap (·.shown userId) = ds.flatMap (·.shown userId) ↔ ds' = ds := by
  constructor
  swap
  . intro heq
    rw [heq]
  induction h with
  | slnil => simp
  | @cons ds' ds d hsub ih =>
    intro heq
    have hle := (hsub.flatMap (·.shown userId)).length_le
    have hpos : d.shown userId ≠ [] := by
      rw [Ne, ValidDelivery.shown_eq_nil_iff, haddressed d (by simp)]
      simp
    have hlen := congrArg List.length heq
    rw [List.flatMap_cons, List.length_append] at hlen
    have := List.length_pos_iff.mpr hpos
    omega
  | @cons_cons ds' ds d hsub ih =>
    intro heq
    rw [List.flatMap_cons, List.flatMap_cons, List.append_cancel_left_eq] at heq
    rw [ih (fun d hd => haddressed d (List.mem_cons_of_mem _ hd)) heq]

def queuedBy (ds : List (ValidDelivery codec)) (websocketsService : WebSocketsServiceImpl)
    (userId : Uuid) : List NotificationProtobuf :=
  (executeAll ds { lastUpdates := new, websocketsService }).websocketsService.queuedNotifications userId

/--
What a connected user is shown is what it would be shown without the messages for others exactly when
every message for the user that is newer than the earlier ones for the user is newer than the earlier
ones for others, too.
-/
theorem unsuppressed_iff {websocketsService : WebSocketsServiceImpl}
    (h : websocketsService.Connected userId)
    : queuedBy ds websocketsService userId
          =
        queuedBy (ds.filter (·.addressedTo userId)) websocketsService userId
        ↔
      ∀ before d after, ds = before ++ d :: after → d.addressedTo userId = true →
        (∀ d' ∈ before, d'.addressedTo userId = true → d'.id = d.id → d'.timestamp < d.timestamp) →
          ∀ d' ∈ before, d'.addressedTo userId = false → d'.id = d.id →
            d'.timestamp < d.timestamp := by
  have haddressed : ∀ d ∈ accepted (X := ValidDelivery codec) ValidDelivery.id
      ValidDelivery.timestamp new (ds.filter (·.addressedTo userId)),
      d.addressedTo userId = true := by
    intro d hd
    exact (List.mem_filter.mp (accepted_sublist.subset hd)).2
  unfold queuedBy
  rw [queuedNotifications_executeAll h, queuedNotifications_executeAll h, List.append_cancel_left_eq,
    ← flatMap_filter_addressedTo, flatMap_shown_eq_iff filter_accepted_sublist haddressed,
    filter_accepted_eq_iff]
  have hnew : ∀ (id : ObjectId) (timestamp : OffsetDateTime), Accepts new id timestamp := by
    simp [Accepts, new]
  simp only [accepts_presentAll_iff, hnew, true_and, List.mem_filter, and_imp]
  constructor
  . intro hlatest before d after heq hd hothers d' hd' _ hid
    exact hlatest before d after heq hd (fun d' hd' haddr => hothers d' hd' haddr) d' hd' hid
  . intro hlatest before d after heq hd hothers d' hd' hid
    -- an earlier message for the user is in both sequences
    cases haddr : d'.addressedTo userId with
    | true => exact hothers d' hd' haddr hid
    | false => exact hlatest before d after heq hd hothers d' hd' haddr hid

end

def sampleNotificationId : String := "000000000000000000000007"

def sampleUserId (user : Nat) : String :=
  if user = 1 then
    "00000000-0000-0000-0000-000000000001"
  else
    "00000000-0000-0000-0000-000000000002"

def sampleNotification (seconds : Nat) : NotificationProtobuf where
  id := sampleNotificationId
  status := NotificationStatusProtobuf.updated.toInt32
  timestamp := some { seconds := Int64.ofNat seconds, nanos := 0 }
  createdBy := none
  seen := some true
  contentType := none
  content := none

def sampleMessage (user seconds : Nat) : RabbitmqNotificationProtobuf where
  userIds := [sampleUserId user]
  notification := some (sampleNotification seconds)

def sampleContent (user seconds : Nat) : Bytes :=
  let ascii (s : String) : Bytes := s.toList.map (fun c => UInt8.ofNat c.toNat)
  [10, 36] ++ ascii (sampleUserId user) ++ [18, 34, 10, 24] ++ ascii sampleNotificationId
    ++ [16, 1, 26, 2, 8, UInt8.ofNat seconds, 40, 1]

def sampleCodec : Codec where
  encodeRabbitmqNotification message :=
    if message = sampleMessage 1 1 then
      sampleContent 1 1
    else
      sampleContent 2 2
  decodeRabbitmqNotification content :=
    if content = sampleContent 1 1 then
      some (sampleMessage 1 1)
    else if content = sampleContent 2 2 then
      some (sampleMessage 2 2)
    else
      none
  encodeRabbitmqConfirmation _ := []
  decodeRabbitmqConfirmation _ := none
  uuidToString uuid := if uuid = ⟨1⟩ then sampleUserId 1 else sampleUserId 2
  uuidFromStr s :=
    if s = sampleUserId 1 then
      some ⟨1⟩
    else if s = sampleUserId 2 then
      some ⟨2⟩
    else
      none
  objectIdToHex _ := sampleNotificationId
  objectIdFromStr s := if s = sampleNotificationId then some ⟨7⟩ else none
  minSeconds := -377705116800
  maxSeconds := 253402300799

def sampleDelivery (user seconds : Nat)
    (h : parse sampleCodec (sampleContent user seconds)
      = .ok ⟨[⟨user⟩], sampleNotification seconds, ⟨⟨7⟩, seconds * 1000000000⟩⟩)
    : ValidDelivery sampleCodec where
  content := sampleContent user seconds
  now := 3000000000
  messageId := ⟨user⟩
  request := ⟨[⟨user⟩], sampleNotification seconds, ⟨⟨7⟩, seconds * 1000000000⟩⟩
  parse_eq := h

def ownEvent : ValidDelivery sampleCodec := sampleDelivery 1 1 (by rfl)

def othersEvent : ValidDelivery sampleCodec := sampleDelivery 2 2 (by rfl)

def sampleConfig : WebSocketsServiceConfig where
  pingInterval := 30000000000
  retryMaxCount := 2
  retryInterval := 15000000000
  connectionBufferSize := 8

def connected : WebSocketsServiceImpl := WebSocketsServiceImpl.new.addUser ⟨1⟩ (Channel.new 8)

-- This is the service after the first user's device has connected to a new one.
example
    : WebSocketsServiceImpl.new.handleClient sampleConfig sampleCodec ⟨1⟩ 0 ⟨1⟩
        =
      some (⟨0, 0⟩, connected) := by
  rfl

theorem connected_first : connected.Connected ⟨1⟩ := by
  exact ⟨0, Channel.new 8, rfl, rfl, by decide⟩

theorem unsuppressed_iff_in_order
    : queuedBy [ownEvent, othersEvent] connected ⟨1⟩
        =
      queuedBy ([ownEvent, othersEvent].filter (·.addressedTo ⟨1⟩)) connected ⟨1⟩ := by
  rw [unsuppressed_iff connected_first]
  intro before d after heq hd _ d' hd' hothers _
  cases before with
  | nil => simp at hd'
  | cons first before =>
    simp only [List.cons_append, List.cons.injEq] at heq
    cases before with
    | nil =>
      simp only [List.nil_append, List.cons.injEq] at heq
      rw [← heq.2.1] at hd
      exact absurd hd (by decide)
    | cons second before => simp at heq

/--
The other user's event overtakes the user's own one, which is dropped as a duplicate.
-/
theorem suppressed_by_other
    : connected.Connected ⟨1⟩
        ∧ queuedBy [othersEvent, ownEvent] connected ⟨1⟩ = []
        ∧ queuedBy ([othersEvent, ownEvent].filter (·.addressedTo ⟨1⟩)) connected ⟨1⟩
          = [sampleNotification 1] := by
  exact ⟨connected_first, rfl, rfl⟩

end DeliveryCallback

end TomNotifier.WsDelivery
