import TomNotifier.WsDelivery.WebSockets.Impl

/-!
This module contains what sending a message puts into the channels.
-/

namespace TomNotifier.WsDelivery

namespace Channel

def sendMany (message : WebSocketMessage) (n : Nat) (channel : Channel) : Channel :=
  if channel.receivers = 0 then
    channel
  else
    { channel with queued := channel.queued ++ List.replicate n message }

variable {message : WebSocketMessage} {n : Nat} {channel : Channel}

@[simp]
theorem sendMany_zero : channel.sendMany message 0 = channel := by
  unfold sendMany
  split
  . rfl
  . simp

@[simp]
theorem sendMany_receivers : (channel.sendMany message n).receivers = channel.receivers := by
  unfold sendMany
  split <;> rfl

theorem sendMany_queued (h : 0 < channel.receivers)
    : (channel.sendMany message n).queued = channel.queued ++ List.replicate n message := by
  unfold sendMany
  rw [if_neg (by omega)]

theorem sendMany_one (h : 0 < channel.receivers)
    : channel.sendMany message 1 = { channel with queued := channel.queued ++ [message] } := by
  unfold sendMany
  rw [if_neg (by omega), List.replicate_one]

theorem sendMany_send : (channel.send message).sendMany message n = channel.sendMany message (n + 1) := by
  unfold sendMany
  rw [send_receivers]
  split
  . next h => simp [send, h]
  . next h => simp [send, h, List.replicate_succ]

end Channel

namespace WebSocketsServiceImpl

variable {s : WebSocketsServiceImpl} {message : WebSocketMessage} {txs : List ChannelId}
variable {tx : ChannelId} {userId userId' : Uuid} {userIds : List Uuid}

theorem getElem?_sendAll {channels : List Channel}
    : (sendAll message txs channels)[tx]?
        =
      channels[tx]?.map (·.sendMany message (txs.count tx)) := by
  unfold sendAll
  induction txs generalizing channels with
  | nil => simp
  | cons tx' txs ih =>
    rw [List.foldl_cons, ih, List.getElem?_modify, List.count_cons]
    by_cases h : tx' = tx
    . simp [h, Channel.sendMany_send, Function.comp_def]
    . simp [h]

def copies (userIds : List Uuid) (userId : Uuid) : Nat :=
  if userIds.isEmpty then 1 else userIds.count userId

theorem copies_pos_iff : 0 < copies userIds userId ↔ userIds = [] ∨ userId ∈ userIds := by
  unfold copies
  cases userIds with
  | nil => simp
  | cons userId' userIds => simp [List.count_pos_iff]

theorem copies_eq_one (h : userIds = [] ∨ userId ∈ userIds) (hcount : userIds.count userId ≤ 1)
    : copies userIds userId = 1 := by
  have hpos := copies_pos_iff.mpr h
  unfold copies at hpos ⊢
  split
  . rfl
  . next hempty =>
    rw [if_neg hempty] at hpos
    omega

theorem mem_entries_iff {entry : (_ : Uuid) × ChannelId}
    : entry ∈ s.usersConnections.entries ↔ s.usersConnections.lookup entry.1 = some entry.2 := by
  exact AList.mem_lookup_iff.symm

theorem nodup_senders : (s.usersConnections.entries.map (·.2)).Nodup := by
  apply List.Nodup.map_on _ s.usersConnections.nodupKeys.nodup
  intro entry hentry entry' hentry' heq
  rw [mem_entries_iff] at hentry hentry'
  rw [← heq] at hentry'
  have huser := s.lookup_inj hentry hentry'
  exact Sigma.ext huser (heq_of_eq heq)

theorem count_broadcast (h : s.usersConnections.lookup userId = some tx)
    : (s.usersConnections.entries.map (·.2)).count tx = 1 := by
  apply List.count_eq_one_of_mem s.nodup_senders
  have hentry : (⟨userId, tx⟩ : (_ : Uuid) × ChannelId) ∈ s.usersConnections.entries :=
    mem_entries_iff.mpr h
  exact List.mem_map.mpr ⟨_, hentry, rfl⟩

theorem count_multicast (h : s.usersConnections.lookup userId = some tx)
    : (userIds.filterMap (fun userId => s.usersConnections.lookup userId)).count tx
        =
      userIds.count userId := by
  induction userIds with
  | nil => rfl
  | cons userId' userIds ih =>
    rw [List.filterMap_cons, List.count_cons, ← ih]
    by_cases huser : userId' = userId
    . subst huser
      simp [h]
    . have hne : s.usersConnections.lookup userId' ≠ some tx := by
        intro h'
        exact huser (s.lookup_inj h' h)
      split
      . simp [huser]
      . next tx' htx =>
        have htx' : tx' ≠ tx := by
          intro heq
          exact hne (heq ▸ htx)
        simp [huser, htx']

/--
Sending puts as many copies into a registered user's channel as the recipients ask for.
-/
theorem send_channels {codec : Codec} {notification : NotificationProtobuf} {now : OffsetDateTime}
    {messageId : Uuid} (h : s.usersConnections.lookup userId = some tx)
    : (s.send codec userIds notification now messageId).channels[tx]?
        =
      s.channels[tx]?.map
        (·.sendMany (s.createMessage codec now messageId .ok (some notification)).1
          (copies userIds userId)) := by
  unfold send copies
  cases hempty : userIds.isEmpty with
  | true =>
    simp only [sendBroadcast, setChannels, createMessage, getElem?_sendAll]
    rw [count_broadcast h]
    rfl
  | false =>
    simp only [sendMulticast, setChannels, createMessage, getElem?_sendAll]
    rw [count_multicast h]
    rfl

@[simp]
theorem send_usersConnections {codec : Codec} {notification : NotificationProtobuf}
    {now : OffsetDateTime} {messageId : Uuid}
    : (s.send codec userIds notification now messageId).usersConnections = s.usersConnections := by
  unfold send
  cases userIds.isEmpty <;> rfl

def Connected (userId : Uuid) (s : WebSocketsServiceImpl) : Prop :=
  ∃ tx channel,
    s.usersConnections.lookup userId = some tx ∧ s.channels[tx]? = some channel ∧
      0 < channel.receivers

/-- All a service does to its channels when it sends a message to some of them. -/
structure Sent (message : WebSocketMessage) (txs : List ChannelId) (s s' : WebSocketsServiceImpl)
    : Prop where
  channels : s'.channels = sendAll message txs s.channels
  usersConnections : s'.usersConnections = s.usersConnections
  networkStatusOk : s'.networkStatusOk = s.networkStatusOk
  registered : ∀ tx ∈ txs, ∃ userId, s.usersConnections.lookup userId = some tx

theorem Sent.getElem? {s' : WebSocketsServiceImpl} (h : Sent message txs s s')
    : s'.channels[tx]? = s.channels[tx]?.map (·.sendMany message (txs.count tx)) := by
  rw [h.channels, getElem?_sendAll]

theorem Sent.of_unregistered {s' : WebSocketsServiceImpl} (h : Sent message txs s s')
    (hnone : ∀ userId, s.usersConnections.lookup userId ≠ some tx)
    : s'.channels[tx]? = s.channels[tx]? := by
  have hcount : txs.count tx = 0 := by
    rw [List.count_eq_zero]
    intro htx
    rcases h.registered tx htx with ⟨userId, hlookup⟩
    exact hnone userId hlookup
  rw [h.getElem?, hcount]
  simp

section

variable {codec : Codec} {now : OffsetDateTime} {messageId : Uuid}

theorem registered_of_mem_senders (h : tx ∈ s.usersConnections.entries.map (·.2))
    : ∃ userId, s.usersConnections.lookup userId = some tx := by
  rcases List.mem_map.mp h with ⟨entry, hentry, rfl⟩
  exact ⟨entry.1, mem_entries_iff.mp hentry⟩

theorem send_sent {notification : NotificationProtobuf}
    : ∃ txs, Sent (s.createMessage codec now messageId .ok (some notification)).1 txs s
        (s.send codec userIds notification now messageId) := by
  unfold send
  cases userIds.isEmpty with
  | true => exact ⟨_, rfl, rfl, rfl, fun _ htx => registered_of_mem_senders htx⟩
  | false =>
    refine ⟨_, rfl, rfl, rfl, ?_⟩
    intro tx htx
    rcases List.mem_filterMap.mp htx with ⟨userId, _, hlookup⟩
    exact ⟨userId, hlookup⟩

theorem broadcastNetworkStatus_sent {status : NetworkStatusProtobuf}
    : Sent (s.createMessage codec now messageId status none).1
        (s.usersConnections.entries.map (·.2)) s
        (s.broadcastNetworkStatus codec status now messageId) := by
  exact ⟨rfl, rfl, rfl, fun _ htx => registered_of_mem_senders htx⟩

end

theorem createMessage_notification {codec : Codec} {now : OffsetDateTime} {messageId : Uuid}
    {status : NetworkStatusProtobuf} {notification : Option NotificationProtobuf}
    : (s.createMessage codec now messageId status notification).1.payload.notification
        =
      notification := by
  rfl

end WebSocketsServiceImpl

end TomNotifier.WsDelivery
