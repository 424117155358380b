import TomNotifier.WsDelivery.WebSockets.Server

/-!
This module contains which channels a message to a list of users is put into, and how often.
-/

namespace TomNotifier.WsDelivery

namespace WebSocketsServiceImpl

/-- A message to these users is for the channel, and there is a connection that can read it. -/
def Reaches (userIds : List Uuid) (tx : ChannelId) (s : WebSocketsServiceImpl) : Prop :=
  ∃ userId channel,
    s.usersConnections.lookup userId = some tx ∧ s.channels[tx]? = some channel ∧
      0 < channel.receivers ∧ (userIds = [] ∨ userId ∈ userIds)

structure SentOnce (userIds : List Uuid) (message : WebSocketMessage)
    (s s' : WebSocketsServiceImpl) : Prop where
  addressed : ∀ tx channel, s.channels[tx]? = some channel → s.Reaches userIds tx →
    s'.channels[tx]? = some { channel with queued := channel.queued ++ [message] }
  other : ∀ tx, ¬s.Reaches userIds tx → s'.channels[tx]? = s.channels[tx]?

variable {s : WebSocketsServiceImpl} {tx : ChannelId} {userIds : List Uuid}
variable {codec : Codec} {notification : NotificationProtobuf} {now : OffsetDateTime}
variable {messageId : Uuid}

theorem send_channels_of_not_reaches (h : ¬s.Reaches userIds tx)
    : (s.send codec userIds notification now messageId).channels[tx]? = s.channels[tx]? := by
  by_cases hregistered : ∃ userId, s.usersConnections.lookup userId = some tx
  . rcases hregistered with ⟨userId, hlookup⟩
    rw [send_channels hlookup]
    cases hchannel : s.channels[tx]? with
    | none => rfl
    | some channel =>
      rw [Option.map_some, Option.some.injEq]
      by_cases hreceivers : channel.receivers = 0
      . simp [Channel.sendMany, hreceivers]
      . have hcopies : copies userIds userId = 0 := by
          apply Nat.eq_zero_of_not_pos
          intro hpos
          rw [copies_pos_iff] at hpos
          exact h ⟨userId, channel, hlookup, hchannel, Nat.pos_of_ne_zero hreceivers, hpos⟩
        rw [hcopies, Channel.sendMany_zero]
  . rw [not_exists] at hregistered
    rcases send_sent (s := s) with ⟨txs, hsent⟩
    exact hsent.of_unregistered hregistered

/--
The users who have a connection get one copy each exactly when none of them is addressed repeatedly.
-/
theorem sent_once_iff (s : WebSocketsServiceImpl) (codec : Codec) (userIds : List Uuid)
    (notification : NotificationProtobuf) (now : OffsetDateTime) (messageId : Uuid)
    : SentOnce userIds (s.createMessage codec now messageId .ok (some notification)).1 s
          (s.send codec userIds notification now messageId)
        ↔
      ∀ userId, s.Connected userId → userIds.count userId ≤ 1 := by
  constructor
  . rintro ⟨haddressed, _⟩ userId ⟨tx, channel, hlookup, hchannel, hreceivers⟩
    by_cases hmem : userId ∈ userIds
    . have hcopies := haddressed tx channel hchannel
        ⟨userId, channel, hlookup, hchannel, hreceivers, .inr hmem⟩
      rw [send_channels hlookup, hchannel, Option.map_some, Option.some.injEq] at hcopies
      have hqueued := congrArg Channel.queued hcopies
      rw [Channel.sendMany_queued hreceivers] at hqueued
      have hlength := congrArg List.length hqueued
      have hcount : copies userIds userId = userIds.count userId :=
        if_neg (by simpa using List.ne_nil_of_mem hmem)
      simp only [List.length_append, List.length_replicate, List.length_singleton] at hlength
      omega
    . rw [List.count_eq_zero.mpr hmem]
      exact Nat.zero_le _
  . intro honce
    constructor
    . rintro tx channel hchannel ⟨userId, channel', hlookup, hchannel', hreceivers, haddressed⟩
      rw [hchannel, Option.some.injEq] at hchannel'
      subst hchannel'
      have hcopies : copies userIds userId = 1 := by
        apply copies_eq_one haddressed
        exact honce userId ⟨tx, channel, hlookup, hchannel, hreceivers⟩
      rw [send_channels hlookup, hchannel, Option.map_some, hcopies, Option.some.injEq]
      exact Channel.sendMany_one hreceivers
    . intro tx htx
      exact send_channels_of_not_reaches htx

open Server (sampleConfig sampleCodec sampleNotification)

def sampleService : WebSocketsServiceImpl := new.addUser ⟨1⟩ (Channel.new 8)

-- This is a new service after the first user's device has connected.
example : new.handleClient sampleConfig sampleCodec.toCodec ⟨1⟩ 0 ⟨1⟩ = some (⟨0, 0⟩, sampleService) := by
  rfl

/--
A user who is in the list twice gets the notification twice.
-/
theorem sent_twice
    : (sampleService.send sampleCodec.toCodec [⟨1⟩, ⟨1⟩] sampleNotification 0 ⟨100⟩).channels.map
          (·.queued.length)
        = [2]
      ∧ ¬SentOnce [⟨1⟩, ⟨1⟩]
          (sampleService.createMessage sampleCodec.toCodec 0 ⟨100⟩ .ok (some sampleNotification)).1
          sampleService
          (sampleService.send sampleCodec.toCodec [⟨1⟩, ⟨1⟩] sampleNotification 0 ⟨100⟩) := by
  refine ⟨rfl, ?_⟩
  intro honce
  have haddressed := honce.addressed 0 (Channel.new 8) rfl
    ⟨⟨1⟩, Channel.new 8, rfl, rfl, by decide, .inr List.mem_cons_self⟩
  exact absurd (congrArg (Option.map (·.queued.length)) haddressed) (by decide)

end WebSocketsServiceImpl

end TomNotifier.WsDelivery
