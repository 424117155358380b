import TomNotifier.WsDelivery.WebSockets.Connection

/-!
This module contains what the branches of a connection's loop can do, one lemma for each of them.
-/

namespace TomNotifier.WsDelivery

theorem Channel.recv_cases {channel : Channel} {closed : Bool} {rx rx' : Receiver}
    {result : Except RecvError WebSocketMessage} (h : channel.recv closed rx = some (result, rx'))
    : (∃ err next, result = .error err ∧ rx' = { rx with next })
        ∨
      (∃ message, result = .ok message
        ∧ channel.queued.length ≤ rx.next + channel.capacity
        ∧ channel.queued[rx.next]? = some message
        ∧ rx' = { rx with next := rx.next + 1 }) := by
  unfold Channel.recv at h
  dsimp only at h
  split at h
  . simp only [Option.some.injEq, Prod.mk.injEq] at h
    exact .inl ⟨_, _, h.1.symm, h.2.symm⟩
  . next hretained =>
    split at h
    . next message hmessage =>
      simp only [Option.some.injEq, Prod.mk.injEq] at h
      exact .inr ⟨message, h.1.symm, by omega, hmessage, h.2.symm⟩
    . split at h
      . simp only [Option.some.injEq, Prod.mk.injEq] at h
        exact .inl ⟨_, rx.next, h.1.symm, h.2.symm⟩
      . simp at h

namespace WebSocketConnection

variable {c c' : WebSocketConnection} {config : WebSocketsServiceConfig} {codec : WebSocketCodec}
variable {now : Instant} {sent : Except String Unit}

@[simp]
theorem write_eq_ok {message : Outgoing} {failure : String}
    : c.write message failure sent = .ok c'
        ↔
      sent = .ok () ∧ c' = { c with wsTx := c.wsTx ++ [message] } := by
  cases sent with
  | ok u => simp [write, eq_comm]
  | error err => simp [write]

@[simp]
theorem write_eq_error {message : Outgoing} {failure : String} {err : ConnectionError}
    : c.write message failure sent = .error err
        ↔
      ∃ e, sent = .error e ∧ err = .anyhow (failure ++ e) := by
  cases sent with
  | ok u => simp [write]
  | error e => simp [write, eq_comm]

theorem numberPing_eq (c : WebSocketConnection)
    : c.numberPing = { c with pingMessage := c.numberPing.pingMessage } := by
  unfold numberPing
  split <;> rfl

theorem processPing_cases {result : Except ConnectionError WebSocketConnection}
    (h : c.processPing config now sent = result)
    : (1 < c.pingsSent ∧ result = .error (.anyhow "user unresponsive"))
        ∨
      (∃ e, sent = .error e ∧ result = .error (.anyhow ("failed to send ping: " ++ e)))
        ∨
      (c.pingsSent ≤ 1 ∧ sent = .ok () ∧ result = .ok { c with
        wsTx := c.wsTx ++ [.ping (UInt32.toBeBytes c.numberPing.pingMessage)]
        pingMessage := c.numberPing.pingMessage
        pingsSent := c.pingsSent + 1
        pingTime := now + config.pingInterval
      }) := by
  unfold processPing at h
  split at h
  . next hpings => exact .inl ⟨hpings, h.symm⟩
  . next hpings =>
    dsimp only at h
    split at h
    . next err hwrite =>
      rcases write_eq_error.mp hwrite with ⟨e, hsent, rfl⟩
      exact .inr (.inl ⟨e, hsent, h.symm⟩)
    . next c'' hwrite =>
      rcases write_eq_ok.mp hwrite with ⟨hsent, rfl⟩
      rw [numberPing_eq] at h
      exact .inr (.inr ⟨by simpa using hpings, hsent, h.symm⟩)

theorem processMessage_cases {message : Except RecvError WebSocketMessage}
    {result : Except ConnectionError WebSocketConnection}
    (h : c.processMessage config now sent message = result)
    : (∃ count, message = .error (.lagged count) ∧ result = .error (.anyhow
        ("connection lagged. skipped messages: " ++ toString count)))
        ∨
      (message = .error .closed ∧ result = .error (.close "connection forcefully closed"))
        ∨
      (∃ e, sent = .error e ∧ result = .error (.anyhow ("sending message failed: " ++ e)))
        ∨
      (∃ m, message = .ok m ∧ sent = .ok () ∧ result = .ok { c with
        wsTx := c.wsTx ++ [.binary m.payload]
        unconfirmedMessages := c.unconfirmedMessages
          ++ [⟨now + config.retryInterval, config.retryMaxCount, m⟩]
      }) := by
  unfold processMessage at h
  split at h
  . next count => exact .inl ⟨count, rfl, h.symm⟩
  . exact .inr (.inl ⟨rfl, h.symm⟩)
  . next m =>
    split at h
    . next err hwrite =>
      rcases write_eq_error.mp hwrite with ⟨e, hsent, rfl⟩
      exact .inr (.inr (.inl ⟨e, hsent, h.symm⟩))
    . next c'' hwrite =>
      rcases write_eq_ok.mp hwrite with ⟨hsent, rfl⟩
      exact .inr (.inr (.inr ⟨m, rfl, hsent, h.symm⟩))

theorem processRetry_cases {result : Except ConnectionError WebSocketConnection}
    (h : c.processRetry config codec.toCodec now sent = some result)
    : ∃ queued rest, c.unconfirmedMessages = queued :: rest ∧ queued.retryAt ≤ now
        ∧
      ((queued.retriesRemaining = 0 ∧ result = .error (.anyhow ("user unresponsive: message "
          ++ codec.uuidToString queued.message.messageId ++ " not confirmed in time")))
        ∨
      (∃ e, sent = .error e ∧ result = .error (.anyhow ("failed to resend message: " ++ e)))
        ∨
      (queued.retriesRemaining ≠ 0 ∧ sent = .ok () ∧ result = .ok { c with
        wsTx := c.wsTx ++ [.binary queued.message.payload]
        unconfirmedMessages := rest
          ++ [⟨now + config.retryInterval, queued.retriesRemaining - 1, queued.message⟩]
      })) := by
  unfold processRetry at h
  split at h
  . simp at h
  . next queued rest hqueue =>
    split at h
    . next hretry =>
      refine ⟨queued, rest, hqueue, hretry, ?_⟩
      rw [Option.some.injEq] at h
      unfold processUnconfirmedMessage at h
      split at h
      . next hremaining => exact .inl ⟨hremaining, h.symm⟩
      . next hremaining =>
        dsimp only at h
        split at h
        . next err hwrite =>
          rcases write_eq_error.mp hwrite with ⟨e, hsent, rfl⟩
          exact .inr (.inl ⟨e, hsent, h.symm⟩)
        . next c'' hwrite =>
          rcases write_eq_ok.mp hwrite with ⟨hsent, rfl⟩
          exact .inr (.inr ⟨hremaining, hsent, h.symm⟩)
    . simp at h

theorem processIncommingPongMessage_cases {payload : Bytes}
    {result : Except ConnectionError WebSocketConnection}
    (h : c.processIncommingPongMessage config now payload = result)
    : (UInt32.ofBeBytes? payload = none ∧ result = .error (.anyhow
        ("pong payload length invalid: len " ++ toString payload.length ++ " expected 4")))
        ∨
      ((c.pingsSent = 0 ∨ UInt32.ofBeBytes? payload ≠ some c.pingMessage) ∧ result = .ok c)
        ∨
      (c.pingsSent ≠ 0 ∧ UInt32.ofBeBytes? payload = some c.pingMessage ∧ result = .ok { c with
        pingTime := now + config.pingInterval
        pingsSent := 0
      }) := by
  unfold processIncommingPongMessage at h
  split at h
  . next hpong => exact .inl ⟨hpong, h.symm⟩
  . next pongMessage hpong =>
    rw [hpong]
    split at h
    . next hpings => exact .inr (.inl ⟨.inl hpings, h.symm⟩)
    . next hpings =>
      split at h
      . next hne => exact .inr (.inl ⟨.inr (by simpa using hne), h.symm⟩)
      . next heq =>
        rw [Decidable.not_not] at heq
        exact .inr (.inr ⟨hpings, by rw [heq], h.symm⟩)

/-- What an incomming message does unless it ends the loop. -/
theorem processIncommingMessage_cases {incomming : Option (Except String Message)}
    {message : Option WebSocketMessage}
    (h : c.processIncommingMessage config codec now incomming = .ok (c', message))
    : (message = none
        ∧
      (c' = c ∨ c' = { c with pingTime := now + config.pingInterval, pingsSent := 0 }))
        ∨
      (∃ messageId queued,
        c.unconfirmedMessages.find? (fun queued => queued.message.messageId = messageId)
          = some queued
          ∧
        message = some queued.message
          ∧
        c' = { c with
          pingTime := now + config.pingInterval
          pingsSent := 0
          unconfirmedMessages :=
            c.unconfirmedMessages.eraseP (fun queued => queued.message.messageId = messageId)
        }) := by
  unfold processIncommingMessage at h
  split at h
  . unfold processIncommingBinaryMessage at h
    split at h
    . simp at h
    . split at h
      . simp at h
      . next messageId _ =>
        split at h
        . simp only [Except.ok.injEq, Prod.mk.injEq] at h
          exact .inl ⟨h.2.symm, .inl h.1.symm⟩
        . next queued hfind =>
          simp only [Except.ok.injEq, Prod.mk.injEq] at h
          exact .inr ⟨messageId, queued, hfind, h.2.symm, h.1.symm⟩
  . simp at h
  . simp only [Except.ok.injEq, Prod.mk.injEq] at h
    exact .inl ⟨h.2.symm, .inl h.1.symm⟩
  . next payload =>
    rcases processIncommingPongMessage_cases (by rfl)
      with ⟨_, hpong⟩ | ⟨_, hpong⟩ | ⟨_, _, hpong⟩
    . rw [hpong] at h
      simp [Except.map] at h
    . rw [hpong] at h
      simp only [Except.map, Except.ok.injEq, Prod.mk.injEq] at h
      exact .inl ⟨h.2.symm, .inl h.1.symm⟩
    . rw [hpong] at h
      simp only [Except.map, Except.ok.injEq, Prod.mk.injEq] at h
      exact .inl ⟨h.2.symm, .inr h.1.symm⟩
  . simp at h
  . simp at h
  . simp at h

theorem processIncommingMessage_fields {incomming : Option (Except String Message)}
    {message : Option WebSocketMessage}
    (h : c.processIncommingMessage config codec now incomming = .ok (c', message))
    : c'.userId = c.userId ∧ c'.messagesRx = c.messagesRx := by
  rcases processIncommingMessage_cases h with ⟨_, rfl | rfl⟩ | ⟨_, _, _, _, rfl⟩
  . exact ⟨rfl, rfl⟩
  . exact ⟨rfl, rfl⟩
  . exact ⟨rfl, rfl⟩

theorem processPing_fields (h : c.processPing config now sent = .ok c')
    : c'.userId = c.userId ∧ c'.messagesRx = c.messagesRx := by
  rcases processPing_cases h with ⟨_, hc⟩ | ⟨_, _, hc⟩ | ⟨_, _, hc⟩
  . simp at hc
  . simp at hc
  . rw [Except.ok.inj hc]
    exact ⟨rfl, rfl⟩

theorem processRetry_fields (h : c.processRetry config codec.toCodec now sent = some (.ok c'))
    : c'.userId = c.userId ∧ c'.messagesRx = c.messagesRx := by
  rcases processRetry_cases h with ⟨_, _, _, _, ⟨_, hc⟩ | ⟨_, _, hc⟩ | ⟨_, _, hc⟩⟩
  . simp at hc
  . simp at hc
  . rw [Except.ok.inj hc]
    exact ⟨rfl, rfl⟩

theorem processIncommingMessage_errors {incomming : Option (Except String Message)}
    {err : ConnectionError}
    (h : c.processIncommingMessage config codec now incomming = .error err)
    : err = .close "received close message"
        ∨ err = .anyhow "received text message"
        ∨ err = .anyhow "incomming messages stream closed"
        ∨ err = .anyhow "failed to decode confirmation"
        ∨ err = .anyhow "failed to decode confirmation: invalid message_id"
        ∨ (∃ e, err = .anyhow ("failed to read incomming message: " ++ e))
        ∨ ∃ len, err = .anyhow ("pong payload length invalid: len " ++ len ++ " expected 4") := by
  unfold processIncommingMessage at h
  split at h
  . unfold processIncommingBinaryMessage at h
    split at h
    . simp [← Except.error.inj h]
    . split at h
      . simp [← Except.error.inj h]
      . split at h <;> simp at h
  . simp [← Except.error.inj h]
  . simp at h
  . next payload =>
    rcases processIncommingPongMessage_cases (by rfl)
      with ⟨_, hpong⟩ | ⟨_, hpong⟩ | ⟨_, _, hpong⟩
    . rw [hpong] at h
      rw [← Except.error.inj h]
      iterate 6 right
      exact ⟨_, rfl⟩
    . rw [hpong] at h
      simp [Except.map] at h
    . rw [hpong] at h
      simp [Except.map] at h
  . simp [← Except.error.inj h]
  . rw [← Except.error.inj h]
    iterate 5 right
    exact .inl ⟨_, rfl⟩
  . simp [← Except.error.inj h]

end WebSocketConnection

end TomNotifier.WsDelivery
