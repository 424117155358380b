import Mathlib.Data.List.Chain
import Mathlib.Data.List.Forall2
import Mathlib.Data.List.Perm.Basic
import TomNotifier.WsDelivery.WebSockets.Branches
import TomNotifier.WsDelivery.WebSockets.Server

/-!
This module contains how often and when the loop of a connection transmits a message.
-/

namespace TomNotifier.WsDelivery

section Aligned

variable {α β : Type} {R S : α → β → Prop} {l : List α} {l' : List β} {p : α → Bool}

theorem forall₂_imp_mem (h : List.Forall₂ R l l') (himp : ∀ a, ∀ b ∈ l', R a b → S a b)
    : List.Forall₂ S l l' := by
  rw [List.forall₂_iff_zip] at h ⊢
  refine ⟨h.1, ?_⟩
  intro a b hab
  exact himp a b (List.of_mem_zip hab).2 (h.2 hab)

theorem exists_mem_of_forall₂ {a : α} (h : List.Forall₂ R l l') (ha : a ∈ l) : ∃ b ∈ l', R a b := by
  induction h with
  | nil => simp at ha
  | cons hab _ ih =>
    rcases List.mem_cons.mp ha with rfl | ha
    . exact ⟨_, List.mem_cons_self, hab⟩
    . rcases ih ha with ⟨b, hb, hab⟩
      exact ⟨b, List.mem_cons_of_mem _ hb, hab⟩

theorem forall₂_eraseP (h : List.Forall₂ R l l')
    : List.Forall₂ R (l.eraseP p) (l'.eraseIdx (l.findIdx p)) := by
  induction h with
  | nil => simp
  | cons hab hrest ih =>
    next a b l l' =>
    by_cases hp : p a
    . simpa [hp, List.findIdx_cons] using hrest
    . simpa [hp, List.findIdx_cons] using ⟨hab, ih⟩

end Aligned

section

variable {ε α β : Type} {f : α → β} {x : Except ε α} {b : β} {err : ε}

theorem map_eq_ok : x.map f = .ok b ↔ ∃ a, x = .ok a ∧ f a = b := by
  cases x <;> simp [Except.map]

theorem map_eq_error : x.map f = .error err ↔ x = .error err := by
  cases x <;> simp [Except.map]

end

theorem toNat_sub_one {n : UInt8} (h : n ≠ 0) : (n - 1).toNat + 1 = n.toNat := by
  have hpos : 0 < n.toNat := Nat.pos_of_ne_zero (fun h0 => h (UInt8.toNat_inj.mp h0))
  rw [UInt8.toNat_sub_of_le n 1 hpos]
  exact Nat.sub_add_cancel hpos

def Outgoing.payload? : Outgoing → Option WebSocketNotificationProtobuf
  | .binary payload => some payload
  | .ping _ => none

inductive ConnectionLabel where
  | ping (now : Instant) (sent : Except String Unit)
  | incomming (now : Instant) (message : Option (Except String Message))
  | message (now : Instant) (sent : Except String Unit) (message : Except RecvError WebSocketMessage)
  | retry (now : Instant) (sent : Except String Unit)

/-- The loop of `try_run` with the history of its messages, which are numbered as they are taken. -/
structure ConnectionLoop where
  connection : WebSocketConnection
  now : Instant
  taken : List WebSocketMessage
  -- the numbers of `unconfirmedMessages`
  queue : List Nat
  confirmed : List Nat
  sent : List (Nat × Instant)

namespace ConnectionLoop

def init (config : WebSocketsServiceConfig) (userId : Uuid) (messagesRx : Receiver) (now : Instant)
    : ConnectionLoop where
  connection := .new config userId messagesRx now
  now
  taken := []
  queue := []
  confirmed := []
  sent := []

def take (s : ConnectionLoop) (now : Instant) : Except RecvError WebSocketMessage → ConnectionLoop
  | .error _ => s
  | .ok message =>
    { s with
      taken := s.taken ++ [message]
      queue := s.queue ++ [s.taken.length]
      sent := s.sent ++ [(s.taken.length, now)] }

def resend (s : ConnectionLoop) (now : Instant) : ConnectionLoop :=
  { s with
    queue := s.queue.tail ++ s.queue.head?.toList
    sent := s.sent ++ s.queue.head?.toList.map (·, now) }

def confirm (s : ConnectionLoop) : Option WebSocketMessage → ConnectionLoop
  | none => s
  | some message =>
    let i := s.connection.unconfirmedMessages.findIdx
      (fun queued => queued.message.messageId = message.messageId)
    { s with queue := s.queue.eraseIdx i, confirmed := s.confirmed ++ s.queue[i]?.toList }

def settle (s : ConnectionLoop) (now : Instant) (connection : WebSocketConnection)
    : ConnectionLoop :=
  { s with connection, now }

section

variable (config : WebSocketsServiceConfig) (codec : WebSocketCodec)

/-- A round of the loop. It ends with an error, or goes on. -/
def step (s : ConnectionLoop) : ConnectionLabel → Option (Except ConnectionError ConnectionLoop)
  | .ping now sent =>
    if s.now ≤ now ∧ s.connection.pingTime ≤ now then
      some ((s.connection.processPing config now sent).map (s.settle now))
    else
      none
  | .incomming now message =>
    if s.now ≤ now then
      some ((s.connection.processIncommingMessage config codec now message).map
        fun (connection, message) => (s.confirm message).settle now connection)
    else
      none
  | .message now sent message =>
    if s.now ≤ now then
      some ((s.connection.processMessage config now sent message).map
        ((s.take now message).settle now))
    else
      none
  | .retry now sent =>
    if s.now ≤ now then
      (s.connection.processRetry config codec.toCodec now sent).map
        (·.map ((s.resend now).settle now))
    else
      none

def next (s : ConnectionLoop) (label : ConnectionLabel) : Option ConnectionLoop :=
  match s.step config codec label with
  | some (.ok s') => some s'
  | _ => none

end

/-- What a round does to the loop that goes on. -/
inductive Round (config : WebSocketsServiceConfig) (codec : WebSocketCodec) (s : ConnectionLoop)
    : ConnectionLabel → ConnectionLoop → Prop where
  | ping {now : Instant} {sent : Except String Unit} : s.now ≤ now → s.connection.pingTime ≤ now →
      s.connection.pingsSent ≤ 1 →
      Round config codec s (.ping now sent) (s.settle now { s.connection with
        wsTx := s.connection.wsTx
          ++ [.ping (UInt32.toBeBytes s.connection.numberPing.pingMessage)]
        pingMessage := s.connection.numberPing.pingMessage
        pingsSent := s.connection.pingsSent + 1
        pingTime := now + config.pingInterval
      })
  | incomming {now : Instant} {incomming : Option (Except String Message)} {c : WebSocketConnection}
      {message : Option WebSocketMessage} : s.now ≤ now →
      s.connection.processIncommingMessage config codec now incomming = .ok (c, message) →
      Round config codec s (.incomming now incomming) ((s.confirm message).settle now c)
  | message {now : Instant} {sent : Except String Unit} {message : WebSocketMessage} : s.now ≤ now →
      Round config codec s (.message now sent (.ok message))
        ((s.take now (.ok message)).settle now { s.connection with
          wsTx := s.connection.wsTx ++ [.binary message.payload]
          unconfirmedMessages := s.connection.unconfirmedMessages
            ++ [⟨now + config.retryInterval, config.retryMaxCount, message⟩]
        })
  | retry {now : Instant} {sent : Except String Unit} {queued : WebSocketUnconfirmedMessage}
      {rest : List WebSocketUnconfirmedMessage} : s.now ≤ now →
      s.connection.unconfirmedMessages = queued :: rest → queued.retryAt ≤ now →
      queued.retriesRemaining ≠ 0 →
      Round config codec s (.retry now sent) ((s.resend now).settle now { s.connection with
        wsTx := s.connection.wsTx ++ [.binary queued.message.payload]
        unconfirmedMessages := rest
          ++ [⟨now + config.retryInterval, queued.retriesRemaining - 1, queued.message⟩]
      })

theorem round_of_step {s s' : ConnectionLoop} {config : WebSocketsServiceConfig}
    {codec : WebSocketCodec} {label : ConnectionLabel}
    (hstep : s.step config codec label = some (.ok s')) : s.Round config codec label s' := by
  cases label with
  | ping now sent =>
    simp only [step, Option.ite_none_right_eq_some, Option.some.injEq, map_eq_ok] at hstep
    rcases hstep with ⟨⟨hnow, htime⟩, c, hping, rfl⟩
    rcases WebSocketConnection.processPing_cases hping with ⟨_, hc⟩ | ⟨_, _, hc⟩ | ⟨hsent, _, hc⟩
    . simp at hc
    . simp at hc
    . rw [Except.ok.injEq] at hc
      rw [hc]
      exact .ping hnow htime hsent
  | incomming now message =>
    simp only [step, Option.ite_none_right_eq_some, Option.some.injEq, map_eq_ok] at hstep
    rcases hstep with ⟨hnow, ⟨c, confirmed⟩, hincomming, rfl⟩
    exact .incomming hnow hincomming
  | message now sent message =>
    simp only [step, Option.ite_none_right_eq_some, Option.some.injEq, map_eq_ok] at hstep
    rcases hstep with ⟨hnow, c, hmessage, rfl⟩
    rcases WebSocketConnection.processMessage_cases hmessage
      with ⟨_, _, hc⟩ | ⟨_, hc⟩ | ⟨_, _, hc⟩ | ⟨message, rfl, _, hc⟩
    . simp at hc
    . simp at hc
    . simp at hc
    . rw [Except.ok.injEq] at hc
      rw [hc]
      exact .message hnow
  | retry now sent =>
    simp only [step, Option.ite_none_right_eq_some, Option.map_eq_some_iff, map_eq_ok] at hstep
    rcases hstep with ⟨hnow, result, hretry, c, rfl, rfl⟩
    rcases WebSocketConnection.processRetry_cases hretry
      with ⟨queued, rest, hqueue, hdue, ⟨_, hc⟩ | ⟨_, _, hc⟩ | ⟨hremaining, _, hc⟩⟩
    . simp at hc
    . simp at hc
    . rw [Except.ok.injEq] at hc
      rw [hc]
      exact .retry hnow hqueue hdue hremaining

def transmissions (s : ConnectionLoop) (k : Nat) : List Instant :=
  (s.sent.filter (fun entry => entry.1 = k)).map (·.2)

/-- Every queued message has used up the retries it does not have any more. -/
structure Queued (config : WebSocketsServiceConfig) (s : ConnectionLoop)
    (queued : WebSocketUnconfirmedMessage) (k : Nat) : Prop where
  message : s.taken[k]? = some queued.message
  remaining : queued.retriesRemaining ≤ config.retryMaxCount
  count : (s.transmissions k).length
    = 1 + config.retryMaxCount.toNat - queued.retriesRemaining.toNat
  last : ∃ t, (s.transmissions k).getLast? = some t ∧ queued.retryAt = t + config.retryInterval

structure Bookkeeping (config : WebSocketsServiceConfig) (s : ConnectionLoop) : Prop where
  ordered : s.connection.unconfirmedMessages.Pairwise
    (fun queued queued' => queued.retryAt ≤ queued'.retryAt)
  queued : List.Forall₂ (s.Queued config) s.connection.unconfirmedMessages s.queue
  once : (s.confirmed ++ s.queue).Perm (List.range s.taken.length)
  spaced : ∀ k, (s.transmissions k).IsChain (fun t t' => t + config.retryInterval ≤ t')
  limited : ∀ k, (s.transmissions k).length ≤ 1 + config.retryMaxCount.toNat
  past : ∀ entry ∈ s.sent, entry.1 < s.taken.length ∧ entry.2 ≤ s.now
  written : s.connection.wsTx.filterMap Outgoing.payload?
    = s.sent.filterMap (fun entry => s.taken[entry.1]?.map (·.payload))

/-- The last transmission of a message is long enough ago, and there was no confirmation. -/
structure Expired (config : WebSocketsServiceConfig) (s : ConnectionLoop) (now : Instant)
    (message : WebSocketMessage) (k : Nat) : Prop where
  taken : s.taken[k]? = some message
  unconfirmed : k ∉ s.confirmed
  transmitted : (s.transmissions k).length = 1 + config.retryMaxCount.toNat
  due : ∃ t, (s.transmissions k).getLast? = some t ∧ t + config.retryInterval ≤ now

variable {s s' : ConnectionLoop} {config : WebSocketsServiceConfig} {codec : WebSocketCodec}
variable {now t : Instant} {k : Nat} {c : WebSocketConnection} {queued : WebSocketUnconfirmedMessage}

theorem transmissions_append {j : Nat} (h : s'.sent = s.sent ++ [(j, t)])
    : s'.transmissions k = s.transmissions k ++ if j = k then [t] else [] := by
  unfold transmissions
  rw [h]
  by_cases hj : j = k
  . simp [hj]
  . simp [hj]

theorem transmissions_append_of_ne {j : Nat} (h : s'.sent = s.sent ++ [(j, t)]) (hj : k ≠ j)
    : s'.transmissions k = s.transmissions k := by
  rw [transmissions_append h, if_neg (Ne.symm hj), List.append_nil]

theorem mem_sent_of_mem_transmissions (h : t ∈ s.transmissions k) : (k, t) ∈ s.sent := by
  simpa [transmissions] using h

theorem Queued.mono (h : s.Queued config queued k) (htaken : s.taken <+: s'.taken)
    (htransmissions : s'.transmissions k = s.transmissions k) : s'.Queued config queued k where
  message := by
    rcases htaken with ⟨messages, heq⟩
    have hk := (List.getElem?_eq_some_iff.mp h.message).1
    rw [← heq, List.getElem?_append_left hk, h.message]
  remaining := h.remaining
  count := by rw [htransmissions, h.count]
  last := by rw [htransmissions]; exact h.last

theorem bookkeeping_init {userId : Uuid} {messagesRx : Receiver}
    : (init config userId messagesRx now).Bookkeeping config where
  ordered := List.Pairwise.nil
  queued := List.Forall₂.nil
  once := List.Perm.refl _
  spaced := fun _ => List.IsChain.nil
  limited := fun _ => Nat.zero_le _
  past := by simp [init]
  written := rfl

namespace Bookkeeping

theorem transmissions_le (h : s.Bookkeeping config) (ht : t ∈ s.transmissions k) : t ≤ s.now := by
  exact (h.past _ (mem_sent_of_mem_transmissions ht)).2

theorem transmissions_length (h : s.Bookkeeping config) : s.transmissions s.taken.length = [] := by
  rw [List.eq_nil_iff_forall_not_mem]
  intro t ht
  exact Nat.lt_irrefl _ (h.past _ (mem_sent_of_mem_transmissions ht)).1

theorem retryAt_le (h : s.Bookkeeping config) (hmem : queued ∈ s.connection.unconfirmedMessages)
    : queued.retryAt ≤ s.now + config.retryInterval := by
  rcases exists_mem_of_forall₂ h.queued hmem with ⟨k, _, hqueued⟩
  rcases hqueued.last with ⟨t, ht, hretry⟩
  rw [hretry]
  exact Nat.add_le_add_right (h.transmissions_le (List.mem_of_getLast? ht)) _

-- A message that is sent now goes to the end of the queue.
theorem ordered_append (h : s.Bookkeeping config) (hnow : s.now ≤ now)
    {unconfirmedMessages : List WebSocketUnconfirmedMessage}
    (hsublist : unconfirmedMessages.Sublist s.connection.unconfirmedMessages)
    (hretry : queued.retryAt = now + config.retryInterval)
    : (unconfirmedMessages ++ [queued]).Pairwise
        (fun queued queued' => queued.retryAt ≤ queued'.retryAt) := by
  rw [List.pairwise_append]
  refine ⟨h.ordered.sublist hsublist, List.pairwise_singleton _ _, ?_⟩
  intro queued' hmem queued'' hmem'
  rw [List.mem_singleton.mp hmem', hretry]
  calc queued'.retryAt
    _ ≤ s.now + config.retryInterval := h.retryAt_le (hsublist.subset hmem)
    _ ≤ now + config.retryInterval := Nat.add_le_add_right hnow _

theorem nodup_queue (h : s.Bookkeeping config) : s.queue.Nodup := by
  have hnodup := h.once.nodup_iff.mpr List.nodup_range
  exact hnodup.of_append_right

theorem settle (h : s.Bookkeeping config) (hnow : s.now ≤ now)
    (hqueue : c.unconfirmedMessages = s.connection.unconfirmedMessages)
    (hwritten : c.wsTx.filterMap Outgoing.payload?
      = s.connection.wsTx.filterMap Outgoing.payload?)
    : (s.settle now c).Bookkeeping config where
  ordered := by
    rw [show (s.settle now c).connection.unconfirmedMessages = _ from hqueue]
    exact h.ordered
  queued := by
    rw [show (s.settle now c).connection.unconfirmedMessages = _ from hqueue]
    exact h.queued.imp (fun _ _ hqueued => hqueued.mono (List.prefix_refl _) rfl)
  once := h.once
  spaced := h.spaced
  limited := h.limited
  past := fun entry hentry => ⟨(h.past entry hentry).1, Nat.le_trans (h.past entry hentry).2 hnow⟩
  written := hwritten.trans h.written

theorem take (h : s.Bookkeeping config) (hnow : s.now ≤ now) (message : WebSocketMessage)
    : ((s.take now (.ok message)).settle now { s.connection with
        wsTx := s.connection.wsTx ++ [.binary message.payload]
        unconfirmedMessages := s.connection.unconfirmedMessages
          ++ [⟨now + config.retryInterval, config.retryMaxCount, message⟩]
      }).Bookkeeping config := by
  generalize hs' : (s.take now (.ok message)).settle now _ = s'
  have hsent : s'.sent = s.sent ++ [(s.taken.length, now)] := by rw [← hs']; rfl
  have htaken : s'.taken = s.taken ++ [message] := by rw [← hs']; rfl
  have hother : ∀ k, k ≠ s.taken.length → s'.transmissions k = s.transmissions k :=
    fun k hk => transmissions_append_of_ne hsent hk
  have hnew : s'.transmissions s.taken.length = [now] := by
    rw [transmissions_append hsent, h.transmissions_length, if_pos rfl, List.nil_append]
  constructor
  . rw [← hs']
    exact h.ordered_append hnow (List.Sublist.refl _) rfl
  . have hold : List.Forall₂ (s'.Queued config) s.connection.unconfirmedMessages s.queue := by
      apply forall₂_imp_mem h.queued
      intro queued k hk hqueued
      have hlt : k < s.taken.length := (List.getElem?_eq_some_iff.mp hqueued.message).1
      exact hqueued.mono (htaken ▸ List.prefix_append _ _) (hother k (Nat.ne_of_lt hlt))
    have hlast : s'.Queued config ⟨now + config.retryInterval, config.retryMaxCount, message⟩
        s.taken.length := by
      refine ⟨by simp [htaken], UInt8.le_refl _, by simp [hnew], ⟨now, by simp [hnew], rfl⟩⟩
    have happend := List.rel_append hold (List.Forall₂.cons hlast List.Forall₂.nil)
    rw [← hs'] at happend ⊢
    exact happend
  . have hqueue : s'.queue = s.queue ++ [s.taken.length] := by rw [← hs']; rfl
    have hconfirmed : s'.confirmed = s.confirmed := by rw [← hs']; rfl
    rw [hqueue, hconfirmed, htaken, List.length_append, List.length_singleton, List.range_succ,
      ← List.append_assoc]
    exact h.once.append_right _
  . intro k
    by_cases hk : k = s.taken.length
    . rw [hk, hnew]
      exact List.isChain_singleton _
    . rw [hother k hk]
      exact h.spaced k
  . intro k
    by_cases hk : k = s.taken.length
    . rw [hk, hnew, List.length_singleton]
      omega
    . rw [hother k hk]
      exact h.limited k
  . intro entry hentry
    have hnow' : s'.now = now := by rw [← hs']; rfl
    rw [hsent, List.mem_append, List.mem_singleton] at hentry
    rw [htaken, hnow', List.length_append, List.length_singleton]
    rcases hentry with hentry | rfl
    . rcases h.past entry hentry with ⟨hlt, hle⟩
      exact ⟨Nat.lt_succ_of_lt hlt, Nat.le_trans hle hnow⟩
    . exact ⟨Nat.lt_succ_self _, Nat.le_refl _⟩
  . rw [← hs']
    simp only [ConnectionLoop.settle, ConnectionLoop.take, List.filterMap_append, h.written]
    congr 1
    . apply List.filterMap_congr
      intro entry hentry
      rw [List.getElem?_append_left (h.past entry hentry).1]
    . simp [Outgoing.payload?]

theorem resend (h : s.Bookkeeping config) (hnow : s.now ≤ now)
    {rest : List WebSocketUnconfirmedMessage}
    (hqueue : s.connection.unconfirmedMessages = queued :: rest) (hretry : queued.retryAt ≤ now)
    (hremaining : queued.retriesRemaining ≠ 0)
    : ((s.resend now).settle now { s.connection with
        wsTx := s.connection.wsTx ++ [.binary queued.message.payload]
        unconfirmedMessages := rest
          ++ [⟨now + config.retryInterval, queued.retriesRemaining - 1, queued.message⟩]
      }).Bookkeeping config := by
  generalize hs' : (s.resend now).settle now _ = s'
  have haligned := h.queued
  rw [hqueue, List.forall₂_cons_left_iff] at haligned
  rcases haligned with ⟨k, queue, hfront, hrest, hqueue'⟩
  have hnodup : (k :: queue).Nodup := hqueue' ▸ h.nodup_queue
  have hsent : s'.sent = s.sent ++ [(k, now)] := by
    rw [← hs', ConnectionLoop.settle, ConnectionLoop.resend, hqueue']
    rfl
  have htaken : s'.taken = s.taken := by rw [← hs']; rfl
  have hother : ∀ j, j ≠ k → s'.transmissions j = s.transmissions j :=
    fun j hj => transmissions_append_of_ne hsent hj
  have hnew : s'.transmissions k = s.transmissions k ++ [now] := by
    rw [transmissions_append hsent, if_pos rfl]
  have hdecrement := toNat_sub_one hremaining
  have hmax : queued.retriesRemaining.toNat ≤ config.retryMaxCount.toNat := hfront.remaining
  constructor
  . rw [← hs']
    apply h.ordered_append hnow _ rfl
    rw [hqueue]
    exact List.sublist_cons_self _ _
  . have hrest' : List.Forall₂ (s'.Queued config) rest queue := by
      apply forall₂_imp_mem hrest
      intro queued' j hj hqueued
      have hne : j ≠ k := fun heq => (List.nodup_cons.mp hnodup).1 (heq ▸ hj)
      exact hqueued.mono (htaken ▸ List.prefix_refl _) (hother j hne)
    have hlast : s'.Queued config
        ⟨now + config.retryInterval, queued.retriesRemaining - 1, queued.message⟩ k := by
      constructor
      . rw [htaken]
        exact hfront.message
      . rw [UInt8.le_iff_toNat_le]
        dsimp only
        omega
      . rw [hnew, List.length_append, List.length_singleton, hfront.count]
        dsimp only
        omega
      . exact ⟨now, by simp [hnew], rfl⟩
    have happend := List.rel_append hrest' (List.Forall₂.cons hlast List.Forall₂.nil)
    rw [← hs', ConnectionLoop.settle, ConnectionLoop.resend, hqueue'] at happend ⊢
    exact happend
  . have hperm : s'.queue.Perm s.queue := by
      rw [← hs', ConnectionLoop.settle, ConnectionLoop.resend, hqueue']
      exact List.perm_append_singleton _ _
    have hconfirmed : s'.confirmed = s.confirmed := by rw [← hs']; rfl
    rw [hconfirmed, htaken]
    exact (hperm.append_left _).trans h.once
  . intro j
    by_cases hj : j = k
    . rw [hj, hnew, List.isChain_append]
      refine ⟨h.spaced k, List.isChain_singleton _, ?_⟩
      rcases hfront.last with ⟨t, ht, heq⟩
      rintro t' ht' _ ⟨⟩
      rw [ht, Option.mem_some] at ht'
      rw [← ht', ← heq]
      exact hretry
    . rw [hother j hj]
      exact h.spaced j
  . intro j
    by_cases hj : j = k
    . rw [hj, hnew, List.length_append, List.length_singleton, hfront.count]
      omega
    . rw [hother j hj]
      exact h.limited j
  . intro entry hentry
    have hnow' : s'.now = now := by rw [← hs']; rfl
    rw [hsent, List.mem_append, List.mem_singleton] at hentry
    rw [htaken, hnow']
    rcases hentry with hentry | rfl
    . exact ⟨(h.past entry hentry).1, Nat.le_trans (h.past entry hentry).2 hnow⟩
    . exact ⟨(List.getElem?_eq_some_iff.mp hfront.message).1, Nat.le_refl _⟩
  . rw [hsent, htaken, List.filterMap_append, ← h.written, ← hs']
    simp [ConnectionLoop.settle, ConnectionLoop.resend, Outgoing.payload?, hfront.message]

theorem confirm (h : s.Bookkeeping config) (hnow : s.now ≤ now) {messageId : Uuid}
    (hfind : s.connection.unconfirmedMessages.find?
      (fun queued => queued.message.messageId = messageId) = some queued)
    : ((s.confirm (some queued.message)).settle now { s.connection with
        pingTime := now + config.pingInterval
        pingsSent := 0
        unconfirmedMessages := s.connection.unconfirmedMessages.eraseP
          (fun queued => queued.message.messageId = messageId)
      }).Bookkeeping config := by
  have hid : queued.message.messageId = messageId := by simpa using List.find?_some hfind
  subst hid
  refine ⟨h.ordered.sublist List.eraseP_sublist, ?_, ?_, h.spaced, h.limited, ?_, h.written⟩
  . exact (forall₂_eraseP h.queued).imp
      (fun _ _ hqueued => hqueued.mono (List.prefix_refl _) rfl)
  . generalize hp : (fun queued' : WebSocketUnconfirmedMessage =>
      decide (queued'.message.messageId = queued.message.messageId)) = p at hfind
    have hlt : s.connection.unconfirmedMessages.findIdx p < s.queue.length := by
      rw [← h.queued.length_eq]
      exact List.findIdx_lt_length_of_exists
        ⟨queued, List.mem_of_find?_eq_some hfind, List.find?_some hfind⟩
    simp only [ConnectionLoop.settle, ConnectionLoop.confirm, hp]
    rw [List.getElem?_eq_getElem hlt, Option.toList_some, List.append_assoc, List.singleton_append]
    exact ((List.getElem_cons_eraseIdx_perm hlt).append_left _).trans h.once
  . intro entry hentry
    exact ⟨(h.past entry hentry).1, Nat.le_trans (h.past entry hentry).2 hnow⟩

theorem step {label : ConnectionLabel} (h : s.Bookkeeping config)
    (hstep : s.step config codec label = some (.ok s')) : s'.Bookkeeping config := by
  cases ConnectionLoop.round_of_step hstep with
  | ping hnow _ _ => exact h.settle hnow rfl (by simp [Outgoing.payload?])
  | incomming hnow hincomming =>
    rcases WebSocketConnection.processIncommingMessage_cases hincomming
      with ⟨rfl, hc⟩ | ⟨messageId, queued, hfind, rfl, rfl⟩
    . rcases hc with rfl | rfl <;> exact h.settle hnow rfl rfl
    . exact h.confirm hnow hfind
  | message hnow => exact h.take hnow _
  | retry hnow hqueue hdue hremaining => exact h.resend hnow hqueue hdue hremaining

theorem expired (h : s.Bookkeeping config) {rest : List WebSocketUnconfirmedMessage}
    (hqueue : s.connection.unconfirmedMessages = queued :: rest) (hretry : queued.retryAt ≤ now)
    (hremaining : queued.retriesRemaining = 0) : ∃ k, s.Expired config now queued.message k := by
  have haligned := h.queued
  rw [hqueue, List.forall₂_cons_left_iff] at haligned
  rcases haligned with ⟨k, queue, hfront, _, hqueue'⟩
  have hdisjoint := (h.once.nodup_iff.mpr List.nodup_range).disjoint
  refine ⟨k, hfront.message, ?_, ?_, ?_⟩
  . intro hk
    exact hdisjoint hk (hqueue' ▸ List.mem_cons_self)
  . rw [hfront.count, hremaining]
    rfl
  . rcases hfront.last with ⟨t, ht, heq⟩
    exact ⟨t, ht, heq ▸ hretry⟩

end Bookkeeping

theorem bookkeeping_of_run {userId : Uuid} {messagesRx : Receiver} {labels : List ConnectionLabel}
    (hrun : System.run (next config codec) (init config userId messagesRx now) labels = some s)
    : s.Bookkeeping config := by
  apply System.run_invariant (P := fun s => s.Bookkeeping config) _ bookkeeping_init hrun
  intro s label s' h hnext
  unfold next at hnext
  split at hnext
  . next s'' hstep =>
    rw [Option.some.injEq] at hnext
    exact h.step (hnext ▸ hstep)
  . simp at hnext

theorem append_ne_unresponsive {l : List Char} {t x : String} {a : Char} (ha : a ≠ 'u')
    : String.ofList (a :: l) ++ t
        ≠
      "user unresponsive: message " ++ x ++ " not confirmed in time" := by
  intro heq
  have hhead := congrArg (fun s : String => s.toList.head?) heq
  have hu : "user unresponsive: message ".toList = 'u' :: "ser unresponsive: message ".toList := by
    rw [String.toList_ofList, String.toList_ofList]
  simp only [String.toList_append, String.toList_ofList, hu, List.cons_append, List.head?_cons,
    Option.some.injEq] at hhead
  exact ha hhead

theorem ne_unresponsive {l : List Char} {x : String} {a : Char} (ha : a ≠ 'u')
    : String.ofList (a :: l) ≠ "user unresponsive: message " ++ x ++ " not confirmed in time" := by
  rw [← String.append_empty (s := String.ofList (a :: l))]
  exact append_ne_unresponsive ha

/-- Of the errors a round can end with, only a retry's says that a message was not confirmed. -/
theorem retry_of_step_error {label : ConnectionLabel} {x : String}
    (hstep : s.step config codec label
      = some (.error (.anyhow ("user unresponsive: message " ++ x ++ " not confirmed in time"))))
    : ∃ now sent queued rest, label = .retry now sent
        ∧ s.connection.unconfirmedMessages = queued :: rest
        ∧ queued.retryAt ≤ now
        ∧ queued.retriesRemaining = 0
        ∧ codec.uuidToString queued.message.messageId = x := by
  cases label with
  | ping now sent =>
    simp only [step, Option.ite_none_right_eq_some, Option.some.injEq, map_eq_error] at hstep
    rcases WebSocketConnection.processPing_cases hstep.2 with ⟨_, hc⟩ | ⟨_, _, hc⟩ | ⟨_, _, hc⟩
    . simp only [Except.error.injEq, ConnectionError.anyhow.injEq] at hc
      have hlength := congrArg String.length hc
      have hping : "user unresponsive".length = 17 := String.length_ofList
      have hretry : "user unresponsive: message ".length = 27 := String.length_ofList
      rw [String.length_append, String.length_append, hping, hretry] at hlength
      omega
    . simp only [Except.error.injEq, ConnectionError.anyhow.injEq] at hc
      exact absurd hc.symm (append_ne_unresponsive (by decide))
    . simp at hc
  | incomming now message =>
    simp only [step, Option.ite_none_right_eq_some, Option.some.injEq, map_eq_error] at hstep
    rcases WebSocketConnection.processIncommingMessage_errors hstep.2
      with hc | hc | hc | hc | hc | ⟨_, hc⟩ | ⟨len, hc⟩
    . simp at hc
    . exact absurd (ConnectionError.anyhow.inj hc).symm (ne_unresponsive (by decide))
    . exact absurd (ConnectionError.anyhow.inj hc).symm (ne_unresponsive (by decide))
    . exact absurd (ConnectionError.anyhow.inj hc).symm (ne_unresponsive (by decide))
    . exact absurd (ConnectionError.anyhow.inj hc).symm (ne_unresponsive (by decide))
    . exact absurd (ConnectionError.anyhow.inj hc).symm (append_ne_unresponsive (by decide))
    . have hpong : "pong payload length invalid: len " ++ len ++ " expected 4"
          = "pong payload length invalid: len " ++ (len ++ " expected 4") := String.append_assoc
      rw [hpong] at hc
      exact absurd (ConnectionError.anyhow.inj hc).symm (append_ne_unresponsive (by decide))
  | message now sent message =>
    simp only [step, Option.ite_none_right_eq_some, Option.some.injEq, map_eq_error] at hstep
    rcases WebSocketConnection.processMessage_cases hstep.2
      with ⟨_, _, hc⟩ | ⟨_, hc⟩ | ⟨_, _, hc⟩ | ⟨_, _, _, hc⟩
    . simp only [Except.error.injEq, ConnectionError.anyhow.injEq] at hc
      exact absurd hc.symm (append_ne_unresponsive (by decide))
    . simp at hc
    . simp only [Except.error.injEq, ConnectionError.anyhow.injEq] at hc
      exact absurd hc.symm (append_ne_unresponsive (by decide))
    . simp at hc
  | retry now sent =>
    simp only [step, Option.ite_none_right_eq_some, Option.map_eq_some_iff, map_eq_error] at hstep
    rcases hstep with ⟨_, result, hretry, hresult⟩
    rcases WebSocketConnection.processRetry_cases hretry
      with ⟨queued, rest, hqueue, hdue, ⟨hremaining, hc⟩ | ⟨_, _, hc⟩ | ⟨_, _, hc⟩⟩
    . rw [hresult] at hc
      simp only [Except.error.injEq, ConnectionError.anyhow.injEq] at hc
      exact ⟨now, sent, queued, rest, rfl, hqueue, hdue, hremaining, by simpa using hc.symm⟩
    . rw [hresult] at hc
      simp only [Except.error.injEq, ConnectionError.anyhow.injEq] at hc
      exact absurd hc.symm (append_ne_unresponsive (by decide))
    . simp [hresult] at hc

theorem retry_decrements {sent : Except String Unit}
    (h : s.connection.processRetry config codec.toCodec now sent = some (.ok c))
    : ∃ queued rest queued', s.connection.unconfirmedMessages = queued :: rest
        ∧ c.unconfirmedMessages = rest ++ [queued']
        ∧ queued'.message = queued.message
        ∧ queued'.retriesRemaining.toNat + 1 = queued.retriesRemaining.toNat := by
  rcases WebSocketConnection.processRetry_cases h
    with ⟨queued, rest, hqueue, _, ⟨_, hc⟩ | ⟨_, _, hc⟩ | ⟨hremaining, _, hc⟩⟩
  . simp at hc
  . simp at hc
  . rw [Except.ok.injEq] at hc
    refine ⟨queued, rest, ⟨now + config.retryInterval, queued.retriesRemaining - 1, queued.message⟩,
      hqueue, ?_, rfl, toNat_sub_one hremaining⟩
    rw [hc]

/--
However the rounds of a connection's loop follow each other, its queue is in the order of the next
retries, no message gets lost or too many transmissions, and none is given up early.
-/
theorem retries_accounted (config : WebSocketsServiceConfig) (codec : WebSocketCodec)
    (userId : Uuid) (messagesRx : Receiver) (start : Instant) (labels : List ConnectionLabel)
    (hrun : System.run (next config codec) (init config userId messagesRx start) labels = some s)
    : s.Bookkeeping config
        ∧
      (∀ now sent c, s.connection.processRetry config codec.toCodec now sent = some (.ok c) →
        ∃ queued rest queued', s.connection.unconfirmedMessages = queued :: rest
          ∧ c.unconfirmedMessages = rest ++ [queued']
          ∧ queued'.message = queued.message
          ∧ queued'.retriesRemaining.toNat + 1 = queued.retriesRemaining.toNat)
        ∧
      (∀ label x,
        s.step config codec label = some (.error (.anyhow
          ("user unresponsive: message " ++ x ++ " not confirmed in time"))) →
        ∃ now sent message k, label = .retry now sent
          ∧ codec.uuidToString message.messageId = x
          ∧ s.Expired config now message k) := by
  have hbook := bookkeeping_of_run hrun
  refine ⟨hbook, fun now sent c hretry => retry_decrements hretry, ?_⟩
  intro label x hstep
  rcases retry_of_step_error hstep with ⟨now, sent, queued, rest, hlabel, hqueue, hdue, hremaining, hid⟩
  rcases hbook.expired hqueue hdue hremaining with ⟨k, hexpired⟩
  exact ⟨now, sent, queued.message, k, hlabel, hid, hexpired⟩

open Server (sampleConfig sampleCodec samplePayload)

def sampleMessage (messageId : Uuid) : WebSocketMessage :=
  (WebSocketsServiceImpl.new.createMessage sampleCodec.toCodec 0 messageId .ok none).1

-- The second message is taken while the first one waits, and retried after it has been confirmed.
def sampleLabels : List ConnectionLabel :=
  [.message 0 (.ok ()) (.ok (sampleMessage ⟨100⟩)), .message 5 (.ok ()) (.ok (sampleMessage ⟨101⟩)),
    .incomming 6 (some (.ok (.binary samplePayload))), .retry 15000000005 (.ok ())]

def sampleLoop : ConnectionLoop :=
  let start := init sampleConfig ⟨1⟩ ⟨0, 0⟩ 0
  (System.run (next sampleConfig sampleCodec) start sampleLabels).getD start

theorem retries_accounted_out_of_order
    : sampleLoop.Bookkeeping sampleConfig
        ∧ sampleLoop.queue = [1]
        ∧ sampleLoop.transmissions 1 = [5, 15000000005] := by
  have hrun : System.run (next sampleConfig sampleCodec) (init sampleConfig ⟨1⟩ ⟨0, 0⟩ 0)
      sampleLabels = some sampleLoop := by
    rfl
  exact ⟨(retries_accounted sampleConfig sampleCodec ⟨1⟩ ⟨0, 0⟩ 0 sampleLabels hrun).1, rfl, rfl⟩

end ConnectionLoop

end TomNotifier.WsDelivery
