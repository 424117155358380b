import Mathlib.Data.List.Dedup
import TomNotifier.Common.List
import TomNotifier.WsDelivery.WebSockets.Messages

/-!
This module contains which confirmations the answers to a message lead to.
-/

namespace TomNotifier.WsDelivery

open List

section

variable {α : Type} {l : List α} {a : α}

theorem eq_singleton_of_mem (hl : l.length ≤ 1) (ha : a ∈ l) : l = [a] := by
  cases l with
  | nil => simp at ha
  | cons b l =>
    have hnil : l = [] := List.length_eq_zero_iff.mp (by simpa using hl)
    rw [hnil, List.mem_singleton] at ha
    rw [hnil, ha]

theorem dedup_length_le_one_iff [DecidableEq α]
    : l.dedup.length ≤ 1 ↔ ∀ a ∈ l, ∀ b ∈ l, a = b := by
  constructor
  . intro hl a ha b hb
    have heq := eq_singleton_of_mem hl (List.mem_dedup.mpr ha)
    have hb' := List.mem_dedup.mpr hb
    rw [heq, List.mem_singleton] at hb'
    exact hb'.symm
  . intro hsame
    have hnodup := l.nodup_dedup
    have hsubset := l.dedup_subset
    cases hdedup : l.dedup with
    | nil => simp
    | cons a as =>
      cases as with
      | nil => simp
      | cons b bs =>
        rw [hdedup] at hnodup hsubset
        have heq := hsame a (hsubset (by simp)) b (hsubset (by simp))
        simp [heq] at hnodup

end

def about {α : Type} (messageId : Uuid) (log : List (Uuid × α)) : List α :=
  (log.filter (fun entry => entry.1 = messageId)).map (·.2)

section About

variable {α : Type} {messageId messageId' : Uuid} {a : α} {log log' : List (Uuid × α)}

theorem about_append : about messageId (log ++ log') = about messageId log ++ about messageId log' := by
  simp [about]

theorem about_singleton
    : about messageId [(messageId', a)] = if messageId' = messageId then [a] else [] := by
  unfold about
  by_cases h : messageId' = messageId
  . simp [h]
  . simp [h]

theorem about_toList {entry : Option α}
    : about messageId (entry.map (messageId', ·)).toList
        =
      if messageId' = messageId then entry.toList else [] := by
  cases entry with
  | none => simp [about]
  | some a => exact about_singleton

theorem about_perm (messageId : Uuid) (h : log.Perm log')
    : (about messageId log).Perm (about messageId log') := by
  exact (h.filter _).map _

theorem about_eq_nil_of_perm {messageId : Uuid} (h : log'.Perm log) (hnil : about messageId log = [])
    : about messageId log' = [] := by
  have hperm := about_perm messageId h
  rw [hnil] at hperm
  exact List.perm_nil.mp hperm

end About

def TaskState.pending? : TaskState → Option (Uuid × RabbitmqConfirmationProtobuf)
  | .confirming messageId confirmation => some (messageId, confirmation)
  | _ => none

namespace Server

variable {s s' : Server} {config : WebSocketsServiceConfig} {codec : WebSocketCodec}
variable {label : ServerLabel} {i : Nat} {c c' : WebSocketConnection} {state state' : TaskState}
variable {messageId : Uuid}

def pendings (s : Server) : List (Uuid × RabbitmqConfirmationProtobuf) :=
  s.tasks.filterMap (fun task => task.state.pending?)

def confirmers (s : Server) (messageId : Uuid) : List Uuid := about messageId s.answers

/-- All a step can do as far as confirmations are concerned. -/
inductive Change (codec : Codec) (s s' : Server) : Prop where
  | quiet (messages : s'.messages = s.messages) (answers : s'.answers = s.answers)
    (handed : s'.handed = s.handed) (flags : s'.websocketsService.flags = s.websocketsService.flags)
    (pendings : s'.pendings ~ s.pendings)
  | create (message : WebSocketMessage) (fresh : s.fresh message.messageId)
    (flag : ∀ callback, message.deliveredCallback = some callback →
      callback.wasCalled = s.websocketsService.flags.length)
    (messages : s'.messages = s.messages ++ [message]) (answers : s'.answers = s.answers)
    (handed : s'.handed = s.handed)
    (flags : s'.websocketsService.flags
      = s.websocketsService.flags ++ (message.deliveredCallback.map fun _ => false).toList)
    (pendings : s'.pendings ~ s.pendings)
  | ignore (message : WebSocketMessage) (userId : Uuid) (mem : message ∈ s.messages)
    (callback : message.deliveredCallback = none)
    (messages : s'.messages = s.messages)
    (answers : s'.answers = s.answers ++ [(message.messageId, userId)])
    (handed : s'.handed = s.handed) (flags : s'.websocketsService.flags = s.websocketsService.flags)
    (pendings : s'.pendings ~ s.pendings)
  | confirm (message : WebSocketMessage) (userId : Uuid) (callback : WebSocketConfirmationCallback)
    (mem : message ∈ s.messages) (callback_eq : message.deliveredCallback = some callback)
    (messages : s'.messages = s.messages)
    (answers : s'.answers = s.answers ++ [(message.messageId, userId)])
    (handed : s'.handed = s.handed)
    (flags : s'.websocketsService.flags
      = (callback.execute codec userId s.websocketsService.flags).2)
    (pendings : s'.pendings
      ~ ((callback.execute codec userId s.websocketsService.flags).1.map
          (message.messageId, ·)).toList ++ s.pendings)
  | hand (entry : Uuid × RabbitmqConfirmationProtobuf) (messages : s'.messages = s.messages)
    (answers : s'.answers = s.answers) (handed : s'.handed = s.handed ++ [entry])
    (flags : s'.websocketsService.flags = s.websocketsService.flags)
    (pendings : s.pendings ~ entry :: s'.pendings)

theorem pendings_setTask (hi : s.tasks[i]? = some ⟨c, state⟩) (c' : WebSocketConnection)
    (state' : TaskState)
    : state'.pending?.toList ++ s.pendings
        ~
      state.pending?.toList ++ (s.setTask i c' state').pendings := by
  exact filterMap_set_perm (fun task : ConnectionTask => task.state.pending?) hi ⟨c', state'⟩

theorem pendings_setTask_quiet (hi : s.tasks[i]? = some ⟨c, state⟩)
    (hstate : state.pending? = none) (hstate' : state'.pending? = none)
    : (s.setTask i c' state').pendings ~ s.pendings := by
  have h := pendings_setTask hi c' state'
  rw [hstate, hstate'] at h
  exact h.symm

theorem change_setTask (hi : s.tasks[i]? = some ⟨c, state⟩)
    (hstate : state.pending? = none) (hstate' : state'.pending? = none)
    {websocketsService : WebSocketsServiceImpl}
    (hflags : websocketsService.flags = s.websocketsService.flags)
    : Change codec.toCodec s { s.setTask i c' state' with websocketsService } := by
  exact .quiet rfl rfl rfl hflags (pendings_setTask_quiet hi hstate hstate')

theorem change_settle (hi : s.tasks[i]? = some ⟨c, .running⟩)
    {result : Except ConnectionError WebSocketConnection}
    : Change codec.toCodec s (s.settle i c' result) := by
  cases result with
  | ok c'' => exact .quiet rfl rfl rfl rfl (pendings_setTask_quiet hi rfl rfl)
  | error err => exact .quiet rfl rfl rfl rfl (pendings_setTask_quiet hi rfl rfl)

theorem pendings_connect (s : Server) (c : WebSocketConnection)
    : Server.pendings { s with tasks := s.tasks ++ [⟨c, .running⟩] } = s.pendings := by
  unfold pendings
  rw [List.filterMap_append, List.filterMap_cons_none (by rfl), List.filterMap_nil]
  exact List.append_nil _

theorem Stored.stepHandleClient (h : s.Stored) {userId : Uuid} {now : OffsetDateTime}
    {instant : Instant} (hfresh : s.fresh messageId)
    (hstep : s.stepHandleClient config codec userId now instant messageId = some s')
    : s'.Stored ∧ Change codec.toCodec s s' := by
  unfold Server.stepHandleClient at hstep
  split at hstep
  . simp at hstep
  . next rx websocketsService hhandle =>
    rcases WebSocketsServiceImpl.handleClient_cases hhandle with ⟨hflags, hqueued⟩
    simp only [Option.some.injEq] at hstep
    rw [← hstep]
    have hpendings := pendings_connect s (WebSocketConnection.new config userId rx instant)
    cases hnetwork : s.websocketsService.networkStatusOk with
    | true =>
      simp only [if_true, List.append_nil]
      constructor
      . exact (h.setService (hqueued _ h.queued (by simp [hnetwork]))).connect
      . exact .quiet rfl rfl rfl hflags (.of_eq hpendings)
    | false =>
      simp only [Bool.false_eq_true, if_false]
      constructor
      . apply (h.create hfresh createMessage_named (hqueued _ _ _)).connect
        . exact h.queued.mono (fun _ hmessage => List.mem_append_left _ hmessage)
        . intro _
          exact List.mem_append_right _ List.mem_cons_self
      . refine .create _ hfresh ?_ rfl rfl rfl ?_ (.of_eq hpendings)
        . intro callback hcallback
          simp [WebSocketsServiceImpl.createMessage] at hcallback
        . rw [hflags]
          exact (List.append_nil _).symm

theorem Stored.stepSend (h : s.Stored) {userIds : List Uuid} {notification : NotificationProtobuf}
    {now : OffsetDateTime} (hfresh : s.fresh messageId)
    : (s.stepSend codec userIds notification now messageId).Stored
        ∧
      Change codec.toCodec s (s.stepSend codec userIds notification now messageId) := by
  constructor
  . apply h.create hfresh createMessage_named
    apply WebSocketsServiceImpl.Only.send
    . exact h.queued.mono (fun _ hmessage => List.mem_append_left _ hmessage)
    . exact List.mem_append_right _ List.mem_cons_self
  . refine .create _ hfresh ?_ rfl rfl rfl ?_ (.of_eq rfl)
    . intro callback hcallback
      simp only [WebSocketsServiceImpl.createMessage, Option.map_eq_some_iff] at hcallback
      rcases hcallback with ⟨_, _, rfl⟩
      rfl
    . exact WebSocketsServiceImpl.send_flags

theorem Stored.stepBroadcastNetworkStatus (h : s.Stored) {status : NetworkStatusProtobuf}
    {now : OffsetDateTime} (hfresh : s.fresh messageId)
    : (s.stepBroadcastNetworkStatus codec status now messageId).Stored
        ∧
      Change codec.toCodec s (s.stepBroadcastNetworkStatus codec status now messageId) := by
  constructor
  . apply h.create hfresh createMessage_named
    apply WebSocketsServiceImpl.Only.sendAll
    . exact h.queued.mono (fun _ hmessage => List.mem_append_left _ hmessage)
    . exact List.mem_append_right _ List.mem_cons_self
  . refine .create _ hfresh ?_ rfl rfl rfl rfl (.of_eq rfl)
    intro callback hcallback
    simp [WebSocketsServiceImpl.createMessage] at hcallback

theorem Stored.confirm (h : s.Stored) {message : WebSocketMessage} (hi : s.running i = some c)
    (hc' : c'.Only (· ∈ s.messages)) (hmessage : message ∈ s.messages)
    : (s.confirm codec.toCodec i c' message).Stored
        ∧
      Change codec.toCodec s (s.confirm codec.toCodec i c' message) := by
  rw [running_eq_some] at hi
  unfold Server.confirm
  split
  . next hcallback =>
    constructor
    . exact ⟨h.nodup, h.named, h.queued, (h.setTask hc').unconfirmed⟩
    . exact .ignore message c'.userId hmessage hcallback rfl rfl rfl rfl
        (pendings_setTask_quiet hi rfl rfl)
  . next callback hcallback =>
    dsimp only
    cases hexecute : callback.execute codec.toCodec c'.userId s.websocketsService.flags with
    | mk confirmation flags =>
      have hflags : flags
          = (callback.execute codec.toCodec c'.userId s.websocketsService.flags).2 := by
        rw [hexecute]
      cases confirmation with
      | none =>
        dsimp only
        constructor
        . exact ⟨h.nodup, h.named, h.queued, (h.setTask hc').unconfirmed⟩
        . refine .confirm message c'.userId callback hmessage hcallback rfl rfl rfl hflags ?_
          rw [hexecute]
          exact pendings_setTask_quiet hi rfl rfl
      | some confirmation =>
        dsimp only
        constructor
        . exact ⟨h.nodup, h.named, h.queued, (h.setTask hc').unconfirmed⟩
        . refine .confirm message c'.userId callback hmessage hcallback rfl rfl rfl hflags ?_
          rw [hexecute]
          exact (pendings_setTask hi c' (.confirming message.messageId confirmation)).symm

theorem Stored.stepIncomming (h : s.Stored) {now : Instant}
    {message : Option (Except String Message)}
    (hstep : s.stepIncomming config codec i now message = some s')
    : s'.Stored ∧ Change codec.toCodec s s' := by
  unfold Server.stepIncomming at hstep
  split at hstep
  . simp at hstep
  . next c hi =>
    have hi' := running_eq_some.mp hi
    have hc := h.of_running hi'
    split at hstep
    . simp only [Option.some.injEq] at hstep
      rw [← hstep]
      exact ⟨h.setTask hc, change_setTask hi' rfl rfl rfl⟩
    . next c' hprocess =>
      simp only [Option.some.injEq] at hstep
      rw [← hstep]
      exact ⟨h.setTask (hc.processIncommingMessage hprocess).1, change_setTask hi' rfl rfl rfl⟩
    . next c' message hprocess =>
      simp only [Option.some.injEq] at hstep
      rw [← hstep]
      rcases hc.processIncommingMessage hprocess with ⟨hc', hmessage⟩
      exact h.confirm hi hc' (hmessage message rfl)

theorem Stored.stepMessage (h : s.Stored) {now : Instant} {sent : Except String Unit}
    (hstep : s.stepMessage config i now sent = some s')
    : s'.Stored ∧ Change codec.toCodec s s' := by
  unfold Server.stepMessage at hstep
  split at hstep
  . simp at hstep
  . next c hi =>
    have hi' := running_eq_some.mp hi
    have hc := h.of_running hi'
    dsimp only at hstep
    split at hstep
    . simp at hstep
    . next channel hchannel =>
      split at hstep
      . simp at hstep
      . next message rx hrecv =>
        simp only [Option.some.injEq] at hstep
        rw [← hstep]
        refine ⟨h.settle hc ?_, change_settle hi'⟩
        intro c' hc'
        have honly := h.queued channel (List.mem_of_getElem? hchannel)
        have hc'' : { c with messagesRx := rx }.Only (· ∈ s.messages) := hc
        apply hc''.processMessage _ hc'
        intro m hm
        exact honly.recv (hm ▸ hrecv)

theorem Stored.step (h : s.Stored) (hstep : step config codec s label = some s')
    : s'.Stored ∧ Change codec.toCodec s s' := by
  cases label with
  | handleClient userId now instant messageId =>
    simp only [Server.step] at hstep
    split at hstep
    . next hfresh => exact h.stepHandleClient hfresh hstep
    . simp at hstep
  | closeConnections userId =>
    simp only [Server.step, Option.some.injEq] at hstep
    rw [← hstep]
    exact ⟨h.setService h.queued, .quiet rfl rfl rfl rfl (.of_eq rfl)⟩
  | send userIds notification now messageId =>
    simp only [Server.step] at hstep
    split at hstep
    . next hfresh =>
      simp only [Option.some.injEq] at hstep
      rw [← hstep]
      exact h.stepSend hfresh
    . simp at hstep
  | storeNetworkStatus status =>
    simp only [Server.step, Option.some.injEq] at hstep
    rw [← hstep]
    exact ⟨h.setService h.queued, .quiet rfl rfl rfl rfl (.of_eq rfl)⟩
  | broadcastNetworkStatus status now messageId =>
    simp only [Server.step] at hstep
    split at hstep
    . next hfresh =>
      simp only [Option.some.injEq] at hstep
      rw [← hstep]
      exact h.stepBroadcastNetworkStatus hfresh
    . simp at hstep
  | ping i now sent =>
    simp only [Server.step] at hstep
    split at hstep
    . simp at hstep
    . next c hi =>
      rw [running_eq_some] at hi
      split at hstep
      . simp only [Option.some.injEq] at hstep
        rw [← hstep]
        have hc := h.of_running hi
        exact ⟨h.settle hc (fun c' hc' => hc.processPing hc'), change_settle hi⟩
      . simp at hstep
  | incomming i now message => exact h.stepIncomming hstep
  | message i now sent => exact h.stepMessage hstep
  | retry i now sent =>
    simp only [Server.step] at hstep
    split at hstep
    . simp at hstep
    . next c hi =>
      rw [running_eq_some] at hi
      rw [Option.map_eq_some_iff] at hstep
      rcases hstep with ⟨result, hretry, rfl⟩
      have hc := h.of_running hi
      exact ⟨h.settle hc (fun c' hc' => hc.processRetry (hc' ▸ hretry)), change_settle hi⟩
  | hand i =>
    simp only [Server.step] at hstep
    split at hstep
    . next c messageId confirmation hi =>
      simp only [Option.some.injEq] at hstep
      rw [← hstep]
      refine ⟨?_, .hand (messageId, confirmation) rfl rfl rfl rfl ?_⟩
      . exact ⟨h.nodup, h.named, h.queued, (h.setTask (h.of_running hi)).unconfirmed⟩
      . exact pendings_setTask hi c .running
    . simp at hstep
  | drop i =>
    simp only [Server.step] at hstep
    split at hstep
    . next c hi =>
      simp only [Option.some.injEq] at hstep
      rw [← hstep]
      constructor
      . apply (h.setTask (h.of_running hi)).setService
        exact forall_mem_modify h.queued (fun _ hchannel => hchannel)
      . exact change_setTask hi rfl rfl rfl
    . simp at hstep
  | cleanUp i =>
    simp only [Server.step] at hstep
    split at hstep
    . next c hi =>
      simp only [Option.some.injEq] at hstep
      rw [← hstep]
      have hfields := s.websocketsService.cleanUp_fields c.userId
      constructor
      . apply (h.setTask (h.of_running hi)).setService
        unfold WebSocketsServiceImpl.Only
        rw [hfields.2]
        exact h.queued
      . exact change_setTask hi rfl rfl hfields.1
    . simp at hstep

/-- The confirmation a message leads to, the one of the user who is the first to confirm it. -/
def firstConfirmation (codec : Codec) (message : WebSocketMessage)
    : List Uuid → List RabbitmqConfirmationProtobuf
  | [] => []
  | userId :: _ =>
    (message.deliveredCallback.map fun callback =>
      { userId := codec.uuidToString userId, id := callback.id }).toList

theorem firstConfirmation_none {codec : Codec} {message : WebSocketMessage} {userIds : List Uuid}
    (h : message.deliveredCallback = none) : firstConfirmation codec message userIds = [] := by
  cases userIds with
  | nil => rfl
  | cons userId userIds => simp [firstConfirmation, h]

theorem firstConfirmation_append {codec : Codec} {message : WebSocketMessage}
    {userIds userIds' : List Uuid}
    : firstConfirmation codec message (userIds ++ userIds')
        =
      if userIds = [] then
        firstConfirmation codec message userIds'
      else
        firstConfirmation codec message userIds := by
  cases userIds with
  | nil => rfl
  | cons userId userIds => rfl

structure Called (codec : Codec) (s : Server) : Prop where
  flag_inj : ∀ message ∈ s.messages, ∀ message' ∈ s.messages, ∀ callback callback',
    message.deliveredCallback = some callback → message'.deliveredCallback = some callback' →
      callback.wasCalled = callback'.wasCalled → message = message'
  flag : ∀ message ∈ s.messages, ∀ callback, message.deliveredCallback = some callback →
    s.websocketsService.flags[callback.wasCalled]?
      = some (decide (s.confirmers message.messageId ≠ []))
  handed : ∀ message ∈ s.messages,
    about message.messageId s.handed ++ about message.messageId s.pendings
      ~ firstConfirmation codec message (s.confirmers message.messageId)
  unknown : ∀ messageId, messageId ∉ s.messages.map (·.messageId) →
    s.confirmers messageId = [] ∧ about messageId s.handed = [] ∧ about messageId s.pendings = []

theorem called_init : Called codec.toCodec init where
  flag_inj := by simp [init]
  flag := by simp [init]
  handed := by simp [init]
  unknown := by simp [init, about, confirmers, pendings]

theorem Stored.eq_of_messageId {message message' : WebSocketMessage} (h : s.Stored)
    (hmessage : message ∈ s.messages) (hmessage' : message' ∈ s.messages)
    (heq : message.messageId = message'.messageId) : message = message' := by
  exact List.inj_on_of_nodup_map h.nodup hmessage hmessage' heq

theorem messageId_ne {message : WebSocketMessage} (hmessage : message ∈ s.messages)
    (hmessageId : messageId ∉ s.messages.map (·.messageId)) : message.messageId ≠ messageId := by
  intro heq
  exact hmessageId (heq ▸ List.mem_map_of_mem hmessage)

section Change

theorem Called.quiet (h : s.Called codec.toCodec) (hmessages : s'.messages = s.messages)
    (hanswers : s'.answers = s.answers) (hhanded : s'.handed = s.handed)
    (hflags : s'.websocketsService.flags = s.websocketsService.flags)
    (hpendings : s'.pendings ~ s.pendings) : s'.Called codec.toCodec where
  flag_inj := by
    rw [hmessages]
    exact h.flag_inj
  flag := by
    unfold confirmers
    rw [hmessages, hanswers, hflags]
    exact h.flag
  handed := by
    unfold confirmers
    rw [hmessages, hanswers, hhanded]
    intro message hmessage
    exact ((about_perm _ hpendings).append_left _).trans (h.handed message hmessage)
  unknown := by
    unfold confirmers
    rw [hmessages, hanswers, hhanded]
    intro messageId hunknown
    rcases h.unknown messageId hunknown with ⟨hconfirmers, hnone, hnone'⟩
    exact ⟨hconfirmers, hnone, about_eq_nil_of_perm hpendings hnone'⟩

theorem Called.create (h : s.Called codec.toCodec) {message : WebSocketMessage}
    (hfresh : s.fresh message.messageId)
    (hflag : ∀ callback, message.deliveredCallback = some callback →
      callback.wasCalled = s.websocketsService.flags.length)
    (hmessages : s'.messages = s.messages ++ [message]) (hanswers : s'.answers = s.answers)
    (hhanded : s'.handed = s.handed)
    (hflags : s'.websocketsService.flags
      = s.websocketsService.flags ++ (message.deliveredCallback.map fun _ => false).toList)
    (hpendings : s'.pendings ~ s.pendings) : s'.Called codec.toCodec := by
  have hunknown : message.messageId ∉ s.messages.map (·.messageId) := by simpa [fresh] using hfresh
  have hlt : ∀ message ∈ s.messages, ∀ callback, message.deliveredCallback = some callback →
      callback.wasCalled < s.websocketsService.flags.length := by
    intro message hmessage callback hcallback
    exact (List.getElem?_eq_some_iff.mp (h.flag message hmessage callback hcallback)).1
  constructor
  . rw [hmessages]
    intro message₁ hmessage₁ message₂ hmessage₂ callback₁ callback₂ hcallback₁ hcallback₂ heq
    rw [List.mem_append, List.mem_singleton] at hmessage₁ hmessage₂
    rcases hmessage₁ with hmessage₁ | rfl
    . rcases hmessage₂ with hmessage₂ | rfl
      . exact h.flag_inj _ hmessage₁ _ hmessage₂ _ _ hcallback₁ hcallback₂ heq
      . exact absurd (heq.trans (hflag _ hcallback₂)) (hlt _ hmessage₁ _ hcallback₁).ne
    . rcases hmessage₂ with hmessage₂ | rfl
      . exact absurd (heq.symm.trans (hflag _ hcallback₁)) (hlt _ hmessage₂ _ hcallback₂).ne
      . rfl
  . unfold confirmers
    rw [hmessages, hanswers, hflags]
    intro message' hmessage' callback hcallback
    rw [List.mem_append, List.mem_singleton] at hmessage'
    rcases hmessage' with hmessage' | rfl
    . rw [List.getElem?_append_left (hlt _ hmessage' _ hcallback)]
      exact h.flag _ hmessage' _ hcallback
    . rw [hflag _ hcallback, hcallback]
      have hnone := (h.unknown _ hunknown).1
      unfold confirmers at hnone
      simp [hnone]
  . unfold confirmers
    rw [hmessages, hanswers, hhanded]
    intro message' hmessage'
    apply ((about_perm _ hpendings).append_left _).trans
    rw [List.mem_append, List.mem_singleton] at hmessage'
    rcases hmessage' with hmessage' | rfl
    . exact h.handed _ hmessage'
    . rcases h.unknown _ hunknown with ⟨hconfirmers, hnone, hnone'⟩
      unfold confirmers at hconfirmers
      rw [hconfirmers, hnone, hnone']
      exact List.Perm.refl _
  . unfold confirmers
    rw [hmessages, hanswers, hhanded]
    intro messageId hmessageId
    have hmessageId' : messageId ∉ s.messages.map (·.messageId) := by
      intro hmem
      exact hmessageId (by simp [List.map_append, hmem])
    rcases h.unknown messageId hmessageId' with ⟨hconfirmers, hnone, hnone'⟩
    exact ⟨hconfirmers, hnone, about_eq_nil_of_perm hpendings hnone'⟩

theorem confirmers_append {userId : Uuid}
    (h : s'.answers = s.answers ++ [(messageId, userId)]) (messageId' : Uuid)
    : s'.confirmers messageId'
        =
      s.confirmers messageId' ++ if messageId = messageId' then [userId] else [] := by
  unfold confirmers
  rw [h, about_append, about_singleton]

theorem Called.ignore (h : s.Called codec.toCodec) (hstored : s.Stored) {message : WebSocketMessage}
    {userId : Uuid} (hmessage : message ∈ s.messages) (hcallback : message.deliveredCallback = none)
    (hmessages : s'.messages = s.messages)
    (hanswers : s'.answers = s.answers ++ [(message.messageId, userId)])
    (hhanded : s'.handed = s.handed)
    (hflags : s'.websocketsService.flags = s.websocketsService.flags)
    (hpendings : s'.pendings ~ s.pendings) : s'.Called codec.toCodec where
  flag_inj := by
    rw [hmessages]
    exact h.flag_inj
  flag := by
    rw [hmessages, hflags]
    intro message' hmessage' callback hcallback'
    have hne : message.messageId ≠ message'.messageId := by
      intro heq
      rw [hstored.eq_of_messageId hmessage hmessage' heq, hcallback'] at hcallback
      simp at hcallback
    rw [confirmers_append hanswers, if_neg hne, List.append_nil]
    exact h.flag _ hmessage' _ hcallback'
  handed := by
    rw [hmessages, hhanded]
    intro message' hmessage'
    apply ((about_perm _ hpendings).append_left _).trans
    apply (h.handed _ hmessage').trans
    rw [confirmers_append hanswers]
    by_cases heq : message.messageId = message'.messageId
    . rw [← hstored.eq_of_messageId hmessage hmessage' heq, firstConfirmation_none hcallback,
        firstConfirmation_none hcallback]
    . rw [if_neg heq, List.append_nil]
  unknown := by
    rw [hmessages, hhanded]
    intro messageId hmessageId
    have hne := messageId_ne hmessage hmessageId
    rcases h.unknown messageId hmessageId with ⟨hconfirmers, hnone, hnone'⟩
    rw [confirmers_append hanswers, if_neg hne, List.append_nil]
    exact ⟨hconfirmers, hnone, about_eq_nil_of_perm hpendings hnone'⟩

theorem Called.confirm (h : s.Called codec.toCodec) (hstored : s.Stored) {message : WebSocketMessage}
    {userId : Uuid} {callback : WebSocketConfirmationCallback} (hmessage : message ∈ s.messages)
    (hcallback : message.deliveredCallback = some callback)
    (hmessages : s'.messages = s.messages)
    (hanswers : s'.answers = s.answers ++ [(message.messageId, userId)])
    (hhanded : s'.handed = s.handed)
    (hflags : s'.websocketsService.flags
      = (callback.execute codec.toCodec userId s.websocketsService.flags).2)
    (hpendings : s'.pendings
      ~ ((callback.execute codec.toCodec userId s.websocketsService.flags).1.map
          (message.messageId, ·)).toList ++ s.pendings)
    : s'.Called codec.toCodec := by
  have hflag := h.flag _ hmessage _ hcallback
  have hset : s'.websocketsService.flags
      = s.websocketsService.flags.set callback.wasCalled true := by
    rw [hflags]
    unfold WebSocketConfirmationCallback.execute
    dsimp only
    split <;> rfl
  -- the flag says whether anyone has confirmed the message before, not whether this user has
  have hwas : s.websocketsService.flags.getD callback.wasCalled false
      = decide (s.confirmers message.messageId ≠ []) := by
    rw [List.getD_eq_getElem?_getD, hflag]
    rfl
  have hconfirmation : (callback.execute codec.toCodec userId s.websocketsService.flags).1.toList
      = if s.confirmers message.messageId = [] then
          firstConfirmation codec.toCodec message [userId]
        else
          [] := by
    unfold WebSocketConfirmationCallback.execute firstConfirmation
    dsimp only
    rw [hwas, hcallback]
    by_cases hconfirmers : s.confirmers message.messageId = []
    . simp [hconfirmers]
    . simp [hconfirmers]
  constructor
  . rw [hmessages]
    exact h.flag_inj
  . rw [hmessages, hset]
    intro message' hmessage' callback' hcallback'
    rw [confirmers_append hanswers]
    by_cases heq : message.messageId = message'.messageId
    . rw [← hstored.eq_of_messageId hmessage hmessage' heq, hcallback, Option.some.injEq] at hcallback'
      have hlt := (List.getElem?_eq_some_iff.mp hflag).1
      rw [← hcallback', List.getElem?_set_self hlt]
      simp [heq]
    . have hne : callback.wasCalled ≠ callback'.wasCalled := by
        intro hcalled
        exact heq (by rw [h.flag_inj _ hmessage _ hmessage' _ _ hcallback hcallback' hcalled])
      rw [List.getElem?_set_ne hne, if_neg heq, List.append_nil]
      exact h.flag _ hmessage' _ hcallback'
  . rw [hmessages, hhanded]
    intro message' hmessage'
    apply ((about_perm _ hpendings).append_left _).trans
    rw [about_append, about_toList, confirmers_append hanswers]
    by_cases heq : message.messageId = message'.messageId
    . have hold := h.handed _ hmessage
      rw [← hstored.eq_of_messageId hmessage hmessage' heq, if_pos rfl, if_pos rfl, hconfirmation,
        firstConfirmation_append]
      by_cases hfirst : s.confirmers message.messageId = []
      . rw [hfirst] at hold
        simp only [hfirst, if_true]
        calc about message.messageId s.handed
              ++ (firstConfirmation codec.toCodec message [userId] ++ about message.messageId s.pendings)
          _ ~ firstConfirmation codec.toCodec message [userId]
              ++ (about message.messageId s.handed ++ about message.messageId s.pendings) :=
            perm_append_comm_assoc _ _ _
          _ ~ firstConfirmation codec.toCodec message [userId] ++ [] := hold.append_left _
          _ ~ firstConfirmation codec.toCodec message [userId] := .of_eq (List.append_nil _)
      . simp only [hfirst, if_false, List.nil_append]
        exact hold
    . rw [if_neg heq, if_neg heq, List.nil_append, List.append_nil]
      exact h.handed _ hmessage'
  . rw [hmessages, hhanded]
    intro messageId hmessageId
    have hne := messageId_ne hmessage hmessageId
    rcases h.unknown messageId hmessageId with ⟨hconfirmers, hnone, hnone'⟩
    have hperm := about_perm messageId hpendings
    rw [about_append, about_toList, if_neg hne, List.nil_append, hnone'] at hperm
    rw [confirmers_append hanswers, if_neg hne, List.append_nil]
    exact ⟨hconfirmers, hnone, List.perm_nil.mp hperm⟩

theorem Called.hand (h : s.Called codec.toCodec) {entry : Uuid × RabbitmqConfirmationProtobuf}
    (hmessages : s'.messages = s.messages) (hanswers : s'.answers = s.answers)
    (hhanded : s'.handed = s.handed ++ [entry])
    (hflags : s'.websocketsService.flags = s.websocketsService.flags)
    (hpendings : s.pendings ~ entry :: s'.pendings) : s'.Called codec.toCodec := by
  have hmoved : ∀ messageId, about messageId s.handed ++ about messageId s.pendings
      ~ about messageId s'.handed ++ about messageId s'.pendings := by
    intro messageId
    have hcons : about messageId (entry :: s'.pendings)
        = about messageId [entry] ++ about messageId s'.pendings := by
      rw [← about_append, List.singleton_append]
    rw [hhanded, about_append, List.append_assoc, ← hcons]
    exact (about_perm _ hpendings).append_left _
  constructor
  . rw [hmessages]
    exact h.flag_inj
  . unfold confirmers
    rw [hmessages, hanswers, hflags]
    exact h.flag
  . unfold confirmers
    rw [hmessages, hanswers]
    intro message hmessage
    exact (hmoved message.messageId).symm.trans (h.handed message hmessage)
  . unfold confirmers
    rw [hmessages, hanswers]
    intro messageId hmessageId
    rcases h.unknown messageId hmessageId with ⟨hconfirmers, hnone, hnone'⟩
    have hnil := hmoved messageId
    rw [hnone, hnone'] at hnil
    exact ⟨hconfirmers, List.append_eq_nil_iff.mp (List.nil_perm.mp hnil)⟩

end Change

theorem Called.step (h : s.Called codec.toCodec) (hstored : s.Stored)
    (hstep : step config codec s label = some s') : s'.Called codec.toCodec := by
  cases (hstored.step hstep).2 with
  | quiet messages answers handed flags pendings =>
    exact h.quiet messages answers handed flags pendings
  | create message fresh flag messages answers handed flags pendings =>
    exact h.create fresh flag messages answers handed flags pendings
  | ignore message userId mem callback messages answers handed flags pendings =>
    exact h.ignore hstored mem callback messages answers handed flags pendings
  | confirm message userId callback mem callback_eq messages answers handed flags pendings =>
    exact h.confirm hstored mem callback_eq messages answers handed flags pendings
  | hand entry messages answers handed flags pendings =>
    exact h.hand messages answers handed flags pendings

theorem called_of_run {labels : List ServerLabel}
    (hrun : System.run (Server.step config codec) init labels = some s)
    : s.Stored ∧ s.Called codec.toCodec := by
  apply System.run_invariant (P := fun s => s.Stored ∧ s.Called codec.toCodec) _ _ hrun
  . intro s label s' h hstep
    exact ⟨(h.1.step hstep).1, h.2.step h.1 hstep⟩
  . exact ⟨stored_init, called_init⟩

theorem about_pendings_eq_nil (h : ∀ task ∈ s.tasks, ∀ confirmation,
    task.state ≠ .confirming messageId confirmation) : about messageId s.pendings = [] := by
  unfold about
  rw [List.map_eq_nil_iff, List.filter_eq_nil_iff]
  intro entry hentry
  unfold pendings at hentry
  rw [List.mem_filterMap] at hentry
  rcases hentry with ⟨⟨c, state⟩, htask, hpending⟩
  cases state with
  | confirming messageId' confirmation =>
    simp only [TaskState.pending?, Option.some.injEq] at hpending
    rw [← hpending]
    intro heq
    simp only [decide_eq_true_eq] at heq
    exact h _ htask confirmation (by rw [heq])
  | running => simp [TaskState.pending?] at hpending
  | closing => simp [TaskState.pending?] at hpending
  | ended => simp [TaskState.pending?] at hpending
  | finished => simp [TaskState.pending?] at hpending

/--
Once nothing is on its way any more, one confirmation per user who has confirmed a message has been
handed over exactly when these are one user at most.
-/
theorem confirmed_once_iff (config : WebSocketsServiceConfig) (codec : WebSocketCodec)
    (labels : List ServerLabel) (message : WebSocketMessage) (notification : NotificationProtobuf)
    (hrun : System.run (Server.step config codec) init labels = some s)
    (hmessage : message ∈ s.messages)
    (hnotification : message.payload.notification = some notification)
    (hnew : notification.statusOrDefault = .new)
    (hidle : ∀ task ∈ s.tasks, ∀ confirmation,
      task.state ≠ .confirming message.messageId confirmation)
    : about message.messageId s.handed
          ~
        (s.confirmers message.messageId).dedup.map (fun userId =>
          { userId := codec.uuidToString userId, id := notification.id })
        ↔
      ∀ userId ∈ s.confirmers message.messageId, ∀ userId' ∈ s.confirmers message.messageId,
        userId = userId' := by
  rcases called_of_run hrun with ⟨hstored, hcalled⟩
  have hpendings := about_pendings_eq_nil hidle
  have hhanded := hcalled.handed _ hmessage
  rw [hpendings, List.append_nil] at hhanded
  have hnamed := hstored.named _ hmessage
  rw [Named, hnotification, Option.filter_some_pos (by simpa using hnew), Option.map_some,
    Option.map_eq_some_iff] at hnamed
  rcases hnamed with ⟨callback, hcallback, hid⟩
  cases hconfirmers : s.confirmers message.messageId with
  | nil =>
    rw [hconfirmers] at hhanded
    simpa [firstConfirmation] using hhanded
  | cons userId userIds =>
    rw [hconfirmers, firstConfirmation, hcallback] at hhanded
    simp only [Option.map_some, Option.toList_some, hid] at hhanded
    rw [← dedup_length_le_one_iff]
    constructor
    . intro hperm
      have hlength := (hperm.symm.trans hhanded).length_eq
      rw [List.length_map] at hlength
      exact hlength.le
    . intro hlength
      have hmem : userId ∈ (userId :: userIds).dedup := List.mem_dedup.mpr List.mem_cons_self
      rw [eq_singleton_of_mem hlength hmem]
      exact hhanded

def answered (userId : Uuid) : List ServerLabel :=
  [.handleClient ⟨1⟩ 0 0 ⟨101⟩, .handleClient userId 0 0 ⟨102⟩,
    .send [⟨1⟩, ⟨2⟩] sampleNotification 1000000000 ⟨100⟩,
    .message 0 0 (.ok ()), .message 1 0 (.ok ()),
    .incomming 0 1 (some (.ok (.binary samplePayload))),
    .incomming 1 1 (some (.ok (.binary samplePayload))),
    .hand 0]

def afterwards (userId : Uuid) : Server :=
  (System.run (Server.step sampleConfig sampleCodec) init (answered userId)).getD init

def sampleMessage : WebSocketMessage :=
  (WebSocketsServiceImpl.new.createMessage sampleCodec.toCodec 1000000000 ⟨100⟩ .ok
    (some sampleNotification)).1

theorem confirmed_once_iff_one_user
    : about ⟨100⟩ (afterwards ⟨1⟩).handed
        ~
      [{ userId := sampleUuid ⟨1⟩, id := sampleNotification.id }] := by
  have hrun : System.run (Server.step sampleConfig sampleCodec) init (answered ⟨1⟩)
      = some (afterwards ⟨1⟩) := by
    rfl
  have hmessage : sampleMessage ∈ (afterwards ⟨1⟩).messages := List.mem_cons_self
  have hrunning : ∀ task ∈ (afterwards ⟨1⟩).tasks, task.state = .running := by decide
  have hiff := confirmed_once_iff sampleConfig sampleCodec (answered ⟨1⟩) sampleMessage
    sampleNotification hrun hmessage rfl rfl (by
      intro task htask confirmation
      rw [hrunning task htask]
      simp)
  have hsame : ∀ userId ∈ (afterwards ⟨1⟩).confirmers ⟨100⟩,
      ∀ userId' ∈ (afterwards ⟨1⟩).confirmers ⟨100⟩, userId = userId' := by
    decide
  exact hiff.mpr hsame

/--
Both recipients of a notification confirm it, only the first of them is reported.
-/
theorem confirmation_lost
    : System.run (Server.step sampleConfig sampleCodec) init (answered ⟨2⟩) = some (afterwards ⟨2⟩)
        ∧ sampleMessage ∈ (afterwards ⟨2⟩).messages
        ∧ (∀ task ∈ (afterwards ⟨2⟩).tasks, task.state = .running)
        ∧ (afterwards ⟨2⟩).confirmers sampleMessage.messageId = [⟨1⟩, ⟨2⟩]
        ∧ about sampleMessage.messageId (afterwards ⟨2⟩).handed
          = [{ userId := sampleUuid ⟨1⟩, id := sampleNotification.id }]
        ∧ ¬about sampleMessage.messageId (afterwards ⟨2⟩).handed
          ~ ((afterwards ⟨2⟩).confirmers sampleMessage.messageId).dedup.map (fun userId =>
            { userId := sampleUuid userId, id := sampleNotification.id }) := by
  refine ⟨rfl, List.mem_cons_self, by decide, rfl, rfl, ?_⟩
  intro hperm
  exact absurd hperm.length_eq (by decide)

end Server

end TomNotifier.WsDelivery
