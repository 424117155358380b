import TomNotifier.Common.JwtAuth
import TomNotifier.Core.Service.Provenance
import TomNotifier.Deployment.Delivery

/-!
This module contains the endpoints of the core server, and whose requests the stored notifications go
back to.
-/

namespace TomNotifier

namespace Core

def Role.produceNotifications : String := "tom_notifier_produce_notifications"

def NotificationsService.validateUpdateInvalidateAt (invalidateAt : Option OffsetDateTime)
    (now : OffsetDateTime) : Except Error Unit :=
  validateInvalidateAtNotPassed invalidateAt now

/-- The `Authorization` header of a request, and the reading of the clock when it is validated. -/
structure Credentials where
  authorization : Option HeaderValue
  validatedAt : OffsetDateTime

def Credentials.user (auth : JwtAuthLayer) (credentials : Credentials) : Except String User :=
  auth.parseAuthorizationHeader credentials.validatedAt credentials.authorization

/--
The requests that do not only read, and what goes on behind the endpoints. With `applied` the command
of the request reaches the database.
-/
inductive RoutingLabel where
  | postNotificationsUndelivered (credentials : Credentials) (notification : InputNotification)
  | getNotificationsUndelivered (credentials : Credentials)
  | putNotificationsUndeliveredInvalidateAt (credentials : Credentials) (id : ObjectId)
    (invalidateAt : Option OffsetDateTime) (now : OffsetDateTime) (applied : Bool)
  | deleteNotificationDelivered (credentials : Credentials) (id : ObjectId)
  | putNotificationDeliveredSeen (credentials : Credentials) (id : ObjectId) (seen : Bool)
  | deployment (label : DeploymentLabel)

namespace Routing

open NotificationsService (validateUpdateInvalidateAt)

section

variable (auth : JwtAuthLayer) (config : DeploymentConfig) (codec : WsDelivery.WebSocketCodec)

def step (s : Deployment) : RoutingLabel → Option Deployment
  | .postNotificationsUndelivered credentials notification =>
    match credentials.user auth with
    | .error _ => some s
    | .ok user =>
      match requireAllRoles user [Role.produceNotifications] with
      | .error _ => some s
      | .ok () => s.step config codec (.core (.call (.saveNotification user.id notification)))
  | .getNotificationsUndelivered credentials =>
    match credentials.user auth with
    | .error _ => some s
    | .ok user => s.step config codec (.find user.id)
  | .putNotificationsUndeliveredInvalidateAt credentials id invalidateAt now applied =>
    match credentials.user auth with
    | .error _ => some s
    | .ok user =>
      match requireAllRoles user [Role.produceNotifications] with
      | .error _ => some s
      | .ok () =>
        match validateUpdateInvalidateAt invalidateAt now with
        | .error _ => some s
        | .ok () =>
          if applied then
            s.step config codec (.core (.repository (.updateInvalidateAt id user.id invalidateAt)))
          else
            some s
  | .deleteNotificationDelivered credentials id =>
    match credentials.user auth with
    | .error _ => some s
    | .ok user => s.step config codec (.core (.call (.deleteNotification id user.id)))
  | .putNotificationDeliveredSeen credentials id seen =>
    match credentials.user auth with
    | .error _ => some s
    | .ok user => s.step config codec (.core (.call (.updateNotificationSeen id user.id seen)))
  | .deployment label =>
    match label with
    | .core (.call _) => none
    | .core (.repository _) => none
    | .find _ => none
    | label => s.step config codec label

end

/-- There has been such a request by the user, with the role if it takes one. -/
def Requested (auth : JwtAuthLayer) (labels : List RoutingLabel) (roles : List String) (userId : Uuid)
    (request : Credentials → RoutingLabel) : Prop :=
  ∃ credentials user, request credentials ∈ labels
    ∧ credentials.user auth = .ok user
    ∧ user.id = userId
    ∧ roles ⊆ user.roles

def Issued (auth : JwtAuthLayer) (labels : List RoutingLabel) : Request → Prop
  | .saveNotification producerId notification =>
    Requested auth labels [Role.produceNotifications] producerId
      (.postNotificationsUndelivered · notification)
  | .deleteNotification id userId => Requested auth labels [] userId (.deleteNotificationDelivered · id)
  | .updateNotificationSeen id userId seen =>
    Requested auth labels [] userId (.putNotificationDeliveredSeen · id seen)

/-- A command of the repository that takes a request has been sent for one. -/
def Authorized (auth : JwtAuthLayer) (labels : List RoutingLabel) : Op → Prop
  | .insert _ userIds _ invalidateAt producerId producerNotificationId contentType content =>
    Issued auth labels (.saveNotification producerId
      { invalidateAt, userIds, producerNotificationId, contentType, content })
  | .updateInvalidateAt id producerId invalidateAt =>
    ∃ now, validateUpdateInvalidateAt invalidateAt now = .ok ()
      ∧ Requested auth labels [Role.produceNotifications] producerId
        (.putNotificationsUndeliveredInvalidateAt · id invalidateAt now true)
  | .updateConfirmationSeen id userId seen => Issued auth labels (.updateNotificationSeen id userId seen)
  | .delete id userId => Issued auth labels (.deleteNotification id userId)
  | .insertConfirmation .. => True
  | .insertManyConfirmations .. => True
  | .insertManyConfirmationsAt .. => True

/-- There have been requests for what is stored about a notification. -/
structure Accounted (auth : JwtAuthLayer) (labels : List RoutingLabel) (n : NotificationEntity)
    : Prop where
  posted : ∃ notification, n.Saves n.producerId notification
    ∧ Requested auth labels [Role.produceNotifications] n.producerId
      (.postNotificationsUndelivered · notification)
  seen : ∀ userId, n.HasSeen userId →
    Requested auth labels [] userId (.putNotificationDeliveredSeen · n.id true)
  deleted : ∀ userId, n.HasDeleted userId →
    Requested auth labels [] userId (.deleteNotificationDelivered · n.id)

/-- Everything that has been asked of core has been asked for by the one it is done for. -/
structure Traced (auth : JwtAuthLayer) (labels : List RoutingLabel) (s : Deployment) : Prop where
  calls : ∀ call ∈ s.core.calls, Issued auth labels call.request
  docs : ∀ n ∈ s.core.store.docs, Accounted auth labels n
  polls : ∀ poll ∈ s.polls, Requested auth labels [] poll.userId .getNotificationsUndelivered

def Permitted (auth : JwtAuthLayer) (labels : List RoutingLabel) : DeploymentLabel → Prop
  | .core (.call request) => Issued auth labels request
  | .core (.repository op) => Authorized auth labels op
  | .find userId => Requested auth labels [] userId .getNotificationsUndelivered
  | _ => True

variable {auth : JwtAuthLayer} {config : DeploymentConfig} {codec : WsDelivery.WebSocketCodec}
variable {labels labels' : List RoutingLabel} {s s' : Deployment}

theorem Requested.mono {roles : List String} {userId : Uuid} {request : Credentials → RoutingLabel}
    (h : Requested auth labels roles userId request) (hsubset : labels ⊆ labels')
    : Requested auth labels' roles userId request := by
  rcases h with ⟨credentials, user, hmem, hrest⟩
  exact ⟨credentials, user, hsubset hmem, hrest⟩

theorem Issued.mono {request : Request} (h : Issued auth labels request) (hsubset : labels ⊆ labels')
    : Issued auth labels' request := by
  cases request with
  | saveNotification producerId notification => exact Requested.mono h hsubset
  | deleteNotification id userId => exact Requested.mono h hsubset
  | updateNotificationSeen id userId seen => exact Requested.mono h hsubset

theorem Accounted.mono {n : NotificationEntity} (h : Accounted auth labels n)
    (hsubset : labels ⊆ labels') : Accounted auth labels' n where
  posted := by
    rcases h.posted with ⟨notification, hsaves, hrequested⟩
    exact ⟨notification, hsaves, hrequested.mono hsubset⟩
  seen userId hseen := (h.seen userId hseen).mono hsubset
  deleted userId hdeleted := (h.deleted userId hdeleted).mono hsubset

theorem Traced.mono (h : Traced auth labels s) (hsubset : labels ⊆ labels')
    : Traced auth labels' s where
  calls call hcall := (h.calls call hcall).mono hsubset
  docs n hn := (h.docs n hn).mono hsubset
  polls poll hpoll := (h.polls poll hpoll).mono hsubset

theorem Accounted.onDocument {n : NotificationEntity} (h : Accounted auth labels n) {op : Op}
    (hop : Authorized auth labels op) : Accounted auth labels (op.onDocument n) where
  posted := by
    rcases h.posted with ⟨notification, hsaves, hrequested⟩
    rw [op.onDocument_producerId]
    exact ⟨notification, Op.saves_onDocument hsaves op, hrequested⟩
  seen := by
    intro userId hseen
    rw [op.onDocument_id]
    rcases Op.hasSeen_onDocument hseen with hold | rfl
    . exact h.seen userId hold
    . exact hop
  deleted := by
    intro userId hdeleted
    rw [op.onDocument_id]
    rcases Op.hasDeleted_onDocument hdeleted with hold | rfl
    . exact h.deleted userId hold
    . exact hop

theorem Authorized.onDocuments {store : Store} {op : Op} (hop : Authorized auth labels op)
    (h : ∀ n ∈ store.docs, Accounted auth labels n)
    : ∀ n ∈ (store.apply op).docs, Accounted auth labels n := by
  intro n hn
  rw [Store.docs_apply, List.mem_append] at hn
  rcases hn with hold | hnew
  . rcases List.mem_map.mp hold with ⟨n', hn', rfl⟩
    exact (h n' hn').onDocument hop
  . rcases Op.exists_of_mem_inserted hnew with ⟨createdAt, notification, rfl, hsaves, _, hconf⟩
    refine ⟨⟨notification, hsaves, hop⟩, ?_, ?_⟩
    . rintro userId ⟨c, hc, _⟩
      simp [hconf] at hc
    . rintro userId ⟨c, hc, _⟩
      simp [hconf] at hc

theorem authorized_of_op? {call : Call} (h : Issued auth labels call.request) {id : ObjectId} {op : Op}
    (hop : call.op? id = some op) : Authorized auth labels op := by
  unfold Call.op? at hop
  split at hop
  . rw [← Option.some.inj hop]
    exact h
  . rw [← Option.some.inj hop]
    exact h
  . rw [← Option.some.inj hop]
    exact h
  . simp at hop

theorem Traced.core (h : Traced auth labels s) {label : Label} {core : Service}
    (hpermitted : Permitted auth labels (.core label))
    (hstep : s.core.step config.notificationsService label = some core)
    : Traced auth labels { s with core } := by
  refine ⟨?_, ?_, h.polls⟩
  . intro call hcall
    rcases Service.request_of_step hstep hcall with ⟨call', hcall', hrequest⟩ | rfl
    . exact hrequest ▸ h.calls call' hcall'
    . exact hpermitted
  . cases hlabel : label.call? with
    | none =>
      cases label with
      | call request =>
        rw [← Option.some.inj hstep]
        exact h.docs
      | repository op =>
        have hstore : core.store = s.core.store.apply op := by
          cases op with
          | updateConfirmationSeen id userId seen => simp [Service.step] at hstep
          | delete id userId => simp [Service.step] at hstep
          | _ => exact Option.some.inj hstep ▸ rfl
        dsimp only
        rw [hstore]
        exact Authorized.onDocuments hpermitted h.docs
      | _ => simp [Label.call?] at hlabel
    | some i =>
      dsimp only
      rcases Service.op_of_step hstep hlabel with hsame | ⟨call, hcall, id, op, hop, happly, _⟩
      . rw [hsame]
        exact h.docs
      . rw [happly]
        exact (authorized_of_op? (h.calls call (List.mem_of_getElem? hcall)) hop).onDocuments h.docs

theorem Traced.step (h : Traced auth labels s) (htracked : s.Tracked) {label : DeploymentLabel}
    (hpermitted : Permitted auth labels label) (heffect : Deployment.Effect config codec s label s')
    : Traced auth labels s' := by
  cases heffect with
  | core coreLabel core label_eq step store =>
    subst label_eq
    exact h.core hpermitted step
  | find userId label_eq =>
    subst label_eq
    refine ⟨h.calls, h.docs, ?_⟩
    intro poll hpoll
    rw [List.mem_append, List.mem_singleton] at hpoll
    rcases hpoll with hold | rfl
    . exact h.polls poll hold
    . exact hpermitted
  | poll i poll poll' fetchLabel store poll_eq other step =>
    have hmem := List.mem_of_getElem? poll_eq
    rcases Poll.tracks_of_step (htracked.polls poll hmem) other step with ⟨_, huser, _, hstore⟩
    refine ⟨h.calls, ?_, ?_⟩
    . rcases hstore with rfl | ⟨id, ids, now, _, rfl⟩
      . exact h.docs
      . apply Authorized.onDocuments _ h.docs
        trivial
    . intro poll₁ hpoll₁
      rcases List.mem_or_eq_of_mem_set hpoll₁ with hold | rfl
      . exact h.polls poll₁ hold
      . exact huser ▸ h.polls poll hmem
  | start => exact ⟨h.calls, h.docs, h.polls⟩
  | node j node node' nodeLabel node_eq step content => exact ⟨h.calls, h.docs, h.polls⟩
  | collect j node lastUpdates node_eq => exact ⟨h.calls, h.docs, h.polls⟩
  | confirm node entry consumerLabel consumer node_mem handed step =>
    refine ⟨h.calls, ?_, h.polls⟩
    rcases Consumer.store_of_step step with hsame | ⟨confirmation, now, _, happly⟩
    . rw [hsame]
      exact h.docs
    . dsimp only [Deployment.setStore]
      rw [happly]
      apply Authorized.onDocuments _ h.docs
      trivial

/-- What a request does it does for the user whose token it has come with. -/
theorem deployment_of_step {label : RoutingLabel} (hlabel : label ∈ labels)
    (hstep : Routing.step auth config codec s label = some s')
    : s' = s
        ∨ ∃ label, Permitted auth labels label ∧ Deployment.step config codec s label = some s' := by
  have hproducer : ∀ {user : User}, requireAllRoles user [Role.produceNotifications] = .ok () →
      [Role.produceNotifications] ⊆ user.roles :=
    fun h => requireAllRoles_eq_ok_iff.mp h
  cases label with
  | postNotificationsUndelivered credentials notification =>
    simp only [Routing.step] at hstep
    split at hstep
    . exact .inl (Option.some.inj hstep).symm
    . next user huser =>
      split at hstep
      . exact .inl (Option.some.inj hstep).symm
      . next hroles =>
        refine .inr ⟨_, ?_, hstep⟩
        exact ⟨credentials, user, hlabel, huser, rfl, hproducer hroles⟩
  | getNotificationsUndelivered credentials =>
    simp only [Routing.step] at hstep
    split at hstep
    . exact .inl (Option.some.inj hstep).symm
    . next user huser =>
      refine .inr ⟨_, ?_, hstep⟩
      exact ⟨credentials, user, hlabel, huser, rfl, List.nil_subset _⟩
  | putNotificationsUndeliveredInvalidateAt credentials id invalidateAt now applied =>
    simp only [Routing.step] at hstep
    split at hstep
    . exact .inl (Option.some.inj hstep).symm
    . next user huser =>
      split at hstep
      . exact .inl (Option.some.inj hstep).symm
      . next hroles =>
        split at hstep
        . exact .inl (Option.some.inj hstep).symm
        . next hvalid =>
          split at hstep
          . next happlied =>
            subst happlied
            refine .inr ⟨_, ?_, hstep⟩
            exact ⟨now, hvalid, credentials, user, hlabel, huser, rfl, hproducer hroles⟩
          . exact .inl (Option.some.inj hstep).symm
  | deleteNotificationDelivered credentials id =>
    simp only [Routing.step] at hstep
    split at hstep
    . exact .inl (Option.some.inj hstep).symm
    . next user huser =>
      refine .inr ⟨_, ?_, hstep⟩
      exact ⟨credentials, user, hlabel, huser, rfl, List.nil_subset _⟩
  | putNotificationDeliveredSeen credentials id seen =>
    simp only [Routing.step] at hstep
    split at hstep
    . exact .inl (Option.some.inj hstep).symm
    . next user huser =>
      refine .inr ⟨_, ?_, hstep⟩
      exact ⟨credentials, user, hlabel, huser, rfl, List.nil_subset _⟩
  | deployment label =>
    have hpermitted : Permitted auth labels label ∧ Deployment.step config codec s label = some s' := by
      cases label with
      | core label =>
        cases label with
        | call request => simp [Routing.step] at hstep
        | repository op => simp [Routing.step] at hstep
        | _ => exact ⟨trivial, hstep⟩
      | find userId => simp [Routing.step] at hstep
      | _ => exact ⟨trivial, hstep⟩
    exact .inr ⟨label, hpermitted⟩

theorem traced_init : Traced auth [] .init where
  calls := by simp [Deployment.init, Service.init]
  docs := by simp [Deployment.init, Service.init, Store.empty]
  polls := by simp [Deployment.init]

theorem traced_of_run (hrun : System.run (Routing.step auth config codec) .init labels = some s)
    : s.Tracked ∧ (s.ReadsBack codec.toCodec → s.Sound codec) ∧ Traced auth labels s := by
  apply System.run_induction (P := fun labels s => s.Tracked
    ∧ (s.ReadsBack codec.toCodec → s.Sound codec) ∧ Traced auth labels s)
    ⟨Deployment.tracked_init, fun _ => Deployment.sound_init, traced_init⟩ _ hrun
  rintro labels label t t' _ ⟨htracked, hsound, htraced⟩ hstep
  have hlabel : label ∈ labels ++ [label] := List.mem_append_right _ (List.mem_singleton_self _)
  replace htraced := htraced.mono (List.subset_append_left labels [label])
  rcases deployment_of_step hlabel hstep with rfl | ⟨label', hpermitted, hstep'⟩
  . exact ⟨htracked, hsound, htraced⟩
  . have heffect := Deployment.effect_of_step hstep'
    rcases htracked.step heffect with ⟨htracked', hgrows⟩
    refine ⟨htracked', ?_, htraced.step htracked hpermitted heffect⟩
    intro hreads'
    have hreads := hreads'.of_grows hgrows
    exact (hsound hreads).step htracked hreads heffect

def sampleToken : Bytes :=
  let parts := [
    "eyJ0eXAiOiJKV1QiLCJhbGciOiJIUz", "I1NiJ9.eyJleHAiOjI1MzQwMjIxMDg", "wMCwicmVhbG1fYWNjZXNzIjp7InJvb",
    "GVzIjpbInRvbV9ub3RpZmllcl9wcm9", "kdWNlX25vdGlmaWNhdGlvbnMiXX0sI", "nN1YiI6IjAwMDAwMDAwLTAwMDAtMDA",
    "wMC0wMDAwLTAwMDAwMDAwMDAwMiJ9.", "yrs7GxzGYcf06nTrzvB6YXudUwowzF", "AJ720Y3C5KwYQ"
  ]
  parts.flatMap fun part => part.toList.map fun c => UInt8.ofNat c.toNat

def sampleAuth : JwtAuthLayer where
  decode _ token := if token = sampleToken then some ⟨⟨2⟩, ⟨[Role.produceNotifications]⟩⟩ else none

def sampleCredentials : Credentials where
  authorization := some (JwtAuthLayer.bearer ++ 32 :: sampleToken)
  validatedAt := 1000000

theorem user_sampleCredentials
    : sampleCredentials.user sampleAuth = .ok { id := ⟨2⟩, roles := [Role.produceNotifications] } := by
  have hvalue : HeaderValue.toStr (JwtAuthLayer.bearer ++ 32 :: sampleToken)
      = some (JwtAuthLayer.bearer ++ 32 :: sampleToken) := by
    decide +kernel
  have hdecode : sampleAuth.decode 1000000 sampleToken
      = some ⟨⟨2⟩, ⟨[Role.produceNotifications]⟩⟩ := by
    simp only [sampleAuth, ↓reduceIte]
  rw [Credentials.user, JwtAuthLayer.parseAuthorizationHeader_eq_ok_iff]
  exact ⟨32, sampleToken, _, Eq.refl _, hvalue, hdecode, Eq.refl _⟩

end Routing

end Core

end TomNotifier
