import TomNotifier.Deployment.Routing

/-!
This module contains the step of a run that has inserted a notification, and what the requests behind it
have made of its expiry.
-/

namespace TomNotifier

namespace Core

theorem Call.eq_of_op?_insert {call : Call} {id id' : ObjectId} {userIds : List Uuid}
    {createdAt : OffsetDateTime} {invalidateAt : Option OffsetDateTime} {producerId : Uuid}
    {producerNotificationId : Int64} {contentType : String} {content : Bytes}
    (h : call.op? id' = some (.insert id userIds createdAt invalidateAt producerId
      producerNotificationId contentType content))
    : id' = id
        ∧ call = ⟨.saveNotification producerId
            ⟨invalidateAt, userIds, producerNotificationId, contentType, content⟩,
          .validated createdAt⟩ := by
  unfold Call.op? at h
  split at h
  . simp only [Option.some.injEq, Op.insert.injEq] at h
    rcases h with ⟨rfl, rfl, rfl, rfl, rfl, rfl, rfl, rfl⟩
    exact ⟨rfl, rfl⟩
  . simp at h
  . simp at h
  . simp at h

theorem Call.op?_ne_updateInvalidateAt {call : Call} {id : ObjectId} {op : Op}
    (h : call.op? id = some op) (id' : ObjectId) (producerId : Uuid)
    (invalidateAt : Option OffsetDateTime) : op ≠ .updateInvalidateAt id' producerId invalidateAt := by
  rintro rfl
  unfold Call.op? at h
  split at h <;> simp at h

namespace Routing

open NotificationsService (validateUpdateInvalidateAt)

/-- The expiry a request sets for the producer's notification, if it is granted and gets that far. -/
def invalidateAt? (auth : JwtAuthLayer) (id : ObjectId) (producerId : Uuid)
    : RoutingLabel → Option (Option OffsetDateTime)
  | .putNotificationsUndeliveredInvalidateAt credentials id' invalidateAt now applied =>
    match credentials.user auth with
    | .error _ => none
    | .ok user =>
      match requireAllRoles user [Role.produceNotifications] with
      | .error _ => none
      | .ok () =>
        match validateUpdateInvalidateAt invalidateAt now with
        | .error _ => none
        | .ok () => if applied ∧ id' = id ∧ user.id = producerId then some invalidateAt else none
  | _ => none

/-- The step inserts the notification for a call that is to save it. -/
def Inserts (s : Deployment) (label : RoutingLabel) (n : NotificationEntity)
    (notification : InputNotification) : Prop :=
  ∃ i createdAt,
    s.core.calls[i]? = some ⟨.saveNotification n.producerId notification, .validated createdAt⟩
      ∧ (label = .deployment (.core (.insert i n.id))
        ∨ label = .deployment (.core (.lost i n.id true)))
      ∧ ∀ n' ∈ s.core.store.docs, n'.id ≠ n.id

/--
The step of a run that has inserted the notification, what has been posted before it and what the
notification owes to the requests after it: it expires when the last of them that has set an expiry has
said, or when the post has said if there is none.
-/
structure Saved (auth : JwtAuthLayer) (config : DeploymentConfig) (codec : WsDelivery.WebSocketCodec)
    (before : List RoutingLabel) (label : RoutingLabel) (after : List RoutingLabel)
    (n : NotificationEntity) (notification : InputNotification) : Prop where
  posted : Requested auth before [Role.produceNotifications] n.producerId
    (.postNotificationsUndelivered · notification)
  inserted : ∃ s s', System.run (Routing.step auth config codec) .init before = some s
    ∧ Inserts s label n notification
    ∧ Routing.step auth config codec s label = some s'
    ∧ ∃ n' ∈ s'.core.store.docs, n'.id = n.id
  saves : n.Saves n.producerId notification
  invalidateAt : n.invalidateAt
    = ((after.filterMap (invalidateAt? auth n.id n.producerId)).getLast?.getD
      notification.invalidateAt).map DateTime.ofOffsetDateTime

/-- The requests a stored notification goes back to. -/
structure Provenance (auth : JwtAuthLayer) (config : DeploymentConfig)
    (codec : WsDelivery.WebSocketCodec) (labels : List RoutingLabel) (n : NotificationEntity)
    : Prop where
  saved : ∃ before label after notification, labels = before ++ label :: after
    ∧ Saved auth config codec before label after n notification
  seen : ∀ userId, n.HasSeen userId →
    Requested auth labels [] userId (.putNotificationDeliveredSeen · n.id true)
  deleted : ∀ userId, n.HasDeleted userId →
    Requested auth labels [] userId (.deleteNotificationDelivered · n.id)

/-- What a step makes of a document that has been there before. -/
structure Becomes (auth : JwtAuthLayer) (label : RoutingLabel) (n n' : NotificationEntity) : Prop where
  id : n'.id = n.id
  producerId : n'.producerId = n.producerId
  saves : ∀ notification, n.Saves n.producerId notification → n'.Saves n.producerId notification
  invalidateAt : n'.invalidateAt
    = (invalidateAt? auth n.id n.producerId label).elim n.invalidateAt
      (·.map DateTime.ofOffsetDateTime)

variable {auth : JwtAuthLayer} {config : DeploymentConfig} {codec : WsDelivery.WebSocketCodec}
variable {before after labels : List RoutingLabel} {label : RoutingLabel} {s s' : Deployment}
variable {n n' : NotificationEntity} {notification : InputNotification} {op : Op}

theorem becomes_onDocument
    (hinvalidateAt : (op.onDocument n).invalidateAt
      = (invalidateAt? auth n.id n.producerId label).elim n.invalidateAt
        (·.map DateTime.ofOffsetDateTime))
    : Becomes auth label n (op.onDocument n) where
  id := op.onDocument_id n
  producerId := op.onDocument_producerId n
  saves _ hsaves := Op.saves_onDocument hsaves op
  invalidateAt := hinvalidateAt

theorem invalidateAt_onDocument
    (hop : ∀ id producerId invalidateAt, op ≠ .updateInvalidateAt id producerId invalidateAt)
    : (op.onDocument n).invalidateAt = n.invalidateAt := by
  rcases op.invalidateAt_onDocument_cases n with hsame | ⟨invalidateAt, rfl, _⟩
  . exact hsame
  . exact absurd rfl (hop _ _ _)

/-- Every document after a step has been there before it or been inserted by it. -/
def Changes (auth : JwtAuthLayer) (s : Deployment) (label : RoutingLabel) (s' : Deployment) : Prop :=
  ∀ n' ∈ s'.core.store.docs,
    (∃ n ∈ s.core.store.docs, Becomes auth label n n')
      ∨ ∃ notification, Inserts s label n' notification
        ∧ n'.Saves n'.producerId notification
        ∧ n'.invalidateAt = notification.invalidateAt.map DateTime.ofOffsetDateTime

theorem changes_of_docs_eq (hdocs : s'.core.store.docs = s.core.store.docs)
    (hlabel : ∀ id producerId, invalidateAt? auth id producerId label = none)
    : Changes auth s label s' := by
  intro n hn
  refine .inl ⟨n, hdocs ▸ hn, rfl, rfl, fun _ => id, ?_⟩
  rw [hlabel]
  rfl

theorem changes_of_apply (hstore : s'.core.store = s.core.store.apply op)
    (hop : ∀ id producerId invalidateAt, op ≠ .updateInvalidateAt id producerId invalidateAt)
    (hlabel : ∀ id producerId, invalidateAt? auth id producerId label = none)
    (hinserted : ∀ n' ∈ op.inserted s.core.store.docs, ∃ notification,
      Inserts s label n' notification
        ∧ n'.Saves n'.producerId notification
        ∧ n'.invalidateAt = notification.invalidateAt.map DateTime.ofOffsetDateTime)
    : Changes auth s label s' := by
  intro n' hn'
  rw [hstore, Store.docs_apply, List.mem_append] at hn'
  rcases hn' with hold | hnew
  . rcases List.mem_map.mp hold with ⟨n, hn, rfl⟩
    refine .inl ⟨n, hn, becomes_onDocument ?_⟩
    rw [hlabel, invalidateAt_onDocument hop]
    rfl
  . exact .inr (hinserted n' hnew)

theorem ne_of_mem_inserted {docs : Notifications} (hn' : n' ∈ op.inserted docs)
    : ∀ n ∈ docs, n.id ≠ n'.id := by
  intro n hn hid
  rcases op.inserted_cases docs with hnil | ⟨n'', hn'', _, hfresh⟩
  . simp [hnil] at hn'
  . rw [hn'', List.mem_singleton] at hn'
    subst hn'
    have hconflict := hfresh n hn
    simp [NotificationsRepository.conflict, hid] at hconflict

theorem changes_of_core {label : Label} {core : Service}
    (hstep : s.core.step config.notificationsService label = some core)
    (hcall : ∀ request, label ≠ .call request) (hrepository : ∀ op, label ≠ .repository op)
    : Changes auth s (.deployment (.core label)) { s with core } := by
  cases hlabel : label.call? with
  | none =>
    cases label with
    | call request => exact absurd rfl (hcall request)
    | repository op => exact absurd rfl (hrepository op)
    | _ => simp [Label.call?] at hlabel
  | some i =>
    rcases Service.op_of_step hstep hlabel with hsame | ⟨call, hi, id, op, hop, hstore, hlabels⟩
    . exact changes_of_docs_eq (congrArg Store.docs hsame) fun _ _ => rfl
    . apply changes_of_apply hstore (Call.op?_ne_updateInvalidateAt hop) fun _ _ => rfl
      intro n' hn'
      rcases Op.exists_of_mem_inserted hn' with
        ⟨createdAt, notification, rfl, hsaves, hinvalidateAt, _⟩
      rcases Call.eq_of_op?_insert hop with ⟨rfl, rfl⟩
      refine ⟨notification, ⟨i, createdAt, hi, ?_, ne_of_mem_inserted hn'⟩, hsaves, hinvalidateAt⟩
      rcases hlabels with hstarted | rfl | rfl
      . contradiction
      . exact .inl rfl
      . exact .inr rfl

theorem changes_of_effect {label : DeploymentLabel} (htracked : s.Tracked)
    (heffect : Deployment.Effect config codec s label s')
    (hcall : ∀ request, label ≠ .core (.call request))
    (hrepository : ∀ op, label ≠ .core (.repository op))
    : Changes auth s (.deployment label) s' := by
  cases heffect with
  | core coreLabel core label_eq step store =>
    subst label_eq
    apply changes_of_core step
    . rintro request rfl
      exact hcall request rfl
    . rintro op rfl
      exact hrepository op rfl
  | find userId => exact changes_of_docs_eq rfl fun _ _ => rfl
  | poll i poll poll' fetchLabel store poll_eq other step =>
    have hmem := List.mem_of_getElem? poll_eq
    rcases Poll.tracks_of_step (htracked.polls poll hmem) other step with ⟨_, _, _, hstore⟩
    rcases hstore with rfl | ⟨id, ids, now, _, rfl⟩
    . exact changes_of_docs_eq rfl fun _ _ => rfl
    . exact changes_of_apply rfl (by simp) (fun _ _ => rfl) (by simp [Op.inserted])
  | start => exact changes_of_docs_eq rfl fun _ _ => rfl
  | node j node node' nodeLabel node_eq step content => exact changes_of_docs_eq rfl fun _ _ => rfl
  | collect j node lastUpdates node_eq => exact changes_of_docs_eq rfl fun _ _ => rfl
  | confirm node entry consumerLabel consumer node_mem handed step =>
    rcases Consumer.store_of_step step with hsame | ⟨confirmation, now, _, happly⟩
    . exact changes_of_docs_eq (congrArg Store.docs hsame) fun _ _ => rfl
    . exact changes_of_apply happly (by simp) (fun _ _ => rfl) (by simp [Op.inserted])

theorem becomes_of_put {credentials : Credentials} {user : User} {id : ObjectId}
    {invalidateAt : Option OffsetDateTime} {now : OffsetDateTime}
    (huser : credentials.user auth = .ok user)
    (hroles : requireAllRoles user [Role.produceNotifications] = .ok ())
    (hvalid : validateUpdateInvalidateAt invalidateAt now = .ok ())
    : Becomes auth (.putNotificationsUndeliveredInvalidateAt credentials id invalidateAt now true) n
        ((Op.updateInvalidateAt id user.id invalidateAt).onDocument n) := by
  apply becomes_onDocument
  simp only [invalidateAt?, huser, hroles, hvalid, Op.onDocument, eq_comm (a := id),
    eq_comm (a := user.id), true_and]
  split <;> rfl

theorem docs_of_call {request : Request}
    (hstep : Deployment.step config codec s (.core (.call request)) = some s')
    : s'.core.store.docs = s.core.store.docs := by
  simp only [Deployment.step, Deployment.stepCore, Option.map_eq_some_iff] at hstep
  rcases hstep with ⟨core, hcore, rfl⟩
  exact Option.some.inj hcore ▸ rfl

theorem changes_of_step (htracked : s.Tracked)
    (hstep : Routing.step auth config codec s label = some s') : Changes auth s label s' := by
  have hsame : some s = some s' → (∀ id producerId, invalidateAt? auth id producerId label = none) →
      Changes auth s label s' := by
    intro heq hlabel
    rw [← Option.some.inj heq]
    exact changes_of_docs_eq rfl hlabel
  cases label with
  | postNotificationsUndelivered credentials notification =>
    simp only [Routing.step] at hstep
    split at hstep
    . exact hsame hstep fun _ _ => rfl
    . split at hstep
      . exact hsame hstep fun _ _ => rfl
      . exact changes_of_docs_eq (docs_of_call hstep) fun _ _ => rfl
  | getNotificationsUndelivered credentials =>
    simp only [Routing.step] at hstep
    split at hstep
    . exact hsame hstep fun _ _ => rfl
    . rw [← Option.some.inj hstep]
      exact changes_of_docs_eq rfl fun _ _ => rfl
  | putNotificationsUndeliveredInvalidateAt credentials id invalidateAt now applied =>
    simp only [Routing.step] at hstep
    split at hstep
    . next huser => exact hsame hstep (by simp [invalidateAt?, huser])
    . next user huser =>
      split at hstep
      . next hroles => exact hsame hstep (by simp [invalidateAt?, huser, hroles])
      . next hroles =>
        split at hstep
        . next hvalid => exact hsame hstep (by simp [invalidateAt?, huser, hroles, hvalid])
        . next hvalid =>
          split at hstep
          . next happlied =>
            subst happlied
            simp only [Deployment.step, Deployment.stepCore, Option.map_eq_some_iff] at hstep
            rcases hstep with ⟨core, hcore, rfl⟩
            rw [← Option.some.inj hcore]
            intro n' hn'
            rw [Store.docs_apply, Op.inserted, List.append_nil, List.mem_map] at hn'
            rcases hn' with ⟨n, hn, rfl⟩
            exact .inl ⟨n, hn, becomes_of_put huser hroles hvalid⟩
          . next happlied => exact hsame hstep (by simp [invalidateAt?, huser, hroles, hvalid, happlied])
  | deleteNotificationDelivered credentials id =>
    simp only [Routing.step] at hstep
    split at hstep
    . exact hsame hstep fun _ _ => rfl
    . exact changes_of_docs_eq (docs_of_call hstep) fun _ _ => rfl
  | putNotificationDeliveredSeen credentials id seen =>
    simp only [Routing.step] at hstep
    split at hstep
    . exact hsame hstep fun _ _ => rfl
    . exact changes_of_docs_eq (docs_of_call hstep) fun _ _ => rfl
  | deployment label =>
    simp only [Routing.step] at hstep
    split at hstep
    . contradiction
    . contradiction
    . contradiction
    . next hcall hrepository _ =>
      exact changes_of_effect htracked (Deployment.effect_of_step hstep) hcall hrepository

theorem Saved.snoc (h : Saved auth config codec before label after n notification)
    {label' : RoutingLabel} (hbecomes : Becomes auth label' n n')
    : Saved auth config codec before label (after ++ [label']) n' notification where
  posted := hbecomes.producerId ▸ h.posted
  inserted := by
    rcases h.inserted with ⟨s, s', hrun, hinserts, hstep, n'', hn'', hid⟩
    unfold Inserts at hinserts ⊢
    rw [hbecomes.id, hbecomes.producerId]
    exact ⟨s, s', hrun, hinserts, hstep, n'', hn'', hid⟩
  saves := by
    rw [hbecomes.producerId]
    exact hbecomes.saves notification h.saves
  invalidateAt := by
    rw [hbecomes.invalidateAt, h.invalidateAt, hbecomes.id, hbecomes.producerId, List.filterMap_append]
    cases hput : invalidateAt? auth n.id n.producerId label' with
    | none => simp [hput]
    | some invalidateAt => simp [hput]

theorem saved_of_run (hrun : System.run (Routing.step auth config codec) .init labels = some s)
    : ∀ n ∈ s.core.store.docs, ∃ before label after notification, labels = before ++ label :: after
        ∧ Saved auth config codec before label after n notification := by
  apply System.run_induction (P := fun labels s => ∀ n ∈ s.core.store.docs,
    ∃ before label after notification, labels = before ++ label :: after
      ∧ Saved auth config codec before label after n notification) _ _ hrun
  . intro n hn
    contradiction
  . intro labels label t t' hrun' ih hstep n' hn'
    rcases traced_of_run hrun' with ⟨htracked, _, htraced⟩
    rcases changes_of_step htracked hstep n' hn' with
      ⟨n, hn, hbecomes⟩ | ⟨notification, hinserts, hsaves, hinvalidateAt⟩
    . rcases ih n hn with ⟨before, label', after, notification, rfl, hsaved⟩
      exact ⟨before, label', after ++ [label], notification, by simp, hsaved.snoc hbecomes⟩
    . refine ⟨labels, label, [], notification, rfl, ?_, ?_, hsaves, hinvalidateAt⟩
      . rcases hinserts with ⟨i, _, hcall, _⟩
        exact htraced.calls _ (List.mem_of_getElem? hcall)
      . exact ⟨t, t', hrun', hinserts, hstep, n', hn', rfl⟩

/--
Every stored notification has been inserted for a producer who had asked for it before, expires when that
producer has said last, and is seen, deleted or delivered for nobody who has not asked for that or
confirmed its arrival.
-/
theorem provenance (auth : JwtAuthLayer) (config : DeploymentConfig) (codec : WsDelivery.WebSocketCodec)
    (labels : List RoutingLabel)
    (hrun : System.run (Routing.step auth config codec) .init labels = some s)
    (hreads : s.ReadsBack codec.toCodec)
    : ∀ n ∈ s.core.store.docs, Provenance auth config codec labels n
        ∧ ∀ userId, n.IsConfirmed userId →
          Requested auth labels [] userId .getNotificationsUndelivered
            ∨ s.Acknowledged codec.toCodec n userId := by
  intro n hn
  rcases traced_of_run hrun with ⟨_, hsound, htraced⟩
  have haccounted := htraced.docs n hn
  refine ⟨⟨saved_of_run hrun n hn, haccounted.seen, haccounted.deleted⟩, ?_⟩
  intro userId hconf
  rcases (hsound hreads).delivered n hn userId hconf with ⟨poll, hpoll, rfl, _⟩ | hacknowledged
  . exact .inl (htraced.polls poll hpoll)
  . exact .inr hacknowledged

-- Somebody else asks for the deletion of what a producer has had saved.
def samplePost : List RoutingLabel :=
  .postNotificationsUndelivered sampleCredentials Service.sampleInput
    :: (Deployment.sampleRun.tail.map .deployment
      ++ [.deleteNotificationDelivered { authorization := none, validatedAt := 1000000 } ⟨7⟩])

-- The last of the three asks for an expiry that has passed.
def samplePuts : List RoutingLabel := [
  .putNotificationsUndeliveredInvalidateAt sampleCredentials ⟨7⟩ (some 9000000000) 4000000000 true,
  .putNotificationsUndeliveredInvalidateAt sampleCredentials ⟨7⟩ (some 8000000000) 5000000000 true,
  .putNotificationsUndeliveredInvalidateAt sampleCredentials ⟨7⟩ (some 5000000000) 6000000000 true
]

def sampleUpdated : Deployment :=
  Deployment.sampleDeployment.setStore
    ((Deployment.sampleDeployment.core.store.apply
      (.updateInvalidateAt ⟨7⟩ ⟨2⟩ (some 9000000000))).apply
        (.updateInvalidateAt ⟨7⟩ ⟨2⟩ (some 8000000000)))

theorem run_samplePost
    : System.run (Routing.step sampleAuth Deployment.sampleConfig Deployment.sampleCodec) .init
        samplePost = some Deployment.sampleDeployment := by
  simp only [samplePost, System.run, Routing.step, user_sampleCredentials]
  rfl

theorem run_samplePuts
    : System.run (Routing.step sampleAuth Deployment.sampleConfig Deployment.sampleCodec)
        Deployment.sampleDeployment samplePuts = some sampleUpdated := by
  have hroles : requireAllRoles { id := ⟨2⟩, roles := [Role.produceNotifications] }
      [Role.produceNotifications] = .ok () := by
    simp [requireAllRoles_eq_ok_iff]
  have hput : ∀ {s : Deployment} {id : ObjectId} {invalidateAt : Option OffsetDateTime}
      {now : OffsetDateTime}, validateUpdateInvalidateAt invalidateAt now = .ok () →
        Routing.step sampleAuth Deployment.sampleConfig Deployment.sampleCodec s
            (.putNotificationsUndeliveredInvalidateAt sampleCredentials id invalidateAt now true)
          = some (s.setStore (s.core.store.apply (.updateInvalidateAt id ⟨2⟩ invalidateAt))) := by
    intro s id invalidateAt now hvalid
    simp only [Routing.step, user_sampleCredentials, hroles, hvalid]
    rfl
  rw [samplePuts, System.run, hput (by decide)]
  dsimp only
  rw [System.run, hput (by decide)]
  simp only [System.run, Routing.step, user_sampleCredentials, hroles]
  rfl

theorem provenance_saved
    : ∃ n ∈ sampleUpdated.core.store.docs,
        Provenance sampleAuth Deployment.sampleConfig Deployment.sampleCodec
          (samplePost ++ samplePuts) n
          ∧ n.invalidateAt = some 8000
          ∧ ¬n.HasDeleted ⟨1⟩ := by
  have hreads : sampleUpdated.ReadsBack Deployment.sampleCodec.toCodec := by
    rcases Deployment.readsBack_sampleDeployment with ⟨hnotifications, hconfirmations, huserIds⟩
    exact ⟨hnotifications, hconfirmations, huserIds⟩
  have hn := List.mem_of_getElem? (l := sampleUpdated.core.store.docs) (i := 0) rfl
  have hrun := System.run_append_eq_some.mpr ⟨_, run_samplePost, run_samplePuts⟩
  have h := provenance sampleAuth Deployment.sampleConfig Deployment.sampleCodec
    (samplePost ++ samplePuts) hrun hreads _ hn
  refine ⟨_, hn, h.1, rfl, ?_⟩
  rintro ⟨c, hc, _, hdeleted⟩
  rw [List.mem_singleton.mp hc] at hdeleted
  exact Bool.false_ne_true hdeleted

end Routing

end Core

end TomNotifier
