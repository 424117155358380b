import TomNotifier.Core.Repository.Delivered
import TomNotifier.Deployment.Routing

/-!
This module contains what the endpoints of the core server answer with, and whose requests that goes back
to.
-/

namespace TomNotifier

namespace Core

/-- `dto::output::Notification`, whose id is not written as a hexadecimal string here. -/
structure OutputNotification where
  id : ObjectId
  createdAt : OffsetDateTime
  createdBy : Uuid
  seen : Bool
  contentType : String
  content : Bytes
  deriving DecidableEq

def OutputNotification.ofNotification (value : Notification) : OutputNotification where
  id := value.id
  createdAt := value.createdAt
  createdBy := value.producerId
  seen := value.seen
  contentType := value.contentType
  content := value.content

namespace NotificationsService

def findDeliveredNotifications (userId : Uuid) (pagination : Pagination) (filters : NotificationFilters)
    (docs : Notifications) : List OutputNotification :=
  (NotificationsRepository.findManyDelivered userId pagination filters docs).map .ofNotification

def findDeliveredNotification (id : ObjectId) (userId : Uuid) (docs : Notifications)
    : Except Error OutputNotification :=
  match NotificationsRepository.findDelivered id userId docs with
  | none => .error .notificationNotExist
  | some notification => .ok (.ofNotification notification)

end NotificationsService

end Core

/-- What a call has found and not given up. -/
def Poll.notifications (poll : Poll) : List Core.Notification :=
  Core.Fetch.notifications { Core.Fetch.init .empty with progress := poll.progress }

/-- What `get_notifications_undelivered` answers with. -/
def Poll.answer? (poll : Poll) : Option (Except Core.Error (List Core.OutputNotification)) :=
  match poll.progress with
  | .returned result => some (result.map (·.map .ofNotification))
  | _ => none

theorem Poll.notifications_of_step {store store' : Core.Store} {poll poll' : Poll}
    {label : Core.FetchLabel} (hstep : poll.step store label = some (store', poll'))
    : ∀ m ∈ poll'.notifications, m ∈ poll.notifications
        ∨ ∃ now, m ∈ Core.NotificationsRepository.findManyUndelivered poll.userId now store.docs := by
  unfold Poll.step at hstep
  dsimp only at hstep
  split at hstep
  . contradiction
  . next fetch hfetch =>
    rw [Option.some.injEq, Prod.mk.injEq] at hstep
    rcases hstep with ⟨_, rfl⟩
    exact Core.Fetch.notifications_of_step hfetch

theorem Poll.exists_of_mem_answer {poll : Poll} {answers : List Core.OutputNotification}
    {answer : Core.OutputNotification} (hanswer : poll.answer? = some (.ok answers))
    (hmem : answer ∈ answers) : ∃ m ∈ poll.notifications, .ofNotification m = answer := by
  unfold Poll.answer? at hanswer
  split at hanswer
  . next result hreturned =>
    cases result with
    | error error => simp [Except.map] at hanswer
    | ok notifications =>
      simp only [Except.map, Option.some.injEq, Except.ok.injEq] at hanswer
      rw [← hanswer] at hmem
      rwa [Poll.notifications, Core.Fetch.notifications, hreturned, ← List.mem_map]
  . contradiction

namespace Core.Routing

open NotificationsService (findDeliveredNotifications findDeliveredNotification)

def getNotificationsDelivered (auth : JwtAuthLayer) (credentials : Credentials)
    (pagination : Pagination) (filters : NotificationFilters) (docs : Notifications)
    : Except String (List OutputNotification) := do
  let user ← credentials.user auth
  return findDeliveredNotifications user.id pagination filters docs

def getNotificationDelivered (auth : JwtAuthLayer) (credentials : Credentials) (id : ObjectId)
    (docs : Notifications) : Except String (Except Error OutputNotification) := do
  let user ← credentials.user auth
  return findDeliveredNotification id user.id docs

/-- What a user is shown is what a producer has asked to be sent to that user, or to everyone. -/
structure Addressed (auth : JwtAuthLayer) (labels : List RoutingLabel) (userId : Uuid)
    (answer : OutputNotification) : Prop where
  sent : ∃ notification : InputNotification,
    Requested auth labels [Role.produceNotifications] answer.createdBy
      (.postNotificationsUndelivered · notification)
    ∧ (notification.userIds = [] ∨ userId ∈ notification.userIds)
    ∧ answer.contentType = notification.contentType
    ∧ answer.content = notification.content
  seen : answer.seen = true →
    Requested auth labels [] userId (.putNotificationDeliveredSeen · answer.id true)

variable {auth : JwtAuthLayer} {config : DeploymentConfig} {codec : WsDelivery.WebSocketCodec}
variable {labels labels' : List RoutingLabel} {s s' : Deployment} {userId : Uuid}

theorem bind_user_eq_ok_iff {α : Type} {credentials : Credentials} {f : User → α} {a : α}
    : (credentials.user auth >>= fun user => pure (f user)) = .ok a
        ↔
      ∃ user, credentials.user auth = .ok user ∧ f user = a := by
  cases credentials.user auth with
  | error error => simp [bind, Except.bind]
  | ok user => simp [bind, Except.bind, pure, Except.pure]

theorem Addressed.mono {answer : OutputNotification} (h : Addressed auth labels userId answer)
    (hsubset : labels ⊆ labels') : Addressed auth labels' userId answer where
  sent := by
    rcases h.sent with ⟨notification, hrequested, hrest⟩
    exact ⟨notification, hrequested.mono hsubset, hrest⟩
  seen hseen := (h.seen hseen).mono hsubset

theorem Accounted.addressed {n : NotificationEntity} (h : Accounted auth labels n)
    (hrec : n.IsRecipient userId) {answer : OutputNotification} (hid : answer.id = n.id)
    (hcreatedBy : answer.createdBy = n.producerId) (hcontentType : answer.contentType = n.contentType)
    (hcontent : answer.content = n.content) (hseen : answer.seen = true → n.HasSeen userId)
    : Addressed auth labels userId answer where
  sent := by
    rcases h.posted with ⟨notification, hsaves, hrequested⟩
    refine ⟨notification, hcreatedBy ▸ hrequested, ?_, ?_, ?_⟩
    . rw [← hsaves.userIds]
      exact hrec
    . rw [hcontentType, hsaves.contentType]
    . rw [hcontent, hsaves.content]
  seen hanswered := hid ▸ h.seen userId (hseen hanswered)

theorem addressed_of_delivered {filters : NotificationFilters} {m : Notification}
    (h : Traced auth labels s) (hm : m ∈ deliveredNotifications userId filters s.core.store.docs)
    : Addressed auth labels userId (.ofNotification m) ∧ ∀ seen ∈ filters.seen, m.seen = seen := by
  rcases mem_deliveredNotifications_iff.mp hm with ⟨n, hn, hdelivered⟩
  rcases NotificationEntity.delivered?_eq_some_iff.mp hdelivered with ⟨hstatus, hfilter, heq⟩
  have hvalid := s.core.store.valid n hn
  refine ⟨?_, fun seen hmem => (hfilter seen hmem).symm⟩
  apply (h.docs n hn).addressed
  . exact hvalid.isRecipient_of_isDelivered (hvalid.isDelivered_iff.mpr ⟨m.seen, hstatus⟩)
  . exact congrArg Notification.id heq
  . exact congrArg Notification.producerId heq
  . exact congrArg Notification.contentType heq
  . exact congrArg Notification.content heq
  . intro hseen
    exact NotificationEntity.hasSeen_of_status (hstatus.trans (congrArg Status.delivered hseen))

theorem addressed_of_undelivered {now : OffsetDateTime} {m : Notification} (h : Traced auth labels s)
    (hm : m ∈ NotificationsRepository.findManyUndelivered userId now s.core.store.docs)
    : Addressed auth labels userId (.ofNotification m) ∧ m.seen = false := by
  rcases NotificationsRepository.mem_findManyUndelivered_iff.mp hm with ⟨n, hn, haccepts, rfl⟩
  refine ⟨?_, rfl⟩
  apply (h.docs n hn).addressed haccepts.1 rfl rfl rfl rfl
  intro hseen
  contradiction

/-- What the calls in progress hold they have found for their users. -/
def Fetched (auth : JwtAuthLayer) (labels : List RoutingLabel) (s : Deployment) : Prop :=
  ∀ poll ∈ s.polls, ∀ m ∈ poll.notifications,
    Addressed auth labels poll.userId (.ofNotification m) ∧ m.seen = false

theorem Fetched.mono (h : Fetched auth labels s) (hsubset : labels ⊆ labels')
    : Fetched auth labels' s := by
  intro poll hpoll m hm
  exact (h poll hpoll m hm).imp_left (·.mono hsubset)

theorem Fetched.step (h : Fetched auth labels s) (htraced : Traced auth labels s)
    (htracked : s.Tracked) {label : DeploymentLabel}
    (heffect : Deployment.Effect config codec s label s') : Fetched auth labels s' := by
  cases heffect with
  | core => exact h
  | find userId =>
    intro poll hpoll m hm
    rw [List.mem_append, List.mem_singleton] at hpoll
    rcases hpoll with hold | rfl
    . exact h poll hold m hm
    . contradiction
  | poll i poll poll' fetchLabel store poll_eq other step =>
    have hmem := List.mem_of_getElem? poll_eq
    rcases Poll.tracks_of_step (htracked.polls poll hmem) other step with ⟨_, huser, _⟩
    intro poll₁ hpoll₁ m hm
    rcases List.mem_or_eq_of_mem_set hpoll₁ with hold | rfl
    . exact h poll₁ hold m hm
    . rw [huser]
      rcases Poll.notifications_of_step step m hm with hold | ⟨now, hfound⟩
      . exact h poll hmem m hold
      . exact addressed_of_undelivered htraced hfound
  | start => exact h
  | node => exact h
  | collect => exact h
  | confirm => exact h

theorem fetched_of_run (hrun : System.run (Routing.step auth config codec) .init labels = some s)
    : Fetched auth labels s := by
  apply System.run_induction (P := fun labels s => Fetched auth labels s) _ _ hrun
  . intro poll hpoll
    contradiction
  . intro labels label t t' hrun' h hstep
    have hlabel : label ∈ labels ++ [label] := List.mem_append_right _ (List.mem_singleton_self _)
    have hsubset := List.subset_append_left labels [label]
    rcases traced_of_run hrun' with ⟨htracked, _, htraced⟩
    rcases deployment_of_step hlabel hstep with rfl | ⟨label', _, hstep'⟩
    . exact h.mono hsubset
    . exact (h.mono hsubset).step (htraced.mono hsubset) htracked (Deployment.effect_of_step hstep')

/--
Whatever a user is shown, a producer has asked for it to be sent to that user, or to everyone, and nothing
is shown as seen that the user has not asked to be marked so.
-/
theorem answers_addressed (auth : JwtAuthLayer) (config : DeploymentConfig)
    (codec : WsDelivery.WebSocketCodec) (labels : List RoutingLabel)
    (hrun : System.run (Routing.step auth config codec) .init labels = some s)
    : (∀ credentials pagination filters answers,
        getNotificationsDelivered auth credentials pagination filters s.core.store.docs = .ok answers →
          ∃ user, credentials.user auth = .ok user
            ∧ ∀ answer ∈ answers, Addressed auth labels user.id answer
              ∧ ∀ seen ∈ filters.seen, answer.seen = seen)
        ∧ (∀ credentials id answer,
          getNotificationDelivered auth credentials id s.core.store.docs = .ok (.ok answer) →
            ∃ user, credentials.user auth = .ok user
              ∧ Addressed auth labels user.id answer
              ∧ answer.id = id)
        ∧ ∀ poll ∈ s.polls, ∀ answers, poll.answer? = some (.ok answers) →
          Requested auth labels [] poll.userId .getNotificationsUndelivered
            ∧ ∀ answer ∈ answers, Addressed auth labels poll.userId answer ∧ answer.seen = false := by
  rcases traced_of_run hrun with ⟨_, _, htraced⟩
  refine ⟨?_, ?_, ?_⟩
  . intro credentials pagination filters answers hanswers
    rcases bind_user_eq_ok_iff.mp hanswers with ⟨user, huser, rfl⟩
    refine ⟨user, huser, ?_⟩
    intro answer hanswer
    rcases List.mem_map.mp hanswer with ⟨m, hm, rfl⟩
    exact addressed_of_delivered htraced (NotificationsRepository.mem_of_mem_findManyDelivered hm)
  . intro credentials id answer hanswer
    rcases bind_user_eq_ok_iff.mp hanswer with ⟨user, huser, hfind⟩
    refine ⟨user, huser, ?_⟩
    unfold findDeliveredNotification at hfind
    split at hfind
    . contradiction
    . next m hfound =>
      rw [Except.ok.injEq] at hfind
      rcases NotificationsRepository.findDelivered_eq_some_iff.mp hfound with ⟨hm, hid⟩
      subst hfind
      exact ⟨(addressed_of_delivered htraced hm).1, hid⟩
  . intro poll hpoll answers hanswers
    refine ⟨htraced.polls poll hpoll, ?_⟩
    intro answer hanswer
    rcases Poll.exists_of_mem_answer hanswers hanswer with ⟨m, hm, rfl⟩
    exact fetched_of_run hrun poll hpoll m hm

-- A producer sends itself a notification and fetches it.
def sampleFetch : List RoutingLabel := [
  .postNotificationsUndelivered sampleCredentials { Service.sampleInput with userIds := [⟨2⟩] },
  .deployment (.core (.validate 0 1000000000 1000000000)),
  .deployment (.core (.insert 0 ⟨7⟩)),
  .getNotificationsUndelivered sampleCredentials,
  .deployment (.poll 0 (.find 2000000000)),
  .deployment (.poll 0 (.insertManyConfirmations 2000000000)),
  .deployment (.poll 0 (.update ⟨7⟩)),
  .deployment (.poll 0 .finish)
]

def sampleFetched : Deployment :=
  (System.run (Routing.step sampleAuth Deployment.sampleConfig Deployment.sampleCodec) .init
    sampleFetch).getD .init

theorem run_sampleFetch
    : System.run (Routing.step sampleAuth Deployment.sampleConfig Deployment.sampleCodec) .init
        sampleFetch = some sampleFetched := by
  simp only [sampleFetched, sampleFetch, System.run, Routing.step, user_sampleCredentials]
  rfl

theorem answers_addressed_sampleFetch
    : ∃ answer,
        getNotificationsDelivered sampleAuth sampleCredentials ⟨0, 10⟩ ⟨none⟩
          sampleFetched.core.store.docs = .ok [answer]
        ∧ Addressed sampleAuth sampleFetch ⟨2⟩ answer := by
  have hanswers : getNotificationsDelivered sampleAuth sampleCredentials ⟨0, 10⟩ ⟨none⟩
      sampleFetched.core.store.docs = .ok [⟨⟨7⟩, 1000000000, ⟨2⟩, false, "utf-8", [104, 105]⟩] := by
    have hdocs : sampleFetched.core.store.docs = [{
      id := ⟨7⟩
      createdAt := 1000
      invalidateAt := none
      userIds := [⟨2⟩]
      producerId := ⟨2⟩
      producerNotificationId := 5
      contentType := "utf-8"
      content := [104, 105]
      confirmations := [⟨⟨2⟩, 2000, false, false⟩]
    }] := by
      simp only [sampleFetched, sampleFetch, System.run, Routing.step, user_sampleCredentials]
      rfl
    rw [getNotificationsDelivered, user_sampleCredentials, hdocs]
    rfl
  refine ⟨_, hanswers, ?_⟩
  have h := answers_addressed sampleAuth Deployment.sampleConfig Deployment.sampleCodec sampleFetch
    run_sampleFetch
  rcases h.1 _ _ _ _ hanswers with ⟨user, huser, haddressed⟩
  rw [user_sampleCredentials, Except.ok.injEq] at huser
  rw [← huser] at haddressed
  exact (haddressed _ (List.mem_singleton_self _)).1

end Core.Routing

end TomNotifier
