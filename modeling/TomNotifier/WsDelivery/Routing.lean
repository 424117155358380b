import TomNotifier.Common.JwtAuth
import TomNotifier.WsDelivery.Tickets.SingleUse
import TomNotifier.WsDelivery.WebSockets.Registry

/-!
This module contains the endpoints of the server: who gets a ticket, what it is upgraded to, and who may
close a connection.
-/

namespace TomNotifier.WsDelivery

def Role.admin : String := "tom_notifier_admin"

inductive StatusCode where
  | noContent
  | unauthorized
  | forbidden

namespace TicketsState

inductive Change (s s' : TicketsState) : TicketLabel → Prop where
  | create (userId : Uuid) (now : OffsetDateTime) (ticket : String)
    (calls : s'.calls = s.calls ++ [.creating userId now ticket]) (creations : s'.creations = s.creations)
    : Change s s' (.create userId now ticket)
  | consume (request : String) (calls : s'.calls = s.calls ++ [.consuming request])
    (creations : s'.creations = s.creations) : Change s s' (.consume request)
  | progress (label : TicketLabel) (i : Nat) (old new : TicketCall) (call : s.calls[i]? = some old)
    (unfinished : ∀ request result, old ≠ .consumed request result)
    (started : ∀ userId now ticket, new ≠ .creating userId now ticket)
    (calls : s'.calls = s.calls.set i new)
    (creations : s'.creations = s.creations ∨ ∃ userId issuedAt ticket,
      old = .creating userId issuedAt ticket
        ∧ s'.creations = s.creations ++ [⟨ticket, userId, issuedAt⟩])
    : Change s s' label

variable {config : TicketsServiceConfig} {s s' : TicketsState} {label : TicketLabel}

theorem insert_creations (config : TicketsServiceConfig) (s : TicketsState) (id : ObjectId)
    (creation : Creation)
    : (s.insert config id creation).2.calls = s.calls
        ∧ ((s.insert config id creation).2.creations = s.creations
          ∨ (s.insert config id creation).2.creations = s.creations ++ [creation]) := by
  rcases insert_cases config s id creation with ⟨err, heq⟩ | ⟨d, heq, _⟩
  . rw [heq]
    exact ⟨rfl, .inl rfl⟩
  . rw [heq]
    exact ⟨rfl, .inr rfl⟩

theorem change_of_insert {i : Nat} {id : ObjectId} {userId : Uuid} {issuedAt : OffsetDateTime}
    {ticket : String} {new : TicketCall} {inserted : TicketsState}
    (hcall : s.calls[i]? = some (.creating userId issuedAt ticket))
    (hinserted : (s.insert config id { ticket, userId, issuedAt }).2 = inserted)
    (hnew : ∀ userId now ticket, new ≠ .creating userId now ticket)
    : Change s (inserted.progress i new) label := by
  rcases insert_creations config s id { ticket, userId, issuedAt } with ⟨hcalls, hcreations⟩
  rw [hinserted] at hcalls hcreations
  refine .progress label i _ new hcall (by simp) hnew ?_ ?_
  . rw [progress, hcalls]
  . exact hcreations.imp_right fun h => ⟨userId, issuedAt, ticket, rfl, h⟩

theorem change_of_progress {i : Nat} {old new : TicketCall} {docs : Tickets}
    (hcall : s.calls[i]? = some old) (hold : ∀ request result, old ≠ .consumed request result)
    (hnew : ∀ userId now ticket, new ≠ .creating userId now ticket)
    : Change s ({ s with docs }.progress i new) label := by
  exact .progress label i old new hcall hold hnew rfl (.inl rfl)

theorem change_of_step (hstep : step config s label = some s') : Change s s' label := by
  cases label with
  | create userId now ticket =>
    simp only [step, Option.ite_none_right_eq_some, Option.some.injEq] at hstep
    rw [← hstep.2]
    exact .create userId now ticket rfl rfl
  | insert i id =>
    simp only [step] at hstep
    split at hstep
    . next userId issuedAt ticket hcall =>
      split at hstep
      . next s₁ heq =>
        rw [← Option.some.inj hstep]
        exact change_of_insert hcall (congrArg Prod.snd heq) (by simp)
      . next s₁ heq =>
        rw [← Option.some.inj hstep]
        exact change_of_insert hcall (congrArg Prod.snd heq) (by simp)
    . contradiction
  | consume request =>
    simp only [step, Option.some.injEq] at hstep
    rw [← hstep]
    exact .consume request rfl rfl
  | find i =>
    simp only [step] at hstep
    split at hstep
    . next request hcall =>
      split at hstep
      . rw [← Option.some.inj hstep]
        exact change_of_progress hcall (by simp) (by simp)
      . rw [← Option.some.inj hstep]
        exact change_of_progress hcall (by simp) (by simp)
    . contradiction
  | readClock i now =>
    simp only [step] at hstep
    split at hstep
    . next request ticket hcall =>
      split at hstep
      . rw [← Option.some.inj hstep]
        exact change_of_progress hcall (by simp) (by simp)
      . rw [← Option.some.inj hstep]
        exact change_of_progress hcall (by simp) (by simp)
    . contradiction
  | updateUsedAt i =>
    simp only [step] at hstep
    split at hstep
    . next request ticket now hcall =>
      rw [← Option.some.inj hstep]
      exact change_of_progress hcall (by simp) (by simp)
    . contradiction
  | lost i id applied =>
    simp only [step] at hstep
    split at hstep
    . next userId issuedAt ticket hcall =>
      rw [← Option.some.inj hstep]
      cases applied with
      | true => exact change_of_insert hcall rfl (by simp)
      | false => exact change_of_progress hcall (by simp) (by simp)
    . next request hcall =>
      rw [← Option.some.inj hstep]
      exact change_of_progress hcall (by simp) (by simp)
    . next request ticket now hcall =>
      rw [← Option.some.inj hstep]
      exact change_of_progress hcall (by simp) (by simp)
    . contradiction

/-- What a call has returned stays what it has returned. -/
theorem Change.consumed (h : Change s s' label) {k : Nat} {request : String}
    {result : Except Error Ticket} (hk : s.calls[k]? = some (.consumed request result))
    : s'.calls[k]? = some (.consumed request result) := by
  cases h with
  | create userId now ticket calls creations =>
    rw [calls, List.getElem?_append_left (List.getElem?_eq_some_iff.mp hk).1, hk]
  | consume request' calls creations =>
    rw [calls, List.getElem?_append_left (List.getElem?_eq_some_iff.mp hk).1, hk]
  | progress label i old new call unfinished started calls creations =>
    have hne : i ≠ k := by
      rintro rfl
      rw [hk, Option.some.injEq] at call
      exact unfinished request result call.symm
    rw [calls, List.getElem?_set_ne hne, hk]

/-- A ticket that has been consumed has been created for the user who is let in, and not long ago. -/
theorem Accounted.exists_creation (h : s.Accounted config) {k : Nat} {request : String}
    {ticket : Ticket} (hk : s.calls[k]? = some (.consumed request (.ok ticket)))
    : ∃ creation ∈ s.creations, creation.ticket = request ∧ creation.userId = ticket.userId
        ∧ ∃ usedAt, ticket.usedAt = some usedAt
          ∧ usedAt ≤ TicketsService.expireAt config creation.issuedAt := by
  have hsupports := h.calls _ (List.mem_of_getElem? hk)
  rcases hsupports with ⟨d, hd, ⟨_, _, huser, hexpire⟩, hrequest, _, usedAt, husedAt, hle⟩
  rcases h.docs d hd with ⟨creation, hcreation, hticket, huser', hissued, hexpire'⟩
  refine ⟨creation, hcreation, hticket.trans hrequest, huser'.trans huser.symm, usedAt, husedAt, ?_⟩
  rw [hexpire, hexpire'] at hle
  exact hle.trans (DateTime.ofDateTime_ofOffsetDateTime_le
    (Int.add_nonneg hissued (Int.natCast_nonneg _)))

end TicketsState

/-- The services behind the endpoints. -/
structure Routing where
  ticketsService : TicketsState
  websocketsService : Server
  -- history: the calls of `consume_ticket` whose connections have been handled, in their order
  upgrades : List Nat

structure RoutingConfig where
  auth : JwtAuthLayer
  ticketsService : TicketsServiceConfig
  websocketsService : WebSocketsServiceConfig

/--
The first three are requests with their `Authorization` header, for which `at` is the reading of the
clock when a token is validated. `upgrade i` is the task that handles the websocket of a request.
-/
inductive RoutingLabel where
  | getTicket (authorization : Option HeaderValue) (validatedAt : OffsetDateTime) (now : OffsetDateTime)
    (ticket : String)
  | deleteConnection (authorization : Option HeaderValue) (validatedAt : OffsetDateTime) (userId : Uuid)
  | websocketUpgrade (ticket : String)
  | tickets (label : TicketLabel)
  | upgrade (i : Nat) (now : OffsetDateTime) (instant : Instant) (messageId : Uuid)
  | server (label : ServerLabel)

namespace Routing

def init : Routing where
  ticketsService := .init
  websocketsService := .init
  upgrades := []

section

variable (config : RoutingConfig) (codec : WebSocketCodec)

def deleteConnection (s : Server) (authorization : Option HeaderValue) (validatedAt : OffsetDateTime)
    (userId : Uuid) : StatusCode × Server :=
  match config.auth.parseAuthorizationHeader validatedAt authorization with
  | .error _ => (.unauthorized, s)
  | .ok user =>
    match requireAllRoles user [Role.admin] with
    | .error _ => (.forbidden, s)
    | .ok () =>
      let websocketsService := s.websocketsService.closeConnections userId
      (.noContent, { s with websocketsService })

def stepTickets (s : Routing) (label : TicketLabel) : Option Routing :=
  (s.ticketsService.step config.ticketsService label).map fun ticketsService =>
    { s with ticketsService }

def stepServer (s : Routing) (label : ServerLabel) : Option Routing :=
  (s.websocketsService.step config.websocketsService codec label).map fun websocketsService =>
    { s with websocketsService }

def step (s : Routing) : RoutingLabel → Option Routing
  | .getTicket authorization validatedAt now ticket =>
    match config.auth.parseAuthorizationHeader validatedAt authorization with
    | .error _ => some s
    | .ok user => s.stepTickets config (.create user.id now ticket)
  | .deleteConnection authorization validatedAt userId =>
    let res := deleteConnection config s.websocketsService authorization validatedAt userId
    some { s with websocketsService := res.2 }
  | .websocketUpgrade ticket => s.stepTickets config (.consume ticket)
  | .tickets label =>
    match label with
    | .create _ _ _ => none
    | .consume _ => none
    | label => s.stepTickets config label
  | .upgrade i now instant messageId =>
    if i ∈ s.upgrades then
      none
    else
      match s.ticketsService.calls[i]? with
      | some (.consumed _ (.ok ticket)) =>
        (s.stepServer config codec (.handleClient ticket.userId now instant messageId)).map fun s =>
          { s with upgrades := s.upgrades ++ [i] }
      | _ => none
  | .server label =>
    match label with
    | .handleClient _ _ _ _ => none
    | .closeConnections _ => none
    | label => s.stepServer config codec label

end

/-- Somebody has been given the ticket who had a token of the user. -/
def Requested (config : RoutingConfig) (labels : List RoutingLabel) (creation : Creation) : Prop :=
  ∃ authorization validatedAt user,
    .getTicket authorization validatedAt creation.issuedAt creation.ticket ∈ labels
      ∧ config.auth.parseAuthorizationHeader validatedAt authorization = .ok user
      ∧ user.id = creation.userId

/-- An administrator has had the connections of the user closed when the `i`-th had been opened. -/
def Closed (config : RoutingConfig) (codec : WebSocketCodec) (labels : List RoutingLabel) (i : Nat)
    (userId : Uuid) : Prop :=
  ∃ before authorization validatedAt after s user,
    labels = before ++ .deleteConnection authorization validatedAt userId :: after
      ∧ System.run (Routing.step config codec) init before = some s
      ∧ i < s.websocketsService.tasks.length
      ∧ config.auth.parseAuthorizationHeader validatedAt authorization = .ok user
      ∧ Role.admin ∈ user.roles

/-- The connection has been handled for a call that has consumed a ticket of the user. -/
def Upgraded (tickets : TicketsState) (userId : Uuid) (call : Nat) : Prop :=
  ∃ request ticket, tickets.calls[call]? = some (.consumed request (.ok ticket)) ∧ ticket.userId = userId

structure Admitted (config : RoutingConfig) (codec : WebSocketCodec) (labels : List RoutingLabel)
    (s : Routing) : Prop where
  accounted : s.ticketsService.Accounted config.ticketsService
  creating : ∀ userId now ticket, .creating userId now ticket ∈ s.ticketsService.calls →
    Requested config labels { ticket, userId, issuedAt := now }
  creations : ∀ creation ∈ s.ticketsService.creations, Requested config labels creation
  registered : ∃ entries, s.websocketsService.Registered entries
    ∧ ∀ (i : Nat) userId, entries[i]? = some (userId, false) → Closed config codec labels i userId
  nodup : s.upgrades.Nodup
  upgrades : List.Forall₂ (Upgraded s.ticketsService)
    (s.websocketsService.tasks.map (·.connection.userId)) s.upgrades

variable {config : RoutingConfig} {codec : WebSocketCodec} {s s' : Routing}
variable {labels labels' : List RoutingLabel} {userId : Uuid}

theorem admitted_init : init.Admitted config codec [] where
  accounted := TicketsState.accounted_init
  creating := by simp [init, TicketsState.init]
  creations := by simp [init, TicketsState.init]
  registered := ⟨[], Server.registered_init, by simp⟩
  nodup := List.nodup_nil
  upgrades := .nil

theorem Requested.mono {creation : Creation} (h : Requested config labels creation)
    (hsubset : labels ⊆ labels') : Requested config labels' creation := by
  rcases h with ⟨authorization, validatedAt, user, hmem, hrest⟩
  exact ⟨authorization, validatedAt, user, hsubset hmem, hrest⟩

theorem Closed.mono {i : Nat} (h : Closed config codec labels i userId) (hbefore : labels <+: labels')
    : Closed config codec labels' i userId := by
  rcases h with ⟨before, authorization, validatedAt, after, t, user, rfl, hrest⟩
  rcases hbefore with ⟨rest, rfl⟩
  refine ⟨before, authorization, validatedAt, after ++ rest, t, user, ?_, hrest⟩
  rw [List.append_assoc, List.cons_append]

theorem Admitted.mono (h : s.Admitted config codec labels) (hbefore : labels <+: labels')
    : s.Admitted config codec labels' where
  accounted := h.accounted
  creating userId now ticket hmem := (h.creating userId now ticket hmem).mono hbefore.subset
  creations creation hmem := (h.creations creation hmem).mono hbefore.subset
  registered := by
    rcases h.registered with ⟨entries, hregistered, hclosed⟩
    exact ⟨entries, hregistered, fun i userId hi => (hclosed i userId hi).mono hbefore⟩
  nodup := h.nodup
  upgrades := h.upgrades

theorem Admitted.tickets (h : s.Admitted config codec labels) {label : TicketLabel}
    (hcreate : ∀ userId now ticket, label = .create userId now ticket →
      Requested config labels { ticket, userId, issuedAt := now })
    (hstep : s.stepTickets config label = some s') : s'.Admitted config codec labels := by
  unfold stepTickets at hstep
  rw [Option.map_eq_some_iff] at hstep
  rcases hstep with ⟨ticketsService, hticket, rfl⟩
  have hchange := TicketsState.change_of_step hticket
  refine ⟨h.accounted.step hticket, ?_, ?_, h.registered, h.nodup, ?_⟩
  . intro userId now ticket hmem
    cases hchange with
    | create userId' now' ticket' calls creations =>
      rw [calls, List.mem_append, List.mem_singleton] at hmem
      rcases hmem with hold | hnew
      . exact h.creating userId now ticket hold
      . rw [TicketCall.creating.injEq] at hnew
        rcases hnew with ⟨rfl, rfl, rfl⟩
        exact hcreate userId now ticket rfl
    | consume request calls creations =>
      rw [calls, List.mem_append, List.mem_singleton] at hmem
      rcases hmem with hold | hnew
      . exact h.creating userId now ticket hold
      . contradiction
    | progress label i old new call unfinished started calls creations =>
      rw [calls] at hmem
      rcases List.mem_or_eq_of_mem_set hmem with hold | hnew
      . exact h.creating userId now ticket hold
      . exact absurd hnew.symm (started userId now ticket)
  . intro creation hmem
    cases hchange with
    | create userId' now' ticket' calls creations => exact h.creations creation (creations ▸ hmem)
    | consume request calls creations => exact h.creations creation (creations ▸ hmem)
    | progress label i old new call unfinished started calls creations =>
      rcases creations with hsame | ⟨userId, issuedAt, ticket, rfl, hnew⟩
      . exact h.creations creation (hsame ▸ hmem)
      . rw [hnew, List.mem_append, List.mem_singleton] at hmem
        rcases hmem with hold | rfl
        . exact h.creations creation hold
        . exact h.creating userId issuedAt ticket (List.mem_of_getElem? call)
  . apply h.upgrades.imp
    rintro userId call ⟨request, ticket, hcall, huser⟩
    exact ⟨request, ticket, hchange.consumed hcall, huser⟩

theorem Admitted.server (h : s.Admitted config codec labels) {label : ServerLabel}
    (hclient : ∀ userId now instant messageId, label ≠ .handleClient userId now instant messageId)
    (hclose : ∀ userId, label = .closeConnections userId →
      ∀ i < s.websocketsService.tasks.length, Closed config codec labels i userId)
    {server : Server}
    (hstep : Server.step config.websocketsService codec s.websocketsService label = some server)
    : Admitted config codec labels { s with websocketsService := server } := by
  rcases h.registered with ⟨entries, hregistered, hclosed⟩
  have hregistered' := hregistered.step (Server.effect_of_step hstep)
  have husers : (Server.register entries label).map (·.1) = entries.map (·.1) := by
    cases label with
    | handleClient userId now instant messageId =>
      exact absurd rfl (hclient userId now instant messageId)
    | closeConnections userId =>
      rw [Server.register, List.map_map]
      rfl
    | _ => rfl
  refine ⟨h.accounted, h.creating, h.creations, ⟨_, hregistered', ?_⟩, h.nodup, ?_⟩
  . intro i userId hi
    cases label with
    | handleClient userId now instant messageId =>
      exact absurd rfl (hclient userId now instant messageId)
    | closeConnections userId' =>
      rw [Server.register, List.getElem?_map, Option.map_eq_some_iff] at hi
      rcases hi with ⟨⟨userId₁, opened⟩, hentry, heq⟩
      rw [Prod.mk.injEq] at heq
      rcases heq with ⟨rfl, hopened⟩
      rw [Bool.and_eq_false_iff] at hopened
      rcases hopened with hold | hnew
      . dsimp only at hold
        subst hold
        exact hclosed i _ hentry
      . rw [decide_eq_false_iff_not, not_not] at hnew
        dsimp only at hnew
        subst hnew
        have hlength := congrArg List.length hregistered.users
        rw [List.length_map, List.length_map] at hlength
        exact hclose _ rfl i (hlength ▸ (List.getElem?_eq_some_iff.mp hentry).1)
    | _ => exact hclosed i userId hi
  . rw [hregistered'.users, husers, ← hregistered.users]
    exact h.upgrades

theorem step_closeConnections (codec : WebSocketCodec) (s : Server) (userId : Uuid)
    : Server.step config.websocketsService codec s (.closeConnections userId)
        =
      some { s with websocketsService := s.websocketsService.closeConnections userId } := by
  rfl

/-- Whoever closes connections is an administrator. -/
theorem deleteConnection_cases (config : RoutingConfig) (s : Server) (authorization : Option HeaderValue)
    (validatedAt : OffsetDateTime) (userId : Uuid)
    : (deleteConnection config s authorization validatedAt userId).2 = s
        ∨ ∃ user, config.auth.parseAuthorizationHeader validatedAt authorization = .ok user
          ∧ Role.admin ∈ user.roles
          ∧ (deleteConnection config s authorization validatedAt userId)
            = (.noContent,
              { s with websocketsService := s.websocketsService.closeConnections userId }) := by
  unfold deleteConnection
  split
  . exact .inl rfl
  . next user huser =>
    split
    . exact .inl rfl
    . next hroles =>
      rw [requireAllRoles_eq_ok_iff] at hroles
      exact .inr ⟨user, huser, hroles _ List.mem_cons_self, rfl⟩

theorem Admitted.delete (h : s.Admitted config codec labels) {authorization : Option HeaderValue}
    {validatedAt : OffsetDateTime}
    (hrun : System.run (Routing.step config codec) init labels = some s)
    : Admitted config codec (labels ++ [.deleteConnection authorization validatedAt userId]) { s with
        websocketsService :=
          (deleteConnection config s.websocketsService authorization validatedAt userId).2
      } := by
  have h' := h.mono (List.prefix_append labels [.deleteConnection authorization validatedAt userId])
  rcases deleteConnection_cases config s.websocketsService authorization validatedAt userId with
    hsame | ⟨user, huser, hadmin, heq⟩
  . rw [hsame]
    exact h'
  . rw [heq]
    apply h'.server (by simp) _ (step_closeConnections codec _ _)
    intro userId' heq' i hi
    rw [ServerLabel.closeConnections.injEq] at heq'
    subst heq'
    exact ⟨labels, authorization, validatedAt, [], s, user, rfl, hrun, hi, huser, hadmin⟩

theorem Admitted.upgrade (h : s.Admitted config codec labels) {i : Nat} (hi : i ∉ s.upgrades)
    {request : String} {ticket : Ticket} {now : OffsetDateTime} {instant : Instant} {messageId : Uuid}
    (hcall : s.ticketsService.calls[i]? = some (.consumed request (.ok ticket))) {server : Server}
    (hstep : Server.step config.websocketsService codec s.websocketsService
      (.handleClient ticket.userId now instant messageId) = some server)
    : Admitted config codec labels { s with
        websocketsService := server
        upgrades := s.upgrades ++ [i]
      } := by
  rcases h.registered with ⟨entries, hregistered, hclosed⟩
  have hregistered' := hregistered.step (Server.effect_of_step hstep)
  refine ⟨h.accounted, h.creating, h.creations, ⟨_, hregistered', ?_⟩, ?_, ?_⟩
  . intro j userId hj
    rw [Server.register] at hj
    rcases getElem?_append_singleton_cases hj with hold | ⟨_, hnew⟩
    . exact hclosed j userId hold
    . simp at hnew
  . rw [List.nodup_append]
    refine ⟨h.nodup, List.nodup_singleton i, ?_⟩
    intro j hj k hk
    rw [List.mem_singleton] at hk
    rintro rfl
    exact hi (hk ▸ hj)
  . rw [hregistered'.users, Server.register, List.map_append, ← hregistered.users]
    exact List.rel_append h.upgrades (.cons ⟨request, ticket, hcall, rfl⟩ .nil)

theorem Admitted.step (h : s.Admitted config codec labels)
    (hrun : System.run (Routing.step config codec) init labels = some s) {label : RoutingLabel}
    (hstep : Routing.step config codec s label = some s')
    : s'.Admitted config codec (labels ++ [label]) := by
  have hlabel : label ∈ labels ++ [label] := List.mem_append_right _ (List.mem_singleton_self _)
  have h' := h.mono (List.prefix_append labels [label])
  cases label with
  | getTicket authorization validatedAt now ticket =>
    simp only [Routing.step] at hstep
    split at hstep
    . exact Option.some.inj hstep ▸ h'
    . next user huser =>
      apply h'.tickets _ hstep
      intro userId' now' ticket' heq
      rw [TicketLabel.create.injEq] at heq
      rcases heq with ⟨rfl, rfl, rfl⟩
      exact ⟨authorization, validatedAt, user, hlabel, huser, rfl⟩
  | deleteConnection authorization validatedAt userId =>
    simp only [Routing.step, Option.some.injEq] at hstep
    rw [← hstep]
    exact h.delete hrun
  | websocketUpgrade ticket => exact h'.tickets (by simp) hstep
  | tickets label =>
    cases label with
    | create userId now ticket => simp [Routing.step] at hstep
    | consume request => simp [Routing.step] at hstep
    | _ => exact h'.tickets (by simp) hstep
  | upgrade i now instant messageId =>
    simp only [Routing.step] at hstep
    split at hstep
    . contradiction
    . next hi =>
      split at hstep
      . next request ticket hcall =>
        simp only [stepServer, Option.map_map, Option.map_eq_some_iff] at hstep
        rcases hstep with ⟨server, hserver, rfl⟩
        exact h'.upgrade hi hcall hserver
      . contradiction
  | server label =>
    cases label with
    | handleClient userId now instant messageId => simp [Routing.step] at hstep
    | closeConnections userId => simp [Routing.step] at hstep
    | _ =>
      simp only [Routing.step, stepServer, Option.map_eq_some_iff] at hstep
      rcases hstep with ⟨server, hserver, rfl⟩
      exact h'.server (by simp) (by simp) hserver

theorem admitted_of_run (hrun : System.run (Routing.step config codec) init labels = some s)
    : s.Admitted config codec labels := by
  apply System.run_induction (P := fun labels s => s.Admitted config codec labels) admitted_init _ hrun
  intro labels label t t' hrun' h hstep
  exact h.step hrun' hstep

/--
Every connection has been opened with a ticket of its own, for a user a valid token has been shown of
when the ticket was created, and no longer ago than the lifespan of tickets. Until it leaves, it is on
the channel of its user, unless somebody with the role of an administrator has asked for the connections
of the user to be closed since it was opened.
-/
theorem connections_admitted (config : RoutingConfig) (codec : WebSocketCodec)
    (labels : List RoutingLabel)
    (hrun : System.run (Routing.step config codec) init labels = some s)
    : (∀ (i : Nat) (task : ConnectionTask), s.websocketsService.tasks[i]? = some task →
        ∃ call request ticket usedAt authorization validatedAt now user,
          s.upgrades[i]? = some call
            ∧ s.ticketsService.calls[call]? = some (.consumed request (.ok ticket))
            ∧ ticket.usedAt = some usedAt
            ∧ usedAt ≤ now + (config.ticketsService.ticketLifespan : Int)
            ∧ .getTicket authorization validatedAt now request ∈ labels
            ∧ config.auth.parseAuthorizationHeader validatedAt authorization = .ok user
            ∧ user.id = task.connection.userId)
        ∧
      (∀ (i j call call' : Nat) request ticket ticket',
        s.upgrades[i]? = some call → s.upgrades[j]? = some call' →
          s.ticketsService.calls[call]? = some (.consumed request (.ok ticket)) →
            s.ticketsService.calls[call']? = some (.consumed request (.ok ticket')) → i = j)
        ∧
      ∀ (i : Nat) (task : ConnectionTask), s.websocketsService.tasks[i]? = some task →
        task.state.subscribed →
          s.websocketsService.websocketsService.usersConnections.lookup task.connection.userId
              = some task.connection.messagesRx.channel
            ∨ Closed config codec labels i task.connection.userId := by
  have h := admitted_of_run hrun
  refine ⟨?_, ?_, ?_⟩
  . intro i task hi
    have hlength := h.upgrades.length_eq
    rw [List.length_map] at hlength
    have hlt := (List.getElem?_eq_some_iff.mp hi).1
    have hupgrade := List.getElem?_eq_getElem (hlength ▸ hlt)
    have huser : (s.websocketsService.tasks.map (·.connection.userId))[i]?
        = some task.connection.userId := by
      rw [List.getElem?_map, hi, Option.map_some]
    have hupgraded := List.forall₂_iff_get.mp h.upgrades
    have hget := hupgraded.2 i (by rwa [List.length_map]) (hlength ▸ hlt)
    rw [List.get_eq_getElem, List.get_eq_getElem, (List.getElem?_eq_some_iff.mp huser).2] at hget
    rcases hget with ⟨request, ticket, hcall, hticket⟩
    rcases h.accounted.exists_creation hcall
      with ⟨creation, hcreation, rfl, huserId, usedAt, husedAt, hle⟩
    rcases h.creations creation hcreation with ⟨authorization, validatedAt, user, hmem, hparse, hid⟩
    exact ⟨_, creation.ticket, ticket, usedAt, authorization, validatedAt, creation.issuedAt, user,
      hupgrade, hcall, husedAt, hle, hmem, hparse, hid.trans (huserId.trans hticket)⟩
  . intro i j call call' request ticket ticket' hi hj hcall hcall'
    have hsame := h.accounted.single call call' request ticket ticket' hcall hcall'
    subst hsame
    exact (List.getElem?_inj (List.getElem?_eq_some_iff.mp hi).1 h.nodup).mp (hi.trans hj.symm)
  . intro i task hi hsubscribed
    rcases h.registered with ⟨entries, hregistered, hclosed⟩
    rcases hregistered.entry hi with ⟨opened, hentry⟩
    cases opened with
    | true => exact .inl (hregistered.lookup_of_opened hi hentry hsubscribed)
    | false => exact .inr (hclosed i _ hentry)

def sampleToken : Bytes :=
  let parts := [
    "eyJhbGciOiJIUzI1NiIsInR5cCI6I", "kpXVCJ9.eyJzdWIiOiIzNzlhNzNlN", "i05MWRkLTQ4YTMtYTY1Mi0wMDJkMz",
    "RjNDM2NzAiLCJleHAiOjI1MzQwMjI", "xMDgwMCwicmVhbG1fYWNjZXNzIjp7", "InJvbGVzIjpbImZpcnN0X290aGVyX",
    "2FwcGxpY2F0aW9uX3JvbGUiLCJzZW", "NvbmRfb3RoZXJfYXBwbGljYXRpb25", "fcm9sZSJdfX0.06NgghpJPXOV0Hw8",
    "Xcxwcy8dL6kO_dkeme5dPic9nMw"
  ]
  parts.flatMap fun part => part.toList.map fun c => UInt8.ofNat c.toNat

def sampleUser : User where
  id := ⟨0x379a73e691dd48a3a652002d34c43670⟩
  roles := ["first_other_application_role", "second_other_application_role"]

def adminToken : Bytes := [97, 100, 109, 105, 110]

def sampleAdmin : User where
  id := ⟨1⟩
  roles := [Role.admin]

def sampleRoutingConfig : RoutingConfig where
  auth.decode _ token :=
    if token = sampleToken then
      some ⟨sampleUser.id, ⟨sampleUser.roles⟩⟩
    else if token = adminToken then
      some ⟨sampleAdmin.id, ⟨sampleAdmin.roles⟩⟩
    else
      none
  ticketsService := ⟨10000000⟩
  websocketsService := Server.sampleConfig

-- The user is let in, though an administrator has had every earlier connection of theirs closed, and
-- cannot have the connection closed again.
def sampleRequests : List RoutingLabel := [
  .deleteConnection (some (JwtAuthLayer.bearer ++ 32 :: adminToken)) 500000 sampleUser.id,
  .getTicket (some (JwtAuthLayer.bearer ++ 32 :: sampleToken)) 1000000 1500000 "ticket",
  .tickets (.insert 0 ⟨7⟩),
  .websocketUpgrade "ticket",
  .tickets (.find 1),
  .tickets (.readClock 1 2000000),
  .tickets (.updateUsedAt 1),
  .upgrade 1 3000000 0 ⟨101⟩,
  .deleteConnection (some (JwtAuthLayer.bearer ++ 32 :: sampleToken)) 4000000 sampleUser.id
]

theorem parse_sampleToken (now : OffsetDateTime)
    : sampleRoutingConfig.auth.parseAuthorizationHeader now
        (some (JwtAuthLayer.bearer ++ 32 :: sampleToken)) = .ok sampleUser := by
  have hvalue : HeaderValue.toStr (JwtAuthLayer.bearer ++ 32 :: sampleToken)
      = some (JwtAuthLayer.bearer ++ 32 :: sampleToken) := by
    decide +kernel
  have hdecode : sampleRoutingConfig.auth.decode now sampleToken
      = some ⟨sampleUser.id, ⟨sampleUser.roles⟩⟩ := by
    simp only [sampleRoutingConfig, ↓reduceIte]
  rw [JwtAuthLayer.parseAuthorizationHeader_eq_ok_iff]
  exact ⟨32, sampleToken, _, Eq.refl _, hvalue, hdecode, Eq.refl _⟩

theorem parse_adminToken (now : OffsetDateTime)
    : sampleRoutingConfig.auth.parseAuthorizationHeader now
        (some (JwtAuthLayer.bearer ++ 32 :: adminToken)) = .ok sampleAdmin := by
  have hvalue : HeaderValue.toStr (JwtAuthLayer.bearer ++ 32 :: adminToken)
      = some (JwtAuthLayer.bearer ++ 32 :: adminToken) := by
    decide +kernel
  have hne : adminToken ≠ sampleToken := by
    decide +kernel
  have hdecode : sampleRoutingConfig.auth.decode now adminToken
      = some ⟨sampleAdmin.id, ⟨sampleAdmin.roles⟩⟩ := by
    simp only [sampleRoutingConfig, if_neg hne, ↓reduceIte]
  rw [JwtAuthLayer.parseAuthorizationHeader_eq_ok_iff]
  exact ⟨32, adminToken, _, Eq.refl _, hvalue, hdecode, Eq.refl _⟩

def sampleRouting : Routing where
  ticketsService :=
    (System.run (TicketsState.step ⟨10000000⟩) .init [
      .create sampleUser.id 1500000 "ticket",
      .insert 0 ⟨7⟩,
      .consume "ticket",
      .find 1,
      .readClock 1 2000000,
      .updateUsedAt 1
    ]).getD .init
  websocketsService :=
    (System.run (Server.step Server.sampleConfig Server.sampleCodec) .init [
      .handleClient sampleUser.id 3000000 0 ⟨101⟩
    ]).getD .init
  upgrades := [1]

theorem not_closed_sampleRequests
    : ¬Closed sampleRoutingConfig Server.sampleCodec sampleRequests 0 sampleUser.id := by
  rintro ⟨before, authorization, validatedAt, after, s, user, hlabels, hrun, hlength, huser, hadmin⟩
  cases before with
  | nil =>
    -- The administrator has asked for it when there was no connection.
    rw [← Option.some.inj hrun] at hlength
    contradiction
  | cons label before =>
    have hmem : .deleteConnection authorization validatedAt sampleUser.id ∈ sampleRequests.tail := by
      rw [hlabels]
      simp
    have hlast : authorization = some (JwtAuthLayer.bearer ++ 32 :: sampleToken)
        ∧ validatedAt = 4000000 := by
      simpa [sampleRequests] using hmem
    rw [hlast.1, parse_sampleToken, Except.ok.injEq] at huser
    rw [← huser] at hadmin
    revert hadmin
    decide

theorem connections_admitted_first
    : sampleRouting.websocketsService.websocketsService.usersConnections.lookup sampleUser.id = some 0
        ∧ ∃ authorization validatedAt now user,
          .getTicket authorization validatedAt now "ticket" ∈ sampleRequests
            ∧ sampleRoutingConfig.auth.parseAuthorizationHeader validatedAt authorization = .ok user
            ∧ user.id = sampleUser.id := by
  have hrun : System.run (Routing.step sampleRoutingConfig Server.sampleCodec) init sampleRequests
      = some sampleRouting := by
    simp only [sampleRequests, System.run, Routing.step, deleteConnection, parse_sampleToken,
      parse_adminToken]
    rfl
  rcases connections_admitted sampleRoutingConfig Server.sampleCodec sampleRequests hrun with
    ⟨hopened, _, hlookup⟩
  refine ⟨(hlookup 0 _ rfl rfl).resolve_right not_closed_sampleRequests, ?_⟩
  rcases hopened 0 _ rfl with
    ⟨call, request, ticket, usedAt, authorization, validatedAt, now, user, hupgrade, hcall, _, _,
      hmem, hparse, hid⟩
  rw [← Option.some.inj hupgrade] at hcall
  have hrequest := Option.some.inj hcall
  rw [TicketCall.consumed.injEq] at hrequest
  rw [← hrequest.1] at hmem
  exact ⟨authorization, validatedAt, now, user, hmem, hparse, hid⟩

end Routing

end TomNotifier.WsDelivery
