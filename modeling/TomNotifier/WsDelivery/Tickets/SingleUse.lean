import TomNotifier.Common.List
import TomNotifier.Mongo.Lemmas
import TomNotifier.System.Run
import TomNotifier.WsDelivery.Tickets.Impl

/-!
This module contains calls of `create_ticket` and `consume_ticket` running next to each other over
one collection, and that every ticket admits its user once and in time.
-/

namespace TomNotifier.WsDelivery

open Mongo

/--
How far a call has come: `creating` has read the clock and generated the ticket, `consuming` has not
searched yet, `found` has not read the clock yet, `checked` has not updated the collection yet. The
first argument of the last four is the ticket string the call was asked to consume.
-/
inductive TicketCall where
  | creating (userId : Uuid) (issuedAt : OffsetDateTime) (ticket : String)
  | created (result : Except Error String)
  | consuming (request : String)
  | found (request : String) (ticket : Ticket)
  | checked (request : String) (ticket : Ticket) (now : OffsetDateTime)
  | consumed (request : String) (result : Except Error Ticket)

structure Creation where
  ticket : String
  userId : Uuid
  issuedAt : OffsetDateTime

structure TicketsState where
  docs : Tickets
  calls : List TicketCall
  creations : List Creation

/--
`lost i id applied` is a command of the repository that fails with an error of the driver, after the
database has applied it or not.
-/
inductive TicketLabel where
  | create (userId : Uuid) (now : OffsetDateTime) (ticket : String)
  | insert (i : Nat) (id : ObjectId)
  | consume (request : String)
  | find (i : Nat)
  | readClock (i : Nat) (now : OffsetDateTime)
  | updateUsedAt (i : Nat)
  | lost (i : Nat) (id : ObjectId) (applied : Bool)

namespace TicketsState

open TicketsService

def init : TicketsState where
  docs := []
  calls := []
  creations := []

def insert (config : TicketsServiceConfig) (s : TicketsState) (id : ObjectId) (creation : Creation)
    : Except RepositoryError ObjectId × TicketsState :=
  let res := TicketsRepository.insert id creation.ticket creation.userId creation.issuedAt
    (expireAt config creation.issuedAt) s.docs
  match res.1 with
  | .ok id => (.ok id, { s with docs := res.2, creations := s.creations ++ [creation] })
  | .error err => (.error err, { s with docs := res.2 })

def progress (s : TicketsState) (i : Nat) (call : TicketCall) : TicketsState :=
  { s with calls := s.calls.set i call }

def step (config : TicketsServiceConfig) (s : TicketsState) (label : TicketLabel)
    : Option TicketsState :=
  -- The system clock does not read before the Unix epoch.
  match label with
  | .create userId now ticket =>
    if 0 ≤ now then
      some { s with calls := s.calls ++ [.creating userId now ticket] }
    else
      none
  | .insert i id =>
    match s.calls[i]? with
    | some (.creating userId issuedAt ticket) =>
      match s.insert config id { ticket, userId, issuedAt } with
      | (.ok _, s) => some (s.progress i (.created (.ok ticket)))
      | (.error err, s) => some (s.progress i (.created (.error (.database err))))
    | _ => none
  | .consume request => some { s with calls := s.calls ++ [.consuming request] }
  | .find i =>
    match s.calls[i]? with
    | some (.consuming request) =>
      match checkUsed (TicketsRepository.find request s.docs) with
      | .ok ticket => some (s.progress i (.found request ticket))
      | .error err => some (s.progress i (.consumed request (.error err)))
    | _ => none
  | .readClock i now =>
    match s.calls[i]? with
    | some (.found request ticket) =>
      match checkExpired ticket now with
      | .ok () => some (s.progress i (.checked request ticket now))
      | .error err => some (s.progress i (.consumed request (.error err)))
    | _ => none
  | .updateUsedAt i =>
    match s.calls[i]? with
    | some (.checked request ticket now) =>
      let res := TicketsRepository.updateUsedAt ticket.id now s.docs
      some ({ s with docs := res.2 }.progress i (.consumed request (answer ticket now res.1)))
    | _ => none
  | .lost i id applied =>
    match s.calls[i]? with
    | some (.creating userId issuedAt ticket) =>
      let s := if applied then (s.insert config id { ticket, userId, issuedAt }).2 else s
      some (s.progress i (.created (.error (.database .mongo))))
    | some (.consuming request) => some (s.progress i (.consumed request (.error (.database .mongo))))
    | some (.checked request ticket now) =>
      let docs := if applied then (TicketsRepository.updateUsedAt ticket.id now s.docs).2 else s.docs
      some ({ s with docs }.progress i (.consumed request (answer ticket now (.error .mongo))))
    | _ => none

end TicketsState

def TicketEntity.use (id : ObjectId) (now : OffsetDateTime) (d : TicketEntity) : TicketEntity :=
  if d.id = id ∧ d.usedAt = none then
    { d with usedAt := some (DateTime.ofOffsetDateTime now) }
  else
    d

section

variable {id : ObjectId} {now : OffsetDateTime} {d : TicketEntity} {docs : Tickets}

@[simp]
theorem TicketEntity.use_id : (d.use id now).id = d.id := by
  unfold use
  split <;> rfl

@[simp]
theorem TicketEntity.use_ticket : (d.use id now).ticket = d.ticket := by
  unfold use
  split <;> rfl

@[simp]
theorem TicketEntity.use_userId : (d.use id now).userId = d.userId := by
  unfold use
  split <;> rfl

@[simp]
theorem TicketEntity.use_expireAt : (d.use id now).expireAt = d.expireAt := by
  unfold use
  split <;> rfl

theorem TicketEntity.isSome_usedAt_use (h : d.usedAt.isSome) : (d.use id now).usedAt.isSome := by
  unfold use
  split
  . rfl
  . exact h

theorem TicketEntity.isSome_usedAt_use_self : (d.use d.id now).usedAt.isSome := by
  unfold use
  split
  . rfl
  . next h => simpa [Option.ne_none_iff_isSome] using h

theorem TicketsRepository.updateUsedAt_snd (hnodup : (docs.map (·.id)).Nodup)
    : (updateUsedAt id now docs).2 = docs.map (.use id now) := by
  have hsnd : (updateUsedAt id now docs).2 = (updateOne
      (.and [.eq (·.id) id, .isNull (·.usedAt)])
      (fun d : TicketEntity => { d with usedAt := some (DateTime.ofOffsetDateTime now) }) docs).1 := by
    unfold updateUsedAt
    dsimp only
    split <;> rfl
  rw [hsnd, updateOne_eq_map]
  . apply List.map_congr_left
    intro d _
    simp [TicketEntity.use]
  . apply pairwise_of_nodup_map id hnodup
    intro d _
    simp +contextual

theorem TicketsRepository.updateUsedAt_fst_eq_ok_iff
    : (updateUsedAt id now docs).1 = .ok () ↔ ∃ d ∈ docs, d.id = id ∧ d.usedAt = none := by
  unfold updateUsedAt
  dsimp only
  split
  . next h =>
    rw [decide_eq_true_eq, updateOne_matchedCount_eq_one_iff] at h
    simpa using h
  . next h =>
    rw [decide_eq_false_iff_not, updateOne_matchedCount_eq_one_iff] at h
    simpa using h

end

def Ticket.IsReadOf (ticket : Ticket) (d : TicketEntity) : Prop :=
  ticket.id = d.id
    ∧ ticket.ticket = d.ticket
    ∧ ticket.userId = d.userId
    ∧ ticket.expireAt = OffsetDateTime.ofDateTime d.expireAt

namespace TicketsState

open TicketsService

/-- What a call relies on while others change the collection. -/
def Supports (docs : Tickets) (call : TicketCall) : Prop :=
  match call with
  | .creating _ issuedAt _ => 0 ≤ issuedAt
  | .created _ => True
  | .consuming _ => True
  | .found request ticket => ∃ d ∈ docs, ticket.IsReadOf d ∧ d.ticket = request
  | .checked request ticket now =>
    ∃ d ∈ docs, ticket.IsReadOf d ∧ d.ticket = request ∧ now ≤ ticket.expireAt
  | .consumed request (.ok ticket) =>
    ∃ d ∈ docs, ticket.IsReadOf d ∧ d.ticket = request ∧ d.usedAt.isSome
      ∧ ∃ now, ticket.usedAt = some now ∧ now ≤ ticket.expireAt
  | .consumed _ (.error _) => True

def Extends (docs docs' : Tickets) : Prop :=
  ∀ d ∈ docs, ∃ d' ∈ docs',
    d'.id = d.id ∧ d'.ticket = d.ticket ∧ d'.userId = d.userId ∧ d'.expireAt = d.expireAt
      ∧ (d.usedAt.isSome → d'.usedAt.isSome)

theorem Extends.isReadOf {docs docs' : Tickets} (h : Extends docs docs') {ticket : Ticket}
    {d : TicketEntity} (hd : d ∈ docs) (hread : ticket.IsReadOf d)
    : ∃ d' ∈ docs', ticket.IsReadOf d' ∧ d'.ticket = d.ticket
        ∧ (d.usedAt.isSome → d'.usedAt.isSome) := by
  rcases h d hd with ⟨d', hd', hid, hticket, huser, hexpire, hused⟩
  refine ⟨d', hd', ⟨?_, ?_, ?_, ?_⟩, hticket, hused⟩
  . rw [hid, hread.1]
  . rw [hticket, hread.2.1]
  . rw [huser, hread.2.2.1]
  . rw [hexpire, hread.2.2.2]

theorem Supports.mono {docs docs' : Tickets} {call : TicketCall} (h : Supports docs call)
    (hextends : Extends docs docs') : Supports docs' call := by
  cases call with
  | creating => exact h
  | created => trivial
  | consuming => trivial
  | found request ticket =>
    rcases h with ⟨d, hd, hread, hrequest⟩
    rcases hextends.isReadOf hd hread with ⟨d', hd', hread', hticket, _⟩
    exact ⟨d', hd', hread', hticket.trans hrequest⟩
  | checked request ticket now =>
    rcases h with ⟨d, hd, hread, hrequest, hnow⟩
    rcases hextends.isReadOf hd hread with ⟨d', hd', hread', hticket, _⟩
    exact ⟨d', hd', hread', hticket.trans hrequest, hnow⟩
  | consumed request result =>
    cases result with
    | error => trivial
    | ok ticket =>
      rcases h with ⟨d, hd, hread, hrequest, hused, hnow⟩
      rcases hextends.isReadOf hd hread with ⟨d', hd', hread', hticket, hused'⟩
      exact ⟨d', hd', hread', hticket.trans hrequest, hused' hused, hnow⟩

structure Accounted (config : TicketsServiceConfig) (s : TicketsState) : Prop where
  ids_nodup : (s.docs.map (·.id)).Nodup
  tickets_nodup : (s.docs.map (·.ticket)).Nodup
  tickets : s.docs.map (·.ticket) = s.creations.map (·.ticket)
  docs : ∀ d ∈ s.docs, ∃ creation ∈ s.creations,
    creation.ticket = d.ticket ∧ creation.userId = d.userId ∧ 0 ≤ creation.issuedAt
      ∧ d.expireAt = DateTime.ofOffsetDateTime (expireAt config creation.issuedAt)
  calls : ∀ call ∈ s.calls, Supports s.docs call
  single : ∀ (i j : Nat) (request : String) (ticket ticket' : Ticket),
    s.calls[i]? = some (.consumed request (.ok ticket)) →
      s.calls[j]? = some (.consumed request (.ok ticket')) → i = j

section

variable {config : TicketsServiceConfig} {s s' : TicketsState} {i : Nat} {call : TicketCall}

theorem accounted_init : Accounted config init := by
  constructor <;> simp [init]

theorem Accounted.append (h : s.Accounted config) (hsupports : Supports s.docs call)
    (hnew : ∀ request ticket, call ≠ .consumed request (.ok ticket))
    : Accounted config { s with calls := s.calls ++ [call] } := by
  refine ⟨h.ids_nodup, h.tickets_nodup, h.tickets, h.docs, ?_, ?_⟩
  . intro call' hmem
    rcases List.mem_append.mp hmem with hmem | hmem
    . exact h.calls call' hmem
    . rwa [List.mem_singleton.mp hmem]
  . intro i j request ticket ticket' hi hj
    have hold (i : Nat) (ticket : Ticket)
        (hi : (s.calls ++ [call])[i]? = some (.consumed request (.ok ticket)))
        : s.calls[i]? = some (.consumed request (.ok ticket)) := by
      rw [List.getElem?_append] at hi
      split at hi
      . exact hi
      . have := List.mem_singleton.mp (List.mem_of_getElem? hi)
        exact absurd this.symm (hnew request ticket)
    exact h.single i j request ticket ticket' (hold i ticket hi) (hold j ticket' hj)

theorem Accounted.progress (h : s.Accounted config) (hsupports : Supports s.docs call)
    (hnew : ∀ request ticket, call ≠ .consumed request (.ok ticket))
    : (s.progress i call).Accounted config := by
  refine ⟨h.ids_nodup, h.tickets_nodup, h.tickets, h.docs, ?_, ?_⟩
  . intro call' hmem
    rcases List.mem_or_eq_of_mem_set hmem with hmem | rfl
    . exact h.calls call' hmem
    . exact hsupports
  . intro j k request ticket ticket' hj hk
    have hold (j : Nat) (ticket : Ticket)
        (hj : (s.calls.set i call)[j]? = some (.consumed request (.ok ticket)))
        : s.calls[j]? = some (.consumed request (.ok ticket)) := by
      rcases getElem?_set_cases hj with ⟨_, heq⟩ | ⟨_, hj⟩
      . exact absurd heq.symm (hnew request ticket)
      . exact hj
    exact h.single j k request ticket ticket' (hold j ticket hj) (hold k ticket' hk)

theorem extends_use {docs : Tickets} {id : ObjectId} {now : OffsetDateTime}
    : Extends docs (docs.map (.use id now)) := by
  intro d hd
  refine ⟨_, List.mem_map_of_mem hd, ?_, ?_, ?_, ?_, ?_⟩
  . exact TicketEntity.use_id
  . exact TicketEntity.use_ticket
  . exact TicketEntity.use_userId
  . exact TicketEntity.use_expireAt
  . exact TicketEntity.isSome_usedAt_use

theorem Accounted.use (h : s.Accounted config) (id : ObjectId) (now : OffsetDateTime)
    : Accounted config { s with docs := s.docs.map (.use id now) } := by
  constructor
  . have hids := h.ids_nodup
    simpa [List.map_map, Function.comp_def] using hids
  . have htickets := h.tickets_nodup
    simpa [List.map_map, Function.comp_def] using htickets
  . have htickets := h.tickets
    simpa [List.map_map, Function.comp_def] using htickets
  . intro d hd
    rcases List.mem_map.mp hd with ⟨d', hd', rfl⟩
    simpa using h.docs d' hd'
  . intro call hmem
    exact (h.calls call hmem).mono extends_use
  . exact h.single

theorem insert_cases (config : TicketsServiceConfig) (s : TicketsState) (id : ObjectId)
    (creation : Creation)
    : (∃ err, s.insert config id creation = (.error err, s))
      ∨ ∃ d : TicketEntity,
        s.insert config id creation
            = (.ok id, { s with docs := s.docs ++ [d], creations := s.creations ++ [creation] })
          ∧ d.id = id ∧ d.ticket = creation.ticket ∧ d.userId = creation.userId
          ∧ d.expireAt = DateTime.ofOffsetDateTime (expireAt config creation.issuedAt)
          ∧ ∀ d' ∈ s.docs, d.id ≠ d'.id ∧ d.ticket ≠ d'.ticket := by
  unfold TicketsState.insert TicketsRepository.insert insertOne
  dsimp only
  by_cases hconflict : s.docs.any (TicketsRepository.conflict {
    id
    ticket := creation.ticket
    userId := creation.userId
    issuedAt := DateTime.ofOffsetDateTime creation.issuedAt
    expireAt := DateTime.ofOffsetDateTime (expireAt config creation.issuedAt)
    usedAt := none
  })
  . exact Or.inl ⟨.insertUniqueViolation, by simp [hconflict]⟩
  . refine Or.inr ⟨_, by simp [hconflict]; rfl, rfl, rfl, rfl, rfl, ?_⟩
    intro d' hd'
    simp only [Bool.not_eq_true, List.any_eq_false] at hconflict
    simpa [TicketsRepository.conflict] using hconflict d' hd'

theorem Accounted.insert {id : ObjectId} {creation : Creation} (h : s.Accounted config)
    (hissued : 0 ≤ creation.issuedAt) : (s.insert config id creation).2.Accounted config := by
  rcases insert_cases config s id creation with
    ⟨err, heq⟩ | ⟨d, heq, hid, hticket, huser, hexpire, hfresh⟩
  . rw [heq]
    exact h
  . rw [heq]
    have hextends : Extends s.docs (s.docs ++ [d]) := by
      intro d' hd'
      exact ⟨d', List.mem_append_left _ hd', rfl, rfl, rfl, rfl, fun hused => hused⟩
    constructor
    . apply nodup_map_concat h.ids_nodup
      intro d' hd'
      exact (hfresh d' hd').1.symm
    . apply nodup_map_concat h.tickets_nodup
      intro d' hd'
      exact (hfresh d' hd').2.symm
    . rw [List.map_append, List.map_append, h.tickets, List.map_singleton, List.map_singleton,
        hticket]
    . intro d' hd'
      rcases List.mem_append.mp hd' with hd' | hd'
      . rcases h.docs d' hd' with ⟨creation', hmem, hcreation'⟩
        exact ⟨creation', List.mem_append_left _ hmem, hcreation'⟩
      . rw [List.mem_singleton.mp hd']
        exact ⟨creation, List.mem_append_right _ (List.mem_singleton_self _), hticket.symm,
          huser.symm, hissued, hexpire⟩
    . intro call hmem
      exact (h.calls call hmem).mono hextends
    . exact h.single

/--
The update of `used_at` succeeds: nobody else has consumed this ticket, and nobody else will.
-/
theorem Accounted.consume {request : String} {ticket : Ticket} {now : OffsetDateTime}
    (h : s.Accounted config) (hcall : s.calls[i]? = some (.checked request ticket now))
    (hunused : ∃ d ∈ s.docs, d.id = ticket.id ∧ d.usedAt = none)
    : Accounted config ({ s with docs := s.docs.map (.use ticket.id now) }.progress i
        (.consumed request (.ok { ticket with usedAt := some now }))) := by
  have huse := h.use ticket.id now
  have hsupports : ∃ d ∈ s.docs, ticket.IsReadOf d ∧ d.ticket = request ∧ now ≤ ticket.expireAt :=
    h.calls _ (List.mem_of_getElem? hcall)
  rcases hsupports with ⟨d, hd, hread, hrequest, hnow⟩
  have hd_unused : d.usedAt = none := by
    rcases hunused with ⟨d', hd', hid, hnone⟩
    rwa [List.inj_on_of_nodup_map h.ids_nodup hd' hd (hid.trans hread.1)] at hnone
  -- a call that has consumed the same string has done so to the same document
  have hfirst (j : Nat) (ticket' : Ticket)
      (hj : s.calls[j]? = some (.consumed request (.ok ticket'))) : False := by
    have hsupports : ∃ d' ∈ s.docs, ticket'.IsReadOf d' ∧ d'.ticket = request ∧ d'.usedAt.isSome
        ∧ ∃ now, ticket'.usedAt = some now ∧ now ≤ ticket'.expireAt :=
      h.calls _ (List.mem_of_getElem? hj)
    rcases hsupports with ⟨d', hd', _, hrequest', hused, _⟩
    rw [List.inj_on_of_nodup_map h.tickets_nodup hd' hd (hrequest'.trans hrequest.symm)] at hused
    simp [hd_unused] at hused
  refine ⟨huse.ids_nodup, huse.tickets_nodup, huse.tickets, huse.docs, ?_, ?_⟩
  . intro call hmem
    rcases List.mem_or_eq_of_mem_set hmem with hmem | rfl
    . exact huse.calls call hmem
    . refine ⟨d.use ticket.id now, List.mem_map_of_mem hd, ?_, ?_, ?_, now, rfl, hnow⟩
      . exact ⟨by simp [hread.1], by simp [hread.2.1], by simp [hread.2.2.1], by simp [hread.2.2.2]⟩
      . simpa using hrequest
      . rw [hread.1]
        exact TicketEntity.isSome_usedAt_use_self
  . intro j k request' ticket₁ ticket₂ hj hk
    rcases getElem?_set_cases hj with ⟨hij, heq⟩ | ⟨_, hj⟩
    . rcases getElem?_set_cases hk with ⟨hik, _⟩ | ⟨_, hk⟩
      . rw [hij, hik]
      . rw [TicketCall.consumed.injEq] at heq
        rw [heq.1] at hk
        exact (hfirst k ticket₂ hk).elim
    . rcases getElem?_set_cases hk with ⟨_, heq⟩ | ⟨_, hk⟩
      . rw [TicketCall.consumed.injEq] at heq
        rw [heq.1] at hj
        exact (hfirst j ticket₁ hj).elim
      . exact h.single j k request' ticket₁ ticket₂ hj hk

theorem isReadOf_of_find {docs : Tickets} {request : String} {ticket : Ticket}
    (h : TicketsRepository.find request docs = some ticket)
    : ∃ d ∈ docs, ticket.IsReadOf d ∧ d.ticket = request := by
  rcases Option.map_eq_some_iff.mp h with ⟨d, hfind, rfl⟩
  have hrequest := List.find?_some hfind
  refine ⟨d, List.mem_of_find?_eq_some hfind, ⟨rfl, rfl, rfl, rfl⟩, ?_⟩
  simpa using hrequest

theorem checkUsed_eq_ok {found : Option Ticket} {ticket : Ticket}
    (h : checkUsed found = .ok ticket) : found = some ticket := by
  cases found with
  | none => contradiction
  | some found =>
    dsimp only [checkUsed] at h
    split at h
    . contradiction
    . rw [Except.ok.injEq] at h
      rw [h]

theorem checkExpired_eq_ok {ticket : Ticket} {now : OffsetDateTime}
    (h : checkExpired ticket now = .ok ()) : now ≤ ticket.expireAt := by
  dsimp only [checkExpired] at h
  split at h
  . contradiction
  . next hlt => exact Int.not_lt.mp hlt

theorem answer_error (ticket : Ticket) (now : OffsetDateTime) (err : RepositoryError)
    : ∃ err', answer ticket now (.error err) = .error err' := by
  cases err with
  | insertUniqueViolation => exact ⟨_, rfl⟩
  | noDocumentUpdated => exact ⟨_, rfl⟩
  | mongo => exact ⟨_, rfl⟩

theorem Accounted.answer {request : String} {ticket : Ticket} {now : OffsetDateTime}
    (h : s.Accounted config) (hcall : s.calls[i]? = some (.checked request ticket now))
    : Accounted config ({ s with
        docs := (TicketsRepository.updateUsedAt ticket.id now s.docs).2 }.progress i
          (.consumed request
            (answer ticket now (TicketsRepository.updateUsedAt ticket.id now s.docs).1))) := by
  rw [TicketsRepository.updateUsedAt_snd h.ids_nodup]
  cases hres : (TicketsRepository.updateUsedAt ticket.id now s.docs).1 with
  | ok => exact h.consume hcall (TicketsRepository.updateUsedAt_fst_eq_ok_iff.mp hres)
  | error err =>
    rcases answer_error ticket now err with ⟨err', heq⟩
    rw [heq]
    exact (h.use _ _).progress trivial (by simp)

theorem Accounted.step {label : TicketLabel} (h : s.Accounted config)
    (hstep : step config s label = some s') : s'.Accounted config := by
  cases label with
  | create userId now ticket =>
    simp only [TicketsState.step] at hstep
    split at hstep
    . next hnow =>
      rw [Option.some.injEq] at hstep
      rw [← hstep]
      exact h.append hnow (by simp)
    . contradiction
  | insert i id =>
    simp only [TicketsState.step] at hstep
    split at hstep
    . next userId issuedAt ticket hcall =>
      have hissued : 0 ≤ issuedAt := h.calls _ (List.mem_of_getElem? hcall)
      have hinsert : (s.insert config id { ticket, userId, issuedAt }).2.Accounted config :=
        h.insert hissued
      split at hstep
      . next s₁ heq =>
        rw [heq] at hinsert
        rw [Option.some.injEq] at hstep
        rw [← hstep]
        exact hinsert.progress trivial (by simp)
      . next s₁ heq =>
        rw [heq] at hinsert
        rw [Option.some.injEq] at hstep
        rw [← hstep]
        exact hinsert.progress trivial (by simp)
    . contradiction
  | consume request =>
    simp only [TicketsState.step, Option.some.injEq] at hstep
    rw [← hstep]
    exact h.append trivial (by simp)
  | find i =>
    simp only [TicketsState.step] at hstep
    split at hstep
    . next request hcall =>
      split at hstep
      . next ticket hused =>
        rw [Option.some.injEq] at hstep
        rw [← hstep]
        exact h.progress (isReadOf_of_find (checkUsed_eq_ok hused)) (by simp)
      . rw [Option.some.injEq] at hstep
        rw [← hstep]
        exact h.progress trivial (by simp)
    . contradiction
  | readClock i now =>
    simp only [TicketsState.step] at hstep
    split at hstep
    . next request ticket hcall =>
      have hsupports : ∃ d ∈ s.docs, ticket.IsReadOf d ∧ d.ticket = request :=
        h.calls _ (List.mem_of_getElem? hcall)
      rcases hsupports with ⟨d, hd, hread, hrequest⟩
      split at hstep
      . next hexpired =>
        rw [Option.some.injEq] at hstep
        rw [← hstep]
        exact h.progress ⟨d, hd, hread, hrequest, checkExpired_eq_ok hexpired⟩ (by simp)
      . rw [Option.some.injEq] at hstep
        rw [← hstep]
        exact h.progress trivial (by simp)
    . contradiction
  | updateUsedAt i =>
    simp only [TicketsState.step] at hstep
    split at hstep
    . next request ticket now hcall =>
      rw [Option.some.injEq] at hstep
      rw [← hstep]
      exact h.answer hcall
    . contradiction
  | lost i id applied =>
    simp only [TicketsState.step] at hstep
    split at hstep
    . next userId issuedAt ticket hcall =>
      have hissued : 0 ≤ issuedAt := h.calls _ (List.mem_of_getElem? hcall)
      rw [Option.some.injEq] at hstep
      rw [← hstep]
      cases applied with
      | true => exact (h.insert hissued).progress trivial (by simp)
      | false => exact h.progress trivial (by simp)
    . rw [Option.some.injEq] at hstep
      rw [← hstep]
      exact h.progress trivial (by simp)
    . next request ticket now hcall =>
      rw [Option.some.injEq] at hstep
      rw [← hstep]
      cases applied with
      | true =>
        rw [if_pos rfl, TicketsRepository.updateUsedAt_snd h.ids_nodup]
        exact (h.use ticket.id now).progress trivial (by simp [TicketsService.answer])
      | false => exact h.progress trivial (by simp [TicketsService.answer])
    . contradiction

end

/--
Every ticket string is consumed by one call at most. That call returns the user the ticket was
created for, at a clock reading that is no later than the one of the creation and the lifespan.
-/
theorem tickets_single_use (config : TicketsServiceConfig) (labels : List TicketLabel)
    (s : TicketsState) (hrun : System.run (step config) init labels = some s)
    : (∀ (i j : Nat) (request : String) (ticket ticket' : Ticket),
        s.calls[i]? = some (.consumed request (.ok ticket)) →
          s.calls[j]? = some (.consumed request (.ok ticket')) → i = j)
      ∧ (s.creations.map (·.ticket)).Nodup
      ∧ ∀ (i : Nat) (request : String) (ticket : Ticket),
          s.calls[i]? = some (.consumed request (.ok ticket)) →
            ticket.ticket = request
              ∧ ∃ creation ∈ s.creations, creation.ticket = request
                ∧ creation.userId = ticket.userId
                ∧ ∃ now, ticket.usedAt = some now
                  ∧ now ≤ creation.issuedAt + (config.ticketLifespan : Int) := by
  have h : s.Accounted config := by
    apply System.run_invariant (P := Accounted config) _ accounted_init hrun
    intro s label s' h hstep
    exact h.step hstep
  refine ⟨h.single, h.tickets ▸ h.tickets_nodup, ?_⟩
  intro i request ticket hcall
  have hsupports : ∃ d ∈ s.docs, ticket.IsReadOf d ∧ d.ticket = request ∧ d.usedAt.isSome
      ∧ ∃ now, ticket.usedAt = some now ∧ now ≤ ticket.expireAt :=
    h.calls _ (List.mem_of_getElem? hcall)
  rcases hsupports with ⟨d, hd, ⟨_, hticket, huser, hexpire⟩, hrequest, _, now, hnow, hle⟩
  rcases h.docs d hd with ⟨creation, hcreation, hticket', huser', hissued, hexpire'⟩
  refine ⟨hticket.trans hrequest, creation, hcreation, hticket'.trans hrequest,
    huser'.trans huser.symm, now, hnow, ?_⟩
  have hlifespan : 0 ≤ expireAt config creation.issuedAt :=
    Int.add_nonneg hissued (Int.natCast_nonneg _)
  calc
    now ≤ ticket.expireAt := hle
    _ = OffsetDateTime.ofDateTime (DateTime.ofOffsetDateTime (expireAt config creation.issuedAt)) := by
      rw [hexpire, hexpire']
    _ ≤ expireAt config creation.issuedAt := DateTime.ofDateTime_ofOffsetDateTime_le hlifespan

/-- Two upgrades race for one ticket, both of them find it unused. -/
def racingUpgrades : List TicketLabel :=
  [
    .create ⟨1⟩ 1500000 "ticket",
    .insert 0 ⟨7⟩,
    .consume "ticket",
    .consume "ticket",
    .find 1,
    .find 2,
    .readClock 1 2000000,
    .readClock 2 3000000,
    .updateUsedAt 2,
    .updateUsedAt 1
  ]

theorem tickets_single_use_racing
    : ∃ s, System.run (step ⟨10000000⟩) init racingUpgrades = some s
        ∧ s.calls[2]? = some (.consumed "ticket"
          (.ok ⟨⟨7⟩, "ticket", ⟨1⟩, 1000000, 11000000, some 3000000⟩))
        ∧ ∀ i ticket, s.calls[i]? = some (.consumed "ticket" (.ok ticket)) → i = 2 := by
  let s : TicketsState := {
    docs := [⟨⟨7⟩, "ticket", ⟨1⟩, 1, 11, some 3⟩]
    calls := [
      .created (.ok "ticket"),
      .consumed "ticket" (.error (.ticketInvalid "ticket already used")),
      .consumed "ticket" (.ok ⟨⟨7⟩, "ticket", ⟨1⟩, 1000000, 11000000, some 3000000⟩)
    ]
    creations := [⟨"ticket", ⟨1⟩, 1500000⟩]
  }
  have hrun : System.run (step ⟨10000000⟩) init racingUpgrades = some s := by
    rfl
  refine ⟨s, hrun, rfl, ?_⟩
  intro i ticket hcall
  exact (tickets_single_use ⟨10000000⟩ racingUpgrades s hrun).1 i 2 "ticket" ticket _ hcall rfl

end TicketsState

end TomNotifier.WsDelivery
