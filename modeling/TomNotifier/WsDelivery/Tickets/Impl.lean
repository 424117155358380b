import TomNotifier.Common.Basic
import TomNotifier.Mongo.Basic
import TomNotifier.WsDelivery.Error

/-!
This module contains the tickets collection, `TicketsRepositoryImpl`, and what `TicketsServiceImpl`
computes between its calls.
-/

namespace TomNotifier.WsDelivery

open Mongo

structure TicketEntity where
  id : ObjectId
  ticket : String
  userId : Uuid
  issuedAt : DateTime
  expireAt : DateTime
  usedAt : Option DateTime
  deriving DecidableEq

structure Ticket where
  id : ObjectId
  ticket : String
  userId : Uuid
  issuedAt : OffsetDateTime
  expireAt : OffsetDateTime
  usedAt : Option OffsetDateTime
  deriving DecidableEq

def Ticket.ofFindEntity (value : TicketEntity) : Ticket where
  id := value.id
  ticket := value.ticket
  userId := value.userId
  issuedAt := OffsetDateTime.ofDateTime value.issuedAt
  expireAt := OffsetDateTime.ofDateTime value.expireAt
  usedAt := value.usedAt.map OffsetDateTime.ofDateTime

abbrev Tickets := List TicketEntity

namespace TicketsRepository

def conflict (d d' : TicketEntity) : Bool := decide (d.id = d'.id) || decide (d.ticket = d'.ticket)

def insert (id : ObjectId) (ticket : String) (userId : Uuid) (issuedAt : OffsetDateTime)
    (expireAt : OffsetDateTime) (docs : Tickets) : Except RepositoryError ObjectId × Tickets :=
  let insertEntity : TicketEntity := {
    id
    ticket
    userId
    issuedAt := DateTime.ofOffsetDateTime issuedAt
    expireAt := DateTime.ofOffsetDateTime expireAt
    usedAt := none
  }
  match insertOne conflict insertEntity docs with
  | none => (.error .insertUniqueViolation, docs)
  | some docs => (.ok id, docs)

def find (ticket : String) (docs : Tickets) : Option Ticket :=
  (docs.find? (Query.and [.eq (·.ticket) ticket])).map Ticket.ofFindEntity

def updateUsedAt (id : ObjectId) (usedAt : OffsetDateTime) (docs : Tickets)
    : Except RepositoryError Unit × Tickets :=
  let res := updateOne
    (.and [.eq (·.id) id, .isNull (·.usedAt)])
    (fun d => { d with usedAt := some (DateTime.ofOffsetDateTime usedAt) })
    docs
  match decide (res.2.matchedCount = 1) with
  | true => (.ok (), res.1)
  | false => (.error .noDocumentUpdated, res.1)

end TicketsRepository

structure TicketsServiceConfig where
  ticketLifespan : Duration

namespace TicketsService

def expireAt (config : TicketsServiceConfig) (issuedAt : OffsetDateTime) : OffsetDateTime :=
  issuedAt + (config.ticketLifespan : Int)

/-- `consume_ticket` up to its clock reading. -/
def checkUsed (found : Option Ticket) : Except Error Ticket :=
  match found with
  | none => .error (.ticketInvalid "ticket not exist")
  | some ticket =>
    if ticket.usedAt.isSome then
      .error (.ticketInvalid "ticket already used")
    else
      .ok ticket

def checkExpired (ticket : Ticket) (now : OffsetDateTime) : Except Error Unit :=
  if ticket.expireAt < now then .error (.ticketInvalid "ticket expired") else .ok ()

def answer (ticket : Ticket) (now : OffsetDateTime) : Except RepositoryError Unit → Except Error Ticket
  | .ok () => .ok { ticket with usedAt := some now }
  | .error .noDocumentUpdated => .error (.ticketInvalid "ticket already used")
  | .error err => .error (.database err)

end TicketsService

end TomNotifier.WsDelivery
