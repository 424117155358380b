import Mathlib.Init

/-!
This module contains the errors of the servers' services and repositories.
-/

namespace TomNotifier.WsDelivery

/--
`repository::Error`, where `mongo` stands for any error of the driver.
-/
inductive RepositoryError where
  | insertUniqueViolation
  | noDocumentUpdated
  | mongo
  deriving DecidableEq, Repr

/-- `crate::error::Error`, without the roles the endpoints check before they call a service. -/
inductive Error where
  | database (err : RepositoryError)
  | ticketInvalid (message : String)
  | duplicate
  deriving DecidableEq

end TomNotifier.WsDelivery
