import Mathlib.Data.List.Basic

/-!
This module contains the part of the semantics of a MongoDB collection that single-document updates
rely on: query operators, the positional operator on an array field, `updateOne`, `updateMany` and
`insertOne` under unique indexes. Documents are values of an arbitrary type, a collection is the
list of its documents in natural order.

A query document is the predicate it stands for. `mem` is `$in`, `contains` is the query for an array
field with an element equal to a value, `updateFirst` and `projectFirst` are the positional operator
`$` of updates and projections.
-/

namespace Mongo

universe u v w

variable {D : Type u} {E : Type v} {α : Type w}

abbrev Query (D : Type u) := D → Bool

namespace Query

def and (qs : List (Query D)) : Query D := fun d => qs.all (· d)

def or (qs : List (Query D)) : Query D := fun d => qs.any (· d)

def not (q : Query D) : Query D := fun d => !q d

def eq [DecidableEq α] (field : D → α) (value : α) : Query D := fun d => decide (field d = value)

def mem [DecidableEq α] (field : D → α) (values : List α) : Query D :=
  fun d => decide (field d ∈ values)

def contains [DecidableEq α] (field : D → List α) (value : α) : Query D :=
  fun d => decide (value ∈ field d)

def size (field : D → List α) (n : Nat) : Query D := fun d => decide ((field d).length = n)

def isNull (field : D → Option α) : Query D := fun d => (field d).isNone

def gt [LT α] [DecidableLT α] (field : D → Option α) (value : α) : Query D :=
  -- No null satisfies it.
  fun d => (field d).any (fun x => decide (value < x))

def elemMatch (field : D → List E) (q : Query E) : Query D := fun d => (field d).any q

end Query

def updateFirst (q : Query E) (f : E → E) : List E → List E
  | [] => []
  | e :: es => if q e then f e :: es else e :: updateFirst q f es

def projectFirst (q : Query E) (es : List E) : List E :=
  (es.find? q).toList

structure UpdateResult where
  matchedCount : Nat
  modifiedCount : Nat
  deriving DecidableEq, Repr

/--
Update the first document that matches. A document counts as modified when the update changed it.
-/
def updateOne [DecidableEq D] (q : Query D) (f : D → D) : List D → List D × UpdateResult
  | [] => ([], ⟨0, 0⟩)
  | d :: ds =>
    if q d then
      (f d :: ds, ⟨1, if f d = d then 0 else 1⟩)
    else
      let res := updateOne q f ds
      (d :: res.1, res.2)

def updateMany [DecidableEq D] (q : Query D) (f : D → D) (ds : List D) : List D × UpdateResult :=
  (ds.map (fun d => if q d then f d else d),
    ⟨ds.countP q, ds.countP (fun d => q d && decide (f d ≠ d))⟩)

/--
Insert a document unless a unique index refuses it; `conflict d d'` says that `d` and `d'` have the
same key in some unique index.
-/
def insertOne (conflict : D → D → Bool) (d : D) (ds : List D) : Option (List D) :=
  if ds.any (conflict d) then none else some (ds ++ [d])

end Mongo
