/-!
# Merging lineages

The lineage of a class lists the class and its ancestors, nearest first. It keeps the order of every
parent's lineage and of the parents themselves.

* `mergeLineages`: the common order of several lineages, if they have one.
-/

namespace EndpointDocs

variable {α : Type} [DecidableEq α]

/-- The first head that no other list keeps for later. -/
def nextAncestor? (lists : List (List α)) : Option α :=
  lists.findSome? fun
    | [] => none
    | c :: _ => if lists.any (·.tail.contains c) then none else some c

def dropHead (c : α) (lists : List (List α)) : List (List α) :=
  lists.map fun
    | [] => []
    | d :: ds => if d = c then ds else d :: ds

/-- Merge with at most so many ancestors. -/
def mergeUpTo : Nat → List (List α) → Option (List α)
  | 0, lists => if lists.all List.isEmpty then some [] else none
  | n + 1, lists =>
    if lists.all List.isEmpty then some []
    else do
      let c ← nextAncestor? lists
      return c :: (← mergeUpTo n (dropHead c lists))

/-- The order of all ancestors that respects every list. -/
def mergeLineages (lists : List (List α)) : Option (List α) :=
  mergeUpTo lists.flatten.length lists

end EndpointDocs
