import Changesets.Text.Order

/-!
JSON values. Whole numbers and numbers with a fraction or an exponent are kept apart, since they are
shown differently. An object is the list of its members; `ofMembers` puts them in the order of their
keys, and of two members with one key it keeps the later.
-/
namespace Changesets

inductive Json
  | null
  | bool (b : Bool)
  | int (i : Int)
  | float (x : Float)
  | string (s : String)
  | array (items : List Json)
  | object (members : List (String × Json))
  deriving Inhabited

namespace Json

/-- Sets a member of a list that is ordered by keys. -/
def insertMember (key : String) (value : Json) : List (String × Json) → List (String × Json)
  | [] => [(key, value)]
  | (k, v) :: rest =>
    if key = k then (key, value) :: rest
    else if Text.precedes key k then (key, value) :: (k, v) :: rest
    else (k, v) :: insertMember key value rest

/-- The object of these members, ordered by their keys. -/
def ofMembers (members : List (String × Json)) : Json :=
  object (members.foldl (fun ms (key, value) => insertMember key value ms) [])

/-- The list of these strings. -/
def strings (items : List String) : Json :=
  array (items.map string)

/-- The string, or `null` where there is none. -/
def ofOption (s : Option String) : Json :=
  s.elim null string

end Changesets.Json
