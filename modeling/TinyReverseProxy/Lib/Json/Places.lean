import TinyReverseProxy.Lib.Json.Parse

/-!
# The strings inside a JSON value

A place is a path of object keys and array indices. `strAt` reads the string at a place, `strings`
collects every string value (keys are not values).
-/

namespace TinyReverseProxy.Lib.Json

/-- One step from a value into it. -/
inductive Place.Step where
  | key (k : Text)
  | item (i : Nat)
  deriving DecidableEq

abbrev Place := List Place.Step

namespace Value

def child : Place.Step → Value → Option Value
  | .key k, .obj ms => ms.lookup k
  | .item i, .arr vs => vs[i]?
  | _, _ => none

/-- The string value at a place. -/
def strAt : Place → Value → Option Text
  | [], v => v.asStr
  | st :: p, v => (child st v).bind (strAt p)

mutual

/-- Every string value, from left to right. -/
def strings : Value → List Text
  | .str s => [s]
  | .arr items => stringsItems items
  | .obj members => stringsMembers members
  | _ => []

def stringsItems : List Value → List Text
  | [] => []
  | v :: vs => strings v ++ stringsItems vs

def stringsMembers : List (Text × Value) → List Text
  | [] => []
  | (_, v) :: ms => strings v ++ stringsMembers ms

end

end Value

end TinyReverseProxy.Lib.Json
