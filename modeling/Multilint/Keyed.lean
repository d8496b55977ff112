/-!
# Values under keys

Lists of values under increasing keys, each key once.
-/

namespace Multilint

namespace Keyed

variable {α : Type}

/-- The list with a value at the place of its key, instead of the value that was there. -/
def insert (key : String) (v : α) : List (String × α) → List (String × α)
  | [] => [(key, v)]
  | (k, w) :: es =>
    if key < k then (key, v) :: (k, w) :: es
    else if key = k then (key, v) :: es
    else (k, w) :: insert key v es

/-- The list that pairs give; a later pair replaces an earlier one of its key. -/
def ofList (es : List (String × α)) : List (String × α) :=
  es.foldl (fun acc e => insert e.1 e.2 acc) []

/-- The value under a key. -/
def get? (es : List (String × α)) (key : String) : Option α :=
  (es.find? (·.1 = key)).map (·.2)

end Keyed

end Multilint
