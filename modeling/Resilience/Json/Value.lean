/-! Structured values: the tree that documents hold and that log records carry. Members of an object
    keep their order; `insert` keeps them sorted by key. -/

namespace Resilience

/-- A number in a document is a whole number or a double. Whole numbers from `-2 ^ 63` up to
    `2 ^ 64 - 1` occur. -/
inductive Json.Number
  | whole (n : Int)
  | float (x : Float)

inductive Json
  | null
  | bool (b : Bool)
  | number (n : Json.Number)
  | text (s : String)
  | array (items : List Json)
  | object (members : List (String × Json))

namespace Json

def ofNat (n : Nat) : Json := .number (.whole n)

/-- The value under a key. -/
def find? (key : String) : List (String × Json) → Option Json
  | [] => none
  | (k, v) :: members => if k = key then some v else find? key members

/-- Puts a member into its place among members sorted by key, in place of one with the same key. -/
def insert (key : String) (value : Json) : List (String × Json) → List (String × Json)
  | [] => [(key, value)]
  | (k, v) :: members =>
    if key = k then (key, value) :: members
    else if key < k then (key, value) :: (k, v) :: members
    else (k, v) :: insert key value members

/-- Members sorted by key; of members with the same key the last one is kept. -/
def sortedMembers (members : List (String × Json)) : List (String × Json) :=
  members.foldl (fun sorted member => insert member.1 member.2 sorted) []

/-- An object with its members sorted by key. -/
def record (members : List (String × Json)) : Json := .object (sortedMembers members)

/-- The member under a key, if the value is an object that has it. -/
def member? (v : Json) (key : String) : Option Json :=
  match v with
  | .object members => find? key members
  | _ => none

end Json
end Resilience
