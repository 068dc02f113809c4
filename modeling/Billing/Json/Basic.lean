import Billing.Number.Binary64
import Billing.Text.Half

/-!
# JSON values

JSON values with integers and binary64 numbers apart, and objects that keep the order in which
their members were first set. A text in which halves of characters stand alone is a value of its
own, so that all other texts are plain ones.

* `Json.lookup?`, `Json.put`: a member's value, and a member set to a value.
* `Json.keeping`: a value without members of some names.
* `lookup?_put`: a member that was set has its value, and the others keep theirs.
-/

namespace Billing

/-- A JSON value. -/
inductive Json where
  | null
  | bool (value : Bool)
  | int (value : Int)
  | float (value : Binary64)
  | str (value : String)
  /-- A text with halves of characters in it. -/
  | torn (points : List Text.Point)
  | arr (items : List Json)
  | obj (members : List (Text.Raw × Json))
  deriving Inhabited

namespace Json

/-- The value that a text is. -/
def ofRaw : Text.Raw → Json
  | .whole s => str s
  | .torn ps => torn ps

/-- The text that a value is. -/
def raw? : Json → Option Text.Raw
  | str s => some s
  | torn ps => some (.torn ps)
  | _ => none

/-- Whether the value counts as given: neither null, false, zero nor empty. -/
def isGiven : Json → Bool
  | null => false
  | bool b => b
  | int n => n != 0
  | float x => !x.isZero
  | str s => !s.isEmpty
  | torn ps => !ps.isEmpty
  | arr xs => !xs.isEmpty
  | obj ms => !ms.isEmpty

/-- The value of a member in a list of members. -/
def lookup? (key : Text.Raw) (ms : List (Text.Raw × Json)) : Option Json :=
  (ms.find? (·.1 = key)).map (·.2)

/-- The members with one set: in its place if it is there, else at the end. -/
def put (key : Text.Raw) (value : Json) : List (Text.Raw × Json) → List (Text.Raw × Json)
  | [] => [(key, value)]
  | m :: ms => if m.1 = key then (key, value) :: ms else m :: put key value ms

/-- The value of an object's member. -/
def find? (key : String) : Json → Option Json
  | obj ms => lookup? key ms
  | _ => none

mutual

/-- The characters of all texts in a value. -/
def characters : Json → List Char
  | str s => s.toList
  | torn ps => (Text.Raw.torn ps).characters
  | arr xs => charactersOfItems xs
  | obj ms => charactersOfMembers ms
  | _ => []

/-- The characters of all texts in values. -/
def charactersOfItems : List Json → List Char
  | [] => []
  | x :: xs => characters x ++ charactersOfItems xs

/-- The characters of all texts in members. -/
def charactersOfMembers : List (Text.Raw × Json) → List Char
  | [] => []
  | (key, x) :: ms => key.characters ++ characters x ++ charactersOfMembers ms

end

mutual

/-- A value with only those members, at any depth, whose names are kept. -/
def keeping (keep : Text.Raw → Bool) : Json → Json
  | arr xs => arr (keepingItems keep xs)
  | obj ms => obj (keepingMembers keep ms)
  | x => x

/-- Values with only those members whose names are kept. -/
def keepingItems (keep : Text.Raw → Bool) : List Json → List Json
  | [] => []
  | x :: xs => keeping keep x :: keepingItems keep xs

/-- The members whose names are kept. -/
def keepingMembers (keep : Text.Raw → Bool) : List (Text.Raw × Json) → List (Text.Raw × Json)
  | [] => []
  | (key, x) :: ms =>
    if keep key then (key, keeping keep x) :: keepingMembers keep ms else keepingMembers keep ms

end

theorem lookup?_put (key key' : Text.Raw) (value : Json) (ms : List (Text.Raw × Json)) :
    lookup? key' (put key value ms) = if key = key' then some value else lookup? key' ms := by
  induction ms with
  | nil => by_cases h : key = key' <;> simp [lookup?, put, h]
  | cons m ms ih =>
    simp only [lookup?] at ih
    by_cases hm : m.1 = key
    · by_cases h : key = key'
      · simp [lookup?, put, hm, h]
      · simp [lookup?, put, hm, h]
    · by_cases h : m.1 = key'
      · have : key' ≠ key := fun e => hm (h.trans e)
        simp [lookup?, put, h, this, this.symm]
      · simp [lookup?, put, hm, h, ih]

end Json

end Billing
