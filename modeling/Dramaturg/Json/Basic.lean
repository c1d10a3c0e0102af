import Dramaturg.Number.Binary

set_option autoImplicit false

/-! # JSON values

Documents are JSON values whose objects keep the order of their members. Integers and floating
point numbers are different numbers: `1` may stand where a count is wanted, `1.0` may not. The
functions ending in `?` read a value as a kind of data and refuse every other kind. -/

namespace Dramaturg

/-- A number: an integer between `-2 ^ 63` and `2 ^ 64 - 1`, or a double. -/
inductive Json.Number where
  | integer (value : Int)
  | real (value : Float)
deriving DecidableEq

/-- A JSON value. -/
inductive Json where
  | null
  | bool (value : Bool)
  | number (value : Json.Number)
  | string (value : String)
  | array (items : List Json)
  | object (members : List (String × Json))

namespace Json

/-! ## Building values -/

/-- A natural number as a value. -/
def ofNat (n : Nat) : Json := .number (.integer n)

/-- A double as a value. -/
def ofFloat (x : Float) : Json := .number (.real x)

/-- A single as a value: the double equal to it. -/
def ofSingle (x : Float32) : Json := .number (.real (Number.widen x))

/-! ## Reading values -/

def isNull : Json → Bool
  | .null => true
  | _ => false

def asString? : Json → Option String
  | .string s => some s
  | _ => none

def asBool? : Json → Option Bool
  | .bool b => some b
  | _ => none

/-- An integer from `low` up to, but not including, `high`. -/
def asInteger? (low high : Int) : Json → Option Int
  | .number (.integer n) => if low ≤ n ∧ n < high then some n else none
  | _ => none

/-- A natural number below `bound`. -/
def asNat? (bound : Nat) (j : Json) : Option Nat :=
  (j.asInteger? 0 bound).map Int.toNat

/-- An integer of 64 bits with a sign. -/
def asInt64? (j : Json) : Option Int :=
  j.asInteger? (-Number.twoTo 63) (Number.twoTo 63)

/-- Any number, as the nearest double. -/
def asFloat? : Json → Option Float
  | .number (.integer n) => some (Number.toDouble (Number.ofInt n))
  | .number (.real x) => some x
  | _ => none

/-- Any number, as the nearest single. -/
def asSingle? : Json → Option Float32
  | .number (.integer n) => some (Number.toSingle (Number.ofInt n))
  | .number (.real x) => some (Number.narrow x)
  | _ => none

def asArray? : Json → Option (List Json)
  | .array items => some items
  | _ => none

def asObject? : Json → Option (List (String × Json))
  | .object members => some members
  | _ => none

/-- A list whose items all read. -/
def asList? {α : Type} (item : Json → Option α) (j : Json) : Option (List α) :=
  j.asArray?.bind (·.mapM item)

/-- The member of an object under a key. -/
def get? (j : Json) (key : String) : Option Json :=
  match j with
  | .object members => members.lookup key
  | _ => none

/-! ## Records

A record may be written as an object, where members that it does not know are passed over, or as
an array of its members in their order, where only members after the first `required` may be
missing. -/

/-- The members of a record that are present, by name. -/
def record? (names : List String) (required : Nat) : Json → Option (List (String × Json))
  | .object members => some (members.filter fun m => names.contains m.1)
  | .array items =>
    if required ≤ items.length ∧ items.length ≤ names.length then some (names.zip items) else none
  | _ => none

/-- A member that has to be there. -/
def required? {α : Type} (members : List (String × Json)) (name : String)
    (read : Json → Option α) : Option α :=
  (members.lookup name).bind read

/-- A member that may be missing, and then has a default. -/
def withDefault? {α : Type} (members : List (String × Json)) (name : String) (default : α)
    (read : Json → Option α) : Option α :=
  match members.lookup name with
  | none => some default
  | some j => read j

/-- A member that may be missing or null. -/
def optional? {α : Type} (members : List (String × Json)) (name : String)
    (read : Json → Option α) : Option (Option α) :=
  match members.lookup name with
  | none => some none
  | some .null => some none
  | some j => (read j).map some

/-- A name out of a fixed list: the name itself, or an object holding null under it. -/
def choice? {α : Type} (names : List (String × α)) : Json → Option α
  | .string s => names.lookup s
  | .object [(s, .null)] => names.lookup s
  | _ => none

end Json

end Dramaturg
