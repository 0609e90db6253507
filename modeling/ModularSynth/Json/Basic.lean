/-!
This module contains JSON values and the reading of the fields of a structure.
-/

namespace ModularSynth

inductive Json
  | null
  | bool (b : Bool)
  /-- A number written without a fraction and without an exponent. -/
  | integer (z : Int)
  /-- Any other number, `mantissa / 10 ^ places`. -/
  | decimal (mantissa : Int) (places : Nat)
  | string (s : String)
  | array (items : List Json)
  /-- The fields in the order they are written in. -/
  | object (fields : List (String × Json))
  deriving Inhabited

namespace Json

/-- Values that have a JSON form, and the JSON values that stand for one. -/
class Codec (α : Type) where
  encode : α → Json
  decode? : Json → Option α

export Codec (encode decode?)

/--
The values of the named fields, in that order. The fields of a structure come from an object by name
or from an array by position. An object may hold other fields; an array may be shorter than the list
of fields but not longer.
-/
def fields? (names : List String) : Json → Option (List (Option Json))
  | .object fields => some (names.map fun name => fields.lookup name)
  | .array items =>
    if items.length ≤ names.length then
      some (items.map some ++ List.replicate (names.length - items.length) none)
    else
      none
  | _ => none

def required? {α : Type} [Codec α] (field : Option Json) : Option α :=
  field.bind decode?

def optional? {α : Type} [Codec α] (default : α) : Option Json → Option α
  | some json => decode? json
  | none => some default

instance : Codec String where
  encode := .string
  decode?
    | .string s => some s
    | _ => none

instance : Codec UInt64 where
  encode n := .integer n.toNat
  decode?
    | .integer z => if 0 ≤ z ∧ z < UInt64.size then some (UInt64.ofNat z.toNat) else none
    | _ => none

instance {α : Type} [Codec α] : Codec (List α) where
  encode items := .array (items.map encode)
  decode?
    | .array items => items.mapM decode?
    | _ => none

/-- An absent value is `null`. -/
instance {α : Type} [Codec α] : Codec (Option α) where
  encode
    | some a => encode a
    | none => .null
  decode?
    | .null => some none
    | json => (decode? json).map some

/--
Decode one of a few names. A name that has no content may also be written as the only field of an
object, with the value `null`.
-/
def name? : Json → Option String
  | .string s => some s
  | .object [(s, .null)] => some s
  | _ => none

end Json
end ModularSynth
