import ModularSynth.Decimal.Binary64

/-!
This module contains the values of TOML documents.
-/

namespace ModularSynth
namespace Toml

inductive Value
  | string (s : String)
  /-- An integer of 64 bits. -/
  | integer (z : Int)
  | float (x : Binary64)
  | boolean (b : Bool)
  /-- A date, a time or both, as it is written. -/
  | dateTime (text : String)
  | array (items : List Value)
  /-- The entries in the order in which their keys were first written. -/
  | table (entries : List (String × Value))

end Toml
end ModularSynth
