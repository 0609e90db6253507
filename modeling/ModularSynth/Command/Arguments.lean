/-!
This module contains the splitting of command line arguments into options and other arguments. Every
option takes a value, which is attached to it or is the next argument.
-/

namespace ModularSynth
namespace Command

/-- An option, with the names it can be given by. -/
structure OptionName where
  long : String
  short : Option Char

inductive Word
  | plain
  | option (name : OptionName) (attached : Option String)
  | unknown

/-- Classify an argument. A dash alone is not an option. -/
def classify (names : List OptionName) (arg : String) : Word :=
  match arg.toList with
  | '-' :: '-' :: body =>
    let long := String.ofList (body.takeWhile (· ≠ '='))
    match names.find? (·.long == long), body.dropWhile (· ≠ '=') with
    | some name, '=' :: value => .option name (some (String.ofList value))
    | some name, _ => .option name none
    | none, _ => .unknown
  | '-' :: short :: body =>
    match names.find? (·.short == some short), body with
    | some name, [] => .option name none
    | some name, '=' :: value => .option name (some (String.ofList value))
    | some name, value => .option name (some (String.ofList value))
    | none, _ => .unknown
  | _ => .plain

/-- Arguments that were split; what belongs together is in the order in which it was given. -/
structure Arguments where
  plain : List String
  /-- The values of options, by the long name of the option. -/
  options : List (String × String)

namespace Arguments

def addPlain (arg : String) (a : Arguments) : Arguments :=
  { a with plain := arg :: a.plain }

def addOption (name : OptionName) (value : String) (a : Arguments) : Arguments :=
  { a with options := (name.long, value) :: a.options }

/--
Split arguments. Two dashes end the options. An argument that looks like an option is never the
value of another one.
-/
def split? (names : List OptionName) : List String → Option Arguments
  | [] => some ⟨[], []⟩
  | arg :: rest =>
    if arg = "--" then
      some ⟨rest, []⟩
    else
      match classify names arg with
      | .plain => (split? names rest).map (addPlain arg)
      | .option name (some value) => (split? names rest).map (addOption name value)
      | .option name none =>
        match rest with
        | [] => none
        | value :: rest =>
          match classify names value with
          | .plain => (split? names rest).map (addOption name value)
          | _ => none
      | .unknown => none

def values (a : Arguments) (long : String) : List String :=
  (a.options.filter (·.1 == long)).map (·.2)

end Arguments

def atMostOne? {α : Type} : List α → Option (Option α)
  | [] => some none
  | [a] => some (some a)
  | _ => none

end Command
end ModularSynth
