import ReleaseGap.Text.Cut

/-!
# Arguments

What the arguments of a program say: a few values, unless an option stands among them.  Every option
ends the program, so the first argument that is no value decides; behind `--` all arguments are
values.
-/

namespace ReleaseGap.CommandLine

/-- Why arguments end a program before its work. -/
inductive Usage where
  /-- Help was asked for. -/
  | help
  /-- The version was asked for. -/
  | version
  | unknownArgument (argument : String)
  /-- An option that takes no value was given one. -/
  | unneededValue (option : String)
deriving DecidableEq, Repr

/-- What an option of several letters asks for, given behind its hyphens. -/
def longOption (s : List Char) : Usage :=
  let (name, value) := match Text.splitFirst? '=' s with
    | some (name, value) => (name, some value)
    | none => (s, none)
  let known (asked : Usage) : Usage :=
    if value.isSome then .unneededValue (String.ofList name) else asked
  match String.ofList name with
  | "help" => known .help
  | "version" => known .version
  | name => .unknownArgument ("--" ++ name)

/-- What an option of one letter asks for. -/
def shortOption : Char → Usage
  | 'h' => .help
  | 'V' => .version
  | letter => .unknownArgument (String.ofList ['-', letter])

/-- What an argument asks for if it is an option.  A lone hyphen is a value, and of letters put
together the first one counts. -/
def option? : List Char → Option Usage
  | '-' :: '-' :: s => some (longOption s)
  | '-' :: letter :: _ => some (shortOption letter)
  | _ => none

/-- Takes values, of which there may be `room`. -/
def takeValues : Nat → List String → Except Usage (List String)
  | _, [] => .ok []
  | 0, argument :: _ => .error (.unknownArgument argument)
  | room + 1, argument :: rest => (takeValues room rest).map (argument :: ·)

/-- Reads the values among arguments, of which there may be `room`. -/
def values : Nat → List String → Except Usage (List String)
  | _, [] => .ok []
  | room, argument :: rest =>
    if argument = "--" then takeValues room rest
    else
      match option? argument.toList, room with
      | some asked, _ => .error asked
      | none, 0 => .error (.unknownArgument argument)
      | none, room + 1 => (values room rest).map (argument :: ·)

end ReleaseGap.CommandLine
