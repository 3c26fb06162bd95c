/-!
# Arguments of a command

Arguments are options and operands. An option is known by a long name
after two dashes or by a letter after one; letters may stand together,
and two dashes alone make operands of all that follow. An option that
takes a value takes it after an equals sign or as the next argument,
whatever that looks like.
-/

namespace PatchForge.Command

/-- Why arguments do not make a command. -/
inductive UsageFault where
  | commandMissing
  | commandUnknown (name : String)
  | optionUnknown (name : String)
  | valueMissing (name : String)
  | valueRefused (name : String)
  | operandMissing (name : String)
  | operandExtra (text : String)
  | notChoice (text : String) (choices : List String)
  | pathMissing (text : String)
  | pathIsFile (text : String)
  deriving DecidableEq, Repr

def UsageFault.message : UsageFault → String
  | .commandMissing => "Missing command."
  | .commandUnknown name => "No such command '" ++ name ++ "'."
  | .optionUnknown name => "No such option: " ++ name
  | .valueMissing name => "Option '" ++ name ++ "' requires an argument."
  | .valueRefused name => "Option '" ++ name ++ "' does not take a value."
  | .operandMissing name => "Missing argument '" ++ name ++ "'."
  | .operandExtra text => "Got unexpected extra argument (" ++ text ++ ")"
  | .notChoice text choices => "'" ++ text ++ "' is not one of " ++ ", ".intercalate choices ++ "."
  | .pathMissing text => "Directory '" ++ text ++ "' does not exist."
  | .pathIsFile text => "Directory '" ++ text ++ "' is a file."

/-- An option that a command knows. -/
structure Switch where
  name : String
  letter : Option Char := none
  takesValue : Bool := false
  deriving Repr

/-- The options that a command knows, and whether options may follow operands. -/
structure Grammar where
  switches : List Switch
  mixed : Bool := true

/-- The option that every command knows. -/
def helpSwitch : Switch := { name := "--help" }

/-- The options given, each with its value, and the operands. -/
structure Given where
  options : List (String × String) := []
  operands : List String := []
  deriving Repr

namespace Given

def withOption (g : Given) (name value : String) : Given :=
  { g with options := g.options ++ [(name, value)] }

def withOperands (g : Given) (texts : List String) : Given :=
  { g with operands := g.operands ++ texts }

def has (g : Given) (name : String) : Bool := g.options.any (·.1 = name)

/-- The value of an option that was given; the last one counts. -/
def value? (g : Given) (name : String) : Option String := List.lookup name g.options.reverse

/-- Switched on if the option was given. -/
def flag? (g : Given) (name : String) : Option Bool := if g.has name then some true else none

end Given

/-- A long name and the value after an equals sign. -/
def cutValue (argument : String) : String × Option String :=
  let cs := argument.toList
  let name := cs.takeWhile (· ≠ '=')
  (String.ofList name,
    if name.length = cs.length then none else some (String.ofList (cs.drop (name.length + 1))))

/-- Takes options by their letters, none of which takes a value. -/
def takeLetters (g : Grammar) : Given → List Char → Except UsageFault Given
  | given, [] => .ok given
  | given, c :: cs =>
    match g.switches.find? (·.letter = some c) with
    | some s => takeLetters g (given.withOption s.name "") cs
    | none => .error (.optionUnknown (String.ofList ['-', c]))

/-- Does the argument look like an option? -/
def isOption (argument : String) : Bool :=
  argument.toList.head? = some '-' && 1 < argument.length

/-- Does the argument look like a long option? -/
def isLong (argument : String) : Bool := "--".toList.isPrefixOf argument.toList

/-- Takes the arguments from the left. -/
def takeFrom (g : Grammar) : Given → List String → Except UsageFault Given
  | given, [] => .ok given
  | given, argument :: rest =>
    if argument = "--" then .ok (given.withOperands rest)
    else if isOption argument then
      let (name, value) := cutValue argument
      match g.switches.find? (·.name = name), value, rest with
      | some s, some v, rest =>
        if s.takesValue then takeFrom g (given.withOption name v) rest
        else .error (.valueRefused name)
      | some s, none, next :: rest' =>
        if s.takesValue then takeFrom g (given.withOption name next) rest'
        else takeFrom g (given.withOption name "") (next :: rest')
      | some s, none, [] =>
        if s.takesValue then .error (.valueMissing name) else .ok (given.withOption name "")
      | none, _, rest =>
        if isLong argument then .error (.optionUnknown name)
        else
          match takeLetters g given (argument.toList.drop 1) with
          | .ok given => takeFrom g given rest
          | .error f => .error f
    else if g.mixed then takeFrom g (given.withOperands [argument]) rest
    else .ok (given.withOperands (argument :: rest))
  termination_by _ arguments => arguments.length

/-- The options and operands that arguments give. -/
def take (g : Grammar) (arguments : List String) : Except UsageFault Given :=
  takeFrom { g with switches := helpSwitch :: g.switches } {} arguments

end PatchForge.Command
