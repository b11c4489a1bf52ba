import Scaffold.Arguments

/-!
# CommandLine/Usage — words, options and their values

A `Usage` lists what may stand on a command line: options with one letter or a long name, and arguments
by their position.  `Usage.collect` reads words from left to right.  A value that has been read stays
pending until the next option or argument, and is checked only then; so the first fault in that order is
the one that is reported.  Reading stops at the name of a command.
-/

namespace Scaffold.CommandLine

/-- Why a command line is **refused**, or what it asks for instead of a command. -/
inductive UsageFault where
  | unknownArgument
  /-- An option that comes twice. -/
  | argumentConflict
  | invalidValue
  | valueValidation
  /-- A value for an option that takes none. -/
  | tooManyValues
  | missingArgument
  | missingCommand
  | unknownCommand
  | help
  /-- There is nothing at all. -/
  | nothingGiven
  | version
deriving DecidableEq, Repr

namespace UsageFault

/-- The word for the kind of a fault. -/
def kind : UsageFault → String
  | .unknownArgument => "UnknownArgument"
  | .argumentConflict => "ArgumentConflict"
  | .invalidValue => "InvalidValue"
  | .valueValidation => "ValueValidation"
  | .tooManyValues => "TooManyValues"
  | .missingArgument => "MissingRequiredArgument"
  | .missingCommand => "MissingSubcommand"
  | .unknownCommand => "InvalidSubcommand"
  | .help => "DisplayHelp"
  | .nothingGiven => "DisplayHelpOnMissingArgumentOrSubcommand"
  | .version => "DisplayVersion"

/-- The exit code. -/
def exitCode : UsageFault → Nat
  | .help => 0
  | .version => 0
  | .missingArgument => 1
  | .nothingGiven => 1
  | _ => 2

end UsageFault

/-- What a **value** has to be. -/
inductive Expected where
  | text
  | path
  | pair
  /-- One of several words. -/
  | word (known : List String)

/-- Whether a value is what it has to be. -/
def Expected.check (value : String) : Expected → Except UsageFault Unit
  | .text => .ok ()
  | .path => if value.isEmpty then .error .invalidValue else .ok ()
  | .pair =>
    match Arguments.pair value with
    | .ok _ => .ok ()
    | .error _ => .error .valueValidation
  | .word known => if known.contains value then .ok () else .error .invalidValue

/-- What takes a **value**: its key, what the value has to be, and whether it may come again. -/
structure Slot where
  key : String
  expected : Expected
  repeats : Bool

/-- What an option **does**. -/
inductive Effect where
  | flag (key : String)
  | takes (slot : Slot)
  | help
  | version

/-- An **option**: its letter, its long name, and what it does. -/
structure Choice where
  letter : Option Char
  long : String
  effect : Effect

/-- What may stand on a **command line**. -/
structure Usage where
  choices : List Choice
  arguments : List Slot
  /-- The keys that must have a value. -/
  required : List String

/-- The values that were read, by key; a flag has none. -/
abbrev Matches := List (String × List String)

namespace Matches

/-- Whether a key was given. -/
def has (m : Matches) (key : String) : Bool := (m.lookup key).isSome

/-- The values of a key. -/
def values (m : Matches) (key : String) : List String := (m.lookup key).getD []

/-- The value of a key. -/
def value? (m : Matches) (key : String) : Option String := (m.values key).head?

/-- Adds values to a key. -/
def add (m : Matches) (key : String) (vs : List String) : Matches :=
  match m with
  | [] => [(key, vs)]
  | (k, old) :: rest => if k = key then (k, old ++ vs) :: rest else (k, old) :: add rest key vs

end Matches

/-- How far **reading** has come. -/
structure State where
  matched : Matches
  /-- The slot whose value is being read, and the value if it is there. -/
  pending : Option (Slot × Option String)
  /-- How many arguments have been read. -/
  position : Nat
  /-- Whether every word that follows is an argument. -/
  trailing : Bool

namespace State

/-- Nothing has been read. -/
def start : State := ⟨[], none, 0, false⟩

/-- Keeps the value of a slot. -/
def store (s : State) (slot : Slot) (value : String) : Except UsageFault State :=
  if !slot.repeats && s.matched.has slot.key then .error .argumentConflict
  else (slot.expected.check value).map fun () => { s with matched := s.matched.add slot.key [value] }

/-- Keeps the value that is pending. -/
def resolve (s : State) : Except UsageFault State :=
  match s.pending with
  | none => .ok s
  | some (_, none) => .error .invalidValue
  | some (slot, some value) => store { s with pending := none } slot value

/-- Whether the next word is the value of an option. -/
def expectsValue (s : State) : Bool :=
  match s.pending with
  | some (_, none) => true
  | _ => false

/-- Sets a flag. -/
def setFlag (s : State) (key : String) : Except UsageFault State :=
  match s.resolve with
  | .error e => .error e
  | .ok s =>
    if s.matched.has key then .error .argumentConflict
    else .ok { s with matched := s.matched.add key [] }

/-- Does what an option without value does. -/
def raise (s : State) : Effect → Except UsageFault State
  | .flag key => s.setFlag key
  | .takes slot => s.resolve.map fun s => { s with pending := some (slot, none) }
  | .help => match s.resolve with | .ok _ => .error .help | .error e => .error e
  | .version => match s.resolve with | .ok _ => .error .version | .error e => .error e

/-- Keeps a value that stands with its option. -/
def attach (s : State) (slot : Slot) (value : String) : Except UsageFault State :=
  match s.resolve with
  | .error e => .error e
  | .ok s => s.store slot value

end State

namespace Usage

/-- Reads an option by its long name, with the value behind an equals sign. -/
def readLong (u : Usage) (s : State) (cs : List Char) : Except UsageFault State :=
  let (name, value) :=
    match Text.splitOnce? '=' cs with
    | some (name, value) => (name, some (String.ofList value))
    | none => (cs, none)
  match u.choices.find? fun c => c.long == String.ofList name, value with
  | none, _ => .error .unknownArgument
  | some c, none => s.raise c.effect
  | some c, some value =>
    match c.effect with
    | .takes slot => s.attach slot value
    | _ => .error .tooManyValues

/-- Drops an equals sign at the front. -/
def dropEquals : List Char → List Char
  | '=' :: cs => cs
  | cs => cs

/-- Reads options by their letters; what follows the letter of one that takes a value is its value. -/
def readLetters (u : Usage) (s : State) : List Char → Except UsageFault State
  | [] => .ok s
  | c :: cs =>
    match u.choices.find? fun o => o.letter == some c with
    | none => .error .unknownArgument
    | some o =>
      match o.effect, cs with
      | .takes slot, _ :: _ => s.attach slot (String.ofList (dropEquals cs))
      | effect, _ =>
        match s.raise effect with
        | .error e => .error e
        | .ok s => readLetters u s cs

/-- The fault of an argument that has no place. -/
def strayFault (commands : List String) (s : State) (word : String) : UsageFault :=
  if commands.isEmpty || (s.trailing && commands.contains word) then .unknownArgument
  else .unknownCommand

/-- Reads an argument. -/
def readArgument (u : Usage) (commands : List String) (s : State) (word : String) :
    Except UsageFault State :=
  match u.arguments[s.position]? with
  | none => .error (strayFault commands s word)
  | some slot =>
    s.resolve.map fun s => { s with pending := some (slot, some word), position := s.position + 1 }

/-- Reads a word that is no option: a value, if one is expected, or an argument. -/
def readPlain (u : Usage) (commands : List String) (s : State) (word : String) :
    Except UsageFault State :=
  match s.trailing, s.pending with
  | false, some (slot, none) => .ok { s with pending := some (slot, some word) }
  | _, _ => u.readArgument commands s word

/-- Reads a word. -/
def readWord (u : Usage) (commands : List String) (s : State) (word : String) :
    Except UsageFault State :=
  if s.trailing then u.readPlain commands s word
  else
    match word.toList with
    | ['-', '-'] => .ok { s with trailing := true }
    | '-' :: '-' :: cs => u.readLong s cs
    | '-' :: c :: cs => u.readLetters s (c :: cs)
    | _ => u.readPlain commands s word

/-- **Reads words** up to the name of a command: what was read, and the command with what follows. -/
def collect (u : Usage) (commands : List String) (s : State) :
    List String → Except UsageFault (State × Option (String × List String))
  | [] => .ok (s, none)
  | word :: words =>
    if !s.trailing && !s.expectsValue && commands.contains word then .ok (s, some (word, words))
    else
      match u.readWord commands s word with
      | .error e => .error e
      | .ok s => collect u commands s words

/-- Reads all words, where no command can follow. -/
def matchAll (u : Usage) (words : List String) : Except UsageFault Matches :=
  match u.collect [] .start words with
  | .error e => .error e
  | .ok (s, _) =>
    match s.resolve with
    | .error e => .error e
    | .ok s => if u.required.all s.matched.has then .ok s.matched else .error .missingArgument

end Usage

end Scaffold.CommandLine
