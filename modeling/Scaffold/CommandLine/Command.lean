import Scaffold.CommandLine.Usage
import Scaffold.Naming.Basic
import Scaffold.Recipe.Definition

/-!
# CommandLine/Command — the commands of the program

A command line names a command and what it works on; two options may stand before or behind the command.
`Invocation.read` reads one, `Command.name` is the word that a command is called by.
-/

namespace Scaffold.CommandLine

/-- What is asked of a **recipe**. -/
structure RecipeRequest where
  recipe : String
  outputDir : Option Path
  name : String
  /-- A file with arguments. -/
  input : Option Path
  pairs : List (String × Json)
  /-- Whether nobody is to be asked. -/
  noInput : Bool
  /-- How the naming rules are enforced, in place of what the settings say. -/
  naming : Option Enforcement

/-- A **command**. -/
inductive Command where
  | create (request : RecipeRequest)
  | dryrun (request : RecipeRequest)
  | validate (request : RecipeRequest)
  | list
  | inspect (recipe : String) (shown : Recipe.Inspection)
  | checkName (name : String) (namespaces : Option Path)

/-- The word for a command. -/
def Command.name : Command → String
  | .create _ => "create"
  | .dryrun _ => "dryrun"
  | .validate _ => "validate"
  | .list => "list"
  | .inspect _ _ => "inspect"
  | .checkName _ _ => "check-name"

/-- A **call** of the program. -/
structure Invocation where
  verbose : Bool
  /-- The directory with the settings. -/
  configDir : Option Path
  command : Command

/-! ## What may stand on the line -/

/-- The options that stand before or behind a command. -/
def globalChoices : List Choice := [
  ⟨some 'v', "verbose", .flag "verbose"⟩,
  ⟨none, "config-dir", .takes ⟨"config-dir", .path, false⟩⟩,
  ⟨some 'h', "help", .help⟩]

/-- The line in front of a command. -/
def outerUsage : Usage := ⟨globalChoices ++ [⟨some 'V', "version", .version⟩], [], []⟩

/-- The line behind a command that works on a recipe. -/
def recipeUsage : Usage where
  choices := globalChoices ++ [
    ⟨some 'n', "name", .takes ⟨"name", .text, false⟩⟩,
    ⟨some 'i', "input", .takes ⟨"input", .path, false⟩⟩,
    ⟨some 's', "set", .takes ⟨"set", .pair, true⟩⟩,
    ⟨none, "no-input", .flag "no-input"⟩,
    ⟨none, "naming", .takes ⟨"naming", .word (Enforcement.known.map (·.1)), false⟩⟩]
  arguments := [⟨"recipe", .text, false⟩, ⟨"output-dir", .path, false⟩]
  required := ["recipe", "name"]

/-- The line behind the command that lists recipes. -/
def listUsage : Usage := ⟨globalChoices, [], []⟩

/-- The line behind the command that shows parameters. -/
def inspectUsage : Usage where
  choices := globalChoices ++ [
    ⟨none, "include-private", .flag "include-private"⟩,
    ⟨none, "include-folder", .flag "include-folder"⟩,
    ⟨none, "include-base", .flag "include-base"⟩]
  arguments := [⟨"recipe", .text, false⟩]
  required := ["recipe"]

/-- The line behind the command that checks a name. -/
def checkNameUsage : Usage where
  choices := globalChoices ++ [⟨none, "namespaces", .takes ⟨"namespaces", .path, false⟩⟩]
  arguments := [⟨"name", .text, false⟩]
  required := ["name"]

/-! ## What was read -/

/-- The path of a key. -/
def path? (m : Matches) (key : String) : Option Path := (m.value? key).map Path.mk

/-- What is asked of a recipe. -/
def RecipeRequest.ofMatches (m : Matches) : RecipeRequest where
  recipe := (m.value? "recipe").getD ""
  outputDir := path? m "output-dir"
  name := (m.value? "name").getD ""
  input := path? m "input"
  pairs := (m.values "set").filterMap fun v => (Arguments.pair v).toOption
  noInput := m.has "no-input"
  naming := (m.value? "naming").bind fun w => Enforcement.known.lookup w

/-- What is shown of parameters. -/
def shownOf (m : Matches) : Recipe.Inspection where
  includePrivate := m.has "include-private"
  includeFolder := m.has "include-folder"
  includeBase := m.has "include-base"

/-- The commands by their word, with what may follow and what it means. -/
def commands : List (String × Usage × (Matches → Command)) := [
  ("create", recipeUsage, fun m => .create (.ofMatches m)),
  ("dryrun", recipeUsage, fun m => .dryrun (.ofMatches m)),
  ("validate", recipeUsage, fun m => .validate (.ofMatches m)),
  ("list", listUsage, fun _ => .list),
  ("inspect", inspectUsage, fun m => .inspect ((m.value? "recipe").getD "") (shownOf m)),
  ("check-name", checkNameUsage,
    fun m => .checkName ((m.value? "name").getD "") (path? m "namespaces"))]

/-- The word that asks for help with a command. -/
def helpWord : String := "help"

/-- The words that end the line in front of a command. -/
def commandWords : List String := commands.map (·.1) ++ [helpWord]

/-- What comes of asking for help with a command. -/
def helpFault : List String → UsageFault
  | [] => .help
  | [word] => if commandWords.contains word then .help else .unknownCommand
  | _ => .unknownCommand

namespace Invocation

/-- The call that two parts of a line make; where both name a directory the inner part counts. -/
def ofMatches (outer inner : Matches) (command : Command) : Invocation where
  verbose := outer.has "verbose" || inner.has "verbose"
  configDir := (path? inner "config-dir").orElse fun _ => path? outer "config-dir"
  command := command

/-- What is wrong with a line without command. -/
def commandFault (s : State) : UsageFault :=
  match s.resolve with
  | .error e => e
  | .ok s => if s.matched.isEmpty then .nothingGiven else .missingCommand

/-- Reads what follows a command; the line in front of it is checked after that. -/
def readCommand (s : State) (word : String) (words : List String) :
    Except UsageFault Invocation :=
  match commands.lookup word with
  | none => .error (helpFault words)
  | some (usage, meaning) =>
    match usage.matchAll words, s.resolve with
    | .error e, _ => .error e
    | _, .error e => .error e
    | .ok inner, .ok s => .ok (ofMatches s.matched inner (meaning inner))

/-- **Reads** a command line. -/
def read (words : List String) : Except UsageFault Invocation :=
  match outerUsage.collect commandWords .start words with
  | .error e => .error e
  | .ok (s, none) => .error (commandFault s)
  | .ok (s, some (word, words)) => readCommand s word words

end Invocation

end Scaffold.CommandLine
