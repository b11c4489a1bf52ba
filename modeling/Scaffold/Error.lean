import Scaffold.Json.Decode
import Scaffold.Json.Writer
import Scaffold.Url
import Scaffold.Disk.Basic
import Scaffold.Template.Token

/-!
# Error — what can go wrong

An `Error` is a cause; `Error.message` is the sentence a user reads.  The faults of one part of the
library have a type of their own, with its own `message`.
-/

namespace Scaffold

/-- How a process **ended** when it did not succeed. -/
inductive ExitStatus where
  | code (n : Nat)
  | signal (number : Nat) (name : String)
deriving DecidableEq, Repr

/-- The text of an exit status. -/
def ExitStatus.text : ExitStatus → String
  | .code n => "exit status: " ++ toString n
  | .signal n name => "signal: " ++ toString n ++ " (" ++ name ++ ")"

/-- What is wrong with a **reference** to a resource. -/
inductive ReferenceFault where
  /-- There is not exactly one colon. -/
  | shape
  | module (name : String)
  | filename (name : String)
deriving DecidableEq, Repr

/-- What a reference looks like. -/
def referenceExample : String := "<package>.<module>:<resource filename>"

/-- The sentence for a reference fault. -/
def ReferenceFault.message : ReferenceFault → String
  | .shape => "should look like " ++ referenceExample
  | .module name =>
    "the part before the colon (" ++ name ++ ") should be a valid module path (" ++
      referenceExample ++ ")"
  | .filename name =>
    "the part after the colon (" ++ name ++ ") should be a single filename (" ++
      referenceExample ++ ")"

/-- What is wrong with the metadata of a **repository**. -/
inductive RepositoryFault where
  | emptySeparator
  | email (text : String)
  | url (text : String) (fault : UrlFault)
  | notWeb (text : String)

/-- The sentence for a fault of repository metadata. -/
def RepositoryFault.message : RepositoryFault → String
  | .emptySeparator => "repo_separator must not be empty"
  | .email text => "'" ++ text ++ "' is not a valid email address"
  | .url text fault => "'" ++ text ++ "' is not a valid url: " ++ fault.message
  | .notWeb text => "'" ++ text ++ "' is not an http(s) url"

/-- What is wrong with the **arguments** of a recipe. -/
inductive ArgumentFault where
  | nameMissing
  | nameNotText (found : Json)
  | versionNotText (found : Json)
  | field (fault : DecodeFault)
  | repository (fault : RepositoryFault)
  /-- Required arguments nobody gave, by their dotted names. -/
  | missing (labels : List String)

/-- The sentence for an argument fault. -/
def ArgumentFault.message : ArgumentFault → String
  | .nameMissing => "missing required field 'name'"
  | .nameNotText found => "'name' must be a string, got " ++ found.text
  | .versionNotText found => "'version' must be a string, got " ++ found.text
  | .field fault => fault.message
  | .repository fault => "repo: " ++ fault.message
  | .missing labels => "missing required arguments: " ++ Text.join ", " labels

/-- What is wrong with the **naming rules** themselves. -/
inductive NamingFault where
  | emptySeparator
  | emptyDelimiter
  | unreadable
deriving DecidableEq, Repr

/-- The sentence for a fault of naming rules. -/
def NamingFault.message : NamingFault → String
  | .emptySeparator => "repo separator must not be empty"
  | .emptyDelimiter => "delimiters must not be empty strings"
  | .unreadable => "invalid namespaces document"

/-- Why a **hook** failed on its own account. -/
inductive HookFault where
  | custom (message : String)
  /-- The program could not be started. -/
  | notStarted (program : String)
  | commandFailed (program : String) (status : ExitStatus)
  | installNotStarted
  | installFailed (status : ExitStatus)

/-- The sentence for a hook fault. -/
def HookFault.message : HookFault → String
  | .custom message => message
  | .notStarted program => "failed to run '" ++ program ++ "'"
  | .commandFailed program status =>
    "Hook '" ++ program ++ "' failed with status: " ++ status.text
  | .installNotStarted => "failed to run pre-commit"
  | .installFailed status => "pre-commit install failed with status: " ++ status.text

/-- What is wrong with **settings** given to the program. -/
inductive ConfigFault where
  | unreadable
  /-- An input file that holds something else than arguments. -/
  | notArguments (path : String)
  /-- A dotted key leads through a value that is no mapping. -/
  | notMapping (head key : String)
  | noAnswer (label : String)
  | noTerminal

/-- The sentence for a fault of settings. -/
def ConfigFault.message : ConfigFault → String
  | .unreadable => "Invalid configuration format"
  | .notArguments path => "'" ++ path ++ "' must contain a mapping of recipe arguments"
  | .notMapping head key => "'" ++ head ++ "' is not a mapping, cannot set '" ++ key ++ "'"
  | .noAnswer label => "no answer for '" ++ label ++ "'"
  | .noTerminal => "IO error: not a terminal"

/-- What did not **pass** a check. -/
inductive CheckFault where
  /-- A name that the naming rules do not allow. -/
  | mismatch (reason : String)
  /-- The same where the name is given to a recipe. -/
  | repositoryName (name reason : String)
  | noPath (recipe : String)
  /-- A path without parent or without name. -/
  | noRoot (path : String)
  | differs (missing differing : Nat)

/-- The sentence for a failed check. -/
def CheckFault.message : CheckFault → String
  | .mismatch reason => reason
  | .repositoryName name reason => "name '" ++ name ++ "' is not in the namespace: " ++ reason
  | .noPath recipe => "recipe '" ++ recipe ++ "' resolved to no path"
  | .noRoot path => "cannot create a recipe at '" ++ path ++ "'"
  | .differs missing differing =>
    toString missing ++ " missing, " ++ toString differing ++ " differing"

/-- A **failure** of any part of the library. -/
inductive Error where
  | disk (fault : DiskFault)
  | template (fault : Template.Fault)
  | templateNotFound (reference : String)
  | notTemplate (text : String)
  | badReference (reference : String) (fault : ReferenceFault)
  | duplicateId (id : String)
  | nodeNotFound (key : String)
  | recipeNotFound (name : String) (available : List String)
  | arguments (fault : ArgumentFault)
  | naming (fault : NamingFault)
  /-- Declared fields that are no mapping. -/
  | notFields (found : Json)
  /-- A hook that failed with an error of the library. -/
  | hook (cause : Error)
  | hookFailed (fault : HookFault)
  | git
  | yaml
  | config (fault : ConfigFault)
  | check (fault : CheckFault)

/-- The **sentence** for an error. -/
def Error.message : Error → String
  | .disk fault => "IO error: " ++ fault.message ++ "."
  | .template _ => "Template error: the template cannot be rendered."
  | .templateNotFound reference => "Template not found: '" ++ reference ++ "'."
  | .notTemplate text => "Template string needs jinja syntax: '" ++ text ++ "'."
  | .badReference reference fault =>
    "Invalid resource reference '" ++ reference ++ "': " ++ fault.message ++ "."
  | .duplicateId id =>
    "IDs for contents must be unique. The ID (" ++ id ++
      ") already exists in the folder contents."
  | .nodeNotFound key => "Name or id '" ++ key ++ "' not found in contents."
  | .recipeNotFound name available =>
    "Recipe '" ++ name ++
      "' not found, it may be mis-spelt or not registered. Available recipes: " ++
      Text.join ", " available ++ "."
  | .arguments fault => "Invalid recipe arguments: " ++ fault.message ++ "."
  | .naming fault => "Namespace error: " ++ fault.message ++ "."
  | .notFields found =>
    "Context error: declared fields must serialize to a mapping, got '" ++ found.text ++ "'."
  | .hook cause => cause.message
  | .hookFailed fault => fault.message
  | .git => "Git error: the repository cannot be initialised."
  | .yaml => "YAML error: the document cannot be read."
  | .config fault => "Configuration error: " ++ fault.message ++ "."
  | .check fault => "Validation error: " ++ fault.message ++ "."

end Scaffold
