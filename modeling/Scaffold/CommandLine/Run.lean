import Scaffold.CommandLine.Command
import Scaffold.Config
import Scaffold.Arguments.File
import Scaffold.Parameter.Missing
import Scaffold.Recipe.Create
import Scaffold.Builtin.Recipes

/-!
# CommandLine/Run — what the program does

`run` reads a command line and does what it asks for: it answers the changed disk, what was printed, what
was warned about, and the exit code.  Arguments come from the settings, then from a file, then from the
line; what is still missing is asked for, and where there is nobody to ask that is a failure.
-/

namespace Scaffold.CommandLine

/-- What the program works with: the surroundings, the settings, and who answers questions. -/
structure Session where
  host : Host
  config : Config
  ask : Parameter.Question → Except Error Json

namespace Session

/-- The recipes by name. -/
def recipes (s : Session) : Registry RecipeDefinition := RecipeDefinition.builtin s.host.year

end Session

/-- What comes of a command: the disk, what was said, and whether it succeeded. -/
structure Done where
  disk : Disk
  log : Log
  result : Except Error Unit

namespace Done

/-- A failure that leaves the disk as it is. -/
def failed (d : Disk) (warnings : List String) (e : Error) : Done :=
  ⟨d, ⟨warnings, "", ""⟩, .error e⟩

/-- A success that prints lines. -/
def printed (d : Disk) (warnings lines : List String) : Done :=
  ⟨d, ⟨warnings, String.join (lines.map (· ++ "\n")), ""⟩, .ok ()⟩

end Done

/-! ## Building a recipe -/

/-- The name of the repository, and what was warned about. -/
def repositoryName (s : Session) (d : Disk) (r : RecipeRequest) :
    Except Error String × List String :=
  match s.config.rules d with
  | .error e => (.error e, [])
  | .ok none => (.ok r.name, [])
  | .ok (some rules) =>
    match rules.enforce (r.naming.getD s.config.naming) r.name with
    | (warnings, .error e) => (.error e, warnings)
    | (warnings, .ok ()) => (.ok (rules.repoName r.name), warnings)

/-- Sets the arguments of pairs in turn. -/
def setPairs (given : Fields) : List (String × Json) → Except Error Fields
  | [] => .ok given
  | (key, value) :: pairs =>
    match Arguments.insertPath given key value with
    | .error e => .error e
    | .ok given => setPairs given pairs

/-- The **arguments** of a request: settings, file and pairs, the later ones over the earlier ones. -/
def gather (s : Session) (d : Disk) (r : RecipeRequest) : Except Error Fields :=
  match r.input with
  | none => setPairs s.config.defaults r.pairs
  | some file =>
    match Arguments.load d file with
    | .error e => .error e
    | .ok more => setPairs (Arguments.overlay s.config.defaults more) r.pairs

/-- Fills in what is missing, or fails for want of it. -/
def complete (s : Session) (r : RecipeRequest) (parameters : List Parameter) (given : Fields) :
    Except Error Fields :=
  if r.noInput then
    match Parameter.missingAll "" given parameters with
    | [] => .ok given
    | labels => .error (.arguments (.missing labels))
  else
    let filled := Parameter.fillAll s.ask "" given parameters
    filled.result.map fun () => filled.given

/-- The recipe with the arguments of a request, once its name is known. -/
def recipeNamed (s : Session) (d : Disk) (r : RecipeRequest) (name : String) :
    Except Error Recipe × List String :=
  match gather s d r with
  | .error e => (.error e, [])
  | .ok given =>
    match Recipe.inspect s.recipes r.recipe ⟨false, false, false⟩ with
    | (.error e, warnings) => (.error e, warnings)
    | (.ok parameters, warnings) =>
      match complete s r parameters given with
      | .error e => (.error e, warnings)
      | .ok given =>
        let (recipe, more) := Recipe.load s.recipes r.recipe (Fields.insert given "name" (.str name))
        (recipe.map fun x => { x with renderer := s.config.renderer }, warnings ++ more)

/-- **Builds** the recipe of a request. -/
def buildRecipe (s : Session) (d : Disk) (r : RecipeRequest) : Except Error Recipe × List String :=
  match repositoryName s d r with
  | (.error e, warnings) => (.error e, warnings)
  | (.ok name, warnings) =>
    let (recipe, more) := recipeNamed s d r name
    (recipe, warnings ++ more)

/-- Goes on with the recipe of a request. -/
def withRecipe (s : Session) (d : Disk) (r : RecipeRequest) (go : Recipe → Done) : Done :=
  match buildRecipe s d r with
  | (.error e, warnings) => .failed d warnings e
  | (.ok recipe, warnings) =>
    let done := go recipe
    { done with log := { done.log with warnings := warnings ++ done.log.warnings } }

/-! ## The commands -/

/-- A line with a label and a path. -/
def labelled (label : String) (p : Path) : String := label ++ ": '" ++ p.text ++ "'"

/-- Creates a recipe and lists the files. -/
def runCreate (s : Session) (d : Disk) (r : RecipeRequest) (recipe : Recipe) : Done :=
  let o := recipe.create s.host d r.outputDir none []
  match o.result with
  | .error e => ⟨o.disk, o.log, .error e⟩
  | .ok c =>
    let last := "Recipe '" ++ recipe.extensionName ++ "' created in " ++ c.path.text ++ "."
    let said := Done.printed o.disk [] ((Tree.filePaths c.tree).map (labelled "Created") ++ [last])
    { said with log := o.log.append said.log }

/-- Lists the files that would be written. -/
def runDryrun (d : Disk) (r : RecipeRequest) (recipe : Recipe) : Done :=
  match recipe.dryrun d r.outputDir none [] with
  | .error e => .failed d [] e
  | .ok tree => .printed d [] ((Tree.filePaths tree).map Path.text)

/-- Compares a recipe with the disk and lists what is found. -/
def runValidate (d : Disk) (r : RecipeRequest) (recipe : Recipe) : Done :=
  match recipe.validate d r.outputDir none [] with
  | .error e => .failed d [] e
  | .ok report =>
    let said := Done.printed d []
      (report.missing.map (labelled "missing") ++ report.errors.map (labelled "differs") ++
        report.ok.map (labelled "ok"))
    if report.isClean then said
    else
      { said with
        result := .error (.check (.differs report.missing.length report.errors.length)) }

/-- Shows the parameters of a recipe as a document. -/
def runInspect (s : Session) (d : Disk) (recipe : String) (shown : Recipe.Inspection) : Done :=
  match Recipe.inspect s.recipes recipe shown with
  | (.error e, warnings) => .failed d warnings e
  | (.ok parameters, warnings) =>
    ⟨d, ⟨warnings, (Yaml.Value.seq (Parameter.toValues parameters)).text, ""⟩, .ok ()⟩

/-- The naming rules of a file, or of the settings, or none. -/
def rulesFor (s : Session) (d : Disk) (namespaces : Option Path) : Except Error Naming :=
  match namespaces with
  | some file => Naming.load d file
  | none =>
    match s.config.rules d with
    | .error e => .error e
    | .ok (some rules) => .ok rules
    | .ok none => Naming.ofOptions none

/-- Checks a name. -/
def runCheckName (s : Session) (d : Disk) (name : String) (namespaces : Option Path) : Done :=
  match rulesFor s d namespaces with
  | .error e => .failed d [] e
  | .ok rules =>
    let verdict := rules.check name
    let said := Done.printed d []
      [(if verdict.passes then "valid" else "invalid") ++ ": " ++ verdict.message,
        "repo name: " ++ rules.repoName name]
    if verdict.passes then said
    else { said with result := .error (.check (.mismatch verdict.message)) }

/-- Does what a **command** asks for. -/
def runCommand (s : Session) (d : Disk) : Command → Done
  | .create r => withRecipe s d r (runCreate s d r)
  | .dryrun r => withRecipe s d r (runDryrun d r)
  | .validate r => withRecipe s d r (runValidate d r)
  | .list => .printed d [] (s.recipes.names recipeGroup)
  | .inspect recipe shown => runInspect s d recipe shown
  | .checkName name namespaces => runCheckName s d name namespaces

/-- Does what a **call** asks for. -/
def runInvocation (host : Host) (ask : Parameter.Question → Except Error Json) (d : Disk)
    (i : Invocation) : Done :=
  match Config.load d (i.configDir.getD d.workPath) with
  | .error e => .failed d [] e
  | .ok config => runCommand ⟨host, config, ask⟩ d i.command

/-! ## The program -/

/-- The answer of who is never there. -/
def nobody (_ : Parameter.Question) : Except Error Json := .error (.config .noTerminal)

/-- What the program **leaves**: the disk, the exit code, what was said, and whether the line was refused
or asked for help. -/
structure Leaving where
  disk : Disk
  exitCode : Nat
  log : Log
  usage : Option UsageFault

/-- The line for the version. -/
def versionLine : String := "kiln " ++ toolVersion ++ "\n"

/-- Leaves with what a command has done; a failure is the last line of what is said. -/
def leave (done : Done) : Leaving :=
  match done.result with
  | .ok () => ⟨done.disk, 0, done.log, none⟩
  | .error e =>
    ⟨done.disk, 1, done.log.append ⟨[], "", e.message ++ "\n"⟩, none⟩

/-- **Runs** the program. -/
def run (host : Host) (ask : Parameter.Question → Except Error Json) (d : Disk)
    (words : List String) : Leaving :=
  match Invocation.read words with
  | .ok i => leave (runInvocation host ask d i)
  | .error .version => ⟨d, 0, ⟨[], versionLine, ""⟩, none⟩
  | .error fault => ⟨d, fault.exitCode, .empty, some fault⟩

end Scaffold.CommandLine
