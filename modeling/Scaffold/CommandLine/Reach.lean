import Scaffold.CommandLine.Run

/-!
# CommandLine/Reach — which places a call looks at

`reach` lists the paths that a call reads or writes, as far as the disk tells: the settings name files, the
files name templates, and the templates name others.  A disk that is known only in part is completed by
looking at these paths again and again, until a look brings up nothing new.
-/

namespace Scaffold.CommandLine

/-! ## Templates -/

/-- The templates that rendering a text looks up. -/
def soughtByText (r : Renderer) (d : Disk) (ctx : Context) (text : String) : List Resource :=
  (r.renderFrom d text ctx Renderer.maxPages []).1.filterMap fun p => (Resource.read p.1).toOption

/-- The templates that a source **looks up**. -/
def soughtBySource (r : Renderer) (d : Disk) (ctx : Context) : Source → List Resource
  | .text s => soughtByText r d ctx s
  | .resource ref =>
    match r.loadResource d ref with
    | .ok text => ref :: soughtByText r d ctx text
    | .error _ => [ref]
  | _ => []

mutual

/-- The templates that a node looks up. -/
def soughtBy (r : Renderer) (d : Disk) (ctx : Context) : Node → List Resource
  | .file _ _ source => soughtBySource r d ctx source
  | .folder _ _ contents => soughtByAll r d ctx contents

/-- The templates that nodes look up. -/
def soughtByAll (r : Renderer) (d : Disk) (ctx : Context) : List Node → List Resource
  | [] => []
  | n :: ns => soughtBy r d ctx n ++ soughtByAll r d ctx ns

end

/-- The path where a source keeps a resource on the disk, if it does. -/
def placeOf? (ref : Resource) : ResourceSource → Option Path
  | .directory root => some (ResourceSource.pathOf root ref)
  | .embedded _ => none

/-! ## Calls -/

/-- The files of a repository that its creation looks at. -/
def repositoryPlaces (root : Path) : List Path :=
  let git := root.joinName ".git"
  (Hook.repositoryDirs ++ ["HEAD", "config"]).map git.joinName

/-- The paths that creating or comparing a recipe looks at. -/
def recipePlaces (d : Disk) (r : RecipeRequest) (recipe : Recipe) : List Path :=
  match recipe.start d r.outputDir none [] with
  | .error _ => []
  | .ok (root, ctx) =>
    let sought := soughtByAll recipe.renderer d ctx recipe.root.contents
    let files :=
      match recipe.dryrun d r.outputDir none [] with
      | .ok tree => Tree.filePaths tree
      | .error _ => []
    sought.flatMap (fun ref => recipe.renderer.sources.filterMap (placeOf? ref)) ++ files ++
      root.joinName batchFile :: repositoryPlaces root

/-- The paths that a request looks at. -/
def requestPlaces (s : Session) (d : Disk) (r : RecipeRequest) : List Path :=
  s.config.namespaces.toList ++ r.input.toList ++
    match (buildRecipe s d r).1 with
    | .ok recipe => recipePlaces d r recipe
    | .error _ => []

/-- The paths that a command looks at. -/
def commandPlaces (s : Session) (d : Disk) : Command → List Path
  | .create r => requestPlaces s d r
  | .dryrun r => requestPlaces s d r
  | .validate r => requestPlaces s d r
  | .checkName _ file => s.config.namespaces.toList ++ file.toList
  | .list => []
  | .inspect _ _ => []

/-- The paths that a call **looks at**, as far as the disk tells. -/
def reach (host : Host) (d : Disk) (words : List String) : List Path :=
  match Invocation.read words with
  | .error _ => []
  | .ok i =>
    let dir := i.configDir.getD d.workPath
    Config.fileNames.map dir.joinName ++
      match Config.load d dir with
      | .ok config => commandPlaces ⟨host, config, nobody⟩ d i.command
      | .error _ => []

end Scaffold.CommandLine
