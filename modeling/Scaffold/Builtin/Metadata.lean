import Scaffold.License.Basic
import Scaffold.Parameter.Basic
import Scaffold.Error

/-!
# Builtin/Metadata — what a package says about itself

A `Repository` has an owner and an address, a `Branching` its branches, and `Settings` hold both with the
language and the license.  Each is read from data and written as data with what follows from it: the
name of a repository is cut at its separator into the names of nested packages.
-/

namespace Scaffold.Builtin

open Decode

/-! ## Branches -/

/-- How a repository is **branched**. -/
structure Branching where
  initialBranch : String
  gitFlow : Bool
deriving DecidableEq, Repr

namespace Branching

/-- The initial branch where none is chosen. -/
def standardBranch : String := "main"

/-- Branches where nothing is chosen. -/
def standard : Branching := ⟨standardBranch, true⟩

/-- The branch that work starts from. -/
def defaultBranch (b : Branching) : String := if b.gitFlow then "develop" else b.initialBranch

/-- The shape of the data. -/
def shape : Shape := ⟨"GitConfig", [.may "initial_branch_name" text, .may "git_flow" bool]⟩

/-- **Reads** branches from data. -/
def decode (v : Json) : Except DecodeFault Branching := do
  let fs ← shape.read v
  let initialBranch ← may fs "initial_branch_name" text standard.initialBranch
  let gitFlow ← may fs "git_flow" bool standard.gitFlow
  return ⟨initialBranch, gitFlow⟩

/-- The data of what is chosen. -/
def declared (b : Branching) : List (String × Json) :=
  [("initial_branch_name", .str b.initialBranch), ("git_flow", .bool b.gitFlow)]

/-- The data with what follows. -/
def dump (b : Branching) : Json :=
  Json.object (b.declared ++ [("default_branch", .str b.defaultBranch)])

/-- The parameters. -/
def parameters : List Parameter := [
  .optional "initial_branch_name" "String" (.str standard.initialBranch),
  .optional "git_flow" "bool" (.bool standard.gitFlow)]

end Branching

/-! ## Repositories -/

/-- The **metadata** of a repository. -/
structure Repository where
  separator : String
  owner : String
  email : String
  description : String
  url : String
  /-- The name, which is no part of the data. -/
  name : String
deriving DecidableEq, Repr

namespace Repository

/-- The separator where none is chosen. -/
def standardSeparator : String := "-"

/-- The metadata of an owner. -/
def ofOwner (owner email url : String) : Repository :=
  ⟨standardSeparator, owner, email, "", url, ""⟩

/-- The **parts** of the name. -/
def parts (r : Repository) : List String :=
  (Text.splitText r.separator.toList r.name.toList).map String.ofList

/-- The name of the package. -/
def packageName (r : Repository) : String := Text.join "." r.parts

/-- The name of the outermost package. -/
def packageRoot (r : Repository) : String := r.parts.head?.getD ""

/-- The path of the package. -/
def sourcePath (r : Repository) : String := Text.join "/" r.parts

/-- The shape of the data. -/
def shape : Shape :=
  ⟨"RepoMetadata", [.may "repo_separator" text, .need "owner" text, .need "email" text,
    .may "description" text, .need "url" text]⟩

/-- **Reads** metadata from data; the name is still empty. -/
def decode (v : Json) : Except DecodeFault Repository := do
  let fs ← shape.read v
  let separator ← may fs "repo_separator" text standardSeparator
  let owner ← need fs "owner" text
  let email ← need fs "email" text
  let description ← may fs "description" text ""
  let url ← need fs "url" text
  return ⟨separator, owner, email, description, url, ""⟩

/-- The data with what follows. -/
def dump (r : Repository) : Json :=
  Json.object [
    ("repo_separator", .str r.separator), ("owner", .str r.owner), ("email", .str r.email),
    ("description", .str r.description), ("url", .str r.url), ("name", .str r.name),
    ("py_name", .str r.packageName), ("py_root", .str r.packageRoot),
    ("src_path", .str r.sourcePath), ("module_depth", .int r.parts.length)]

/-- Whether a text has a user before its first at sign and a dot behind it. -/
def isEmail (s : String) : Bool :=
  match Text.splitOnce? '@' s.toList with
  | some (user, domain) => !user.isEmpty && domain.contains '.'
  | none => false

/-- **Checks** metadata. -/
def check (r : Repository) : Except RepositoryFault Unit :=
  if r.separator.isEmpty then .error .emptySeparator
  else if !isEmail r.email then .error (.email r.email)
  else
    match Url.scheme r.url with
    | .error fault => .error (.url r.url fault)
    | .ok scheme =>
      if scheme = "http" ∨ scheme = "https" then .ok () else .error (.notWeb r.url)

/-- The parameters. -/
def parameters : List Parameter := [
  .optional "repo_separator" "String" (.str standardSeparator),
  .required "owner" "String",
  .required "email" "String",
  .optional "description" "String" (.str ""),
  .required "url" "String"]

end Repository

/-! ## Packages -/

/-- The **settings** of a package. -/
structure Settings where
  repository : Repository
  branching : Branching
  language : String
  license : Option License
  licenseYear : Int

namespace Settings

/-- The language where none is chosen. -/
def standardLanguage : String := "python"

/-- The settings of a repository; the license is as old as the year says. -/
def ofRepository (repository : Repository) (year : Int) : Settings :=
  ⟨repository, .standard, standardLanguage, none, year⟩

/-- Gives the repository a name. -/
def withName (s : Settings) (name : String) : Settings :=
  { s with repository := { s.repository with name := name } }

/-- Who holds the license. -/
def licenseHolder (s : Settings) : String := s.repository.name ++ " Developers"

/-- The shape of the data. -/
def shape : Shape :=
  ⟨"PythonFields", [.need "repo" Repository.decode, .may "git" Branching.decode,
    .may "language" text, .may "license" (optional License.decode), .may "license_year" int32]⟩

/-- **Reads** settings from data; the license is as old as the year says, unless it says otherwise. -/
def decode (year : Int) (v : Json) : Except DecodeFault Settings := do
  let fs ← shape.read v
  let repository ← need fs "repo" Repository.decode
  let branching ← may fs "git" Branching.decode .standard
  let language ← may fs "language" text standardLanguage
  let license ← may fs "license" (optional License.decode) none
  let licenseYear ← may fs "license_year" int32 year
  return ⟨repository, branching, language, license, licenseYear⟩

/-- The data with what follows. -/
def dump (s : Settings) : Json :=
  Json.object [
    ("repo", s.repository.dump), ("git", s.branching.dump), ("language", .str s.language),
    ("license", Json.ofOption (s.license.map License.id)), ("license_year", .int s.licenseYear),
    ("license_holder", .str s.licenseHolder)]

/-- The parameters; the license is as old as the year says. -/
def parameters (year : Int) : List Parameter := [
  .record "repo" "RepoMetadata" .declared none Repository.parameters,
  .record "git" "GitConfig" .declared (some (Json.object Branching.standard.declared))
    Branching.parameters,
  .optional "language" "String" (.str standardLanguage),
  .optional "license" "Option<LicenseOption>" .null,
  .optional "license_year" "i32" (.int year)]

end Settings

end Scaffold.Builtin
