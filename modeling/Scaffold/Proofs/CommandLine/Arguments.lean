import Scaffold.CommandLine.Run
import Scaffold.Proofs.Arguments.Layers
import Scaffold.Proofs.Node.Plan
import Scaffold.Proofs.Text.Split

/-!
# Proofs/CommandLine/Arguments — the arguments of a request

A request loads its recipe with arguments of its own (`argumentsOf`, `buildRecipe_eq_load`).  They come
from the settings, the file and the pairs of the line, each layer seen where no later one has something
to say (`arguments_layered`); the name is always that of the repository.
-/

namespace Scaffold.CommandLine

open Arguments Json

variable {s : Session} {d : Disk} {q : RecipeRequest} {name : String} {given left : Fields}

/-- The arguments in the **file** of a request; there are none without a file. -/
def inputOf (d : Disk) (q : RecipeRequest) : Except Error Fields :=
  match q.input with
  | none => .ok []
  | some file => Arguments.load d file

/-- The **arguments** that the recipe of a request is loaded with, or why it comes to no loading. -/
def argumentsOf (s : Session) (d : Disk) (q : RecipeRequest) : Except Error Fields :=
  match (repositoryName s d q).1, gather s d q,
    (Recipe.inspect s.recipes q.recipe ⟨false, false, false⟩).1 with
  | .error e, _, _ => .error e
  | _, .error e, _ => .error e
  | _, _, .error e => .error e
  | .ok name, .ok given, .ok parameters =>
    (complete s q parameters given).map fun given => Fields.insert given "name" (.str name)

/-- **A request** builds its recipe by loading it with its arguments. -/
theorem buildRecipe_eq_load (s : Session) (d : Disk) (q : RecipeRequest) :
    (buildRecipe s d q).1 = (argumentsOf s d q).bind fun given =>
      (Recipe.load s.recipes q.recipe given).1.map fun r => { r with renderer := s.config.renderer } := by
  rw [buildRecipe, argumentsOf]
  rcases repositoryName s d q with ⟨e | name, warnings⟩
  · rfl
  simp only [recipeNamed]
  rcases gather s d q with e | given
  · rfl
  rcases Recipe.inspect s.recipes q.recipe ⟨false, false, false⟩ with ⟨e | parameters, more⟩
  · rfl
  simp only
  rcases complete s q parameters given with e | given <;> rfl

/-- **The name** of the repository is what the rules make of the one asked for. -/
theorem repositoryName_eq_ok (h : (repositoryName s d q).1 = .ok name) :
    ∃ rules, s.config.rules d = .ok rules ∧
      name = (rules.map fun r : Naming => r.repoName q.name).getD q.name := by
  rw [repositoryName] at h
  split at h
  · simp at h
  · next hrules => exact ⟨none, hrules, (Except.ok.inj h).symm⟩
  · next rules hrules =>
    split at h
    · simp at h
    · exact ⟨some rules, hrules, (Except.ok.inj h).symm⟩

/-- **What is gathered**: the pairs set in the mapping of the file, laid over that of the settings. -/
theorem gather_eq (s : Session) (d : Disk) (q : RecipeRequest) : gather s d q =
    (inputOf d q).bind fun input => setPairs (overlay s.config.defaults input) q.pairs := by
  rw [gather, inputOf]
  cases q.input with
  | none => simp [Except.bind, overlay]
  | some file =>
    simp only
    cases Arguments.load d file <;> rfl

/-- The mapping of the file is **ordered**. -/
theorem ordered_inputOf {input : Fields} (h : inputOf d q = .ok input) : (obj input).Ordered := by
  rw [inputOf] at h
  split at h
  · obtain rfl := Except.ok.inj h
    exact ordered_nil
  · exact ordered_load h

/-! ## The pairs -/

/-- **Pairs apart** from a path leave what stands there. -/
theorem at?_setPairs_of_apart {path : List String} : ∀ {pairs : List (String × Json)} {given : Fields},
    setPairs given pairs = .ok left → (∀ p ∈ pairs, ¬Comparable (Text.split '.' p.1) path) →
      (obj left).at? path = (obj given).at? path
  | [], _, h, _ => by rw [Except.ok.inj h]
  | (key, value) :: pairs, given, h, happart => by
    rw [List.forall_mem_cons] at happart
    rw [setPairs, insertPath] at h
    cases hinsert : insertAt given value (Text.split '.' key) with
    | error e => simp [hinsert] at h
    | ok inserted =>
      simp only [hinsert] at h
      rw [at?_setPairs_of_apart h happart.2, at?_insertAt_of_apart hinsert happart.1]

/-- Pairs are set **one after the other**. -/
theorem setPairs_append {after : List (String × Json)} : ∀ {before : List (String × Json)}
    {given : Fields}, setPairs given (before ++ after) =
      (setPairs given before).bind fun given => setPairs given after
  | [], _ => rfl
  | (key, value) :: before, given => by
    rw [List.cons_append, setPairs, setPairs]
    cases insertPath given key value with
    | error e => rfl
    | ok given => exact setPairs_append

/-- **The value of a pair** stands at its key, if the pairs behind are apart from it. -/
theorem at?_setPairs {before after : List (String × Json)} {key : String} {value : Json}
    (h : setPairs given (before ++ (key, value) :: after) = .ok left)
    (happart : ∀ p ∈ after, ¬Comparable (Text.split '.' p.1) (Text.split '.' key)) :
    (obj left).at? (Text.split '.' key) = some value := by
  rw [setPairs_append] at h
  cases hbefore : setPairs given before with
  | error e => simp [hbefore, Except.bind] at h
  | ok earlier =>
    rw [hbefore] at h
    have h : setPairs earlier ((key, value) :: after) = .ok left := h
    rw [setPairs, insertPath] at h
    cases hinsert : insertAt earlier value (Text.split '.' key) with
    | error e => simp [hinsert] at h
    | ok inserted =>
      simp only [hinsert] at h
      rw [at?_setPairs_of_apart h happart]
      exact at?_insertAt (Text.split_ne_nil key) hinsert

/-! ## All layers -/

/-- A request **gives** its arguments: what is gathered, with the name of the repository. -/
theorem argumentsOf_eq_ok (hno : q.noInput = true) (h : argumentsOf s d q = .ok given) :
    ∃ name input gathered, (repositoryName s d q).1 = .ok name ∧ inputOf d q = .ok input ∧
      setPairs (overlay s.config.defaults input) q.pairs = .ok gathered ∧
      given = Fields.insert gathered "name" (.str name) := by
  rw [argumentsOf] at h
  split at h
  · simp at h
  · simp at h
  · simp at h
  · next name gathered parameters hname hgather hparameters =>
    rw [gather_eq] at hgather
    cases hinput : inputOf d q with
    | error e => simp [hinput, Except.bind] at hgather
    | ok input =>
      rw [hinput] at hgather
      simp only [complete, hno, if_true] at h
      split at h
      · exact ⟨name, input, gathered, hname, rfl, hgather, (Except.ok.inj h).symm⟩
      · simp [Except.map] at h

/-- **The arguments of a request** come in layers.  The recipe is loaded with the name of the repository,
whatever the layers say of it.  At every other path: a pair sets its value, unless a later one has a
comparable key; where no key is comparable, a value of the file that is no mapping stands, and one of the
settings does where the file holds nothing, there or above. -/
theorem arguments_layered (hno : q.noInput = true) (h : argumentsOf s d q = .ok given) :
    (buildRecipe s d q).1 = ((Recipe.load s.recipes q.recipe given).1.map
      fun r => { r with renderer := s.config.renderer }) ∧
    (∃ rules, s.config.rules d = .ok rules ∧ Fields.get? given "name" =
      some (.str ((rules.map fun r : Naming => r.repoName q.name).getD q.name))) ∧
    ∃ input, inputOf d q = .ok input ∧
      (∀ before key value after, q.pairs = before ++ (key, value) :: after →
        (Text.split '.' key).head? ≠ some "name" →
        (∀ p ∈ after, ¬Comparable (Text.split '.' p.1) (Text.split '.' key)) →
          (obj given).at? (Text.split '.' key) = some value) ∧
      ∀ path v, path.head? ≠ some "name" → v.isObject = false →
        (∀ p ∈ q.pairs, ¬Comparable (Text.split '.' p.1) path) →
          ((obj input).at? path = some v → (obj given).at? path = some v) ∧
          ((obj s.config.defaults).at? path = some v → (obj input).at? path = none →
            (∀ p w, p <+: path → (obj input).at? p = some w → w.isObject = true) →
              (obj given).at? path = some v) := by
  have hload : (buildRecipe s d q).1 = ((Recipe.load s.recipes q.recipe given).1.map
      fun r => { r with renderer := s.config.renderer }) := by
    rw [buildRecipe_eq_load, h]
    rfl
  obtain ⟨name, input, gathered, hname, hinput, hset, rfl⟩ := argumentsOf_eq_ok hno h
  have hother : ∀ path : List String, path ≠ [] → path.head? ≠ some "name" →
      (obj (Fields.insert gathered "name" (.str name))).at? path = (obj gathered).at? path := by
    intro path hne hhead
    obtain ⟨key, rest, rfl⟩ := List.exists_cons_of_ne_nil hne
    exact at?_insert_of_ne fun heq => hhead (by rw [List.head?_cons, heq])
  obtain ⟨rules, hrules, rfl⟩ := repositoryName_eq_ok hname
  refine ⟨hload, ⟨rules, hrules, Fields.get?_insert_self _ _ _⟩, input, hinput, ?_, ?_⟩
  · intro before key value after hpairs hhead happart
    rw [hpairs] at hset
    rw [hother _ (Text.split_ne_nil key) hhead]
    exact at?_setPairs hset happart
  · intro path v hhead hv happart
    have hlast : path ≠ [] → (obj (Fields.insert gathered "name" (.str _))).at? path =
        (obj (overlay s.config.defaults input)).at? path := fun hne =>
      (hother path hne hhead).trans (at?_setPairs_of_apart hset happart)
    constructor
    · intro hupper
      rw [hlast (ne_nil_of_at? hv hupper)]
      exact at?_overlay_upper (ordered_inputOf hinput) hv hupper
    · intro hlower hnone habove
      rw [hlast (ne_nil_of_at? hv hlower)]
      exact at?_overlay_lower (ordered_inputOf hinput) hlower hnone habove

/-! ## Three layers -/

/-- A file with arguments: a name, and the owner and the address of a repository. -/
def inputText : String :=
  "\x7b\"name\": \"other\", \"repo\": \x7b\"email\": \"ann@example.com\", \"owner\": \"Ann\"\x7d\x7d"

/-- A directory with the file. -/
def inputDisk : Disk := ⟨.dir [("input", .file inputText.toUTF8)], []⟩

/-- A session whose settings have a language and an owner. -/
def layeredSession : Session :=
  ⟨⟨[], none, "now", 2024⟩, ⟨none, .warn, none,
    [("language", .str "rust"), ("repo", .obj [("owner", .str "nobody")])]⟩, nobody⟩

/-- A request that names the file and sets two addresses, the first one twice. -/
def layeredRequest : RecipeRequest :=
  ⟨"recipe", none, "acme", some ⟨"/input"⟩, [("repo.url", .str "ftp://example.com"),
    ("repo.email", .str "jane@example.com"), ("repo.url", .str "https://example.com")], true, none⟩

/-- The text that the file of the request has at a path. -/
def inputTextAt (path : List String) : Option String :=
  ((inputOf inputDisk layeredRequest).toOption.bind fun input => (obj input).at? path).bind str?

/-- What is **read off the file** stands in its mapping. -/
theorem at?_of_inputTextAt {input : Fields} {path : List String} {text : String}
    (hinput : inputOf inputDisk layeredRequest = .ok input) (h : inputTextAt path = some text) :
    (obj input).at? path = some (.str text) := by
  rw [inputTextAt, hinput] at h
  obtain ⟨v, hv, htext⟩ := Option.bind_eq_some_iff.mp h
  cases v <;> simp_all [str?, Except.toOption]

/-- The later address of the line, the owner of the file and the language of the settings **are seen**, and
the name is the one asked for. -/
theorem arguments_layered_three : ∃ given,
    argumentsOf layeredSession inputDisk layeredRequest = .ok given ∧
    Fields.get? given "name" = some (.str "acme") ∧
    (obj given).at? ["repo", "url"] = some (.str "https://example.com") ∧
    (obj given).at? ["repo", "owner"] = some (.str "Ann") ∧
    (obj given).at? ["language"] = some (.str "rust") := by
  have hok : (argumentsOf layeredSession inputDisk layeredRequest).isOk = true := by decide +kernel
  have hlanguage : (inputOf inputDisk layeredRequest).toOption.any
      (fun input => (Fields.get? input "language").isNone) = true := by decide +kernel
  obtain ⟨given, hgiven⟩ := exists_of_isOk hok
  obtain ⟨-, ⟨rules, hrules, hname⟩, input, hinput, hpair, hlayers⟩ := arguments_layered rfl hgiven
  obtain rfl := Except.ok.inj hrules
  have hkey : Text.split '.' "repo.url" = ["repo", "url"] := by decide +kernel
  have hnone : Fields.get? input "language" = none := by
    simpa [hinput, Except.toOption, Option.isNone_iff_eq_none] using hlanguage
  refine ⟨given, hgiven, hname, ?_, ?_, ?_⟩
  · rw [← hkey]
    exact hpair [_, _] "repo.url" _ [] rfl (by decide +kernel) (by simp)
  · have howner := at?_of_inputTextAt hinput (show inputTextAt ["repo", "owner"] = some "Ann" by
      decide +kernel)
    exact (hlayers ["repo", "owner"] (.str "Ann") (by decide) rfl (by decide +kernel)).1 howner
  · refine (hlayers ["language"] (.str "rust") (by decide) rfl (by decide +kernel)).2 rfl ?_ ?_
    · rw [at?_obj_cons, hnone, Option.bind_none]
    · intro p w hp hw
      rcases p with _ | ⟨key, rest⟩
      · obtain rfl := Option.some.inj hw
        rfl
      · obtain ⟨rfl, -⟩ : key = "language" ∧ rest = [] := by simpa using hp
        rw [at?_obj_cons, hnone, Option.bind_none] at hw
        simp at hw

end Scaffold.CommandLine
