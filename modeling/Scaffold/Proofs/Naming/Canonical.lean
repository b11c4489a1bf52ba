import Scaffold.Proofs.Disk.Effect
import Scaffold.Proofs.Naming.Parts
import Scaffold.Proofs.Recipe.Named

/-!
# Proofs/Naming/Canonical — the name of a repository stands for the name it was made from

Where the delimiters and the separator are one character each, the name of the repository has the
parts of the name it was made from, so it is its own name and passes where that does
(`repoName_canonical`).  What is checked is the name that is asked for, and what is created has the
other one: under strict rules it passes as well.
-/

namespace Scaffold.Naming

open CommandLine

/-- **The name of the repository** means what the name means that it was made from.  Under rules that
are accepted, with delimiters and a separator of one character each, it has the same parts, it is the
name of its own repository, and checking it comes to the same, with the same sentence.  So where rules
are enforced strictly the name that a recipe is given passes itself, and the recipe that is built has
that name. -/
theorem repoName_canonical {options : Option Grammar} {delimiters : List String}
    {separator : String} {n : Naming} (hof : of options delimiters separator = .ok n)
    (hdelimiters : ∀ d ∈ delimiters, d.length = 1) (hseparator : separator.length = 1) :
    (∀ name, n.parts (n.repoName name) = n.parts name) ∧
    (∀ name, n.repoName (n.repoName name) = n.repoName name) ∧
    (∀ name, n.check (n.repoName name) = n.check name) ∧
    (∀ (s : Session) (d : Disk) (q : RecipeRequest), s.config.rules d = .ok (some n) →
      q.naming.getD s.config.naming = .strict →
      (∀ name, (repositoryName s d q).1 = .ok name →
        name = n.repoName q.name ∧ (n.check name).passes = true) ∧
      ∀ r, (buildRecipe s d q).1 = .ok r → r.IsNamed (n.repoName q.name) ∧
        (n.check r.name).passes = true) := by
  obtain ⟨-, rfl, hmem, hall⟩ := of_eq_ok hof
  have hsingle : n.SingleMarks := fun d hd => by
    rcases hall d hd with hd | rfl
    · exact hdelimiters d hd
    · exact hseparator
  have hparts : ∀ name, n.parts (n.repoName name) = n.parts name := parts_repoName hsingle hmem
  have hcheck : ∀ name, n.check (n.repoName name) = n.check name := fun name => by
    rw [check, check, hparts]
  have hgiven : ∀ (s : Session) (d : Disk) (q : RecipeRequest), s.config.rules d = .ok (some n) →
      q.naming.getD s.config.naming = .strict → ∀ name, (repositoryName s d q).1 = .ok name →
        name = n.repoName q.name ∧ (n.check name).passes = true :=
    fun s d q hrules hstrict name hname => by
      obtain ⟨rfl, hpass⟩ := repositoryName_of_strict hrules hstrict hname
      exact ⟨rfl, by rw [hcheck, hpass]⟩
  refine ⟨hparts, fun name => by rw [repoName, hparts, ← repoName], hcheck,
    fun s d q hrules hstrict => ⟨hgiven s d q hrules hstrict, fun r hr => ?_⟩⟩
  obtain ⟨name, hname, hnamed⟩ := buildRecipe_eq_ok hr
  obtain ⟨rfl, hpass⟩ := hgiven s d q hrules hstrict name hname
  exact ⟨hnamed, by rw [hnamed.recipe, hpass]⟩

/-- A document of naming rules that **allows** one name of two parts. -/
def rulesText : String := "options: [\x7ba: [b]\x7d]\ndelimiters: [.]\n"

/-- A directory with the document. -/
def ruled : Disk := ⟨.dir [("rules", .file rulesText.toUTF8)], []⟩

/-- A session whose settings name the document. -/
def ruledSession : Session := ⟨⟨[], none, "now", 2024⟩, ⟨some ⟨"/rules"⟩, .strict, none, []⟩, nobody⟩

/-- A request for a repository of a name. -/
def requestFor (name : String) : RecipeRequest := ⟨"recipe", none, name, none, [], true, none⟩

/-- The name that is asked for has a dot, the repository has the separator in its place, and both
pass. -/
theorem repoName_canonical_ruled : ∃ n, ruledSession.config.rules ruled = .ok (some n) ∧
    n.parts (n.repoName "a.b") = n.parts "a.b" ∧ n.repoName "a.b" = "a-b" ∧
    (repositoryName ruledSession ruled (requestFor "a.b")).1 = .ok "a-b" ∧
    (n.check "a-b").passes = true := by
  have hread : ((Yaml.Node.readText? rulesText).bind ofNode?).map Prod.snd = some (["."], "-") := by
    decide +kernel
  obtain ⟨⟨options, ds, sep⟩, hdoc, hrest⟩ := Option.map_eq_some_iff.mp hread
  obtain ⟨rfl, rfl⟩ := Prod.mk.inj hrest
  have hof : of options ["."] "-" = .ok ⟨options, [".", "-"], "-"⟩ := rfl
  have htext : ruled.readText ⟨"/rules"⟩ = .ok rulesText := Disk.readText_eq_ok.mpr rfl
  have hload : ruledSession.config.rules ruled = .ok (some ⟨options, [".", "-"], "-"⟩) := by
    have h : Naming.load ruled ⟨"/rules"⟩ = .ok ⟨options, [".", "-"], "-"⟩ := by
      rw [Naming.load, htext]
      simp only [ofText, hdoc, hof]
    simp only [Config.rules, ruledSession, h]
    rfl
  have hname : (repositoryName ruledSession ruled (requestFor "a.b")).1.toOption = some "a-b" := by
    decide +kernel
  obtain ⟨hparts, -, -, hstrict⟩ := repoName_canonical hof (by decide) (by decide)
  have hgiven : (repositoryName ruledSession ruled (requestFor "a.b")).1 = .ok "a-b" := by
    cases h : (repositoryName ruledSession ruled (requestFor "a.b")).1 <;> simp_all [Except.toOption]
  obtain ⟨hrepo, hpass⟩ := (hstrict ruledSession ruled (requestFor "a.b") hload rfl).1 _ hgiven
  exact ⟨_, hload, hparts _, hrepo.symm, hgiven, hpass⟩

end Scaffold.Naming
