import Mathlib.Tactic.MkIffOfInductiveProp
import Scaffold.Builtin.Recipes
import Scaffold.Proofs.Json.Records
import Scaffold.Proofs.Parameter.Offered

/-!
# Proofs/Builtin/Settings — settings and the parameters that describe them

Each record of the settings is read field by field, and what it fails with is a fault of one of its fields
(`decode_obj`, `exists_faultIn?`).  Its parameters are a list of their own: they describe its fields
(`Repository.describes`, `Branching.describes`), and what stands in for an absent field makes no difference
(`Branching.decode_insert`, `Repository.decode_insert`, `Settings.readFrom_insert`).  A field is only
missing where a repository is not complete (`Settings.not_complete_of_missing`).
-/

namespace Scaffold.Builtin

open Decode

variable {fs given : Fields} {name : String} {v : Json} {e : DecodeFault}

/-! ## Branches -/

namespace Branching

variable {b : Branching}

/-- The parameters **describe** the fields. -/
theorem describes : Parameter.Describes parameters shape.fields :=
  .cons ⟨_, _, _, rfl, rfl⟩ (.cons ⟨_, _, _, rfl, rfl⟩ .nil)

/-- **Branches are read** field by field. -/
theorem decode_obj (hnodup : (fs.map Prod.fst).Nodup) : decode (.obj fs) = .ok b ↔
    may fs "initial_branch_name" text standard.initialBranch = .ok b.initialBranch ∧
      may fs "git_flow" bool standard.gitFlow = .ok b.gitFlow := by
  constructor
  · intro h
    simp only [decode, Except.bind_eq_ok] at h
    obtain ⟨gs, hread, initialBranch, hinitial, gitFlow, hflow, hb⟩ := h
    obtain rfl := Shape.eq_of_read hread
    obtain rfl := Except.ok.inj hb
    exact ⟨hinitial, hflow⟩
  · rintro ⟨hinitial, hflow⟩
    have hread : shape.read (.obj fs) = .ok fs := by
      refine Shape.read_obj hnodup fun f hf => ?_
      simp only [shape, List.mem_cons, List.not_mem_nil, or_false] at hf
      rcases hf with rfl | rfl
      · exact Field.faultIn?_may_eq_none hinitial
      · exact Field.faultIn?_may_eq_none hflow
    simp only [decode, Except.bind_eq_ok]
    exact ⟨fs, hread, _, hinitial, _, hflow, rfl⟩

/-- Branches are refused for a fault of **one of the fields**. -/
theorem exists_faultIn? (hnodup : (fs.map Prod.fst).Nodup) (h : decode (.obj fs) = .error e) :
    ∃ f ∈ shape.fields, f.faultIn? fs = some e := by
  simp only [decode, Except.bind_eq_error] at h
  rcases h with h | ⟨gs, hread, h⟩
  · exact Shape.exists_faultIn? hnodup h
  obtain rfl := Shape.eq_of_read hread
  rcases h with h | ⟨_, -, h | ⟨_, -, h⟩⟩
  · exact ⟨_, List.mem_cons_self, (Field.faultIn?_may _).mpr h⟩
  · exact ⟨_, List.mem_cons_of_mem _ List.mem_cons_self, (Field.faultIn?_may _).mpr h⟩
  · exact nomatch h

/-- Branches **miss no field**. -/
theorem decode_ne_missing (hnodup : (fs.map Prod.fst).Nodup) :
    decode (.obj fs) ≠ .error (.missingField name) := by
  intro h
  obtain ⟨f, hf, hfault⟩ := exists_faultIn? hnodup h
  simp only [shape, List.mem_cons, List.not_mem_nil, or_false] at hf
  rcases hf with rfl | rfl
  · exact flat_text.faultIn?_may_ne hfault
  · exact flat_bool.faultIn?_may_ne hfault

/-- Where nothing is given, branches are **standard**. -/
theorem decode_nil : decode (.obj []) = .ok standard := rfl

/-- What the field of a name is read as where it is **absent**; for a name of no field, anything. -/
structure StandsIn (name : String) (v : Json) : Prop where
  initialBranch : name = "initial_branch_name" → v = .str standard.initialBranch
  gitFlow : name = "git_flow" → v = .bool standard.gitFlow

/-- **What the parameters offer** is what stands in for a field. -/
theorem standsIn_of_offered {path : List String} (h : (path, v) ∈ Parameter.offeredAll parameters) :
    ∃ name, path = [name] ∧ StandsIn name v := by
  have h : path = ["initial_branch_name"] ∧ v = .str standard.initialBranch ∨
      path = ["git_flow"] ∧ v = .bool standard.gitFlow := by
    simpa [parameters, Parameter.optional, Parameter.offeredAll, Parameter.offered] using h
  rcases h with ⟨rfl, rfl⟩ | ⟨rfl, rfl⟩
  · exact ⟨_, rfl, by simp, by simp⟩
  · exact ⟨_, rfl, by simp, by simp⟩

/-- **What stands in** for an absent field makes no difference to branches. -/
theorem decode_insert (hordered : (fs.map Prod.fst).Pairwise (· < ·))
    (habsent : Fields.get? fs name = none) (h : StandsIn name v) :
    decode (.obj (Fields.insert fs name v)) = .ok b ↔ decode (.obj fs) = .ok b := by
  rw [decode_obj (Fields.nodup_of_pairwise (Fields.pairwise_insert hordered)),
    decode_obj (Fields.nodup_of_pairwise hordered),
    may_insert habsent fun hname => by rw [h.initialBranch hname]; rfl,
    may_insert habsent fun hname => by rw [h.gitFlow hname]; rfl]

end Branching

/-! ## Repositories -/

namespace Repository

variable {r : Repository}

/-- The parameters **describe** the fields. -/
theorem describes : Parameter.Describes parameters shape.fields :=
  .cons ⟨_, _, _, rfl, rfl⟩ (.cons ⟨_, _, _, rfl, rfl⟩ (.cons ⟨_, _, _, rfl, rfl⟩
    (.cons ⟨_, _, _, rfl, rfl⟩ (.cons ⟨_, _, _, rfl, rfl⟩ .nil))))

/-- A repository that is **read** field by field; the name is no field. -/
@[mk_iff]
structure ReadFrom (fs : Fields) (r : Repository) : Prop where
  separator : may fs "repo_separator" text standardSeparator = .ok r.separator
  owner : need fs "owner" text = .ok r.owner
  email : need fs "email" text = .ok r.email
  description : may fs "description" text "" = .ok r.description
  url : need fs "url" text = .ok r.url
  name : r.name = ""

/-- **Repositories are read** field by field. -/
theorem decode_obj (hnodup : (fs.map Prod.fst).Nodup) :
    decode (.obj fs) = .ok r ↔ ReadFrom fs r := by
  constructor
  · intro h
    simp only [decode, Except.bind_eq_ok] at h
    obtain ⟨gs, hread, _, hseparator, _, howner, _, hemail, _, hdescription, _, hurl, hr⟩ := h
    obtain rfl := Shape.eq_of_read hread
    obtain rfl := Except.ok.inj hr
    exact ⟨hseparator, howner, hemail, hdescription, hurl, rfl⟩
  · rintro ⟨hseparator, howner, hemail, hdescription, hurl, hname⟩
    have hread : shape.read (.obj fs) = .ok fs := by
      refine Shape.read_obj hnodup fun f hf => ?_
      simp only [shape, List.mem_cons, List.not_mem_nil, or_false] at hf
      rcases hf with rfl | rfl | rfl | rfl | rfl
      · exact Field.faultIn?_may_eq_none hseparator
      · exact Field.faultIn?_need_eq_none howner
      · exact Field.faultIn?_need_eq_none hemail
      · exact Field.faultIn?_may_eq_none hdescription
      · exact Field.faultIn?_need_eq_none hurl
    simp only [decode, Except.bind_eq_ok]
    exact ⟨fs, hread, _, hseparator, _, howner, _, hemail, _, hdescription, _, hurl, hname ▸ rfl⟩

/-- A repository is refused for a fault of **one of the fields**. -/
theorem exists_faultIn? (hnodup : (fs.map Prod.fst).Nodup) (h : decode (.obj fs) = .error e) :
    ∃ f ∈ shape.fields, f.faultIn? fs = some e := by
  simp only [decode, Except.bind_eq_error] at h
  rcases h with h | ⟨gs, hread, h⟩
  · exact Shape.exists_faultIn? hnodup h
  obtain rfl := Shape.eq_of_read hread
  simp only [shape, List.exists_mem_cons_iff, List.not_mem_nil, false_and, exists_false, or_false]
  rcases h with h | ⟨_, -, h | ⟨_, -, h | ⟨_, -, h | ⟨_, -, h | ⟨_, -, h⟩⟩⟩⟩⟩
  · exact Or.inl ((Field.faultIn?_may _).mpr h)
  · exact Or.inr (Or.inl (Field.faultIn?_need.mpr h))
  · exact Or.inr (Or.inr (Or.inl (Field.faultIn?_need.mpr h)))
  · exact Or.inr (Or.inr (Or.inr (Or.inl ((Field.faultIn?_may _).mpr h))))
  · exact Or.inr (Or.inr (Or.inr (Or.inr (Field.faultIn?_need.mpr h))))
  · exact nomatch h

/-- A repository that is read is **complete**. -/
theorem complete_of_decode (h : decode (.obj fs) = .ok r) : shape.Complete fs := by
  simp only [decode, Except.bind_eq_ok] at h
  obtain ⟨gs, hread, -⟩ := h
  exact Shape.complete_of_read hread

/-- A repository that misses a field is **not complete**. -/
theorem not_complete_of_missing (hnodup : (fs.map Prod.fst).Nodup)
    (h : decode (.obj fs) = .error (.missingField name)) : ¬shape.Complete fs := by
  intro hcomplete
  obtain ⟨f, hf, hfault⟩ := exists_faultIn? hnodup h
  have hhas := hcomplete f hf
  simp only [shape, List.mem_cons, List.not_mem_nil, or_false] at hf
  rcases hf with rfl | rfl | rfl | rfl | rfl
  · exact flat_text.faultIn?_may_ne hfault
  · simp [Fields.has, Field.need, flat_text.get?_of_faultIn?_need hfault] at hhas
  · simp [Fields.has, Field.need, flat_text.get?_of_faultIn?_need hfault] at hhas
  · exact flat_text.faultIn?_may_ne hfault
  · simp [Fields.has, Field.need, flat_text.get?_of_faultIn?_need hfault] at hhas

/-- What the field of a name is read as where it is **absent**, which none is that must be there; for a
name of no field, anything. -/
structure StandsIn (name : String) (v : Json) : Prop where
  owner : name ≠ "owner"
  email : name ≠ "email"
  url : name ≠ "url"
  separator : name = "repo_separator" → v = .str standardSeparator
  description : name = "description" → v = .str ""

/-- **What the parameters offer** is what stands in for a field. -/
theorem standsIn_of_offered {path : List String} (h : (path, v) ∈ Parameter.offeredAll parameters) :
    ∃ name, path = [name] ∧ StandsIn name v := by
  have h : path = ["repo_separator"] ∧ v = .str standardSeparator ∨
      path = ["description"] ∧ v = .str "" := by
    simpa [parameters, Parameter.required, Parameter.optional, Parameter.offeredAll,
      Parameter.offered] using h
  rcases h with ⟨rfl, rfl⟩ | ⟨rfl, rfl⟩
  · exact ⟨_, rfl, by simp, by simp, by simp, by simp, by simp⟩
  · exact ⟨_, rfl, by simp, by simp, by simp, by simp, by simp⟩

/-- **What stands in** for an absent field makes no difference to a repository. -/
theorem decode_insert (hordered : (fs.map Prod.fst).Pairwise (· < ·))
    (habsent : Fields.get? fs name = none) (h : StandsIn name v) :
    decode (.obj (Fields.insert fs name v)) = .ok r ↔ decode (.obj fs) = .ok r := by
  rw [decode_obj (Fields.nodup_of_pairwise (Fields.pairwise_insert hordered)),
    decode_obj (Fields.nodup_of_pairwise hordered), readFrom_iff, readFrom_iff,
    need_insert_of_ne h.owner, need_insert_of_ne h.email, need_insert_of_ne h.url,
    may_insert habsent fun hname => by rw [h.separator hname]; rfl,
    may_insert habsent fun hname => by rw [h.description hname]; rfl]

end Repository

/-! ## Settings -/

namespace Settings

variable {year : Int} {s : Settings}

/-- Settings that are **read** field by field. -/
@[mk_iff]
structure ReadFrom (year : Int) (given : Fields) (s : Settings) : Prop where
  repository : need given "repo" Repository.decode = .ok s.repository
  branching : may given "git" Branching.decode .standard = .ok s.branching
  language : may given "language" text standardLanguage = .ok s.language
  license : may given "license" (Decode.optional License.decode) none = .ok s.license
  licenseYear : may given "license_year" int32 year = .ok s.licenseYear

/-- Settings that are read are read **field by field**. -/
theorem readFrom_of_decode (h : decode year (.obj given) = .ok s) : ReadFrom year given s := by
  simp only [decode, Except.bind_eq_ok] at h
  obtain ⟨gs, hread, _, hrepository, _, hbranching, _, hlanguage, _, hlicense, _, hyear, hs⟩ := h
  obtain rfl := Shape.eq_of_read hread
  obtain rfl := Except.ok.inj hs
  exact ⟨hrepository, hbranching, hlanguage, hlicense, hyear⟩

/-- **Settings are read** just where each field is. -/
theorem decode_obj (hnodup : (given.map Prod.fst).Nodup) :
    decode year (.obj given) = .ok s ↔ ReadFrom year given s := by
  constructor
  · exact readFrom_of_decode
  · rintro ⟨hrepository, hbranching, hlanguage, hlicense, hyear⟩
    have hread : shape.read (.obj given) = .ok given := by
      refine Shape.read_obj hnodup fun f hf => ?_
      simp only [shape, List.mem_cons, List.not_mem_nil, or_false] at hf
      rcases hf with rfl | rfl | rfl | rfl | rfl
      · exact Field.faultIn?_need_eq_none hrepository
      · exact Field.faultIn?_may_eq_none hbranching
      · exact Field.faultIn?_may_eq_none hlanguage
      · exact Field.faultIn?_may_eq_none hlicense
      · exact Field.faultIn?_may_eq_none hyear
    simp only [decode, Except.bind_eq_ok]
    exact ⟨given, hread, _, hrepository, _, hbranching, _, hlanguage, _, hlicense, _, hyear, rfl⟩

/-- Settings are refused for a fault of **one of the fields**. -/
theorem exists_faultIn? (hnodup : (given.map Prod.fst).Nodup)
    (h : decode year (.obj given) = .error e) : ∃ f ∈ shape.fields, f.faultIn? given = some e := by
  simp only [decode, Except.bind_eq_error] at h
  rcases h with h | ⟨gs, hread, h⟩
  · exact Shape.exists_faultIn? hnodup h
  obtain rfl := Shape.eq_of_read hread
  simp only [shape, List.exists_mem_cons_iff, List.not_mem_nil, false_and, exists_false, or_false]
  rcases h with h | ⟨_, -, h | ⟨_, -, h | ⟨_, -, h | ⟨_, -, h | ⟨_, -, h⟩⟩⟩⟩⟩
  · exact Or.inl (Field.faultIn?_need.mpr h)
  · exact Or.inr (Or.inl ((Field.faultIn?_may _).mpr h))
  · exact Or.inr (Or.inr (Or.inl ((Field.faultIn?_may _).mpr h)))
  · exact Or.inr (Or.inr (Or.inr (Or.inl ((Field.faultIn?_may _).mpr h))))
  · exact Or.inr (Or.inr (Or.inr (Or.inr ((Field.faultIn?_may _).mpr h))))
  · exact nomatch h

/-- Of a repository that is absent or a mapping, **its record** is read. -/
theorem need_repo {r : Repository} (h : Parameter.AbsentOrMapping given "repo") :
    need given "repo" Repository.decode = .ok r ↔
      Repository.decode (.obj (Parameter.recordOf given "repo")) = .ok r := by
  rcases h.get? with ⟨hget, hrecord⟩ | hget
  · -- neither is there an owner in nothing, nor is there nothing to read
    have hnil : Repository.decode (.obj []) = .error (.missingField "owner") := rfl
    rw [need, hget, hrecord, hnil]
    simp
  · rw [need, hget]

/-- Of branches that are absent or a mapping, **their record** is read. -/
theorem may_git {b : Branching} (h : Parameter.AbsentOrMapping given "git") :
    may given "git" Branching.decode .standard = .ok b ↔
      Branching.decode (.obj (Parameter.recordOf given "git")) = .ok b := by
  rcases h.get? with ⟨hget, hrecord⟩ | hget
  · rw [may, hget, hrecord, Branching.decode_nil]
  · rw [may, hget]

/-- What is taken away under **no name of a field** makes no difference. -/
theorem readFrom_erase (h : name ∉ shape.fields.map Field.key) :
    ReadFrom year (Fields.erase given name) s ↔ ReadFrom year given s := by
  simp only [shape, Field.need, Field.may, List.map_cons, List.map_nil, List.mem_cons,
    List.not_mem_nil, or_false, not_or] at h
  obtain ⟨hrepo, hgit, hlanguage, hlicense, hyear⟩ := h
  rw [readFrom_iff, readFrom_iff, need_erase_of_ne hrepo, may_erase_of_ne hgit,
    may_erase_of_ne hlanguage, may_erase_of_ne hlicense, may_erase_of_ne hyear]

/-- What the field of a name is read as where it is **absent**, which a repository is not; for a name of
no field, anything. -/
structure StandsIn (year : Int) (name : String) (v : Json) : Prop where
  repo : name ≠ "repo"
  git : name = "git" → v = Json.object Branching.standard.declared
  language : name = "language" → v = .str standardLanguage
  license : name = "license" → v = .null
  licenseYear : name = "license_year" → int32 v = .ok year

/-- The year stands in for **itself**, as it fits in 32 bits. -/
theorem int32_year (hyear : -Int.pow 2 31 ≤ year ∧ year < Int.pow 2 31) :
    int32 (.int year) = .ok year :=
  if_pos hyear

/-- **What the parameters offer** is what stands in for a field, of the settings or of one of their
records. -/
theorem standsIn_of_offered {path : List String} (hyear : -Int.pow 2 31 ≤ year ∧ year < Int.pow 2 31)
    (h : (path, v) ∈ Parameter.offeredAll (parameters year)) :
    (∃ name, path = [name] ∧ name ∈ shape.fields.map Field.key ∧ StandsIn year name v) ∨
      (∃ name, path = ["repo", name] ∧ Repository.StandsIn name v) ∨
        ∃ name, path = ["git", name] ∧ Branching.StandsIn name v := by
  obtain ⟨p, hp, h⟩ := Parameter.mem_offeredAll.mp h
  simp only [parameters, List.mem_cons, List.not_mem_nil, or_false] at hp
  rcases hp with rfl | rfl | rfl | rfl | rfl
  · obtain ⟨o, ho, heq⟩ : ∃ o ∈ Parameter.offeredAll Repository.parameters,
        ("repo" :: o.1, o.2) = (path, v) := by
      simpa [Parameter.offered] using h
    obtain ⟨rfl, rfl⟩ := Prod.mk.inj heq
    obtain ⟨name, hpath, hstands⟩ := Repository.standsIn_of_offered ho
    exact Or.inr (Or.inl ⟨name, congrArg _ hpath, hstands⟩)
  · have h : path = ["git"] ∧ v = Json.object Branching.standard.declared ∨
        ∃ o ∈ Parameter.offeredAll Branching.parameters, ("git" :: o.1, o.2) = (path, v) := by
      simpa [Parameter.offered] using h
    rcases h with ⟨rfl, rfl⟩ | ⟨o, ho, heq⟩
    · exact Or.inl ⟨_, rfl, by decide, by simp, by simp, by simp, by simp, by simp⟩
    · obtain ⟨rfl, rfl⟩ := Prod.mk.inj heq
      obtain ⟨name, hpath, hstands⟩ := Branching.standsIn_of_offered ho
      exact Or.inr (Or.inr ⟨name, congrArg _ hpath, hstands⟩)
  · obtain ⟨rfl, rfl⟩ : path = ["language"] ∧ v = .str standardLanguage := by
      simpa [Parameter.optional, Parameter.offered] using h
    exact Or.inl ⟨_, rfl, by decide, by simp, by simp, by simp, by simp, by simp⟩
  · obtain ⟨rfl, rfl⟩ : path = ["license"] ∧ v = .null := by
      simpa [Parameter.optional, Parameter.offered] using h
    exact Or.inl ⟨_, rfl, by decide, by simp, by simp, by simp, by simp, by simp⟩
  · obtain ⟨rfl, rfl⟩ : path = ["license_year"] ∧ v = .int year := by
      simpa [Parameter.optional, Parameter.offered] using h
    exact Or.inl ⟨_, rfl, by decide, by simp, by simp, by simp, by simp, fun _ => int32_year hyear⟩

/-- Names of **no field** stand in for anything. -/
theorem standsIn_of_not_mem (h : name ∉ shape.fields.map Field.key) : StandsIn year name v := by
  simp only [shape, Field.need, Field.may, List.map_cons, List.map_nil, List.mem_cons,
    List.not_mem_nil, or_false, not_or] at h
  obtain ⟨hrepo, hgit, hlanguage, hlicense, hyear⟩ := h
  exact ⟨hrepo, fun h => absurd h hgit, fun h => absurd h hlanguage, fun h => absurd h hlicense,
    fun h => absurd h hyear⟩

/-- **What stands in** for an absent field makes no difference to settings. -/
theorem readFrom_insert (habsent : Fields.get? given name = none) (h : StandsIn year name v) :
    ReadFrom year (Fields.insert given name v) s ↔ ReadFrom year given s := by
  rw [readFrom_iff, readFrom_iff, need_insert_of_ne h.repo,
    may_insert habsent fun hname => by rw [h.git hname]; rfl,
    may_insert habsent fun hname => by rw [h.language hname]; rfl,
    may_insert habsent fun hname => by rw [h.license hname]; rfl, may_insert habsent h.licenseYear]

/-- Another record for the repository makes **no difference** to settings if none is made to the
repository. -/
theorem readFrom_insert_repo {inner : Fields} (h : Parameter.AbsentOrMapping given "repo")
    (hinner : ∀ r, Repository.decode (.obj inner) = .ok r ↔
      Repository.decode (.obj (Parameter.recordOf given "repo")) = .ok r) :
    ReadFrom year (Fields.insert given "repo" (.obj inner)) s ↔ ReadFrom year given s := by
  have hrepo : need (Fields.insert given "repo" (.obj inner)) "repo" Repository.decode =
      Repository.decode (.obj inner) := by
    rw [need, Fields.get?_insert_self]
  rw [readFrom_iff, readFrom_iff, hrepo, hinner, ← need_repo h]
  simp [may, Fields.get?_insert_of_ne]

/-- Another record for the branches makes **no difference** to settings if none is made to the
branches. -/
theorem readFrom_insert_git {inner : Fields} (h : Parameter.AbsentOrMapping given "git")
    (hinner : ∀ b, Branching.decode (.obj inner) = .ok b ↔
      Branching.decode (.obj (Parameter.recordOf given "git")) = .ok b) :
    ReadFrom year (Fields.insert given "git" (.obj inner)) s ↔ ReadFrom year given s := by
  have hgit : may (Fields.insert given "git" (.obj inner)) "git" Branching.decode .standard =
      Branching.decode (.obj inner) := by
    rw [may, Fields.get?_insert_self]
  rw [readFrom_iff, readFrom_iff, hgit, hinner, ← may_git h]
  simp [need, may, Fields.get?_insert_of_ne]

/-- Settings that are read have a **complete** repository. -/
theorem complete_of_readFrom (h : ReadFrom year given s)
    (hrepo : Parameter.AbsentOrMapping given "repo") :
    Repository.shape.Complete (Parameter.recordOf given "repo") :=
  Repository.complete_of_decode ((need_repo hrepo).mp h.repository)

/-- Settings only miss a field where the repository is **not complete**. -/
theorem not_complete_of_missing (hordered : (Json.obj given).Ordered)
    (hrepo : Parameter.AbsentOrMapping given "repo") (hgit : Parameter.AbsentOrMapping given "git")
    (h : decode year (.obj given) = .error (.missingField name)) :
    ¬Repository.shape.Complete (Parameter.recordOf given "repo") := by
  obtain ⟨f, hf, hfault⟩ := exists_faultIn? hordered.nodup h
  simp only [shape, List.mem_cons, List.not_mem_nil, or_false] at hf
  rcases hf with rfl | rfl | rfl | rfl | rfl
  · have hneed := Field.faultIn?_need.mp hfault
    rcases hrepo.get? with ⟨-, hrecord⟩ | hget
    · rw [hrecord]
      exact fun hcomplete => nomatch hcomplete _ (List.mem_cons_of_mem _ List.mem_cons_self) rfl
    · rw [need, hget] at hneed
      exact Repository.not_complete_of_missing (Parameter.ordered_recordOf hordered).nodup hneed
  · have hmay := (Field.faultIn?_may Branching.standard).mp hfault
    rcases hgit.get? with ⟨hget, -⟩ | hget
    · simp [may, hget] at hmay
    · rw [may, hget] at hmay
      exact absurd hmay (Branching.decode_ne_missing (Parameter.ordered_recordOf hordered).nodup)
  · exact absurd hfault flat_text.faultIn?_may_ne
  · exact absurd hfault flat_variant.optional.faultIn?_may_ne
  · exact absurd hfault flat_int32.faultIn?_may_ne

end Settings

end Scaffold.Builtin
