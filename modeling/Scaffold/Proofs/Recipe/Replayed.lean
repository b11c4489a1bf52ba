import Scaffold.Proofs.Builtin.Reloaded
import Scaffold.Proofs.Recipe.Dryrun
import Scaffold.Proofs.Recipe.Phases

/-!
# Proofs/Recipe/Replayed — a tree again, from its record

The context of a record is the one that the last hook has left.  Hooks that only lay fields over the
context (`Hook.Lays`) leave one with all names of the context that the recipe derives, so laid over
that again it stays as it is (`Recipe.combined_merge`), and a dry run renders with just what is
recorded.  It shows the tree that was written if the layout comes to the same in that context as in the
one it was written with (`Recipe.create_replayed`).  Hooks behind the writing decide on that: those of the
built-in recipes have nothing to say (`Recipe.silent_of_load`), but one that lays something else over what
a file is made of leaves a record that another tree comes from.
-/

namespace Scaffold

/-! ## Hooks that lay fields over the context -/

namespace Hook

variable {h : Host} {p q : Path} {ctx left : Context} {hook : Hook}

/-- A hook that keeps the path, and changes the context only by **laying fields over it**. -/
def Lays (hook : Hook) : Prop :=
  ∀ h d p ctx left, (hook.call h d p ctx).result = .ok (some left) →
    ∃ fs, left = (p, Fields.merge ctx fs)

/-- **A program** lays over the context what it prints. -/
theorem lays_command (program : String) (args : List String) : (command program args).Lays := by
  intro h d p ctx left hleft
  simp only [command] at hleft
  split at hleft
  · exact nomatch hleft
  split at hleft
  · exact nomatch hleft
  · obtain ⟨fs, -, rfl⟩ := Option.map_eq_some_iff.mp (Except.ok.inj hleft)
    exact ⟨fs, rfl⟩

/-- A hook that **never answers** a path and a context. -/
def Silent (hook : Hook) : Prop := ∀ h d p ctx left, (hook.call h d p ctx).result ≠ .ok (some left)

/-- Creating a **repository** leaves the context as it is. -/
theorem silent_gitInit : gitInit.Silent := by
  intro h d p ctx left hleft
  simp only [gitInit] at hleft
  split at hleft
  · exact nomatch hleft
  split at hleft
  · exact nomatch hleft
  · exact nomatch hleft

/-- So does installing the hooks of **`pre-commit`**. -/
theorem silent_precommitInstall : precommitInstall.Silent := by
  intro h d p ctx left hleft
  simp only [precommitInstall] at hleft
  split at hleft
  · exact nomatch hleft
  split at hleft
  · exact nomatch hleft
  · exact nomatch hleft
  split at hleft
  · exact nomatch hleft
  split at hleft
  · exact nomatch hleft
  · exact nomatch hleft

theorem Silent.lays (hsilent : hook.Silent) : hook.Lays :=
  fun h d p ctx left hleft => absurd hleft (hsilent h d p ctx left)

/-- What **one hook** leaves. -/
theorem Lays.left_eq {d : Disk} {left : Option (Path × Context)} (hlays : hook.Lays)
    (hleft : (hook.call h d p ctx).result = .ok left) :
    ∃ fs, left.getD (p, ctx) = (p, Fields.merge ctx fs) := by
  cases left with
  | none => exact ⟨[], rfl⟩
  | some x =>
    obtain ⟨fs, rfl⟩ := hlays h d p ctx x hleft
    exact ⟨fs, rfl⟩

/-- **Hooks that lay fields over the context** keep the path, and come to fields that are laid over the
context once. -/
theorem runAll_of_lays {hooks : List Hook} : ∀ {d : Disk} {ctx : Context},
    (∀ hook ∈ hooks, hook.Lays) → (runAll h hooks d p ctx).result = .ok (q, left) →
      q = p ∧ ∃ fs, left = Fields.merge ctx fs := by
  induction hooks with
  | nil =>
    intro d ctx _ hok
    obtain ⟨rfl, rfl⟩ := Prod.mk.inj (Except.ok.inj hok)
    exact ⟨rfl, [], rfl⟩
  | cons hook hooks ih =>
    intro d ctx hlays hok
    rw [runAll] at hok
    rcases hcall : (hook.call h d p ctx).result with e | first
    · simp [hcall] at hok
    · obtain ⟨fs, hfirst⟩ := (hlays hook List.mem_cons_self).left_eq hcall
      simp only [hcall, hfirst] at hok
      obtain ⟨hq, more, hleft⟩ := ih (fun x hx => hlays x (List.mem_cons_of_mem _ hx)) hok
      exact ⟨hq, fs ++ more, by rw [hleft, Fields.merge_append]⟩

/-- **Hooks that never answer** leave the path and the context as they are. -/
theorem runAll_of_silent {hooks : List Hook} : ∀ {d : Disk} {ctx : Context},
    (∀ hook ∈ hooks, hook.Silent) → (runAll h hooks d p ctx).result = .ok (q, left) →
      q = p ∧ left = ctx := by
  induction hooks with
  | nil =>
    intro d ctx _ hok
    obtain ⟨rfl, rfl⟩ := Prod.mk.inj (Except.ok.inj hok)
    exact ⟨rfl, rfl⟩
  | cons hook hooks ih =>
    intro d ctx hsilent hok
    rw [runAll] at hok
    rcases hcall : (hook.call h d p ctx).result with e | _ | first
    · simp [hcall] at hok
    · simp only [hcall] at hok
      exact ih (fun x hx => hsilent x (List.mem_cons_of_mem _ hx)) hok
    · exact absurd hcall (hsilent hook List.mem_cons_self h d p ctx first)

end Hook

namespace Recipe

variable {r : Recipe} {h : Host} {d : Disk} {base override : Option Path}
  {extra start ctx left : Context} {p : Path}

/-! ## Contexts laid over the derived one -/

/-- Whatever is laid over a **combined** context, laid over the derived one again it stays as it is. -/
theorem combined_merge (hdeclared : r.declared.Ordered) (h : r.combined extra = .ok start)
    (fs : Fields) : r.combined (Fields.merge start fs) = .ok (Fields.merge start fs) := by
  rw [combined] at h ⊢
  rcases hcontext : r.context with e | own
  · rw [hcontext] at h
    simp [Except.map] at h
  · rw [hcontext] at h
    obtain rfl : Fields.merge own extra = start := Except.ok.inj h
    have hown := pairwise_context hdeclared hcontext
    have hnames : own.map Prod.fst ⊆ (Fields.merge (Fields.merge own extra) fs).map Prod.fst :=
      fun key hkey => Fields.mem_names_merge.mpr (Or.inl (Fields.mem_names_merge.mpr (Or.inl hkey)))
    exact congrArg Except.ok (Fields.merge_eq_of_subset hown
      (Fields.pairwise_insertAll fs (Fields.pairwise_insertAll extra hown)) hnames)

/-! ## The recipe in another context -/

/-- In a context the recipe **leads to the same root** as in the one a creation starts with, and all in
it **comes to the same** as in the one it is written with. -/
structure ComesBack (r : Recipe) (d : Disk) (override : Option Path) (start ctx left : Context) :
    Prop where
  root : override = none →
    r.root.name.resolve r.renderer d left = r.root.name.resolve r.renderer d start
  names : ∀ name ∈ Node.namesAll r.root.contents,
    name.resolve r.renderer d left = name.resolve r.renderer d ctx
  sources : ∀ s ∈ Node.sourcesAll r.root.contents,
    s.render r.renderer d left = s.render r.renderer d ctx

/-- Where rendering does not read the disk, **the root** is at the same path on all of them. -/
theorem path_of_diskless {q : Path} (hread : Node.Diskless r.renderer r.root.toNode)
    (hp : Node.path r.renderer d start override q r.root.name = .ok (some p)) (d' : Disk) :
    Node.path r.renderer d' start override q r.root.name = .ok (some p) := by
  have hplan := hread d d' start override q
  rw [Folder.toNode, Node.plan, Node.plan, hp] at hplan
  rcases hp' : Node.path r.renderer d' start override q r.root.name with e | _ | p'
  · rw [hp'] at hplan
    simp at hplan
  · rw [hp'] at hplan
    simp at hplan
  · rw [hp'] at hplan
    rw [(Plan.folder.inj hplan).1]

/-- **A dry run** with a context that the recipe comes back in shows what a preview at the root shows
with the context the recipe is written with. -/
theorem dryrun_of_comesBack (hread : Node.Diskless r.renderer r.root.toNode)
    (hp : Node.path r.renderer d start override (baseOf d base) r.root.name = .ok (some p))
    (hcombined : r.combined left = .ok left) {d' : Disk} (hbase : baseOf d' base = baseOf d base)
    (hback : r.ComesBack d' override start ctx left) :
    r.dryrun d' base override left = r.root.toNode.preview r.renderer d' ctx (some p) ⟨""⟩ := by
  have hroot : Node.path r.renderer d' left override (baseOf d' base) r.root.name = .ok (some p) :=
    (Node.path_congr hback.root).trans (hbase ▸ path_of_diskless hread hp d')
  rw [dryrun, hcombined]
  simp only
  rw [preview_of_path hroot, Node.preview_eq_plan, Node.preview_eq_plan, plan_toNode, plan_toNode,
    Node.planAll_congr hback.names hback.sources]

/-! ## Creations -/

/-- **A creation that succeeds** has written its tree, and recorded the context that the hooks behind
the writing have left. -/
theorem recorded_of_create {creation : Creation}
    (hok : (r.create h d base override extra).result = .ok creation) :
    ∃ first p ctx written q left vs, r.Written h d base override extra first p ctx written creation.tree ∧
      (r.behind h written p ctx).result = .ok (q, left) ∧ creation.path = q ∧
      (r.create h d base override extra).disk.look
        (batchLocation ((r.create h d base override extra).disk.place q)) =
          some (.file (Yaml.Value.seq (vs ++ [(r.record h left).toValue])).text.toUTF8) := by
  obtain ⟨p₀, start, p, ctx, written, hstart, hpre, hwrite⟩ := writeAt_of_create hok
  rcases create_cases r h d base override extra with ⟨x, hfail, -⟩ |
    ⟨q, left, tree, hcreation, hleft, hadd⟩
  · rw [hfail] at hok
    simp at hok
  have hpath : creation.path = q := by
    rw [hcreation] at hok
    rw [← Except.ok.inj hok]
  have hpost : (r.behind h written p ctx).result = .ok (q, left) := by
    simp only [prepare, hstart, hpre, hwrite] at hleft
    rw [behind]
    rcases hlast : (Hook.runAll h r.postHooks written p ctx).result with x | last
    · rw [hlast] at hleft
      simp [Except.toOption] at hleft
    · rw [hlast] at hleft
      rw [show last = (q, left) from Option.some.inj hleft]
  obtain ⟨vs, -, hsets⟩ := BatchRecord.add_eq_ok hadd
  refine ⟨(p₀, start), p, ctx, written, q, left, vs, ⟨⟨hstart, hpre⟩, hwrite⟩, hpost, hpath, ?_⟩
  rw [Disk.place_congr hsets.workDir q]
  exact hsets.look_self

/-- **A tree comes from its record** if the hooks behind the writing let it.  The record of a creation
that succeeds has the context that these hooks have left, and a dry run renders with just that.  It
shows the tree that was written if the recipe comes back in that context.  In the one that the tree was
written with a recipe with a literal name always comes back, but that is the recorded one only as long as
the hooks behind the writing have nothing to say. -/
theorem create_replayed {creation : Creation} (hread : Node.Diskless r.renderer r.root.toNode)
    (hdeclared : r.declared.Ordered) (hhooks : ∀ hook ∈ r.preHooks ++ r.postHooks, hook.Lays)
    (hok : (r.create h d base override extra).result = .ok creation) :
    ∃ p start ctx written left vs t,
      r.Written h d base override extra (p, start) p ctx written creation.tree ∧
      (r.behind h written p ctx).result = .ok (p, left) ∧ creation.path = p ∧
      (r.create h d base override extra).disk.look
        (batchLocation ((r.create h d base override extra).disk.place p)) =
          some (.file (Yaml.Value.seq (vs ++ [(r.record h left).toValue])).text.toUTF8) ∧
      (∃ fs, left = Fields.merge ctx fs) ∧ ((∀ hook ∈ r.postHooks, hook.Silent) → left = ctx) ∧
      r.combined left = .ok left ∧ Tree.Same creation.tree t ∧
      ∀ d', baseOf d' base = baseOf d base →
        (r.ComesBack d' override start ctx left → r.dryrun d' base override left = .ok t) ∧
        ((override = none →
            r.root.name.resolve r.renderer d' ctx = r.root.name.resolve r.renderer d' start) →
          r.dryrun d' base override ctx = .ok t) := by
  obtain ⟨⟨p, start⟩, p₁, ctx, written, q, left, vs, hwritten, hpost, hpath, hlook⟩ :=
    recorded_of_create hok
  obtain ⟨hcombined, hp⟩ := start_eq_ok.mp hwritten.starts
  obtain ⟨rfl, before, rfl⟩ :=
    Hook.runAll_of_lays (fun x hx => hhooks x (List.mem_append_left _ hx)) hwritten.passes
  have hsilent : (∀ hook ∈ r.postHooks, hook.Silent) → left = Fields.merge start before :=
    fun hsilent => (Hook.runAll_of_silent hsilent hpost).2
  obtain ⟨rfl, behind, rfl⟩ :=
    Hook.runAll_of_lays (fun x hx => hhooks x (List.mem_append_right _ hx)) hpost
  obtain ⟨t, hpreview, hsame⟩ := preview_of_writeAt hread hwritten.writes
  have hthen := combined_merge hdeclared hcombined before
  have hrecorded := combined_merge hdeclared hcombined (before ++ behind)
  rw [Fields.merge_append] at hrecorded
  refine ⟨q, start, _, written, _, vs, t, hwritten, hpost, hpath, hlook, ⟨behind, rfl⟩, hsilent,
    hrecorded, hsame, fun d' hbase => ⟨fun hback => ?_, fun hroot => ?_⟩⟩
  · rw [dryrun_of_comesBack hread hp hrecorded hbase hback, hpreview]
  · have hback : r.ComesBack d' override start (Fields.merge start before) (Fields.merge start before) :=
      ⟨hroot, fun _ _ => rfl, fun _ _ => rfl⟩
    rw [dryrun_of_comesBack hread hp hthen hbase hback, hpreview]

/-- The hooks of **built-in recipes** have nothing to say, so what is recorded of one is what its tree was
written with. -/
theorem silent_of_load {year : Int} {key : String} {given : Fields}
    (hload : (load (RecipeDefinition.builtin year) key given).1 = .ok r) :
    ∀ hook ∈ r.preHooks ++ r.postHooks, hook.Silent := by
  obtain ⟨k, made, -, hmade, rfl⟩ := load_builtin_eq_ok.mp hload
  obtain ⟨name, version, s, built, -, -, -, hbuilt, rfl⟩ := Builtin.Kind.recipeOf_eq_ok_decode.mp hmade
  have hhooks : built.preHooks ++ built.postHooks = [Hook.gitInit, Hook.precommitInstall] := by
    rw [Builtin.Kind.recipe] at hbuilt
    split at hbuilt
    · simp at hbuilt
    rw [of] at hbuilt
    rcases hroot : Folder.of (.literal name) k.layout with e | root
    · simp [hroot, Except.map] at hbuilt
    · rw [hroot] at hbuilt
      obtain rfl := Except.ok.inj hbuilt
      rfl
  intro hook hhook
  rcases List.mem_pair.mp (hhooks ▸ hhook) with rfl | rfl
  · exact Hook.silent_gitInit
  · exact Hook.silent_precommitInstall

/-- A hook that lays **fixed fields** over the context. -/
def laying (fs : Fields) : Hook where
  call _ d p ctx := ⟨d, .empty, .ok (some (p, Fields.merge ctx fs))⟩

theorem lays_laying (fs : Fields) : (laying fs).Lays := by
  intro h d p ctx left hleft
  obtain rfl : (p, Fields.merge ctx fs) = left := Option.some.inj (Except.ok.inj hleft)
  exact ⟨fs, rfl⟩

/-- A recipe for one file with a **title** that the context gives. -/
def titled (preHooks postHooks : List Hook) : Recipe :=
  { Call.oneFile preHooks postHooks with
    root := ⟨none, .literal "d", [.file none (.literal "f") (.text "\x7b\x7btitle\x7d\x7d")]⟩ }

theorem diskless_titled (preHooks postHooks : List Hook) :
    Node.Diskless (titled preHooks postHooks).renderer (titled preHooks postHooks).root.toNode :=
  Node.diskless_of_embedded Node.isEmbedded_bareRenderer rfl

theorem ordered_titled (preHooks postHooks : List Hook) : (titled preHooks postHooks).declared.Ordered :=
  Json.ordered_nil

/-- A title of the context is the **content** of the file. -/
theorem render_title {d : Disk} {ctx : Context} {title : String}
    (h : (Node.bareRenderer.render d "\x7b\x7btitle\x7d\x7d" ctx).toOption = some title) :
    (Source.text "\x7b\x7btitle\x7d\x7d").render Node.bareRenderer d ctx = .ok (some (.text title)) := by
  rw [Source.render, Source.resolve]
  rcases hrender : Node.bareRenderer.render d "\x7b\x7btitle\x7d\x7d" ctx with e | text
  · rw [hrender] at h
    simp [Except.toOption] at h
  · rw [hrender] at h
    obtain rfl : text = title := Option.some.inj h
    simp only [hrender]
    rfl

/-- The context of a title, with more. -/
def entitled (title : String) (more : Fields) : Context :=
  ("recipe", RecipeInfo.toJson ⟨"m:N", none, "N"⟩) :: more ++ [("title", .str title)]

/-- A recipe that gives its title first, and **stamps** the context behind the writing. -/
def stamped : Recipe := titled [laying [("title", .str "a")]] [laying [("stamp", .str "s")]]

/-- What comes of it. -/
def stamping : Outcome :=
  stamped.create ⟨[], none, "now", 2024⟩ (Disk.bare ["w"]) (some ⟨"/w"⟩) none []

/-- The stamp is in the record, and the **same tree** comes from that. -/
theorem create_replayed_stamped : ∃ creation t, stamping.result = .ok creation ∧
    stamped.dryrun (Disk.bare ["w"]) (some ⟨"/w"⟩) none (entitled "a" [("stamp", .str "s")]) = .ok t ∧
    Tree.Same creation.tree t := by
  obtain ⟨creation, hok⟩ : ∃ creation, stamping.result = .ok creation :=
    exists_of_isOk (by decide +kernel)
  have hhooks : ∀ hook ∈ stamped.preHooks ++ stamped.postHooks, hook.Lays := by
    intro hook hhook
    rcases List.mem_pair.mp hhook with rfl | rfl <;> exact lays_laying _
  obtain ⟨p, start, ctx, written, left, vs, t, hwritten, hpost, -, -, -, -, -, hsame, hreplayed⟩ :=
    create_replayed (diskless_titled _ _) (ordered_titled _ _) hhooks hok
  obtain ⟨-, rfl⟩ := Prod.mk.inj (Except.ok.inj hwritten.starts)
  obtain rfl : entitled "a" [] = ctx := (Prod.mk.inj (Except.ok.inj hwritten.passes)).2
  obtain rfl : entitled "a" [("stamp", .str "s")] = left := (Prod.mk.inj (Except.ok.inj hpost)).2
  refine ⟨creation, t, hok, (hreplayed (Disk.bare ["w"]) rfl).1 ?_, hsame⟩
  constructor
  · exact fun _ => rfl
  · intro name hname
    obtain rfl := List.mem_singleton.mp hname
    rfl
  · intro s hs
    obtain rfl := List.mem_singleton.mp hs
    have hwas : (Node.bareRenderer.render (Disk.bare ["w"]) "\x7b\x7btitle\x7d\x7d"
        (entitled "a" [])).toOption = some "a" := by decide +kernel
    have hnow : (Node.bareRenderer.render (Disk.bare ["w"]) "\x7b\x7btitle\x7d\x7d"
        (entitled "a" [("stamp", .str "s")])).toOption = some "a" := by decide +kernel
    exact (render_title hnow).trans (render_title hwas).symm

/-- A recipe that lays **another title** over the one its file is written with, behind the writing. -/
def retitled : Recipe := titled [] [laying [("title", .str "b")]]

/-- What comes of it with a title. -/
def retitling : Outcome :=
  retitled.create ⟨[], none, "now", 2024⟩ (Disk.bare ["w"]) (some ⟨"/w"⟩) none [("title", .str "a")]

/-- The other title is in the record, and **another tree** comes from that. -/
theorem create_replayed_retitled : ∃ creation vs t,
    Node.Diskless retitled.renderer retitled.root.toNode ∧ retitled.declared.Ordered ∧
    (∀ hook ∈ retitled.preHooks ++ retitled.postHooks, hook.Lays) ∧
    retitling.result = .ok creation ∧
    retitling.disk.look (batchLocation (retitling.disk.place creation.path)) =
      some (.file (Yaml.Value.seq (vs ++ [(retitled.record ⟨[], none, "now", 2024⟩
        (entitled "b" [])).toValue])).text.toUTF8) ∧
    retitled.dryrun (Disk.bare ["w"]) (some ⟨"/w"⟩) none (entitled "b" []) = .ok t ∧
    ¬ Tree.Same creation.tree t := by
  have hwritten : retitling.result.toOption.map (fun creation =>
      (Tree.findContent ⟨"/w/d/f"⟩ creation.tree).map Content.toBytes) = some (some "a".toUTF8) := by
    decide +kernel
  have hshown : (retitled.dryrun (Disk.bare ["w"]) (some ⟨"/w"⟩) none (entitled "b" [])).toOption.map
      (fun t => (Tree.findContent ⟨"/w/d/f"⟩ t).map Content.toBytes) = some (some "b".toUTF8) := by
    decide +kernel
  rcases hok : retitling.result with e | creation
  · rw [hok] at hwritten
    exact nomatch hwritten
  rcases hdryrun : retitled.dryrun (Disk.bare ["w"]) (some ⟨"/w"⟩) none (entitled "b" []) with e | t
  · rw [hdryrun] at hshown
    exact nomatch hshown
  rw [hok] at hwritten
  rw [hdryrun] at hshown
  obtain ⟨first, p, ctx, written, q, left, vs, hcreated, hpost, rfl, hlook⟩ := recorded_of_create hok
  obtain rfl := Except.ok.inj hcreated.starts
  obtain rfl : entitled "a" [] = ctx := (Prod.mk.inj (Except.ok.inj hcreated.passes)).2
  obtain rfl : entitled "b" [] = left := (Prod.mk.inj (Except.ok.inj hpost)).2
  refine ⟨creation, vs, t, diskless_titled _ _, ordered_titled _ _, ?_, rfl, hlook, rfl, ?_⟩
  · intro hook hhook
    obtain rfl := List.mem_singleton.mp hhook
    exact lays_laying _
  · intro hsame
    have ha : (Tree.findContent ⟨"/w/d/f"⟩ creation.tree).map Content.toBytes = some "a".toUTF8 :=
      Option.some.inj hwritten
    have hb : (Tree.findContent ⟨"/w/d/f"⟩ t).map Content.toBytes = some "b".toUTF8 :=
      Option.some.inj hshown
    rw [hsame.findContent, hb] at ha
    exact absurd ha (by decide +kernel)

end Recipe

end Scaffold
