import Scaffold.Builtin.Layout
import Scaffold.Proofs.Node.Edits

/-!
# Proofs/Node/Identifiers — identifiers stay different

A folder is built of nodes and then edited, in itself or behind keys, and edits may fail
(`Folder.Built`).  Every step keeps it tidy: no two children of any folder inside share an identifier
(`Tidy.run`, `Tidy.change`), so every folder that is built is tidy (`Built.tidy`).  The sources of the
layouts are spliced together by such edits (`toNode_extend_sourcesFolder`).
-/

namespace Scaffold

namespace Folder

open Node

variable {f g : Folder} {n : Node} {key : String}

/-! ## Folders that are built -/

/-- A folder **holds** itself and the folders among its children, at any depth. -/
inductive Holds : Folder → Folder → Prop
  | self (f : Folder) : Holds f f
  | inside {f g h : Folder} : g.toNode ∈ f.contents → Holds g h → Holds f h

/-- **Folders that are built**: made of nodes and then edited, the nodes holding no other folders. -/
inductive Built : Folder → Prop
  | of {name : Name} {ns : List Node} {f : Folder} :
    (∀ g : Folder, g.toNode ∈ ns → Built g) → Folder.of name ns = .ok f → Built f
  | withId {f : Folder} (id : String) : Built f → Built { f with id := some id }
  | edit {f : Folder} (edit : Edit) (keys : List String) : Built f →
    (∀ g : Folder, g.toNode ∈ edit.nodes → Built g) → Built (edit.runAt keys f).1

/-- A folder is **tidy** if no two children of any folder in it share an identifier. -/
def Tidy (f : Folder) : Prop := ∀ g, f.Holds g → (ids g.contents).Nodup

/-- Tidiness is that of the **children** and of the folders among them. -/
theorem tidy_iff : f.Tidy ↔ (ids f.contents).Nodup ∧ ∀ g : Folder, g.toNode ∈ f.contents → g.Tidy := by
  constructor
  · exact fun h => ⟨h f (.self f), fun g hg k hk => h k (.inside hg hk)⟩
  · rintro ⟨hids, hinside⟩ g hg
    cases hg with
    | self => exact hids
    | inside hmem hrest => exact hinside _ hmem _ hrest

/-- Keys lead to folders **inside**. -/
theorem holds_of_follow : ∀ {keys : List String} {f g : Folder}, f.follow keys = .ok g → f.Holds g
  | [], f, g, h => by
    obtain rfl := Except.ok.inj h
    exact .self _
  | key :: keys, f, g, h => by
    rw [follow] at h
    cases hchild : f.child key with
    | error e => simp [hchild] at h
    | ok c =>
      rw [hchild] at h
      obtain ⟨i, -, hi⟩ := child_eq_ok.mp hchild
      exact .inside (List.mem_of_getElem? hi) (holds_of_follow h)

/-- A folder **stays tidy** when a tidy node joins children of it without a clash. -/
theorem Tidy.join {rest : List Node} (hf : f.Tidy) (hperm : g.contents.Perm (n :: rest))
    (hrest : rest.Sublist f.contents) (hfree : ¬n.Clashes rest)
    (hn : ∀ h : Folder, h.toNode = n → h.Tidy) : g.Tidy := by
  rw [tidy_iff] at hf ⊢
  refine ⟨nodup_ids_join hf.1 hperm hrest hfree, fun h hh => ?_⟩
  rcases List.mem_cons.mp (hperm.mem_iff.mp hh) with hown | hother
  · exact hn h hown
  · exact hf.2 h (hrest.subset hother)

/-- A push keeps a folder **tidy**. -/
theorem Tidy.push (hf : f.Tidy) (hn : ∀ h : Folder, h.toNode = n → h.Tidy)
    (h : f.push n = .ok g) : g.Tidy := by
  obtain ⟨hfree, rfl⟩ := push_eq_ok.mp h
  exact hf.join (List.perm_append_singleton n f.contents) (List.Sublist.refl _) hfree hn

/-- Setting a child keeps a folder **tidy**. -/
theorem Tidy.set (hf : f.Tidy) (hn : ∀ h : Folder, h.toNode = n → h.Tidy)
    (h : f.set key n = .ok g) : g.Tidy :=
  hf.join (perm_of_set_eq_ok h) (others_sublist f _) (set_eq_ok.mp h).1 hn

/-- An extension keeps a folder **tidy**, however far it gets. -/
theorem Tidy.extend : ∀ {ns : List Node} {f : Folder}, f.Tidy →
    (∀ h : Folder, h.toNode ∈ ns → h.Tidy) → (f.extend ns).1.Tidy
  | [], f, hf, _ => hf
  | n :: ns, f, hf, hns => by
    rw [Folder.extend]
    cases hpush : f.push n with
    | error e => exact hf
    | ok g =>
      have hg : g.Tidy := hf.push (fun h hh => hns h (hh ▸ List.mem_cons_self)) hpush
      exact hg.extend fun h hh => hns h (List.mem_cons_of_mem _ hh)

/-- **An edit** keeps a folder tidy, whether it fails or not. -/
theorem Tidy.run (hf : f.Tidy) (edit : Edit) (hnodes : ∀ h : Folder, h.toNode ∈ edit.nodes → h.Tidy) :
    (edit.run f).1.Tidy := by
  cases edit with
  | set key node =>
    rw [Edit.run]
    cases h : f.set key node with
    | error e => exact hf
    | ok g => exact hf.set (fun k hk => hnodes k (hk ▸ List.mem_cons_self)) h
  | push node =>
    rw [Edit.run]
    cases h : f.push node with
    | error e => exact hf
    | ok g => exact hf.push (fun k hk => hnodes k (hk ▸ List.mem_cons_self)) h
  | extend nodes => exact hf.extend hnodes

/-- **A change behind keys** keeps a folder tidy if it does so in the folder they lead to. -/
theorem Tidy.change {α : Type} {act : Folder → Folder × Except Error α}
    (hkeeps : ∀ g, (act g).1.id = g.id ∧ (act g).1.name = g.name)
    (hact : ∀ g : Folder, g.Tidy → (act g).1.Tidy) :
    ∀ {keys : List String} {f : Folder}, f.Tidy → (f.change act keys).1.Tidy
  | [], f, hf => hact f hf
  | key :: keys, f, hf => by
    cases hchild : f.child key with
    | error e => rwa [change_of_child_error hchild]
    | ok c =>
      obtain ⟨i, hindex, hi⟩ := child_eq_ok.mp hchild
      have hlt := index?_lt hindex
      have hget : f.contents[i] = c.toNode := (List.getElem?_eq_some_iff.mp hi).2
      rw [tidy_iff] at hf
      have hc : c.Tidy := hf.2 c (List.mem_of_getElem? hi)
      have hown : ¬c.toNode.Clashes (f.contents.eraseIdx i) := by
        have hperm := List.set_perm_cons_eraseIdx hlt c.toNode
        rw [← hget, List.set_getElem_self, hget] at hperm
        exact (nodup_ids_cons.mp ((nodup_ids_of_perm hperm).mp hf.1)).1
      have hsame : (c.change act keys).1.toNode.id? = c.toNode.id? :=
        (change_keeps hkeeps keys c).1
      rw [change_of_child hindex hi]
      refine (tidy_iff.mpr hf).join (List.set_perm_cons_eraseIdx hlt _)
        (List.eraseIdx_sublist _ _) ?_ fun h hh => ?_
      · rwa [Clashes, hsame]
      · have hsome := folder?_eq_some.mpr hh.symm
        obtain rfl := Option.some.inj hsome
        exact hc.change hkeeps hact

/-- **Every folder that is built** is tidy: no failed edit, and no edit of a folder inside, leaves two
children with one identifier. -/
theorem Built.tidy (h : f.Built) : f.Tidy := by
  induction h with
  | of _ hof hinside =>
    obtain ⟨hids, rfl⟩ := of_eq_ok.mp hof
    exact tidy_iff.mpr ⟨hids, hinside⟩
  | withId id _ ih =>
    rw [tidy_iff] at ih ⊢
    exact ih
  | edit edit keys _ _ hf hnodes =>
    exact hf.change edit.run_keeps fun g hg => hg.run edit hnodes

/-- **A folder** is refused exactly for the first identifier that is repeated among its children.  In
every folder that is built, however its edits ended, no two children of any folder inside share an
identifier.  An edit behind keys that lead nowhere changes nothing; otherwise it is the edit of the
folder they lead to.  There a push and a setting fail exactly if a child that stays has the identifier
of the node, and leave everything as it was; an extension fails at the first node that clashes and
keeps those before it. -/
theorem edits_keep_ids_unique (hf : f.Built) :
    (∀ name ns, (∀ e, Folder.of name ns = .error e ↔
        ∃ id, FirstRepeated ns id ∧ e = .duplicateId id) ∧
      ∀ g, Folder.of name ns = .ok g ↔ (ids ns).Nodup ∧ g = ⟨none, name, ns⟩) ∧
    (∀ g, f.Holds g → (ids g.contents).Nodup) ∧
    (∀ keys e, f.follow keys = .error e → ∀ edit : Edit, edit.runAt keys f = (f, .error e)) ∧
    ∀ keys g, f.follow keys = .ok g → f.Holds g ∧
      (∀ edit : Edit, (edit.runAt keys f).2 = (edit.run g).2 ∧
        (edit.runAt keys f).1.follow keys = .ok (edit.run g).1) ∧
      (∀ n e, (((Edit.push n).runAt keys f).2 = .error e ↔
          ∃ id, n.id? = some id ∧ id ∈ ids g.contents ∧ e = .duplicateId id) ∧
        (((Edit.push n).runAt keys f).2 = .error e → ((Edit.push n).runAt keys f).1 = f)) ∧
      (∀ key n e, (((Edit.set key n).runAt keys f).2 = .error e ↔
          ∃ id, n.id? = some id ∧ id ∈ ids (g.others (g.index? key)) ∧ e = .duplicateId id) ∧
        (((Edit.set key n).runAt keys f).2 = .error e → ((Edit.set key n).runAt keys f).1 = f)) ∧
      ∀ ns e, ((Edit.extend ns).runAt keys f).2 = .error e ↔
        ∃ before n after id, ns = before ++ n :: after ∧ g.Fits before ∧ n.id? = some id ∧
          id ∈ ids (g.contents ++ before) ∧ e = .duplicateId id ∧
          ((Edit.extend ns).runAt keys f).1.follow keys =
            .ok { g with contents := g.contents ++ before } := by
  refine ⟨fun name ns => ⟨fun e => of_eq_error, fun g => of_eq_ok⟩, hf.tidy,
    fun keys e h edit => change_of_follow_error h, fun keys g h => ?_⟩
  have hedit : ∀ edit : Edit, (edit.runAt keys f).2 = (edit.run g).2 ∧
      (edit.runAt keys f).1.follow keys = .ok (edit.run g).1 :=
    fun edit => follow_change edit.run_keeps h
  refine ⟨holds_of_follow h, hedit, fun n e => ⟨?_, fun herror => ?_⟩,
    fun key n e => ⟨?_, fun herror => ?_⟩, fun ns e => ?_⟩
  · rw [(hedit _).1, Edit.run_push_eq_error, push_eq_error]
  · exact change_of_error (fun g e => Edit.run_push_of_error) herror
  · rw [(hedit _).1, Edit.run_set_eq_error, set_eq_error]
  · exact change_of_error (fun g e => Edit.run_set_of_error) herror
  · rw [(hedit _).1, (hedit _).2, Edit.run_extend_eq_error]
    simp only [Except.ok.injEq]

end Folder

/-! ## Spliced sources -/

namespace Builtin

open Folder

/-- The folder for the package, with the key that addresses it. -/
def packageFolder : Folder :=
  ⟨some sourceKey, .ofString "\x7b\x7brepo.src_path\x7d\x7d",
    [templateFile "__init__.py" ingredients "__init__.py.template"]⟩

/-- The folder for the sources, before more files join the package. -/
def sourcesFolder : Folder := ⟨none, .ofString "src", [packageFolder.toNode]⟩

/-- **Files without identifiers** that extend the package folder come to the sources with these files. -/
theorem extend_sourcesFolder {more : List Node} (h : ∀ n ∈ more, n.id? = none) :
    (Edit.extend more).runAt [sourceKey] sourcesFolder =
      ({ sourcesFolder with contents := [({ packageFolder with
        contents := packageFolder.contents ++ more } : Folder).toNode] }, .ok ()) := by
  have hfits : packageFolder.Fits more := by
    rintro before n after rfl ⟨id, hid, -⟩
    simp [h n (by simp)] at hid
  have hrun : (Edit.extend more).run packageFolder =
      ({ packageFolder with contents := packageFolder.contents ++ more }, .ok ()) :=
    extend_of_fits hfits
  have hindex : sourcesFolder.index? sourceKey = some 0 := by decide +kernel
  rw [Edit.runAt, change_of_child hindex (g := packageFolder) rfl, change, hrun]
  rfl

/-- The package folder of every layout is **spliced** into the sources. -/
theorem toNode_extend_sourcesFolder {more : List Node} (h : ∀ n ∈ more, n.id? = none) :
    ((Edit.extend more).runAt [sourceKey] sourcesFolder).1.toNode = sources more := by
  rw [extend_sourcesFolder h]
  rfl

/-- A folder whose children are files is **built** if their identifiers differ. -/
theorem built_of_files {name : Name} {ns : List Node} (hfiles : ∀ n ∈ ns, n.isFolder = false)
    (hids : (Node.ids ns).Nodup) : Folder.Built ⟨none, name, ns⟩ := by
  refine .of (fun g hg => ?_) (of_eq_ok.mpr ⟨hids, rfl⟩)
  have hfolder := hfiles _ hg
  simp [toNode, Node.isFolder] at hfolder

/-- **The sources** before more files join the package are built. -/
theorem built_sourcesFolder : sourcesFolder.Built := by
  have hpackage : packageFolder.Built :=
    (built_of_files (by simp [templateFile, Node.isFolder]) (by decide +kernel)).withId sourceKey
  refine .of (fun g hg => ?_) (of_eq_ok.mpr ⟨by decide +kernel, rfl⟩)
  have hsome := Node.folder?_eq_some.mpr (List.mem_singleton.mp hg).symm
  obtain rfl := Option.some.inj hsome
  exact hpackage

/-- The sources of a service, **spliced** together. -/
def serviceFolder : Folder := ((Edit.extend serviceSources).runAt [sourceKey] sourcesFolder).1

/-- The sources of a service are **built**. -/
theorem built_serviceFolder : serviceFolder.Built := by
  refine built_sourcesFolder.edit _ _ fun g hg => ?_
  simp only [Edit.nodes, serviceSources, folder, templateFile, toNode, List.mem_cons, reduceCtorEq,
    List.not_mem_nil, Node.folder.injEq, or_false, false_or] at hg
  obtain ⟨hid, hname, hcontents⟩ := hg
  have hg : g = ⟨none, .ofString "api", g.contents⟩ := by rw [← hid, ← hname]
  rw [hg, hcontents]
  exact built_of_files (by simp [Node.isFolder]) (by decide +kernel)

/-- A text under an identifier. -/
def noted (id name : String) : Node := (textFile name "").withId id

/-- In the sources of a service, two notes of one identifier: the extension of the package **fails** at the
second and keeps the first, and a note under the key of the package is refused next to it. -/
theorem edits_keep_ids_unique_service : serviceFolder.Built ∧
    (∀ g, serviceFolder.Holds g → (Node.ids g.contents).Nodup) ∧
    (∃ package, serviceFolder.follow [sourceKey] = .ok package ∧
      ((Edit.extend [noted "notes" "a.md", noted "notes" "b.md"]).runAt [sourceKey]
        serviceFolder).1.follow [sourceKey] =
          .ok { package with contents := package.contents ++ [noted "notes" "a.md"] }) ∧
    ((Edit.push (noted sourceKey "c.md")).runAt [] serviceFolder).1 = serviceFolder := by
  obtain ⟨-, hids, -, hedits⟩ := edits_keep_ids_unique built_serviceFolder
  have hservice := congrArg Prod.fst
    (extend_sourcesFolder (show ∀ n ∈ serviceSources, n.id? = none by decide +kernel))
  have hchild : serviceFolder.child sourceKey =
      .ok { packageFolder with contents := packageFolder.contents ++ serviceSources } := by
    rw [serviceFolder, hservice]
    exact child_eq_ok.mpr ⟨0, by decide +kernel, rfl⟩
  have hpackage : serviceFolder.follow [sourceKey] =
      .ok { packageFolder with contents := packageFolder.contents ++ serviceSources } := by
    rw [follow, hchild]
    rfl
  refine ⟨built_serviceFolder, hids, ⟨_, hpackage, ?_⟩, ?_⟩
  · obtain ⟨-, hedit, -⟩ := hedits _ _ hpackage
    have hfits : ({ packageFolder with contents := packageFolder.contents ++ serviceSources } :
        Folder).Fits [noted "notes" "a.md"] :=
      fits_cons.mpr ⟨by decide +kernel, fun before n after heq => by simp at heq⟩
    have hid : (noted "notes" "b.md").id? = some "notes" := rfl
    have hclash := congrArg (fun o => (Except.ok o.1 : Except Error Folder))
      (@extend_of_clash _ _ _ [] hid _ hfits (by decide +kernel))
    rw [(hedit _).2]
    exact hclash
  · obtain ⟨-, -, hpush, -⟩ := hedits [] serviceFolder rfl
    refine (hpush _ (.duplicateId sourceKey)).2 ((hpush _ _).1.mpr ⟨sourceKey, rfl, ?_, rfl⟩)
    rw [serviceFolder, hservice]
    decide +kernel

end Builtin

end Scaffold
