import Mathlib.Data.List.Nodup
import Scaffold.Node.Tree
import Scaffold.Proofs.Path.Components

/-!
# Proofs/Node/Found — the files of a tree and what is found in it

Listing and looking up go through a tree in one order: what is listed are the paths of its files
(`filePaths_eq_map`), and what is found for a path is the content of the first file that stands for it
(`findContent_eq_find?`).  Where all files stand for different paths, every one of them is found
(`findContent_of_mem`).
-/

namespace Scaffold

namespace Tree

mutual

/-- The files below an entry, **with their contents**. -/
def filesIn (p : Path) : Rendered → List (Path × Content)
  | .file content => [(p, content)]
  | .folder children => files children

/-- Every **file** of a tree with its content, depth first. -/
def files : List (Path × Rendered) → List (Path × Content)
  | [] => []
  | (p, e) :: t => filesIn p e ++ files t

end

mutual

/-- What is listed below an entry are the paths of **the files below it**. -/
theorem pathsIn_eq_map (p : Path) : ∀ e : Rendered, pathsIn p e = (filesIn p e).map Prod.fst
  | .file _ => rfl
  | .folder children => by rw [pathsIn, filesIn, filePaths_eq_map children]

/-- What is listed are the paths of **the files**. -/
theorem filePaths_eq_map (t : Tree) : filePaths t = (files t).map Prod.fst := by
  cases t with
  | nil => rfl
  | cons entry t =>
    obtain ⟨p, e⟩ := entry
    rw [filePaths, files, List.map_append, pathsIn_eq_map p e, filePaths_eq_map t]

end

mutual

/-- What is found below an entry is the content of **the first file** that stands for the path. -/
theorem findIn_eq_find? (wanted p : Path) : ∀ e : Rendered,
    findIn wanted p e = ((filesIn p e).find? fun f => f.1.sameAs wanted).map Prod.snd
  | .file content => by
    rw [findIn, filesIn, List.find?_singleton]
    cases p.sameAs wanted <;> rfl
  | .folder children => by rw [findIn, filesIn, findContent_eq_find? wanted children]

/-- **What is found** is the content of the first file that stands for the path. -/
theorem findContent_eq_find? (wanted : Path) (t : Tree) :
    findContent wanted t = ((files t).find? fun f => f.1.sameAs wanted).map Prod.snd := by
  cases t with
  | nil => rfl
  | cons entry t =>
    obtain ⟨p, e⟩ := entry
    rw [findContent, findIn_eq_find? wanted p e, findContent_eq_find? wanted t, files,
      List.find?_append]
    cases (filesIn p e).find? fun f => f.1.sameAs wanted <;> rfl

end

/-- The files of a tree behind another are **behind the files of the other**. -/
theorem files_append : ∀ t u : Tree, files (t ++ u) = files t ++ files u
  | [], _ => rfl
  | (p, e) :: t, u => by
    rw [List.cons_append, files, files, files_append t u, List.append_assoc]

variable {t : Tree} {p : Path} {content : Content}

/-- **Every file is found**, where all of them stand for different paths. -/
theorem findContent_of_mem (hdistinct : ((filePaths t).map Path.components).Nodup)
    (h : (p, content) ∈ files t) : findContent p t = some content := by
  rw [filePaths_eq_map, List.map_map] at hdistinct
  obtain ⟨f, hf⟩ : ∃ f, (files t).find? (fun f => f.1.sameAs p) = some f :=
    Option.isSome_iff_exists.mp (List.find?_isSome.mpr ⟨_, h, Path.sameAs_refl p⟩)
  have hsame : f.1.components = p.components := by
    simpa [Path.sameAs_iff] using List.find?_some hf
  have heq : f = (p, content) :=
    List.inj_on_of_nodup_map hdistinct (List.mem_of_find?_eq_some hf) h hsame
  rw [findContent_eq_find?, hf, heq]
  rfl

end Tree

end Scaffold
