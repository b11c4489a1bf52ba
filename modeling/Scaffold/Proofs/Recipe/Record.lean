import Scaffold.Proofs.Disk.Effect
import Scaffold.Recipe.Record

/-!
# Proofs/Recipe/Record — adding a record to the batch file

A record is added behind the entries that the batch file holds (`add_eq_ok`), or nothing changes
(`add_eq_error`).
-/

namespace Scaffold

/-- The **entries** that a batch file holds, by what stands at its location: none if there is no
file.  Only a text that is a list can be read. -/
def batchEntries? : Option Item → Option (List Yaml.Value)
  | none => some []
  | some (.file bytes) => (String.fromUTF8? bytes).bind Yaml.Value.readList?
  | some .dir => none

/-- The location of the batch file in a root. -/
def batchLocation (root : Location) : Location := root ++ [batchFile]

/-- The batch file is named by a piece of its own. -/
theorem isPlain_batchFile : Path.IsPlain batchFile where
  ne_nil := by decide
  ne_here := by decide
  ne_up := by decide
  no_slash := by decide

/-- The batch file is in the root. -/
theorem place_batchFile (d : Disk) (root : Path) :
    d.place (root.joinName batchFile) = batchLocation (d.place root) :=
  Disk.place_joinName isPlain_batchFile d root

namespace BatchRecord

variable {b : BatchRecord} {d d' : Disk} {root : Path}

/-- Entries that were read before a file was written are those its location **held**. -/
theorem batchEntries?_of_entries {file : Path} {bytes : ByteArray} {vs : List Yaml.Value}
    (hentries : entries d file = .ok vs) (hw : d.writeFile file bytes = .ok d') :
    batchEntries? (d.look (d.place file)) = some vs := by
  rw [entries] at hentries
  rcases Disk.before_writeFile hw with ⟨hnone, hlook⟩ | ⟨hthere, old, hlook, hread⟩
  · rw [hnone, if_pos (by rfl)] at hentries
    rw [hlook, ← Except.ok.inj hentries]
    rfl
  · rw [hthere, if_neg (by simp), Disk.readText, hread] at hentries
    rw [hlook, batchEntries?]
    cases htext : String.fromUTF8? old with
    | none =>
      simp only [htext] at hentries
      simp at hentries
    | some text =>
      simp only [htext] at hentries
      rw [Option.bind_some]
      cases hlist : Yaml.Value.readList? text with
      | none =>
        rw [hlist] at hentries
        simp at hentries
      | some us =>
        rw [hlist] at hentries
        rw [Except.ok.inj hentries]

/-- **A record that is added** stands behind the entries the batch file held, and nothing else
changes. -/
theorem add_eq_ok (h : b.add d root = (d', .ok ())) :
    ∃ vs, batchEntries? (d.look (batchLocation (d.place root))) = some vs ∧
      Disk.Sets d (batchLocation (d.place root))
        (.file (Yaml.Value.seq (vs ++ [b.toValue])).text.toUTF8) d' := by
  simp only [add] at h
  split at h
  · simp at h
  next vs hentries =>
  split at h
  · simp at h
  next d₁ hw =>
  obtain rfl : d₁ = d' := congrArg Prod.fst h
  refine ⟨vs, ?_, ?_⟩
  · rw [← place_batchFile]
    exact batchEntries?_of_entries hentries hw
  · rw [← place_batchFile]
    exact Disk.writeFile_sets hw

/-- **A record that is not added** changes nothing. -/
theorem add_eq_error {e : Error} (h : b.add d root = (d', .error e)) : d' = d := by
  simp only [add] at h
  split at h
  · exact (congrArg Prod.fst h).symm
  split at h
  · exact (congrArg Prod.fst h).symm
  · simp at h

end BatchRecord

end Scaffold
