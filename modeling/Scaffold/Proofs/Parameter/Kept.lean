import Scaffold.Builtin.Metadata
import Scaffold.Proofs.Parameter.Offered

/-!
# Proofs/Parameter/Kept — what asking leaves of the arguments

Asking for what is missing keeps every value that is no mapping, wherever it stands, except in the place
of a record (`fillAllAfter_keeps_supplied`): there a mapping takes its place, be it the record written as
a list, and be nothing missing at all (`fillAllAfter_loses_listed`).  One parameter changes the arguments
in one of two ways, by an answer under a name that held nothing (`Keeps.answered`) or by a record that is
put back (`Keeps.record`), and keeping is passed on from one parameter to the next (`Keeps.trans`).
-/

namespace Scaffold.Parameter

open Json

variable {answer : Prompter} {name : String} {given inner left : Fields}
  {records more : List (List String)}

mutual

/-- The paths at which a parameter has **records**. -/
def recordPaths : Parameter → List (List String)
  | .plain _ _ _ _ => []
  | .record name _ _ _ fields => [name] :: (recordPathsAll fields).map (name :: ·)
  | .signature name _ _ fields => [name] :: (recordPathsAll fields).map (name :: ·)

/-- The paths at which some parameters have records. -/
def recordPathsAll : List Parameter → List (List String)
  | [] => []
  | p :: ps => recordPaths p ++ recordPathsAll ps

end

/-- Arguments **keep** those before them: at each path that led to a value, a mapping stands if that was
one or the path is among those of records, and else the same value. -/
def Keeps (records : List (List String)) (given left : Fields) : Prop :=
  ∀ path v, (obj given).at? path = some v → ∃ w, (obj left).at? path = some w ∧
    (v.isObject = true ∨ path ∈ records → w.isObject = true) ∧
    (v.isObject = false → path ∉ records → w = v)

namespace Keeps

/-- Arguments keep **themselves**. -/
theorem refl (given : Fields) : Keeps [] given given := fun _ v hv =>
  ⟨v, hv, fun h => h.resolve_right List.not_mem_nil, fun _ _ => rfl⟩

/-- What is kept **twice** is kept. -/
theorem trans (h : Keeps records given inner) (h' : Keeps more inner left) :
    Keeps (records ++ more) given left := by
  intro path v hv
  obtain ⟨u, hu, humap, husame⟩ := h path v hv
  obtain ⟨w, hw, hwmap, hwsame⟩ := h' path u hu
  refine ⟨w, hw, fun hmap => hwmap ?_, fun hplain hnot => ?_⟩
  · rw [List.mem_append, ← or_assoc] at hmap
    exact hmap.imp_left humap
  · rw [List.mem_append, not_or] at hnot
    obtain rfl := husame hplain hnot.1
    exact hwsame hplain hnot.2

/-- Arguments are kept if they are **along every name**. -/
theorem of_cons (h : ∀ key path v, (obj given).at? (key :: path) = some v →
    ∃ w, (obj left).at? (key :: path) = some w ∧
      (v.isObject = true ∨ key :: path ∈ records → w.isObject = true) ∧
      (v.isObject = false → key :: path ∉ records → w = v)) : Keeps records given left := by
  rintro (_ | ⟨key, path⟩) v hv
  · obtain rfl := Option.some.inj hv
    exact ⟨obj left, rfl, fun _ => rfl, nofun⟩
  · exact h key path v hv

/-- An **answer** under a name that held nothing keeps all. -/
theorem answered (h : Fields.get? given name = none) (v : Json) :
    Keeps [] given (Fields.insert given name v) := by
  refine of_cons fun key path w hw => ⟨w, ?_, fun h => h.resolve_right List.not_mem_nil, fun _ _ => rfl⟩
  have hne : name ≠ key := by
    rintro rfl
    rw [at?_obj_cons, h] at hw
    exact nomatch hw
  rw [at?_insert_of_ne hne, hw]

/-- A **record** that is put back, and keeps what it held, keeps all but what stood in its place. -/
theorem record (h : Keeps records (recordOf given name) inner) :
    Keeps ([name] :: records.map (name :: ·)) given
      (putRecord given name (recordOf given name) inner) := by
  refine of_cons fun key path v hv => ?_
  by_cases hkey : name = key
  · subst hkey
    obtain ⟨u, hget, hu⟩ := Option.bind_eq_some_iff.mp (at?_obj_cons.symm.trans hv)
    have hput : putRecord given name (recordOf given name) inner =
        Fields.insert given name (obj inner) := if_pos (by simp [Fields.has, hget])
    rw [hput, at?_insert_self]
    cases path with
    | nil => exact ⟨obj inner, rfl, fun _ => rfl, fun _ hnot => absurd List.mem_cons_self hnot⟩
    | cons next path =>
      obtain ⟨fs, -, rfl, -⟩ := exists_fields_of_at? hu
      have hrecord : recordOf given name = fs := by
        rw [recordOf, hget]
        rfl
      have hmem : name :: next :: path ∈ [name] :: records.map (name :: ·) ↔ next :: path ∈ records := by
        simp
      rw [hmem]
      exact h (next :: path) v (hrecord ▸ hu)
  · have hsame : (obj (putRecord given name (recordOf given name) inner)).at? (key :: path) =
        (obj given).at? (key :: path) := by
      rw [putRecord]
      split
      · exact at?_insert_of_ne hkey
      · rfl
    have hnot : key :: path ∉ [name] :: records.map (name :: ·) := by
      simp [Ne.symm hkey, hkey]
    exact ⟨v, hsame.trans hv, fun hmap => hmap.resolve_right hnot, fun _ _ => rfl⟩

/-- A record whose questions are answered is **put back**. -/
theorem within {filled : Filled} (hok : (filled.within given name).result = .ok ())
    (h : filled.result = .ok () → Keeps records (recordOf given name) filled.given) :
    Keeps ([name] :: records.map (name :: ·)) given (filled.within given name).given := by
  rw [Filled.within] at hok ⊢
  split at hok
  · simp at hok
  · next hresult => exact record (h hresult)

end Keeps

mutual

/-- **Asking for a parameter** keeps all but what stands in the place of its records. -/
theorem keeps_fillAfter : ∀ (p : Parameter) {past : List Question} {trail : String} {given : Fields},
    (fillAfter answer past trail given p).result = .ok () →
      Keeps (recordPaths p) given (fillAfter answer past trail given p).given
  | .plain name _ _ fallback, past, trail, given, hok => by
    rw [fillAfter] at hok ⊢
    rw [recordPaths]
    split at hok
    · next hmissing =>
      rw [if_pos hmissing]
      have hnone : Fields.get? given name = none := by
        simpa [Fields.has] using (Bool.and_eq_true_iff.mp hmissing).2
      dsimp only at hok ⊢
      split at hok
      · next v _ => exact Keeps.answered hnone v
      · exact nomatch hok
    · next hgiven =>
      rw [if_neg hgiven]
      exact Keeps.refl given
  | .record name _ _ _ fields, past, trail, given, hok => by
    rw [fillAfter] at hok ⊢
    rw [recordPaths]
    exact Keeps.within hok (keeps_fillAllAfter fields)
  | .signature name _ _ fields, past, trail, given, hok => by
    rw [fillAfter] at hok ⊢
    rw [recordPaths]
    exact Keeps.within hok (keeps_fillAllAfter fields)

/-- **Asking for some parameters** keeps all but what stands in the place of their records. -/
theorem keeps_fillAllAfter : ∀ (ps : List Parameter) {past : List Question} {trail : String}
    {given : Fields}, (fillAllAfter answer past trail given ps).result = .ok () →
      Keeps (recordPathsAll ps) given (fillAllAfter answer past trail given ps).given
  | [], past, trail, given, _ => by
    rw [fillAllAfter, recordPathsAll]
    exact Keeps.refl given
  | p :: ps, past, trail, given, hok => by
    rw [fillAllAfter] at hok ⊢
    rw [recordPathsAll]
    dsimp only at hok ⊢
    split at hok
    · exact nomatch hok
    · next hfirst => exact (keeps_fillAfter p hfirst).trans (keeps_fillAllAfter ps hok)

end

/-- **Asking keeps what was supplied**, whatever the parameters and the arguments are and whoever answers:
where all questions are answered, a value that is no mapping still stands at its path exactly if the path
is not that of a record.  In the place of a record it has made way for a mapping. -/
theorem fillAllAfter_keeps_supplied {ps : List Parameter}
    (hok : (fillAllAfter answer [] "" given ps).result = .ok ()) {path : List String} {v : Json}
    (hat : (obj given).at? path = some v) (hplain : v.isObject = false) :
    let filled := (fillAllAfter answer [] "" given ps).given
    ((obj filled).at? path = some v ↔ path ∉ recordPathsAll ps) ∧
    (path ∈ recordPathsAll ps → ∃ fs, (obj filled).at? path = some (.obj fs)) := by
  intro filled
  obtain ⟨w, hw, hmap, hsame⟩ := keeps_fillAllAfter ps hok path v hat
  refine ⟨⟨fun hkept hrecord => ?_, fun hnot => ?_⟩, fun hrecord => ?_⟩
  · obtain rfl : w = v := Option.some.inj (hw.symm.trans hkept)
    rw [hmap (Or.inr hrecord)] at hplain
    exact nomatch hplain
  · rw [← hsame hplain hnot]
    exact hw
  · obtain ⟨fs, rfl⟩ := isObject_eq_true.mp (hmap (Or.inr hrecord))
    exact ⟨fs, hw⟩

/-- Arguments that lack nothing, with the branches **written as a list**. -/
def listed : Fields := [
  ("git", .arr [.str "trunk", .bool false]),
  ("repo", .obj [("email", .str "dev@acme.io"), ("owner", .str "Acme"),
    ("url", .str "https://acme.io")])]

/-- Who answers nothing. -/
def silent : Prompter := fun _ q => .error (.config (.noAnswer q.label))

/-- The owner in the record **stays**, the list of branches makes way for a mapping. -/
theorem fillAllAfter_keeps_supplied_listed :
    let filled := (fillAllAfter silent [] "" listed (Builtin.Settings.parameters 2024)).given
    (obj filled).at? ["repo", "owner"] = some (.str "Acme") ∧
    ∃ fs, (obj filled).at? ["git"] = some (.obj fs) := by
  have hok : (fillAllAfter silent [] "" listed (Builtin.Settings.parameters 2024)).result = .ok () := rfl
  have hacme : (obj listed).at? ["repo", "owner"] = some (.str "Acme") := rfl
  have hbranches : (obj listed).at? ["git"] = some (.arr [.str "trunk", .bool false]) := rfl
  have howner := fillAllAfter_keeps_supplied hok hacme rfl
  have hgit := fillAllAfter_keeps_supplied hok hbranches rfl
  exact ⟨howner.1.mpr (by decide), hgit.2 (by decide)⟩

/-- Branches written as a list are **lost** although nothing is missing and nothing is asked: they would
be read as they are written, and what is left is read as if nothing had been chosen. -/
theorem fillAllAfter_loses_listed :
    let filled := fillAllAfter silent [] "" listed (Builtin.Settings.parameters 2024)
    missingAll "" listed (Builtin.Settings.parameters 2024) = [] ∧
    filled.result = .ok () ∧ filled.asked = [] ∧
    (obj listed).at? ["git"] = some (.arr [.str "trunk", .bool false]) ∧
    (obj filled.given).at? ["git"] = some (.obj []) ∧
    Builtin.Branching.decode (.arr [.str "trunk", .bool false]) = .ok ⟨"trunk", false⟩ ∧
    Builtin.Branching.decode (.obj []) = .ok .standard :=
  ⟨by decide +kernel, rfl, rfl, rfl, rfl, rfl, rfl⟩

end Scaffold.Parameter
