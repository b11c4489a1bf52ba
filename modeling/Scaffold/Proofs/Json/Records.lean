import Scaffold.Json.Decode
import Scaffold.Proofs.Json.Members
import Scaffold.Proofs.Json.Order

/-!
# Proofs/Json/Records — a record read by name

Of the fields of an object, each field of a record makes something or finds a fault
(`Decode.Field.faultIn?`): that is what `need` and `may` answer.  An object is read as a record unless one
of the record's fields finds a fault, and then the fault is that of one of them
(`Shape.exists_faultIn?`, `Shape.read_obj`).  A value that stands under a new name and is read as what
stands in for the field makes no difference (`may_insert`).
-/

namespace Scaffold

/-- **A step** succeeds where its first half does, and the second after it. -/
theorem Except.bind_eq_ok {ε α β : Type} {x : Except ε α} {f : α → Except ε β} {b : β} :
    x >>= f = .ok b ↔ ∃ a, x = .ok a ∧ f a = .ok b := by
  cases x with
  | error e => simp [bind, Except.bind]
  | ok a => simp [bind, Except.bind]

/-- A step fails where its first half does, or the second **after it**. -/
theorem Except.bind_eq_error {ε α β : Type} {x : Except ε α} {f : α → Except ε β} {e : ε} :
    x >>= f = .error e ↔ x = .error e ∨ ∃ a, x = .ok a ∧ f a = .error e := by
  cases x with
  | error e' => simp [bind, Except.bind]
  | ok a => simp [bind, Except.bind]

namespace Fields

/-- A name that is taken away leaves **the others**. -/
theorem get?_erase_of_ne {fs : Fields} {key name : String} (h : name ≠ key) :
    get? (erase fs name) key = get? fs key :=
  get?_filter (fun _ => by simpa using Ne.symm h) fs

/-- Fields of which a name is taken away stay **in order**. -/
theorem pairwise_erase {fs : Fields} {name : String} (h : (fs.map Prod.fst).Pairwise (· < ·)) :
    ((erase fs name).map Prod.fst).Pairwise (· < ·) :=
  h.sublist (List.filter_sublist.map _)

/-- Ordered data of which a name is taken away **is ordered**. -/
theorem ordered_erase {fs : Fields} {name : String} :
    (Json.obj fs).Ordered → (Json.obj (erase fs name)).Ordered
  | .obj hkeys hvalues => .obj (pairwise_erase hkeys) fun f hf => hvalues f (List.mem_of_mem_filter hf)

end Fields

namespace Decode

variable {α : Type} {fs gs : Fields} {key name : String} {v : Json} {e : DecodeFault}
  {decode : Json → Except DecodeFault α} {otherwise a : α}

/-! ## One field -/

/-- The **fault** a field finds in an object, if any. -/
def Field.faultIn? (f : Field) (fs : Fields) : Option DecodeFault :=
  match Fields.get? fs f.key with
  | some v => f.fault? v
  | none => if f.required then some (.missingField f.key) else none

/-- A field that must be there finds the fault that **reading it** ends in. -/
theorem Field.faultIn?_need :
    (Field.need key decode).faultIn? fs = some e ↔ Decode.need fs key decode = .error e := by
  simp only [faultIn?, Field.need, Decode.need]
  cases Fields.get? fs key with
  | none => simp
  | some v => cases hv : decode v <;> simp [hv]

/-- A field that may be left out finds the fault that **reading it** ends in. -/
theorem Field.faultIn?_may (otherwise : α) :
    (Field.may key decode).faultIn? fs = some e ↔ Decode.may fs key decode otherwise = .error e := by
  simp only [faultIn?, Field.may, Decode.may]
  cases Fields.get? fs key with
  | none => simp
  | some v => cases hv : decode v <;> simp [hv]

/-- A field that must be there and **is read** finds no fault. -/
theorem Field.faultIn?_need_eq_none (h : Decode.need fs key decode = .ok a) :
    (Field.need key decode).faultIn? fs = none :=
  Option.eq_none_iff_forall_not_mem.mpr fun _ he => nomatch h.symm.trans (faultIn?_need.mp he)

/-- A field that may be left out and **is read** finds no fault. -/
theorem Field.faultIn?_may_eq_none (h : Decode.may fs key decode otherwise = .ok a) :
    (Field.may key decode).faultIn? fs = none :=
  Option.eq_none_iff_forall_not_mem.mpr fun _ he => nomatch h.symm.trans ((faultIn?_may _).mp he)

/-- A name that is **taken away** changes no field that must be there under another. -/
theorem need_erase_of_ne (h : name ≠ key) :
    need (Fields.erase fs name) key decode = need fs key decode := by
  rw [need, Fields.get?_erase_of_ne h, need]

/-- A name that is taken away changes no field that may be left out **under another**. -/
theorem may_erase_of_ne (h : name ≠ key) :
    may (Fields.erase fs name) key decode otherwise = may fs key decode otherwise := by
  rw [may, Fields.get?_erase_of_ne h, may]

/-- A value under a **new name** changes no field that must be there. -/
theorem need_insert_of_ne (h : name ≠ key) :
    need (Fields.insert fs name v) key decode = need fs key decode := by
  rw [need, Fields.get?_insert_of_ne _ _ _ _ h, need]

/-- A value under a new name that is read as **what stands in** for the field changes nothing. -/
theorem may_insert (habsent : Fields.get? fs name = none) (h : name = key → decode v = .ok otherwise) :
    may (Fields.insert fs name v) key decode otherwise = may fs key decode otherwise := by
  rw [may, may]
  by_cases hkey : name = key
  · subst hkey
    rw [Fields.get?_insert_self, habsent]
    exact h rfl
  · rw [Fields.get?_insert_of_ne _ _ _ _ hkey]

/-! ## Whole records -/

namespace Shape

variable {s : Shape}

/-- A fault among the values of an object is that of **one of the record's fields**. -/
theorem exists_fault?_of_namedFault? : ∀ {gs : Fields}, s.namedFault? gs = some e →
    ∃ f ∈ s.fields, ∃ v, (f.key, v) ∈ gs ∧ f.fault? v = some e
  | (k, v) :: gs, h => by
    rw [namedFault?] at h
    split at h
    · next e' hfault =>
      obtain rfl := Option.some.inj h
      obtain ⟨f, hfind, hf⟩ := Option.bind_eq_some_iff.mp hfault
      have hkey : f.key = k := by simpa using List.find?_some hfind
      exact ⟨f, List.mem_of_find?_eq_some hfind, v, hkey ▸ List.mem_cons_self, hf⟩
    · obtain ⟨f, hf, w, hw, hfault⟩ := exists_fault?_of_namedFault? h
      exact ⟨f, hf, w, List.mem_cons_of_mem _ hw, hfault⟩

/-- **An object is refused** for a fault that one of the record's fields finds. -/
theorem exists_faultIn? (hnodup : (fs.map Prod.fst).Nodup) (h : s.read (.obj fs) = .error e) :
    ∃ f ∈ s.fields, f.faultIn? fs = some e := by
  rw [read] at h
  split at h
  · next e' hnamed =>
    obtain rfl := Except.error.inj h
    obtain ⟨f, hf, v, hv, hfault⟩ := exists_fault?_of_namedFault? hnamed
    refine ⟨f, hf, ?_⟩
    rw [Field.faultIn?, Fields.get?_of_mem hnodup hv]
    exact hfault
  split at h
  · next e' hmissing =>
    obtain rfl := Except.error.inj h
    obtain ⟨f, hfind, rfl⟩ := Option.map_eq_some_iff.mp hmissing
    have hf : f.required = true ∧ Fields.get? fs f.key = none := by
      simpa [Fields.has] using List.find?_some hfind
    refine ⟨f, List.mem_of_find?_eq_some hfind, ?_⟩
    rw [Field.faultIn?, hf.2]
    exact if_pos hf.1
  · simp at h

/-- **An object is read** where no field of the record finds a fault. -/
theorem read_obj (hnodup : (fs.map Prod.fst).Nodup) (h : ∀ f ∈ s.fields, f.faultIn? fs = none) :
    s.read (.obj fs) = .ok fs := by
  cases hread : s.read (.obj fs) with
  | error e =>
    obtain ⟨f, hf, hfault⟩ := exists_faultIn? hnodup hread
    exact nomatch (h f hf).symm.trans hfault
  | ok gs =>
    rw [read] at hread
    split at hread
    · simp at hread
    split at hread
    · simp at hread
    · exact hread ▸ rfl

/-- What is read of an object are **its fields**. -/
theorem eq_of_read (h : s.read (.obj fs) = .ok gs) : gs = fs := by
  rw [read] at h
  split at h
  · simp at h
  split at h
  · simp at h
  · exact (Except.ok.inj h).symm

end Shape

/-! ## Records that lack a field -/

/-- Whether an object has every field that a record **must have**. -/
def Shape.Complete (s : Shape) (fs : Fields) : Prop :=
  ∀ f ∈ s.fields, f.required = true → Fields.has fs f.key = true

/-- An object that is read **lacks nothing**. -/
theorem Shape.complete_of_read {s : Shape} (h : s.read (.obj fs) = .ok gs) : s.Complete fs := by
  rw [read] at h
  split at h
  · simp at h
  split at h
  · simp at h
  next hmissing =>
  intro f hf hrequired
  rw [missing?, Option.map_eq_none_iff, List.find?_eq_none] at hmissing
  simpa [hrequired] using hmissing f hf

/-- A decoder of values that **hold no records**, so that none of their fields can be missing. -/
def Flat (decode : Json → Except DecodeFault α) : Prop :=
  ∀ v name, decode v ≠ .error (.missingField name)

theorem flat_text : Flat text := fun v name h => by cases v <;> simp [text] at h

theorem flat_bool : Flat bool := fun v name h => by cases v <;> simp [bool] at h

theorem flat_int32 : Flat int32 := fun v name h => by
  unfold int32 at h
  split at h
  · split at h <;> simp at h
  · simp at h

theorem flat_variant {known : List (String × α)} : Flat (variant known) := fun v name h => by
  have hnamed : ∀ s, variant.named known s ≠ .error (.missingField name) := by
    intro s hs
    rw [variant.named] at hs
    split at hs <;> simp at hs
  unfold variant at h
  split at h
  · exact hnamed _ h
  · split at h
    · next e he => exact hnamed _ (he.trans h)
    · simp at h
    · simp at h
  · simp at h
  · simp at h

theorem Flat.optional (h : Flat decode) : Flat (optional decode) := fun v name hv => by
  unfold Decode.optional at hv
  split at hv
  · simp at hv
  · cases hdecode : decode v with
    | error e =>
      rw [hdecode] at hv
      exact h v name (hdecode.trans (congrArg _ (Except.error.inj hv)))
    | ok a => simp [hdecode, Except.map] at hv

/-- Where values hold no records, a missing field is one that **must be there and is not**. -/
theorem Flat.get?_of_faultIn?_need (h : Flat decode)
    (hfault : (Field.need key decode).faultIn? fs = some (.missingField name)) :
    Fields.get? fs key = none := by
  have hneed := Field.faultIn?_need.mp hfault
  rw [need] at hneed
  split at hneed
  · exact absurd hneed (h _ _)
  · assumption

/-- Where values hold no records, a field that may be left out **misses nothing**. -/
theorem Flat.faultIn?_may_ne (h : Flat decode) :
    (Field.may key decode).faultIn? fs ≠ some (.missingField name) := by
  intro hfault
  rw [Field.faultIn?, Field.may] at hfault
  cases hget : Fields.get? fs key with
  | none => simp [hget] at hfault
  | some v =>
    cases hdecode : decode v with
    | ok a => simp [hget, hdecode] at hfault
    | error e =>
      simp only [hget, hdecode, Option.some.injEq] at hfault
      exact h v name (hfault ▸ hdecode)

end Decode

end Scaffold
