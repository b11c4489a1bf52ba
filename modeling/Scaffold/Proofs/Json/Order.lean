import Mathlib.Data.List.Nodup
import Mathlib.Data.String.Basic
import Scaffold.Arguments.File

/-!
# Proofs/Json/Order — fields in order

The names of an object stand in order, each once, at every level of it (`Json.Ordered`).  Inserting
keeps that (`Json.Ordered.insert`), so whatever is read from a text is ordered, be it JSON
(`Json.ordered_settle`) or YAML (`Json.ordered_ofYaml?`), and so are the arguments of a file
(`Arguments.ordered_load`).  Of ordered fields each is found under its name (`Fields.get?_of_mem`), and
they are told by what is found (`Fields.ext_of_pairwise`), so it does not matter in which order two of
them were inserted (`Fields.insert_comm`).
-/

namespace Scaffold

/-- Data whose objects have their names **in order**, each once, at every level. -/
inductive Json.Ordered : Json → Prop
  | null : Ordered .null
  | bool (b : Bool) : Ordered (.bool b)
  | num (n : Number) : Ordered (.num n)
  | str (s : String) : Ordered (.str s)
  | arr {items : List Json} : (∀ v ∈ items, Ordered v) → Ordered (.arr items)
  | obj {fs : Fields} : (fs.map Prod.fst).Pairwise (· < ·) → (∀ f ∈ fs, Ordered f.2) →
    Ordered (.obj fs)

namespace Fields

variable {fs : Fields} {key : String} {v : Json}

/-- **What is found** is held. -/
theorem mem_of_get? : ∀ {fs : Fields}, get? fs key = some v → (key, v) ∈ fs
  | [], h => by simp at h
  | (k, w) :: fs, h => by
    rw [get?] at h
    split at h
    · next hk =>
      obtain rfl := Option.some.inj h
      exact hk ▸ List.mem_cons_self
    · exact List.mem_cons_of_mem _ (mem_of_get? h)

/-- Of fields with different names, **each** is found. -/
theorem get?_of_mem : ∀ {fs : Fields}, (fs.map Prod.fst).Nodup → (key, v) ∈ fs →
    get? fs key = some v
  | (k, w) :: fs, hnodup, h => by
    rw [List.map_cons, List.nodup_cons] at hnodup
    rw [get?]
    rcases List.mem_cons.mp h with heq | hmem
    · obtain ⟨rfl, rfl⟩ := Prod.mk.inj heq
      exact if_pos rfl
    · have hne : k ≠ key := by
        rintro rfl
        exact hnodup.1 (List.mem_map.mpr ⟨_, hmem, rfl⟩)
      rw [if_neg hne]
      exact get?_of_mem hnodup.2 hmem

/-- A name that is **not among the names** is not found. -/
theorem get?_eq_none : get? fs key = none ↔ key ∉ fs.map Prod.fst := by
  induction fs with
  | nil => simp
  | cons f fs ih =>
    rw [get?, List.map_cons, List.mem_cons, not_or]
    by_cases hk : f.1 = key
    · simp [hk]
    · simp [hk, ih, Ne.symm hk]

/-- **An insertion** adds a field, and at most takes one away. -/
theorem mem_insert {f : String × Json} : ∀ {fs : Fields}, f ∈ insert fs key v →
    f = (key, v) ∨ f ∈ fs
  | [], h => Or.inl (List.mem_singleton.mp h)
  | (k, w) :: fs, h => by
    rw [insert] at h
    split at h
    · exact (List.mem_cons.mp h).imp_right (List.mem_cons_of_mem _)
    split at h
    · exact List.mem_cons.mp h
    · rcases List.mem_cons.mp h with rfl | h
      · exact Or.inr List.mem_cons_self
      · exact (mem_insert h).imp_right (List.mem_cons_of_mem _)

/-- **Insertions in turn** add fields of the pairs. -/
theorem mem_insertAll {f : String × Json} : ∀ {pairs : List (String × Json)} {fs : Fields},
    f ∈ insertAll fs pairs → f ∈ fs ∨ f ∈ pairs
  | [], _, h => Or.inl h
  | (k, w) :: pairs, fs, h => by
    have h : f ∈ insertAll (insert fs k w) pairs := h
    rcases mem_insertAll h with h | h
    · exact (mem_insert h).elim (fun hf => Or.inr (hf ▸ List.mem_cons_self)) Or.inl
    · exact Or.inr (List.mem_cons_of_mem _ h)

/-- **An insertion** keeps names in order. -/
theorem pairwise_insert : ∀ {fs : Fields}, (fs.map Prod.fst).Pairwise (· < ·) →
    ((insert fs key v).map Prod.fst).Pairwise (· < ·)
  | [], _ => List.pairwise_singleton _ _
  | (k, w) :: fs, h => by
    rw [List.map_cons, List.pairwise_cons] at h
    rw [insert]
    split
    · next hk => exact hk ▸ List.pairwise_cons.mpr h
    split
    · next hlt =>
      refine List.pairwise_cons.mpr ⟨fun name hname => ?_, List.pairwise_cons.mpr h⟩
      rcases List.mem_cons.mp hname with rfl | hname
      · exact hlt
      · exact hlt.trans (h.1 name hname)
    · next hne hlt =>
      refine List.pairwise_cons.mpr ⟨fun name hname => ?_, pairwise_insert h.2⟩
      obtain ⟨f, hf, rfl⟩ := List.mem_map.mp hname
      rcases mem_insert hf with rfl | hf
      · exact lt_of_le_of_ne (not_lt.mp hlt) hne
      · exact h.1 f.1 (List.mem_map_of_mem hf)

/-- **Insertions in turn** keep names in order. -/
theorem pairwise_insertAll : ∀ (pairs : List (String × Json)) {fs : Fields},
    (fs.map Prod.fst).Pairwise (· < ·) → ((insertAll fs pairs).map Prod.fst).Pairwise (· < ·)
  | [], _, h => h
  | (_, _) :: pairs, _, h => pairwise_insertAll pairs (pairwise_insert h)

/-- Names in order are **different**. -/
theorem nodup_of_pairwise (h : (fs.map Prod.fst).Pairwise (· < ·)) : (fs.map Prod.fst).Nodup :=
  h.imp ne_of_lt

/-- Fields in order that **find the same** under every name are the same. -/
theorem ext_of_pairwise {gs : Fields} (hf : (fs.map Prod.fst).Pairwise (· < ·))
    (hg : (gs.map Prod.fst).Pairwise (· < ·)) (h : ∀ key, get? fs key = get? gs key) : fs = gs := by
  have hf' := nodup_of_pairwise hf
  have hg' := nodup_of_pairwise hg
  have hmem : ∀ f, f ∈ fs ↔ f ∈ gs := fun ⟨key, v⟩ =>
    ⟨fun hf => mem_of_get? ((h key).symm.trans (get?_of_mem hf' hf)),
      fun hg => mem_of_get? ((h key).trans (get?_of_mem hg' hg))⟩
  have hperm : fs.Perm gs :=
    (List.perm_ext_iff_of_nodup (List.Nodup.of_map _ hf') (List.Nodup.of_map _ hg')).mpr hmem
  exact hperm.eq_of_pairwise (fun _ _ _ _ hab hba => absurd hab (lt_asymm hba))
    (List.pairwise_map.mp hf) (List.pairwise_map.mp hg)

/-- **Inserting what is there** changes nothing. -/
theorem insert_of_get? (hf : (fs.map Prod.fst).Pairwise (· < ·)) (h : get? fs key = some v) :
    insert fs key v = fs := by
  refine ext_of_pairwise (pairwise_insert hf) hf fun other => ?_
  by_cases hkey : key = other
  · rw [← hkey, get?_insert_self, h]
  · rw [get?_insert_of_ne fs key other v hkey]

/-- Of two values inserted under one name **the later** stands. -/
theorem insert_insert_self (w : Json) : ∀ fs : Fields, insert (insert fs key v) key w = insert fs key w
  | [] => by simp [insert]
  | (k, u) :: fs => by
    rw [insert, insert]
    split
    · simp [insert]
    split
    · simp [insert]
    · next hne hlt => rw [insert, if_neg hne, if_neg hlt, insert_insert_self w fs]

/-- Values inserted under **two names** may be inserted in either order. -/
theorem insert_comm {other : String} {w : Json} (hf : (fs.map Prod.fst).Pairwise (· < ·))
    (hne : key ≠ other) : insert (insert fs key v) other w = insert (insert fs other w) key v := by
  refine ext_of_pairwise (pairwise_insert (pairwise_insert hf)) (pairwise_insert (pairwise_insert hf))
    fun name => ?_
  by_cases hother : other = name
  · subst hother
    rw [get?_insert_self, get?_insert_of_ne _ _ _ _ hne, get?_insert_self]
  · rw [get?_insert_of_ne _ _ _ _ hother]
    by_cases hkey : key = name
    · subst hkey
      rw [get?_insert_self, get?_insert_self]
    · rw [get?_insert_of_ne _ _ _ _ hkey, get?_insert_of_ne _ _ _ _ hkey,
        get?_insert_of_ne _ _ _ _ hother]

end Fields

namespace Json

variable {pairs : List (String × Json)}

/-- The names of ordered data are **in order**. -/
theorem Ordered.pairwise {fs : Fields} : (Json.obj fs).Ordered → (fs.map Prod.fst).Pairwise (· < ·)
  | .obj hkeys _ => hkeys

/-- The names of ordered data are **different**. -/
theorem Ordered.nodup {fs : Fields} (h : (Json.obj fs).Ordered) : (fs.map Prod.fst).Nodup :=
  Fields.nodup_of_pairwise h.pairwise

/-- A value in ordered data is **ordered**. -/
theorem Ordered.get? {fs : Fields} {key : String} {v : Json} :
    (Json.obj fs).Ordered → Fields.get? fs key = some v → v.Ordered
  | .obj _ hvalues, h => hvalues _ (Fields.mem_of_get? h)

/-- The **empty** mapping is ordered. -/
theorem ordered_nil : (Json.obj []).Ordered :=
  .obj List.Pairwise.nil fun _ hf => absurd hf List.not_mem_nil

/-- A value that is **inserted** keeps data ordered. -/
theorem Ordered.insert {fs : Fields} {v : Json} (h : (Json.obj fs).Ordered) (hv : v.Ordered)
    (key : String) : (Json.obj (Fields.insert fs key v)).Ordered := by
  obtain _ | _ | _ | _ | _ | ⟨hkeys, hvalues⟩ := h
  refine .obj (Fields.pairwise_insert hkeys) fun f hf => ?_
  rcases Fields.mem_insert hf with rfl | hf
  · exact hv
  · exact hvalues f hf

/-- Pairs of ordered values make an **ordered object**. -/
theorem ordered_ofPairs (h : ∀ p ∈ pairs, p.2.Ordered) : (Json.obj (Fields.ofPairs pairs)).Ordered :=
  .obj (Fields.pairwise_insertAll _ List.Pairwise.nil) fun f hf =>
    (Fields.mem_insertAll hf).elim (fun hnil => absurd hnil List.not_mem_nil) (h f)

/-! ## What is read -/

mutual

/-- **Settled** data is ordered. -/
theorem ordered_settle : ∀ v : Json, v.settle.Ordered
  | .null => .null
  | .bool b => .bool b
  | .num n => .num n
  | .str s => .str s
  | .arr items => .arr (ordered_settleItems items)
  | .obj members => ordered_ofPairs (ordered_settleMembers members)

/-- Settled items are ordered. -/
theorem ordered_settleItems : ∀ items : List Json, ∀ v ∈ settleItems items, v.Ordered
  | [] => fun _ hv => absurd hv List.not_mem_nil
  | v :: vs => List.forall_mem_cons.mpr ⟨ordered_settle v, ordered_settleItems vs⟩

/-- Settled members are ordered. -/
theorem ordered_settleMembers : ∀ members : List (String × Json),
    ∀ f ∈ settleMembers members, f.2.Ordered
  | [] => fun _ hf => absurd hf List.not_mem_nil
  | (_, v) :: ms => List.forall_mem_cons.mpr ⟨ordered_settle v, ordered_settleMembers ms⟩

end

/-- A **scalar** of a document is ordered. -/
theorem ordered_ofYamlScalar? : ∀ {y : Yaml.Value} {v : Json}, ofYamlScalar? y = some v → v.Ordered
  | .null, _, h => Option.some.inj h ▸ .null
  | .bool b, _, h => Option.some.inj h ▸ .bool b
  | .num (.int n), _, h => Option.some.inj h ▸ .num (.int n)
  | .num (.float x), _, h => by
    obtain rfl := Option.some.inj h
    split
    · exact .num (.float x)
    · exact .null
  | .str s, _, h => Option.some.inj h ▸ .str s
  | .seq _, _, h => by simp [ofYamlScalar?] at h
  | .map _, _, h => by simp [ofYamlScalar?] at h
  | .tagged _ _, _, h => by simp [ofYamlScalar?] at h

mutual

/-- **Data from a document** is ordered. -/
theorem ordered_ofYaml? : ∀ {n : Yaml.Node} {v : Json}, ofYaml? n = some v → v.Ordered
  | .scalar tag plain s, v, h => by
    rw [ofYaml?] at h
    obtain ⟨y, -, hy⟩ := Option.bind_eq_some_iff.mp h
    exact ordered_ofYamlScalar? hy
  | .seq tag items, v, h => by
    rw [ofYaml?] at h
    split at h
    · simp at h
    · obtain ⟨vs, hvs, rfl⟩ := Option.map_eq_some_iff.mp h
      exact .arr (ordered_ofYamlItems? hvs)
  | .map tag pairs, v, h => by
    rw [ofYaml?] at h
    split at h
    · simp at h
    · obtain ⟨ps, hps, rfl⟩ := Option.map_eq_some_iff.mp h
      exact ordered_ofPairs (ordered_ofYamlPairs? hps)
  | .anchored _ n, v, h => by
    rw [ofYaml?] at h
    exact ordered_ofYaml? h
  | .alias _, v, h => by simp [ofYaml?] at h

/-- Data from items is ordered. -/
theorem ordered_ofYamlItems? : ∀ {ns : List Yaml.Node} {vs : List Json},
    ofYamlItems? ns = some vs → ∀ v ∈ vs, v.Ordered
  | [], vs, h => by
    obtain rfl : vs = [] := by simpa [ofYamlItems?, eq_comm] using h
    exact fun v hv => absurd hv List.not_mem_nil
  | n :: ns, vs, h => by
    rw [ofYamlItems?] at h
    split at h
    · next v ws hv hws =>
      obtain rfl := Option.some.inj h
      exact List.forall_mem_cons.mpr ⟨ordered_ofYaml? hv, ordered_ofYamlItems? hws⟩
    · simp at h

/-- Data from pairs is ordered. -/
theorem ordered_ofYamlPairs? : ∀ {ns : List (Yaml.Node × Yaml.Node)} {ps : List (String × Json)},
    ofYamlPairs? ns = some ps → ∀ p ∈ ps, p.2.Ordered
  | [], ps, h => by
    obtain rfl : ps = [] := by simpa [ofYamlPairs?, eq_comm] using h
    exact fun p hp => absurd hp List.not_mem_nil
  | (.scalar _ _ k, n) :: ns, ps, h => by
    rw [ofYamlPairs?] at h
    split at h
    · next v qs hv hqs =>
      obtain rfl := Option.some.inj h
      exact List.forall_mem_cons.mpr ⟨ordered_ofYaml? hv, ordered_ofYamlPairs? hqs⟩
    · simp at h
  | (.seq _ _, _) :: _, ps, h => by simp [ofYamlPairs?] at h
  | (.map _ _, _) :: _, ps, h => by simp [ofYamlPairs?] at h
  | (.anchored _ _, _) :: _, ps, h => by simp [ofYamlPairs?] at h
  | (.alias _, _) :: _, ps, h => by simp [ofYamlPairs?] at h

end

end Json

/-- **The arguments of a file** are ordered. -/
theorem Arguments.ordered_load {d : Disk} {p : Path} {fs : Fields}
    (h : Arguments.load d p = .ok fs) : (Json.obj fs).Ordered := by
  rw [load] at h
  split at h
  · simp at h
  next text _ =>
  simp only at h
  split at h
  · next fs' hvalue =>
    obtain rfl := Except.ok.inj h
    split at hvalue
    · next v hread =>
      obtain rfl := Option.some.inj hvalue
      obtain ⟨raw, -, hraw⟩ := Option.map_eq_some_iff.mp hread
      exact hraw ▸ Json.ordered_settle raw
    · obtain ⟨n, -, hn⟩ := Option.bind_eq_some_iff.mp hvalue
      exact Json.ordered_ofYaml? hn
  · obtain rfl := Except.ok.inj h
    exact Json.ordered_nil
  · simp at h
  · simp at h

end Scaffold
