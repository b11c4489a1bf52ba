import Scaffold.Json.Basic

/-!
# Proofs/Json/Members — what is under a name

Of pairs with different names that are inserted in turn, each is found (`get?_insertAll_of_mem`), so an
object made of them has each as a member (`Json.member?_object`).
-/

namespace Scaffold

namespace Fields

/-- Pairs that are inserted **under other names** change nothing. -/
theorem get?_insertAll_of_not_mem {key : String} : ∀ {pairs : List (String × Json)} {fs : Fields},
    key ∉ pairs.map Prod.fst → get? (insertAll fs pairs) key = get? fs key
  | [], _, _ => rfl
  | (k, v) :: pairs, fs, h => by
    rw [List.map_cons, List.mem_cons, not_or] at h
    have hrest : get? (insertAll (insert fs k v) pairs) key = get? (insert fs k v) key :=
      get?_insertAll_of_not_mem h.2
    exact hrest.trans (get?_insert_of_ne fs k key v (Ne.symm h.1))

/-- Of pairs with different names, **each** is found. -/
theorem get?_insertAll_of_mem {key : String} {v : Json} : ∀ {pairs : List (String × Json)}
    {fs : Fields}, (pairs.map Prod.fst).Nodup → (key, v) ∈ pairs →
      get? (insertAll fs pairs) key = some v
  | (k, w) :: pairs, fs, hnodup, h => by
    rw [List.map_cons, List.nodup_cons] at hnodup
    rcases List.mem_cons.mp h with heq | h
    · obtain ⟨rfl, rfl⟩ := Prod.mk.inj heq
      have hrest : get? (insertAll (insert fs key v) pairs) key = get? (insert fs key v) key :=
        get?_insertAll_of_not_mem hnodup.1
      exact hrest.trans (get?_insert_self fs key v)
    · have hrest : get? (insertAll (insert fs k w) pairs) key = some v :=
        get?_insertAll_of_mem hnodup.2 h
      exact hrest

/-- A name that is **kept** keeps its value. -/
theorem get?_filter {keep : String × Json → Bool} {key : String} (h : ∀ v, keep (key, v) = true) :
    ∀ fs : Fields, get? (fs.filter keep) key = get? fs key
  | [] => rfl
  | (k, v) :: fs => by
    rw [List.filter_cons, get?]
    split
    · rw [get?, get?_filter h fs]
    · next hdrop =>
      have hk : k ≠ key := by
        rintro rfl
        exact hdrop (h v)
      rw [get?_filter h fs, if_neg hk]

end Fields

/-- Of pairs with different names, each is a **member** of the object they make. -/
theorem Json.member?_object {pairs : List (String × Json)} {key : String} {v : Json}
    (hnodup : (pairs.map Prod.fst).Nodup) (h : (key, v) ∈ pairs) :
    (Json.object pairs).member? key = some v := Fields.get?_insertAll_of_mem hnodup h

/-- Only an object has **members**: what is under the name among its fields. -/
theorem Json.exists_fields_of_member? {v w : Json} {name : String} (h : v.member? name = some w) :
    ∃ fs, v = .obj fs ∧ Fields.get? fs name = some w := by
  cases v with
  | obj fs => exact ⟨fs, rfl, h⟩
  | null => simp [member?] at h
  | bool b => simp [member?] at h
  | num n => simp [member?] at h
  | str s => simp [member?] at h
  | arr items => simp [member?] at h

end Scaffold
