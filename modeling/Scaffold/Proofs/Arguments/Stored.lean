import Scaffold.Proofs.Arguments.Layers
import Scaffold.Proofs.Text.Split

/-!
# Proofs/Arguments/Stored — setting a value at a dotted key, or nothing

A value is set in place, and mappings are made on the way before it is known whether the rest of the way
can be gone.  Nothing is left of them where it cannot: setting below a mapping that has just been made
never fails (`insertAt_nil`), so a failure comes before the first one is made, and setting in place is
setting in a copy (`store_eq`).  It fails exactly if a value that is no mapping is in the way
(`insertAt_eq_error`), and values set at two keys of which none leads to the other may be set in either
order (`insertAt_comm`).  All of this together is `storePath_atomic`.
-/

namespace Scaffold.Arguments

open Json

variable {context left : Context} {value more : Json} {keys others : List String}

/-! ## Values in the way -/

/-- A value that is no mapping **blocks** the way along some names: it stands behind the first of them,
and before the last. -/
def Blocked (context : Context) (keys : List String) : Prop :=
  ∃ front v, front ≠ [] ∧ front <+: keys ∧ front ≠ keys ∧ (obj context).at? front = some v ∧
    v.isObject = false

/-- Behind a **single name** nothing is in the way. -/
theorem not_blocked_singleton (key : String) : ¬Blocked context [key] := by
  rintro ⟨_ | ⟨head, front⟩, v, hne, hfront, hnot, -, -⟩
  · exact hne rfl
  · obtain ⟨rfl, hrest⟩ := List.cons_prefix_cons.mp hfront
    rw [List.prefix_nil.mp hrest] at hnot
    exact hnot rfl

/-- A value under the first name that is **no mapping** blocks the way. -/
theorem blocked_of_get? {head next : String} {rest : List String} {v : Json}
    (hget : Fields.get? context head = some v) (hv : v.isObject = false) :
    Blocked context (head :: next :: rest) :=
  ⟨[head], v, List.cons_ne_nil _ _, by simp, by simp, at?_singleton.trans hget, hv⟩

/-- Under **nothing** no way is blocked. -/
theorem not_blocked_of_get? {head : String} {rest : List String}
    (hget : Fields.get? context head = none) : ¬Blocked context (head :: rest) := by
  rintro ⟨_ | ⟨key, front⟩, v, hne, hfront, -, hat, -⟩
  · exact hne rfl
  · obtain ⟨rfl, -⟩ := List.cons_prefix_cons.mp hfront
    rw [at?_obj_cons, hget] at hat
    exact nomatch hat

/-- Under a **mapping** the way is blocked if it is within. -/
theorem blocked_cons {head : String} {rest : List String} {inner : Fields}
    (hget : Fields.get? context head = some (.obj inner)) :
    Blocked context (head :: rest) ↔ Blocked inner rest := by
  constructor
  · rintro ⟨_ | ⟨key, front⟩, v, hne, hfront, hnot, hat, hv⟩
    · exact absurd rfl hne
    · obtain ⟨rfl, hrest⟩ := List.cons_prefix_cons.mp hfront
      rw [at?_obj_cons, hget, Option.bind_some] at hat
      exact ⟨front, v, ne_nil_of_at? hv hat, hrest, fun heq => hnot (by rw [heq]), hat, hv⟩
  · rintro ⟨front, v, -, hfront, hnot, hat, hv⟩
    refine ⟨head :: front, v, List.cons_ne_nil _ _, List.cons_prefix_cons.mpr ⟨rfl, hfront⟩,
      fun heq => hnot (List.cons.inj heq).2, ?_, hv⟩
    rw [at?_obj_cons, hget]
    exact hat

/-! ## Setting in a copy -/

/-- The mapping that holds nothing but a value **at a path**. -/
def nested : List String → Json → Fields
  | [], _ => []
  | [key], value => [(key, value)]
  | head :: next :: rest, value => [(head, .obj (nested (next :: rest) value))]

/-- Below **nothing** a value is always set: the mappings on the way are made for it. -/
theorem insertAt_nil (value : Json) : ∀ keys : List String,
    insertAt [] value keys = .ok (nested keys value)
  | [] => rfl
  | [_] => rfl
  | head :: next :: rest => by
    rw [insertAt, Fields.get?_nil, Option.getD_none]
    dsimp only
    rw [insertAt_nil value (next :: rest)]
    rfl

/-- Below a **mapping** a value is set in that mapping. -/
theorem insertAt_of_get? {head next : String} {rest : List String} {inner : Fields}
    (hget : Fields.get? context head = some (.obj inner)) :
    insertAt context value (head :: next :: rest) =
      (insertAt inner value (next :: rest)).map fun inner => Fields.insert context head (.obj inner) := by
  rw [insertAt, hget]
  rfl

/-- Below **no value** the mappings on the way are made. -/
theorem insertAt_of_get?_none {head next : String} {rest : List String}
    (hget : Fields.get? context head = none) : insertAt context value (head :: next :: rest) =
      .ok (Fields.insert context head (.obj (nested (next :: rest) value))) := by
  rw [insertAt, hget, Option.getD_none]
  dsimp only
  rw [insertAt_nil]
  rfl

/-- Below a value that is **no mapping** nothing can be set. -/
theorem insertAt_of_not_object {head next : String} {rest : List String} {v : Json}
    (hget : Fields.get? context head = some v) (hv : v.isObject = false) :
    insertAt context value (head :: next :: rest) =
      .error (.notMapping head (Text.join "." (head :: next :: rest))) := by
  rw [insertAt, hget, Option.getD_some]
  split
  · simp [isObject] at hv
  · rfl

/-- **Setting fails** exactly if something is in the way. -/
theorem insertAt_eq_error : ∀ {keys : List String} {context : Context},
    (∃ fault, insertAt context value keys = .error fault) ↔ Blocked context keys
  | [], context => by
    refine iff_of_false (fun ⟨_, h⟩ => nomatch h) ?_
    rintro ⟨front, v, hne, hfront, -⟩
    exact hne (List.prefix_nil.mp hfront)
  | [key], context => iff_of_false (fun ⟨_, h⟩ => nomatch h) (not_blocked_singleton key)
  | head :: next :: rest, context => by
    cases hget : Fields.get? context head with
    | none =>
      rw [insertAt_of_get?_none hget]
      exact iff_of_false (fun ⟨_, h⟩ => nomatch h) (not_blocked_of_get? hget)
    | some v =>
      cases hv : v.isObject with
      | false =>
        rw [insertAt_of_not_object hget hv]
        exact iff_of_true ⟨_, rfl⟩ (blocked_of_get? hget hv)
      | true =>
        obtain ⟨inner, rfl⟩ := isObject_eq_true.mp hv
        rw [insertAt_of_get? hget, blocked_cons hget, ← insertAt_eq_error]
        cases insertAt inner value (next :: rest) <;> simp [Except.map]

/-- A value that **could be set** had nothing in its way. -/
theorem not_blocked_of_insertAt (h : insertAt context value keys = .ok left) :
    ¬Blocked context keys := fun hblocked => by
  obtain ⟨fault, hfault⟩ := (@insertAt_eq_error value keys context).mpr hblocked
  rw [h] at hfault
  exact nomatch hfault

/-- A mapping **on the way** keeps what it holds under other names. -/
theorem entries_insertAt {front rest : List String} {name : String} {inner : Fields}
    (h : insertAt context value (front ++ name :: rest) = .ok left)
    (hat : (obj context).at? front = some (.obj inner)) :
    ∃ fs, (obj left).at? front = some (.obj fs) ∧
      ∀ other, name ≠ other → Fields.get? fs other = Fields.get? inner other := by
  have hvalue := at?_insertAt (by simp) h
  rw [at?_append] at hvalue
  obtain ⟨u, hu, hbehind⟩ := Option.bind_eq_some_iff.mp hvalue
  obtain ⟨fs, -, rfl, -⟩ := exists_fields_of_at? hbehind
  refine ⟨fs, hu, fun other hne => ?_⟩
  have happart : ¬Comparable (front ++ name :: rest) (front ++ [other]) := by
    simp [Comparable, List.prefix_append_right_inj, hne, Ne.symm hne]
  have hsame := at?_insertAt_of_apart h happart
  rwa [at?_append, at?_append, hu, hat, Option.bind_some, Option.bind_some, at?_singleton,
    at?_singleton] at hsame

/-- **Setting a value that is no mapping** is laying on the mapping that holds nothing else. -/
theorem overlay_nested (hv : value.isObject = false) : ∀ {keys : List String} {context left : Context},
    keys ≠ [] → insertAt context value keys = .ok left → overlay context (nested keys value) = left
  | [], _, _, hne, _ => absurd rfl hne
  | [key], context, left, _, h => by
    rw [nested, overlay, overlay, overlayValue_of_not_object hv]
    exact Except.ok.inj h
  | head :: next :: rest, context, left, _, h => by
    rw [nested, overlay, overlay]
    cases hget : Fields.get? context head with
    | none =>
      rw [insertAt_of_get?_none hget] at h
      rw [overlayValue_none]
      exact Except.ok.inj h
    | some v =>
      obtain ⟨inner, inserted, hinner, hrest, rfl⟩ := insertAt_cons h
      rw [hget, Option.getD_some] at hinner
      rw [hinner, overlayValue_object, overlay_nested hv (List.cons_ne_nil _ _) hrest]

/-! ## Two values -/

/-- Setting a value **renews the entry** under the first name, and depends on nothing else. -/
theorem exists_entry_of_insertAt {head : String} {rest : List String}
    (h : insertAt context value (head :: rest) = .ok left) :
    ∃ entry, left = Fields.insert context head entry ∧ ∀ other : Context,
      Fields.get? other head = Fields.get? context head →
        insertAt other value (head :: rest) = .ok (Fields.insert other head entry) := by
  cases rest with
  | nil => exact ⟨value, (Except.ok.inj h).symm, fun _ _ => rfl⟩
  | cons next rest =>
    obtain ⟨inner, inserted, hinner, hrest, rfl⟩ := insertAt_cons h
    refine ⟨.obj inserted, rfl, fun other hother => ?_⟩
    rw [insertAt, hother, hinner]
    dsimp only
    rw [hrest]
    rfl

/-- The mapping **below a name** of ordered arguments is ordered, also where it is only made. -/
theorem ordered_of_getD {head : String} {inner : Fields} (hordered : (obj context).Ordered)
    (h : (Fields.get? context head).getD (.obj []) = .obj inner) : (obj inner).Ordered := by
  cases hget : Fields.get? context head with
  | none =>
    rw [hget, Option.getD_none] at h
    exact h ▸ ordered_nil
  | some v =>
    rw [hget, Option.getD_some] at h
    exact h ▸ hordered.get? hget

/-- **Setting** an ordered value keeps arguments ordered. -/
theorem ordered_insertAt (hvalue : value.Ordered) : ∀ {keys : List String} {context left : Context},
    (obj context).Ordered → insertAt context value keys = .ok left → (obj left).Ordered
  | [], _, _, hordered, h => Except.ok.inj h ▸ hordered
  | [key], _, _, hordered, h => Except.ok.inj h ▸ hordered.insert hvalue key
  | head :: next :: rest, context, left, hordered, h => by
    obtain ⟨inner, inserted, hinner, hrest, rfl⟩ := insertAt_cons h
    exact hordered.insert (ordered_insertAt hvalue (ordered_of_getD hordered hinner) hrest) head

/-- **Two values** set at keys of which none leads to the other may be set in either order. -/
theorem insertAt_comm : ∀ {keys others : List String} {context left right : Context},
    (obj context).Ordered → ¬Comparable keys others → insertAt context value keys = .ok left →
      insertAt context more others = .ok right →
        ∃ both, insertAt left more others = .ok both ∧ insertAt right value keys = .ok both
  | [], _, _, _, _, _, happart, _, _ => absurd (Or.inl List.nil_prefix) happart
  | _ :: _, [], _, _, _, _, happart, _, _ => absurd (Or.inr List.nil_prefix) happart
  | head :: keys, other :: others, context, left, right, hordered, happart, hleft, hright => by
    by_cases hne : head = other
    · subst hne
      rw [comparable_cons] at happart
      -- Both go on below the same name, in the mapping there.
      obtain ⟨next, rest, rfl⟩ := exists_cons_of_apart happart
      obtain ⟨key, tail, rfl⟩ := exists_cons_of_apart fun h => happart h.symm
      obtain ⟨inner, one, hinner, hone, rfl⟩ := insertAt_cons hleft
      obtain ⟨inner', two, hinner', htwo, rfl⟩ := insertAt_cons hright
      obtain rfl : inner = inner' := obj.inj (hinner.symm.trans hinner')
      obtain ⟨both, hboth, hboth'⟩ := insertAt_comm (ordered_of_getD hordered hinner) happart hone htwo
      refine ⟨Fields.insert context head (.obj both), ?_, ?_⟩
      · rw [insertAt_of_get? (Fields.get?_insert_self _ _ _), hboth]
        exact congrArg Except.ok (Fields.insert_insert_self _ _)
      · rw [insertAt_of_get? (Fields.get?_insert_self _ _ _), hboth']
        exact congrArg Except.ok (Fields.insert_insert_self _ _)
    · obtain ⟨one, rfl, hone⟩ := exists_entry_of_insertAt hleft
      obtain ⟨two, rfl, htwo⟩ := exists_entry_of_insertAt hright
      refine ⟨_, htwo _ (Fields.get?_insert_of_ne _ _ _ _ hne), ?_⟩
      rw [hone _ (Fields.get?_insert_of_ne _ _ _ _ (Ne.symm hne)),
        Fields.insert_comm hordered.pairwise hne]

/-- What is in the way of one key **stays** there, and nothing else comes into it, where a value is set at
another of which neither leads to the other. -/
theorem blocked_insertAt (hkeys : keys ≠ []) (happart : ¬Comparable keys others)
    (h : insertAt context value keys = .ok left) : Blocked left others ↔ Blocked context others := by
  have hvalue := at?_insertAt hkeys h
  have hfree := not_blocked_of_insertAt h
  refine exists₂_congr fun front v => and_congr_right fun hne => and_congr_right fun hfront =>
    and_congr_right fun hnot => ?_
  by_cases hcomparable : Comparable keys front
  · -- Only a front of both keys is comparable, and that leads to a mapping before and after.
    have hback : front <+: keys := hcomparable.resolve_left fun hpre =>
      happart (Or.inl (hpre.trans hfront))
    have hproper : front ≠ keys := by
      rintro rfl
      exact happart (Or.inl hfront)
    refine iff_of_false ?_ fun ⟨hat, hv⟩ => hfree ⟨front, v, hne, hback, hproper, hat, hv⟩
    rintro ⟨hat, hv⟩
    obtain ⟨_ | ⟨name, rest⟩, rfl⟩ := hback
    · exact hproper (List.append_nil front).symm
    · rw [at?_append, hat, Option.bind_some] at hvalue
      obtain ⟨fs, -, rfl, -⟩ := exists_fields_of_at? hvalue
      exact nomatch hv
  · rw [at?_insertAt_of_apart h hcomparable]

/-! ## Setting in place -/

/-- The **error** tells the key as it was written. -/
theorem join_names (key : List Char) :
    Text.join "." ((Text.splitChar '.' key).map String.ofList) = String.ofList key := by
  have h := @Text.join_split '.' (String.ofList key)
  rw [Text.split, String.toList_ofList] at h
  exact h

/-- The copy a value was set in, or else what was there **before**. -/
def orKept {ε : Type} (context : Context) : Except ε Context → Context × Except ε Unit
  | .ok left => (left, .ok ())
  | .error e => (context, .error e)

section Step

variable {key front back : List Char}

/-- At a key **without a dot** the value itself is put in. -/
theorem store_of_splitOnce?_eq_none (hkey : Text.splitOnce? '.' key = none) :
    store context value key = (Fields.insert context (String.ofList key) value, .ok ()) := by
  rw [store]
  split
  · rfl
  · next heq => simp [hkey] at heq

/-- In front of the dot a **mapping** is entered. -/
theorem store_of_get? {inner : Fields} (hkey : Text.splitOnce? '.' key = some (front, back))
    (hget : Fields.get? context (String.ofList front) = some (.obj inner)) :
    store context value key =
      (Fields.insert context (String.ofList front) (.obj (store inner value back).1),
        (store inner value back).2) := by
  rw [store]
  split
  · next heq => simp [hkey] at heq
  · next heq =>
    obtain ⟨rfl, rfl⟩ := Prod.mk.inj (Option.some.inj (hkey.symm.trans heq))
    simp only [Fields.has, hget, Option.isSome_some, if_true]

/-- In front of the dot **nothing** is replaced by an empty mapping, and that is entered. -/
theorem store_of_get?_none (hkey : Text.splitOnce? '.' key = some (front, back))
    (hget : Fields.get? context (String.ofList front) = none) :
    store context value key =
      (Fields.insert context (String.ofList front) (.obj (store [] value back).1),
        (store [] value back).2) := by
  rw [store]
  split
  · next heq => simp [hkey] at heq
  · next heq =>
    obtain ⟨rfl, rfl⟩ := Prod.mk.inj (Option.some.inj (hkey.symm.trans heq))
    simp only [Fields.has, hget, Option.isSome_none, Bool.false_eq_true, if_false,
      Fields.get?_insert_self, Fields.insert_insert_self]

/-- In front of the dot a value that is **no mapping** is an error. -/
theorem store_of_not_object {v : Json} (hkey : Text.splitOnce? '.' key = some (front, back))
    (hget : Fields.get? context (String.ofList front) = some v) (hv : v.isObject = false) :
    store context value key =
      (context, .error (.notMapping (String.ofList front) (String.ofList key))) := by
  rw [store]
  split
  · next heq => simp [hkey] at heq
  · next heq =>
    obtain ⟨rfl, rfl⟩ := Prod.mk.inj (Option.some.inj (hkey.symm.trans heq))
    simp only [Fields.has, hget, Option.isSome_some, if_true]
    split
    · next hobject =>
      rw [Option.some.inj hobject] at hv
      simp [isObject] at hv
    · rfl

end Step

/-- **Setting in place** is setting in a copy that is kept if the value could be set, and let go if
not. -/
theorem store_eq (key : List Char) {context : Context} (hordered : (obj context).Ordered) :
    store context value key =
      orKept context (insertAt context value ((Text.splitChar '.' key).map String.ofList)) := by
  cases hkey : Text.splitOnce? '.' key with
  | none =>
    rw [store_of_splitOnce?_eq_none hkey, Text.splitChar_of_splitOnce?_eq_none hkey]
    rfl
  | some cut =>
    obtain ⟨front, back⟩ := cut
    have hshort : back.length < key.length := Text.length_of_splitOnce? hkey
    have hnames := join_names key
    rw [Text.splitChar_of_splitOnce? hkey] at hnames ⊢
    obtain ⟨p, ps, hback⟩ := List.exists_cons_of_ne_nil (@Text.splitChar_ne_nil '.' back)
    have ih : ∀ inner : Context, (obj inner).Ordered → store inner value back =
        orKept inner (insertAt inner value (String.ofList p :: ps.map String.ofList)) :=
      fun inner hinner => by rw [store_eq back hinner, hback, List.map_cons]
    rw [hback, List.map_cons, List.map_cons] at hnames ⊢
    cases hget : Fields.get? context (String.ofList front) with
    | none =>
      -- The mapping that is made on the way takes the value.
      rw [store_of_get?_none hkey hget, ih [] ordered_nil, insertAt_nil, insertAt_of_get?_none hget]
      rfl
    | some v =>
      cases hv : v.isObject with
      | false => rw [store_of_not_object hkey hget hv, insertAt_of_not_object hget hv, hnames, orKept]
      | true =>
        obtain ⟨inner, rfl⟩ := isObject_eq_true.mp hv
        rw [store_of_get? hkey hget, ih inner (hordered.get? hget), insertAt_of_get? hget]
        cases insertAt inner value (String.ofList p :: ps.map String.ofList) with
        | ok inserted => rfl
        | error fault =>
          -- Putting the mapping back as it was changes nothing.
          rw [orKept, Fields.insert_of_get? hordered.pairwise hget]
          rfl
termination_by key.length

/-- Setting at a **dotted key** in place. -/
theorem storePath_eq (key : String) (hordered : (obj context).Ordered) :
    storePath context key value = orKept context (insertPath context key value) := by
  rw [storePath, store_eq _ hordered, insertPath, Text.split]
  cases insertAt context value ((Text.splitChar '.' key.toList).map String.ofList) <;> rfl

/-- **Setting in place fails** exactly if something is in the way. -/
theorem storePath_eq_error {key : String} (hordered : (obj context).Ordered) :
    (∃ e, (storePath context key value).2 = .error e) ↔ Blocked context (Text.split '.' key) := by
  rw [← @insertAt_eq_error value, storePath_eq key hordered, insertPath]
  cases insertAt context value (Text.split '.' key) <;> simp [orKept]

/-- Setting in place **succeeds** exactly if nothing is in the way. -/
theorem storePath_eq_ok {key : String} (hordered : (obj context).Ordered) :
    (storePath context key value).2 = .ok () ↔ ¬Blocked context (Text.split '.' key) := by
  rw [← @storePath_eq_error context value key hordered]
  cases (storePath context key value).2 <;> simp

/-- What setting in place leaves **if it succeeds** is what setting in a copy gives. -/
theorem insertAt_of_storePath {key : String} (hordered : (obj context).Ordered)
    (hok : (storePath context key value).2 = .ok ()) :
    insertAt context value (Text.split '.' key) = .ok (storePath context key value).1 := by
  rw [storePath_eq key hordered, insertPath] at hok ⊢
  cases h : insertAt context value (Text.split '.' key) with
  | ok left => rfl
  | error fault =>
    rw [h] at hok
    simp [orKept] at hok

/-- What setting in a copy gives is what setting in place **leaves**. -/
theorem storePath_of_insertAt {key : String} (hordered : (obj context).Ordered)
    (h : insertAt context value (Text.split '.' key) = .ok left) :
    storePath context key value = (left, .ok ()) := by
  rw [storePath_eq key hordered, insertPath, h]
  rfl

/-- A value **is stored** at a path: it stands there, all paths apart from that keep what they had, the
mappings on the way keep their other entries, and a value that is no mapping is merged in. -/
structure Stored (context : Context) (names : List String) (value : Json) (left : Context) : Prop where
  stands : (obj left).at? names = some value
  apart : ∀ path, ¬Comparable names path → (obj left).at? path = (obj context).at? path
  entries : ∀ front name rest inner, names = front ++ name :: rest →
    (obj context).at? front = some (.obj inner) → ∃ fs, (obj left).at? front = some (.obj fs) ∧
      ∀ other, name ≠ other → Fields.get? fs other = Fields.get? inner other
  merged : value.isObject = false → left = overlay context (nested names value)

/-- A value that could be set **is stored**. -/
theorem stored_insertAt (hne : keys ≠ []) (h : insertAt context value keys = .ok left) :
    Stored context keys value left where
  stands := at?_insertAt hne h
  apart _ happart := at?_insertAt_of_apart h happart
  entries _ _ _ _ hkeys hat := entries_insertAt (hkeys ▸ h) hat
  merged hv := (overlay_nested hv hne h).symm

/-- **Setting a value at a dotted key** sets it or does nothing.  It fails exactly if a value that is no
mapping is in the way, and then the arguments are those from before, with no mapping made.  Else the value
is stored.  Of two values at keys of which neither leads to the other, one can be set after the other
exactly if it could before, and either order comes to the same. -/
theorem storePath_atomic (hordered : (obj context).Ordered) (hvalue : value.Ordered) (key : String) :
    let names := Text.split '.' key
    let stored := storePath context key value
    insertPath context key value = stored.2.map (fun () => stored.1) ∧
    ((∃ e, stored.2 = .error e) ↔ Blocked context names) ∧
    (∀ e, stored.2 = .error e → stored.1 = context) ∧
    (stored.2 = .ok () → Stored context names value stored.1 ∧
      ∀ other more, more.Ordered → ¬Comparable names (Text.split '.' other) →
        ((storePath stored.1 other more).2 = .ok () ↔ (storePath context other more).2 = .ok ()) ∧
        ((storePath context other more).2 = .ok () →
          storePath stored.1 other more = storePath (storePath context other more).1 key value)) := by
  intro names stored
  refine ⟨?_, storePath_eq_error hordered, fun e he => ?_, fun hok => ?_⟩
  · simp only [stored, storePath_eq key hordered]
    cases insertPath context key value <;> rfl
  · simp only [stored, storePath_eq key hordered] at he ⊢
    cases hpath : insertPath context key value with
    | error fault => rfl
    | ok left =>
      rw [hpath] at he
      simp [orKept] at he
  · have hleft := insertAt_of_storePath hordered hok
    have hnext : (obj stored.1).Ordered := ordered_insertAt hvalue hordered hleft
    refine ⟨stored_insertAt (Text.split_ne_nil key) hleft,
      fun other more hmore happart => ⟨?_, fun hother => ?_⟩⟩
    · rw [storePath_eq_ok hnext, storePath_eq_ok hordered,
        blocked_insertAt (Text.split_ne_nil key) happart hleft]
    · have hright := insertAt_of_storePath hordered hother
      obtain ⟨both, hthen, hthen'⟩ := insertAt_comm hordered happart hleft hright
      rw [storePath_of_insertAt hnext hthen,
        storePath_of_insertAt (ordered_insertAt hmore hordered hright) hthen']

/-- Arguments with a language that is a word, and a repository with an owner. -/
def ownedByAnn : Context := [("language", .str "rust"), ("repo", .obj [("owner", .str "Ann")])]

/-- A version below the word is **not set**, and nothing is left behind; tags and an address are set beside
the owner, in either order. -/
theorem storePath_atomic_tags :
    (∃ e, (storePath ownedByAnn "language.tags.version" .null).2 = .error e) ∧
    (storePath ownedByAnn "language.tags.version" .null).1 = ownedByAnn ∧
    (obj (storePath ownedByAnn "repo.tags.a" .null).1).at? ["repo", "tags", "a"] = some .null ∧
    (obj (storePath ownedByAnn "repo.tags.a" .null).1).at? ["repo", "owner"] = some (.str "Ann") ∧
    storePath (storePath ownedByAnn "repo.tags.a" .null).1 "repo.url" (.str "x") =
      storePath (storePath ownedByAnn "repo.url" (.str "x")).1 "repo.tags.a" .null := by
  have hordered : (obj ownedByAnn).Ordered := ordered_settle (obj ownedByAnn)
  have hversion : Text.split '.' "language.tags.version" = ["language", "tags", "version"] := by
    decide +kernel
  have htags : Text.split '.' "repo.tags.a" = ["repo", "tags", "a"] := by decide +kernel
  have hurl : Text.split '.' "repo.url" = ["repo", "url"] := by decide +kernel
  obtain ⟨-, hfails, hback, -⟩ := storePath_atomic hordered .null "language.tags.version"
  obtain ⟨-, -, -, hsets⟩ := storePath_atomic hordered .null "repo.tags.a"
  rw [hversion] at hfails
  rw [htags] at hsets
  have hblocked : Blocked ownedByAnn ["language", "tags", "version"] := blocked_of_get? rfl rfl
  obtain ⟨e, he⟩ := hfails.mpr hblocked
  have hok : (storePath ownedByAnn "repo.tags.a" .null).2 = .ok () := by
    rw [storePath_eq _ hordered, insertPath, htags]
    rfl
  have hok' : (storePath ownedByAnn "repo.url" (.str "x")).2 = .ok () := by
    rw [storePath_eq _ hordered, insertPath, hurl]
    rfl
  obtain ⟨hstored, htwo⟩ := hsets hok
  refine ⟨⟨e, he⟩, hback e he, hstored.stands, (hstored.apart _ (by decide)).trans rfl, ?_⟩
  exact (htwo "repo.url" (.str "x") (.str "x") (by rw [hurl]; decide)).2 hok'

end Scaffold.Arguments
