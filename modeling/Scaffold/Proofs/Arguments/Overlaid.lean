import Scaffold.Proofs.Arguments.Layers

/-!
# Proofs/Arguments/Overlaid — one mapping over another, path by path

What stands at a path once a mapping is laid over another follows from what the two of them have there
and above (`overlay_right_biased`): the upper one wins where it holds a value that is no mapping, two
mappings are merged, and the lower one is seen where the upper one holds nothing.  Laying the same mapping
on twice is laying it on once, since a value laid over itself is that value (`overlayValue_self`,
`overlayValue_again`).
-/

namespace Scaffold.Arguments

open Json

variable {base update : Fields} {v w : Json}

/-! ## The same layer again -/

/-- A mapping laid over another keeps its names **in order**. -/
theorem pairwise_overlay : ∀ {update : List (String × Json)} {base : Fields},
    (base.map Prod.fst).Pairwise (· < ·) → ((overlay base update).map Prod.fst).Pairwise (· < ·)
  | [], base, h => by
    rw [overlay]
    exact h
  | (_, _) :: _, _, h => by
    rw [overlay]
    exact pairwise_overlay (Fields.pairwise_insert h)

/-- A value laid **over itself** is that value. -/
theorem overlayValue_self (h : v.Ordered) : overlayValue (some v) v = v := by
  induction h with
  | @obj fs hkeys _ ih =>
    rw [overlayValue_object]
    refine congrArg obj (Fields.ext_of_pairwise (pairwise_overlay hkeys) hkeys fun key => ?_)
    rw [get?_overlay (Fields.nodup_of_pairwise hkeys)]
    cases hget : Fields.get? fs key with
    | none => rfl
    | some w => exact congrArg some (ih _ (Fields.mem_of_get? hget))
  | _ => exact overlayValue_of_not_object rfl _

/-- A value laid over something **once more** changes nothing. -/
theorem overlayValue_again (h : w.Ordered) : ∀ {old : Option Json}, (∀ v, old = some v → v.Ordered) →
    overlayValue (some (overlayValue old w)) w = overlayValue old w := by
  induction h with
  | @obj fs hkeys hvalues ih =>
    intro old hold
    by_cases hmap : ∃ inner, old = some (.obj inner)
    · obtain ⟨inner, rfl⟩ := hmap
      obtain _ | _ | _ | _ | _ | ⟨hinner, hbelow⟩ := hold _ rfl
      have hnodup := Fields.nodup_of_pairwise hkeys
      have honce := @pairwise_overlay fs inner hinner
      rw [overlayValue_object, overlayValue_object]
      refine congrArg obj (Fields.ext_of_pairwise (pairwise_overlay honce) honce fun key => ?_)
      rw [get?_overlay hnodup, get?_overlay hnodup]
      cases hget : Fields.get? fs key with
      | none => rfl
      | some w =>
        refine congrArg some (ih _ (Fields.mem_of_get? hget) fun b hb => ?_)
        exact hbelow _ (Fields.mem_of_get? hb)
    · rw [overlayValue_object_of_not (not_exists.mp hmap)]
      exact overlayValue_self (.obj hkeys hvalues)
  | _ => exact fun _ => (overlayValue_of_not_object rfl _).trans (overlayValue_of_not_object rfl _).symm

/-! ## Path by path -/

/-- **Behind a value** of the upper layer that is no mapping, nothing of the lower one is left. -/
theorem at?_overlay_behind {front path : List String} (hordered : (obj update).Ordered)
    (hv : v.isObject = false) (h : (obj update).at? front = some v) (hfront : front <+: path)
    (hne : front ≠ path) : (obj (overlay base update)).at? path = none := by
  obtain ⟨_ | ⟨key, more⟩, rfl⟩ := hfront
  · exact absurd (List.append_nil front).symm hne
  · rw [at?_append, at?_overlay_upper hordered hv h]
    refine bind_at?_of_not fun inner heq => ?_
    obtain rfl := Option.some.inj heq
    exact nomatch hv

/-- **A mapping laid over another**, at every path.  Where the upper one has a value that is no mapping,
that stands; where both have mappings the two are merged, and where only the upper one has a mapping it
stands as it is; where the upper one has nothing, and no value above that is no mapping, whatever the
lower one has there is left; and below a value of the upper one that is no mapping nothing is left.
Laying the same mapping on again changes nothing, and neither does laying on an empty one. -/
theorem overlay_right_biased (hbase : (obj base).Ordered) (hupdate : (obj update).Ordered) :
    (∀ path v, (obj update).at? path = some v → v.isObject = false →
      (obj (overlay base update)).at? path = some v) ∧
    (∀ path inner fs, (obj base).at? path = some (.obj inner) → (obj update).at? path = some (.obj fs) →
      (obj (overlay base update)).at? path = some (.obj (overlay inner fs))) ∧
    (∀ path fs, path ≠ [] → (∀ inner, (obj base).at? path ≠ some (.obj inner)) →
      (obj update).at? path = some (.obj fs) → (obj (overlay base update)).at? path = some (.obj fs)) ∧
    (∀ path, (obj update).at? path = none →
      (∀ front w, front <+: path → (obj update).at? front = some w → w.isObject = true) →
        (obj (overlay base update)).at? path = (obj base).at? path) ∧
    (∀ front path v, (obj update).at? front = some v → v.isObject = false → front <+: path →
      front ≠ path → (obj (overlay base update)).at? path = none) ∧
    overlay (overlay base update) update = overlay base update ∧ overlay base [] = base := by
  refine ⟨fun path v h hv => at?_overlay_upper hupdate hv h, fun path inner fs hlower hupper => ?_,
    fun path fs hne hnot hupper => ?_, fun path => at?_overlay_of_none hupdate,
    fun front path v h hv => at?_overlay_behind hupdate hv h, ?_, by rw [overlay]⟩
  · cases path with
    | nil =>
      obtain rfl : base = inner := obj.inj (Option.some.inj hlower)
      obtain rfl : update = fs := obj.inj (Option.some.inj hupper)
      rfl
    | cons key path => rw [at?_overlay (List.cons_ne_nil _ _) hupdate hupper, hlower, overlayValue_object]
  · rw [at?_overlay hne hupdate hupper, overlayValue_object_of_not hnot]
  · have htwice := @overlayValue_again (.obj update) hupdate (some (.obj base)) fun v hv => by
      rw [← Option.some.inj hv]
      exact hbase
    rw [overlayValue_object, overlayValue_object] at htwice
    exact obj.inj htwice

/-- Settings of a repository with a place and an owner. -/
def lower : Fields := [
  ("place", .obj [("city", .str "Ulm"), ("street", .str "Gasse")]),
  ("repo", .obj [("owner", .str "Ann"), ("tags", .obj [("a", .bool true)])])]

/-- Arguments with a place that is a word, and another owner. -/
def upper : Fields := [
  ("place", .str "nowhere"),
  ("repo", .obj [("owner", .str "Bob"), ("tags", .obj [("b", .bool false)])])]

/-- The word hides the place, the owner is the later one, and the tags are **merged**. -/
theorem overlay_right_biased_tags :
    (obj (overlay lower upper)).at? ["repo", "owner"] = some (.str "Bob") ∧
    (obj (overlay lower upper)).at? ["repo", "tags"] =
      some (.obj (overlay [("a", .bool true)] [("b", .bool false)])) ∧
    (obj (overlay lower upper)).at? ["repo", "tags", "a"] = some (.bool true) ∧
    (obj (overlay lower upper)).at? ["place", "city"] = none ∧
    overlay (overlay lower upper) upper = overlay lower upper := by
  have hlower : (obj lower).Ordered := ordered_settle (obj lower)
  have hupper : (obj upper).Ordered := ordered_settle (obj upper)
  obtain ⟨hword, hmaps, -, hleft, hbehind, htwice, -⟩ := overlay_right_biased hlower hupper
  refine ⟨hword _ _ rfl rfl, hmaps ["repo", "tags"] _ _ rfl rfl, ?_, ?_, htwice⟩
  · refine hleft ["repo", "tags", "a"] rfl fun front w hfront hw => ?_
    simp only [List.prefix_cons_iff, List.prefix_nil] at hfront
    rcases hfront with rfl | ⟨_, rfl, rfl | ⟨_, rfl, rfl | ⟨_, rfl, rfl⟩⟩⟩
    · exact Option.some.inj hw ▸ rfl
    · exact Option.some.inj hw ▸ rfl
    · exact Option.some.inj hw ▸ rfl
    · exact nomatch hw
  · exact hbehind ["place"] ["place", "city"] _ rfl rfl (by simp) (by simp)

end Scaffold.Arguments
