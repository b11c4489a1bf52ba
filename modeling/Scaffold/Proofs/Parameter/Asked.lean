import Scaffold.Proofs.Parameter.Offered

/-!
# Proofs/Parameter/Asked — asking for exactly what is missing

What is missing is listed by one recursion and asked for by another.  Whoever answers, the questions are
those for the labels of the list, in order, and only an answer that fails keeps some of them from being
asked (`asks_fillAllAfter`).  Where all are answered nothing is missing any more
(`missingAll_fillAllAfter`), and where nothing was missing nothing has changed
(`fillAllAfter_of_missingAll_eq_nil`).  Both halves rest on the names of a level being different: filling
in one parameter leaves what is under other names (`get?_fillAfter_of_ne`), and only its own name matters
to a parameter (`missing_congr`).
-/

namespace Scaffold.Parameter

variable {answer : Prompter} {past : List Question} {trail name : String} {given more : Fields}

/-! ## Well-formed parameters and arguments -/

mutual

/-- Within a parameter the names are **different** at every level. -/
def Distinct : Parameter → Prop
  | .plain _ _ _ _ => True
  | .record _ _ _ _ fields => DistinctAll fields
  | .signature _ _ _ fields => DistinctAll fields

/-- The names of some parameters are **different**, and so are those within each. -/
def DistinctAll : List Parameter → Prop
  | [] => True
  | p :: ps => p.name ∉ ps.map Parameter.name ∧ Distinct p ∧ DistinctAll ps

end

mutual

/-- Under the name of a record there is **nothing, or a mapping**, at every level. -/
def Fits (given : Fields) : Parameter → Prop
  | .plain _ _ _ _ => True
  | .record name _ _ _ fields => AbsentOrMapping given name ∧ FitsAll (recordOf given name) fields
  | .signature name _ _ fields => AbsentOrMapping given name ∧ FitsAll (recordOf given name) fields

/-- Under the names of records there is nothing, or a mapping, at every level. -/
def FitsAll (given : Fields) : List Parameter → Prop
  | [] => True
  | p :: ps => Fits given p ∧ FitsAll given ps

end

/-- What is missing for a parameter depends on **what is under its name** alone. -/
theorem missing_congr {p : Parameter} (h : Fields.get? given p.name = Fields.get? more p.name) :
    missing trail given p = missing trail more p := by
  cases p with
  | plain name annotation origin fallback =>
    have h : Fields.get? given name = Fields.get? more name := h
    rw [missing, missing, Fields.has, Fields.has, h]
  | record name annotation origin fallback fields =>
    have h : Fields.get? given name = Fields.get? more name := h
    rw [missing, missing, searched?, searched?, h]
  | signature name annotation origin fields =>
    have h : Fields.get? given name = Fields.get? more name := h
    rw [missing, missing, searched?, searched?, h]

/-- Whether arguments fit a parameter depends on **what is under its name** alone. -/
theorem fits_congr {p : Parameter} (h : Fields.get? given p.name = Fields.get? more p.name) :
    Fits given p ↔ Fits more p := by
  cases p with
  | plain name annotation origin fallback => rfl
  | record name annotation origin fallback fields =>
    have h : Fields.get? given name = Fields.get? more name := h
    rw [Fits, Fits, AbsentOrMapping, AbsentOrMapping, recordOf, recordOf, h]
  | signature name annotation origin fields =>
    have h : Fields.get? given name = Fields.get? more name := h
    rw [Fits, Fits, AbsentOrMapping, AbsentOrMapping, recordOf, recordOf, h]

/-- What is missing for some parameters depends on what is under **their names** alone. -/
theorem missingAll_congr : ∀ {ps : List Parameter},
    (∀ p ∈ ps, Fields.get? given p.name = Fields.get? more p.name) →
      missingAll trail given ps = missingAll trail more ps
  | [], _ => rfl
  | p :: ps, h => by
    rw [List.forall_mem_cons] at h
    rw [missingAll, missingAll, missing_congr h.1, missingAll_congr h.2]

/-- Whether arguments fit some parameters depends on what is under **their names** alone. -/
theorem fitsAll_congr : ∀ {ps : List Parameter},
    (∀ p ∈ ps, Fields.get? given p.name = Fields.get? more p.name) →
      (FitsAll given ps ↔ FitsAll more ps)
  | [], _ => Iff.rfl
  | p :: ps, h => by
    rw [List.forall_mem_cons] at h
    rw [FitsAll, FitsAll, fits_congr h.1, fitsAll_congr h.2]

/-! ## What is filled in -/

/-- A record that is put back leaves what is under **other names**. -/
theorem get?_putRecord_of_ne {before after : Fields} {key : String} (h : name ≠ key) :
    Fields.get? (putRecord given name before after) key = Fields.get? given key := by
  rw [putRecord]
  split
  · exact Fields.get?_insert_of_ne _ _ _ _ h
  · rfl

/-- Filling in a record leaves what is under **other names**. -/
theorem Filled.get?_within_of_ne (inner : Filled) {key : String} (h : name ≠ key) :
    Fields.get? (inner.within given name).given key = Fields.get? given key := by
  rw [within]
  split
  · rfl
  · exact get?_putRecord_of_ne h

/-- Filling in a parameter leaves what is under **other names**. -/
theorem get?_fillAfter_of_ne {p : Parameter} {key : String} (h : p.name ≠ key) :
    Fields.get? (fillAfter answer past trail given p).given key = Fields.get? given key := by
  cases p with
  | plain name annotation origin fallback =>
    rw [fillAfter]
    split
    · dsimp only
      split
      · exact Fields.get?_insert_of_ne _ _ _ _ h
      · rfl
    · rfl
  | record name annotation origin fallback fields =>
    rw [fillAfter]
    exact Filled.get?_within_of_ne _ h
  | signature name annotation origin fields =>
    rw [fillAfter]
    exact Filled.get?_within_of_ne _ h

/-- Filling in some parameters leaves what is under **no name** of theirs. -/
theorem get?_fillAllAfter_of_not_mem {key : String} : ∀ {ps : List Parameter} {past : List Question}
    {given : Fields}, key ∉ ps.map Parameter.name →
      Fields.get? (fillAllAfter answer past trail given ps).given key = Fields.get? given key
  | [], _, _, _ => by rw [fillAllAfter, Filled.nothing]
  | p :: ps, past, given, h => by
    rw [List.map_cons, List.mem_cons, not_or] at h
    have hfirst : Fields.get? (fillAfter answer past trail given p).given key =
        Fields.get? given key := get?_fillAfter_of_ne (Ne.symm h.1)
    rw [fillAllAfter]
    dsimp only
    split
    · exact hfirst
    · exact (get?_fillAllAfter_of_not_mem h.2).trans hfirst

/-- Behind a parameter, the others find **what they found before** it was filled in. -/
theorem get?_fillAfter_of_mem {p q : Parameter} {ps : List Parameter} (h : p.name ∉ ps.map Parameter.name)
    (hq : q ∈ ps) : Fields.get? (fillAfter answer past trail given p).given q.name =
      Fields.get? given q.name :=
  get?_fillAfter_of_ne fun heq => h (heq ▸ List.mem_map_of_mem hq)

/-! ## The questions -/

/-- The questions are **for the labels that are missing**, in order: all of them, or those up to the one
whose answer fails. -/
structure Filled.Asks (filled : Filled) (answer : Prompter) (past : List Question)
    (missing : List String) : Prop where
  upTo : filled.asked.map Question.label <+: missing
  all : filled.result = .ok () → filled.asked.map Question.label = missing
  failed : ∀ e, filled.result = .error e → ∃ before last, filled.asked = before ++ [last] ∧
    answer (past ++ before) last = .error e

namespace Filled.Asks

variable {filled first rest : Filled} {labels others : List String}

/-- Where nothing is missing, **nothing** is asked. -/
theorem nothing (given : Fields) : (Filled.nothing given).Asks answer past [] :=
  ⟨List.prefix_refl _, fun _ => rfl, fun _ h => nomatch h⟩

/-- Putting a record back asks **nothing more**. -/
theorem within (h : filled.Asks answer past labels) :
    (filled.within given name).Asks answer past labels := by
  rw [Filled.within]
  split
  · next e he => exact ⟨h.upTo, fun hok => (nomatch hok), fun e' he' => h.failed e' (he.trans he')⟩
  · next hok => exact ⟨h.upTo, fun _ => h.all hok, fun _ he => nomatch he⟩

/-- Where an answer fails, **nothing behind** it is asked. -/
theorem stop {e : Error} (h : first.Asks answer past labels) (he : first.result = .error e)
    (others : List String) :
    (Filled.mk first.asked first.given (.error e)).Asks answer past (labels ++ others) :=
  ⟨h.upTo.trans (List.prefix_append _ _), fun hok => (nomatch hok),
    fun e' he' => h.failed e' (he.trans he')⟩

/-- Where all is answered, what is behind is asked **next**. -/
theorem andThen (h : first.Asks answer past labels) (hok : first.result = .ok ())
    (hrest : rest.Asks answer (past ++ first.asked) others) :
    ({ rest with asked := first.asked ++ rest.asked } : Filled).Asks answer past
      (labels ++ others) where
  upTo := by
    rw [List.map_append, h.all hok]
    exact (List.prefix_append_right_inj _).mpr hrest.upTo
  all hall := by rw [List.map_append, h.all hok, hrest.all hall]
  failed e he := by
    obtain ⟨before, last, hasked, hfail⟩ := hrest.failed e he
    refine ⟨first.asked ++ before, last, ?_, ?_⟩
    · dsimp only
      rw [hasked, List.append_assoc]
    · rw [← List.append_assoc]
      exact hfail

end Filled.Asks

mutual

/-- **For a parameter** the questions are those for what it misses. -/
theorem asks_fillAfter : ∀ (p : Parameter) {past : List Question} {trail : String} {given : Fields},
    p.Distinct → p.Fits given →
      (fillAfter answer past trail given p).Asks answer past (missing trail given p)
  | .plain name annotation _ fallback, past, trail, given, _, _ => by
    rw [fillAfter, missing]
    split
    · dsimp only
      split
      · exact ⟨List.prefix_refl _, fun _ => rfl, fun _ h => nomatch h⟩
      · next e he =>
        refine ⟨List.prefix_refl _, fun h => (nomatch h), fun e' he' => ⟨[], _, rfl, ?_⟩⟩
        rw [List.append_nil, he, Except.error.inj he']
    · exact .nothing given
  | .record name _ _ _ fields, past, trail, given, hdistinct, hfits => by
    rw [fillAfter, missing, hfits.1.searched?]
    exact (asks_fillAllAfter fields hdistinct hfits.2).within
  | .signature name _ _ fields, past, trail, given, hdistinct, hfits => by
    rw [fillAfter, missing, hfits.1.searched?]
    exact (asks_fillAllAfter fields hdistinct hfits.2).within

/-- **For some parameters** the questions are those for what they miss. -/
theorem asks_fillAllAfter : ∀ (ps : List Parameter) {past : List Question} {trail : String}
    {given : Fields}, DistinctAll ps → FitsAll given ps →
      (fillAllAfter answer past trail given ps).Asks answer past (missingAll trail given ps)
  | [], past, trail, given, _, _ => by
    rw [fillAllAfter, missingAll]
    exact .nothing given
  | p :: ps, past, trail, given, ⟨hname, hp, hps⟩, ⟨hfit, hfits⟩ => by
    have hfirst : (fillAfter answer past trail given p).Asks answer past (missing trail given p) :=
      asks_fillAfter p hp hfit
    rw [fillAllAfter, missingAll]
    dsimp only
    split
    · next e he => exact hfirst.stop he _
    · next hok =>
      have hsame : ∀ q ∈ ps, Fields.get? (fillAfter answer past trail given p).given q.name =
          Fields.get? given q.name := fun q hq => get?_fillAfter_of_mem hname hq
      rw [← missingAll_congr hsame]
      exact hfirst.andThen hok (asks_fillAllAfter ps hps ((fitsAll_congr hsame).mpr hfits))

end

/-! ## What is missing afterwards -/

/-- A record that could be filled in misses nothing once it is **put back**. -/
theorem missingAll_within {inner : Filled} {fields : List Parameter}
    (hok : (inner.within given name).result = .ok ())
    (hinner : inner.result = .ok () → missingAll trail inner.given fields = []) :
    ∀ found, searched? (inner.within given name).given name = some found →
      missingAll trail found fields = [] := by
  intro found hfound
  rw [Filled.within] at hok hfound
  split at hok
  · exact nomatch hok
  · next hresult =>
    rw [hresult] at hfound
    have hnone := hinner hresult
    simp only [putRecord] at hfound
    split at hfound
    · rw [searched?, Fields.get?_insert_self] at hfound
      obtain rfl : inner.given = found := Option.some.inj hfound
      exact hnone
    · next hempty =>
      -- Neither was the record there, nor has anything been filled in.
      rw [Bool.or_eq_true, not_or, decide_eq_true_eq, Nat.not_lt] at hempty
      have habsent : Fields.get? given name = none := by simpa [Fields.has] using hempty.2
      rw [searched?, habsent] at hfound
      obtain rfl : [] = found := Option.some.inj hfound
      rw [recordOf, habsent] at hempty
      rwa [List.eq_nil_of_length_eq_zero (Nat.le_zero.mp hempty.1)] at hnone

mutual

/-- Where all is answered, **nothing is missing** for a parameter. -/
theorem missing_fillAfter : ∀ (p : Parameter) {past : List Question} {trail : String}
    {given : Fields}, p.Distinct → (fillAfter answer past trail given p).result = .ok () →
      missing trail (fillAfter answer past trail given p).given p = []
  | .plain name annotation _ fallback, past, trail, given, _, hok => by
    rw [fillAfter] at hok ⊢
    split at hok
    · next hmissing =>
      rw [if_pos hmissing]
      dsimp only at hok ⊢
      split at hok
      · rw [missing, Fields.has, Fields.get?_insert_self]
        exact if_neg (by simp)
      · exact nomatch hok
    · next hgiven =>
      rw [if_neg hgiven, missing]
      exact if_neg hgiven
  | .record name _ _ _ fields, past, trail, given, hdistinct, hok => by
    rw [fillAfter] at hok ⊢
    have hfound := missingAll_within hok (missingAll_fillAllAfter fields hdistinct)
    rw [missing]
    split
    · rfl
    · next inner hinner => exact hfound inner hinner
  | .signature name _ _ fields, past, trail, given, hdistinct, hok => by
    rw [fillAfter] at hok ⊢
    have hfound := missingAll_within hok (missingAll_fillAllAfter fields hdistinct)
    rw [missing]
    split
    · rfl
    · next inner hinner => exact hfound inner hinner

/-- Where all is answered, **nothing is missing** for some parameters. -/
theorem missingAll_fillAllAfter : ∀ (ps : List Parameter) {past : List Question} {trail : String}
    {given : Fields}, DistinctAll ps → (fillAllAfter answer past trail given ps).result = .ok () →
      missingAll trail (fillAllAfter answer past trail given ps).given ps = []
  | [], past, trail, given, _, _ => by rw [missingAll]
  | p :: ps, past, trail, given, ⟨hname, hp, hps⟩, hok => by
    rw [fillAllAfter] at hok ⊢
    dsimp only at hok ⊢
    split at hok
    · exact nomatch hok
    · next hfirst =>
      rw [missingAll, missing_congr (get?_fillAllAfter_of_not_mem hname), missing_fillAfter p hp hfirst,
        missingAll_fillAllAfter ps hps hok]
      rfl

end

/-! ## Where nothing is missing -/

/-- A record that is put back **as it was** changes nothing. -/
theorem Filled.within_nothing (hordered : (Json.obj given).Ordered) (h : AbsentOrMapping given name) :
    (Filled.nothing (recordOf given name)).within given name = .nothing given := by
  have hput : putRecord given name (recordOf given name) (recordOf given name) = given := by
    rw [putRecord]
    split
    · next hput =>
      have hhas : (Fields.get? given name).isSome = true := by simpa [Fields.has] using hput
      rcases h.get? with ⟨hnone, -⟩ | hsome
      · rw [hnone] at hhas
        exact nomatch hhas
      · exact Fields.insert_of_get? hordered.pairwise hsome
    · rfl
  rw [within, Filled.nothing]
  dsimp only
  rw [hput, Filled.nothing]

mutual

/-- Where nothing is missing for a parameter, **nothing happens**. -/
theorem fillAfter_of_missing_eq_nil : ∀ (p : Parameter) {past : List Question} {trail : String}
    {given : Fields}, (Json.obj given).Ordered → p.Fits given → missing trail given p = [] →
      fillAfter answer past trail given p = .nothing given
  | .plain name _ _ fallback, past, trail, given, _, _, hnone => by
    rw [missing] at hnone
    split at hnone
    · exact nomatch hnone
    · next hgiven => rw [fillAfter, if_neg hgiven]
  | .record name _ _ _ fields, past, trail, given, hordered, hfits, hnone => by
    rw [missing, hfits.1.searched?] at hnone
    rw [fillAfter, fillAllAfter_of_missingAll_eq_nil fields (ordered_recordOf hordered) hfits.2 hnone,
      Filled.within_nothing hordered hfits.1]
  | .signature name _ _ fields, past, trail, given, hordered, hfits, hnone => by
    rw [missing, hfits.1.searched?] at hnone
    rw [fillAfter, fillAllAfter_of_missingAll_eq_nil fields (ordered_recordOf hordered) hfits.2 hnone,
      Filled.within_nothing hordered hfits.1]

/-- Where nothing is missing for some parameters, **nothing happens**. -/
theorem fillAllAfter_of_missingAll_eq_nil : ∀ (ps : List Parameter) {past : List Question}
    {trail : String} {given : Fields}, (Json.obj given).Ordered → FitsAll given ps →
      missingAll trail given ps = [] → fillAllAfter answer past trail given ps = .nothing given
  | [], past, trail, given, _, _, _ => by rw [fillAllAfter]
  | p :: ps, past, trail, given, hordered, ⟨hfit, hfits⟩, hnone => by
    rw [missingAll, List.append_eq_nil_iff] at hnone
    rw [fillAllAfter, fillAfter_of_missing_eq_nil p hordered hfit hnone.1]
    dsimp only [Filled.nothing]
    rw [fillAllAfter_of_missingAll_eq_nil ps hordered hfits hnone.2]
    rfl

end

/-- **Asking asks exactly what is missing.**  Take parameters with different names at each level and
arguments in which there is nothing or a mapping for each record, and let anyone answer, each question as
they like and knowing those before it.  The questions are for the labels that are missing, in order: for
all of them, or up to the first whose answer fails, and nothing else makes asking fail.  Where all are
answered nothing is missing any more.  Where nothing was missing the arguments stay as they are. -/
theorem fillAllAfter_asks_missing {ps : List Parameter} (hordered : (Json.obj given).Ordered)
    (hdistinct : DistinctAll ps) (hfits : FitsAll given ps) (answer : Prompter) :
    let filled := fillAllAfter answer [] "" given ps
    let missing := missingAll "" given ps
    filled.asked.map Question.label <+: missing ∧
    (∀ e, filled.result = .error e → ∃ before last, filled.asked = before ++ [last] ∧
      answer before last = .error e) ∧
    (filled.result = .ok () → filled.asked.map Question.label = missing ∧
      missingAll "" filled.given ps = []) ∧
    (missing = [] → filled.result = .ok () ∧ filled.given = given) := by
  intro filled missing
  have hasks : filled.Asks answer [] missing := asks_fillAllAfter ps hdistinct hfits
  refine ⟨hasks.upTo, hasks.failed, fun hok => ⟨hasks.all hok, ?_⟩, fun hnone => ?_⟩
  · exact missingAll_fillAllAfter ps hdistinct hok
  · have hnothing : filled = .nothing given :=
      fillAllAfter_of_missingAll_eq_nil ps hordered hfits hnone
    rw [hnothing]
    exact ⟨rfl, rfl⟩

/-- Parameters with records in records: a title, and an owner with a team. -/
def owned : List Parameter := [
  .required "title" "String",
  .record "owner" "Owner" .declared none [
    .required "email" "String",
    .signature "team" "Team" .declared [
      .required "lead" "String", .optional "size" "u8" (.int 3)]],
  .optional "language" "String" (.str "python")]

/-- An owner with an address and without a team. -/
def teamless : Fields := [("owner", .obj [("email", .str "dev@acme.io")])]

/-- Who answers one question, and no other after it. -/
def answersOnce : Prompter := fun past q =>
  if past.isEmpty then .ok (.str q.label) else .error (.config (.noAnswer q.label))

/-- Of the two questions the second is for the record in the record; who answers only one keeps it
missing. -/
theorem fillAllAfter_asks_missing_teamless :
    let filled := fillAllAfter (fun _ q => .ok (.str q.label)) [] "" teamless owned
    missingAll "" teamless owned = ["title", "owner.team.lead"] ∧
    filled.asked.map Question.label = ["title", "owner.team.lead"] ∧
    missingAll "" filled.given owned = [] ∧
    ∃ before last, (fillAllAfter answersOnce [] "" teamless owned).asked = before ++ [last] ∧
      answersOnce before last = .error (.config (.noAnswer "owner.team.lead")) := by
  have hordered : (Json.obj teamless).Ordered := by
    refine .obj (List.pairwise_singleton _ _) (List.forall_mem_singleton.mpr ?_)
    exact .obj (List.pairwise_singleton _ _) (List.forall_mem_singleton.mpr (.str _))
  have hdistinct : DistinctAll owned := by
    simp [owned, DistinctAll, Distinct, Parameter.name, required, optional]
  have hfits : FitsAll teamless owned := by
    have howner : AbsentOrMapping teamless "owner" := fun v hv => by
      obtain rfl : Json.obj [("email", .str "dev@acme.io")] = v := Option.some.inj hv
      rfl
    have hteam : AbsentOrMapping (recordOf teamless "owner") "team" := by
      intro v hv
      simp [recordOf, teamless, Fields.get?, Json.fields?] at hv
    exact ⟨trivial, ⟨howner, trivial, ⟨hteam, trivial, trivial, trivial⟩, trivial⟩, trivial, trivial⟩
  have hmissing : missingAll "" teamless owned = ["title", "owner.team.lead"] := by decide +kernel
  obtain ⟨hasked, hnone⟩ :=
    (fillAllAfter_asks_missing hordered hdistinct hfits fun _ q => .ok (.str q.label)).2.2.1 rfl
  exact ⟨hmissing, hmissing ▸ hasked, hnone,
    (fillAllAfter_asks_missing hordered hdistinct hfits answersOnce).2.1 _ rfl⟩

end Scaffold.Parameter
