import Scaffold.Proofs.Naming.Paths

/-!
# Proofs/Naming/Rejected — what is said of a name that does not pass

The parts of a name are followed through branches, the first literal that is the next part deciding on
every level, until they **stray**: no entry of the level they have come to is the next part
(`Grammar.Strays`).  A name is rejected if and only if its parts stray.  Each level fills the place for
its word in the sentence that comes from the level below, but by then the level that was strayed from
has filled it (`nameLevel_mismatch`), and where no literal and no delimiter brings a new one along
(`Grammar.Unmarked`) the levels above change nothing (`matchLevel_of_strays`).  So the sentence is about
the level that failed (`check_names_level`).
-/

namespace Scaffold

/-! ## Filling the place for a word -/

namespace Naming

section Replace

variable {old new cs : List Char}

/-- Where a text does **not stand**, nothing is replaced. -/
theorem replaceFirst_of_not_infix : ∀ {cs : List Char}, ¬old <:+: cs → replaceFirst old new cs = cs
  | [], h => by
    rw [replaceFirst, if_neg]
    intro hempty
    exact h (List.isEmpty_iff.mp hempty ▸ List.infix_refl [])
  | c :: cs, h => by
    rw [List.infix_cons_iff, not_or] at h
    rw [replaceFirst, if_neg (mt List.isPrefixOf_iff_prefix.mp h.1), replaceFirst_of_not_infix h.2]

/-- A text that stands **in front** is replaced. -/
theorem replaceFirst_append_self (hold : old ≠ []) (more : List Char) :
    replaceFirst old new (old ++ more) = new ++ more := by
  obtain ⟨c, cs, rfl⟩ := List.exists_cons_of_ne_nil hold
  have hfront : (c :: cs).isPrefixOf (c :: cs ++ more) = true :=
    List.isPrefixOf_iff_prefix.mpr (List.prefix_append _ _)
  rw [List.cons_append, replaceFirst, ← List.cons_append, if_pos hfront, List.drop_left]

/-- Characters that do **not start** the text are passed over. -/
theorem replaceFirst_append {c : Char} {rest : List Char} : ∀ {front : List Char}, c ∉ front →
    replaceFirst (c :: rest) new (front ++ cs) = front ++ replaceFirst (c :: rest) new cs
  | [], _ => rfl
  | x :: front, h => by
    rw [List.mem_cons, not_or] at h
    have hstart : (c :: rest).isPrefixOf (x :: (front ++ cs)) ≠ true := by
      intro hprefix
      exact h.1 (List.cons_prefix_cons.mp (List.isPrefixOf_iff_prefix.mp hprefix)).1
    rw [List.cons_append, replaceFirst, if_neg hstart, replaceFirst_append h.2, List.cons_append]

end Replace

/-- A text is **unmarked** if the place for the word of a level does not stand in it. -/
def Unmarked (cs : List Char) : Prop := ¬levelMark <:+: cs

instance (cs : List Char) : Decidable (Unmarked cs) := inferInstanceAs (Decidable ¬levelMark <:+: cs)

/-- Characters up to one that does not stand in a text are all that the text **can start with**. -/
theorem prefix_of_prefix_append_cons {p u v : List Char} {c : Char} (hc : c ∉ p)
    (h : p <+: u ++ c :: v) : p <+: u := by
  rcases Nat.le_total p.length u.length with hle | hle
  · exact List.prefix_of_prefix_length_le h (List.prefix_append u _) hle
  · -- A longer one would reach the character.
    obtain ⟨back, rfl⟩ := List.prefix_of_prefix_length_le (List.prefix_append u _) h hle
    cases back with
    | nil => simp
    | cons x back =>
      rw [List.prefix_append_right_inj, List.cons_prefix_cons] at h
      exact absurd (h.1 ▸ List.mem_append_right _ List.mem_cons_self) hc

/-- Unmarked texts stay so around a character **that is not in the mark**. -/
theorem Unmarked.append_cons {a b : List Char} {c : Char} (ha : Unmarked a) (hc : c ∉ levelMark)
    (hb : Unmarked b) : Unmarked (a ++ c :: b) := by
  induction a with
  | nil =>
    rw [Unmarked, List.nil_append, List.infix_cons_iff, not_or]
    refine ⟨fun hstart => ?_, hb⟩
    have hnil : levelMark = [] := List.prefix_nil.mp (prefix_of_prefix_append_cons hc hstart)
    exact absurd hnil (by decide)
  | cons x a ih =>
    rw [Unmarked, List.infix_cons_iff, not_or] at ha
    rw [Unmarked, List.cons_append, List.infix_cons_iff, not_or]
    refine ⟨fun hstart => ha.1 ?_, ih ha.2⟩
    exact prefix_of_prefix_append_cons hc hstart

/-- An unmarked text stays so behind a character **that is not in the mark**. -/
theorem Unmarked.cons {b : List Char} {c : Char} (hc : c ∉ levelMark) (hb : Unmarked b) :
    Unmarked (c :: b) :=
  (by decide : Unmarked []).append_cons hc hb

/-- Unmarked texts stay so with a **comma** between them. -/
theorem unmarked_joinWith : ∀ {texts : List (List Char)}, (∀ t ∈ texts, Unmarked t) →
    Unmarked (Text.joinWith [',', ' '] texts)
  | [], _ => by decide
  | [t], h => h t List.mem_cons_self
  | t :: u :: texts, h => by
    rw [List.forall_mem_cons] at h
    have hspace := Unmarked.cons (c := ' ') (by decide) (unmarked_joinWith h.2)
    rw [Text.joinWith, List.append_assoc]
    exact h.1.append_cons (by decide) hspace

variable {n : Naming} {key : String} {words : List String}

/-- The **sentence** for a name that strays on the level of a key. -/
def refusal (n : Naming) (key : String) (words : List String) : String :=
  "Does not match valid names for " ++ key ++ ": " ++ Text.join ", " words ++
    ", with delimiters: " ++ n.shownDelimiters

/-- The place for a word is **filled** where it stands behind characters that do not start it. -/
theorem nameLevel_append {front back : String} (h : '\x7b' ∉ front.toList) :
    nameLevel key (front ++ String.ofList levelMark ++ back) = front ++ key ++ back := by
  have hmark : levelMark = ['\x7b', 'k', 'e', 'y', '\x7d'] := by decide
  have hfill := @replaceFirst_append_self levelMark key.toList (by decide) back.toList
  rw [nameLevel, String.toList_append, String.toList_append, String.toList_ofList,
    List.append_assoc, hmark, replaceFirst_append h, ← hmark, hfill, ← String.toList_append,
    ← String.toList_append, String.ofList_toList, String.append_assoc]

/-- **The level that was strayed from** fills the place for its word. -/
theorem nameLevel_mismatch : nameLevel key (n.mismatch words) = n.refusal key words := by
  have hfront : '\x7b' ∉ "Does not match valid names for ".toList := by decide +kernel
  have hfill := @nameLevel_append key _ (": " ++ Text.join ", " words ++
    ", with delimiters: " ++ n.shownDelimiters) hfront
  simp only [← String.append_assoc] at hfill
  exact hfill

/-- A sentence without a place for a word **stays** as it is. -/
theorem nameLevel_of_unmarked {sentence : String} (h : Unmarked sentence.toList) :
    nameLevel key sentence = sentence := by
  rw [nameLevel, replaceFirst_of_not_infix h, String.ofList_toList]

/-- Delimiters as a sentence shows them are **unmarked** if they are. -/
theorem unmarked_shownDelimiters (h : ∀ d ∈ n.delimiters, Unmarked d.toList) :
    Unmarked n.shownDelimiters.toList := by
  have hquoted : ∀ t ∈ n.delimiters.map fun d => '\x27' :: (d.toList ++ ['\x27']), Unmarked t := by
    intro t ht
    obtain ⟨d, hd, rfl⟩ := List.mem_map.mp ht
    exact .cons (by decide) ((h d hd).append_cons (by decide) (by decide))
  have hshown : n.shownDelimiters.toList = '[' :: (Text.joinWith [',', ' ']
      (n.delimiters.map fun d => '\x27' :: (d.toList ++ ['\x27'])) ++ [']']) := by
    simp [shownDelimiters, Text.join, Function.comp_def]
  rw [hshown]
  exact .cons (by decide) ((unmarked_joinWith hquoted).append_cons (by decide) (by decide))

/-- The characters of **the sentence**, with blanks, colons and commas between what goes into it. -/
theorem toList_refusal (n : Naming) (key : String) (words : List String) :
    (n.refusal key words).toList = "Does not match valid names for".toList ++ ' ' ::
      (key.toList ++ ':' :: ' ' :: (Text.joinWith [',', ' '] (words.map String.toList) ++ ',' ::
        (" with delimiters:".toList ++ ' ' :: n.shownDelimiters.toList))) := by
  have hfor : "Does not match valid names for ".toList =
      "Does not match valid names for".toList ++ [' '] := by decide +kernel
  have hwith : ", with delimiters: ".toList = ',' :: (" with delimiters:".toList ++ [' ']) := by
    decide +kernel
  unfold refusal Text.join
  simp only [String.toList_append, String.toList_ofList, hfor, hwith,
    (by decide : ": ".toList = [':', ' ']), (by decide : ", ".toList = [',', ' ']),
    List.append_assoc, List.cons_append, List.nil_append]

/-- **The sentence** is unmarked if all that goes into it is. -/
theorem unmarked_refusal (hkey : Unmarked key.toList) (hwords : ∀ w ∈ words, Unmarked w.toList)
    (hds : ∀ d ∈ n.delimiters, Unmarked d.toList) : Unmarked (n.refusal key words).toList := by
  have hjoined : Unmarked (Text.joinWith [',', ' '] (words.map String.toList)) :=
    unmarked_joinWith (by simpa using hwords)
  have hfront : Unmarked "Does not match valid names for".toList := by decide +kernel
  have hback : Unmarked " with delimiters:".toList := by decide +kernel
  have hdelimiters := hback.append_cons (c := ' ') (by decide) (unmarked_shownDelimiters hds)
  rw [toList_refusal]
  exact hfront.append_cons (by decide) (hkey.append_cons (by decide)
    (.cons (by decide) (hjoined.append_cons (by decide) hdelimiters)))

end Naming

/-! ## Following parts -/

namespace Grammar

/-- A level **leads on** by a word to another level: the first literal that is the word is one of a branch,
which has that level. -/
inductive LeadsOn : Grammar → String → Grammar → Prop
  | intro {a b sub : Grammar} {front back : List (String × Grammar)} {w : String}
      (hentries : w ∉ literals a) (hwords : w ∉ front.map Prod.fst) :
      LeadsOn (a ++ .branch (front ++ (w, sub) :: back) :: b) w sub

/-- A level **ends** with a word: the first literal that is the word stands alone. -/
inductive EndsWith : Grammar → String → Prop
  | intro {a b : Grammar} {w : String} (hentries : w ∉ literals a) : EndsWith (a ++ .word w :: b) w

/-- Parts **stray** from a level that was entered by a key: following them leads to a level, entered by the
last of the keys, no literal of which is the part that is next. -/
inductive Strays : (key : String) → (g : Grammar) → (parts : List String) →
    (last : String) → (level : Grammar) → Prop
  | here {key : String} {g : Grammar} {parts : List String}
      (h : ∀ w ∈ literals g, parts.head? ≠ some w) : Strays key g parts key g
  | inside {key w last : String} {g sub level : Grammar} {parts : List String}
      (hw : LeadsOn g w sub) (h : Strays w sub parts last level) :
      Strays key g (w :: parts) last level

/-- No literal and no word of a branch has the place for the word of a level in it, here and on all levels
below. -/
inductive Unmarked : Grammar → Prop
  | intro {g : Grammar} (here : ∀ w ∈ literals g, Naming.Unmarked w.toList)
      (inside : ∀ levels w sub, .branch levels ∈ g → (w, sub) ∈ levels → Unmarked sub) : Unmarked g

variable {g sub level : Grammar} {key w last : String} {parts : List String}

theorem Unmarked.literals (h : Unmarked g) : ∀ w ∈ literals g, Naming.Unmarked w.toList := by
  cases h with
  | intro here _ => exact here

/-- The words that lead on are **literals**, and where they lead is unmarked if all is. -/
theorem Unmarked.of_leadsOn (h : Unmarked g) (hw : LeadsOn g w sub) :
    Naming.Unmarked w.toList ∧ Unmarked sub := by
  cases hw with
  | @intro a b _ front back _ _ _ =>
    have hb : Segment.branch (front ++ (w, sub) :: back) ∈ a ++ .branch (front ++ (w, sub) :: back) :: b :=
      List.mem_append_right _ List.mem_cons_self
    have hw : (w, sub) ∈ front ++ (w, sub) :: back := List.mem_append_right _ List.mem_cons_self
    cases h with
    | intro here inside =>
      refine ⟨here w ?_, inside _ w sub hb hw⟩
      exact List.mem_flatMap.mpr ⟨_, hb, List.mem_map.mpr ⟨_, hw, rfl⟩⟩

/-- Where all is unmarked, so are the key that parts stray by and the literals there. -/
theorem Strays.unmarked (h : Strays key g parts last level) (hkey : Naming.Unmarked key.toList)
    (hg : Unmarked g) :
    Naming.Unmarked last.toList ∧ ∀ w ∈ Grammar.literals level, Naming.Unmarked w.toList := by
  induction h with
  | here _ => exact ⟨hkey, hg.literals⟩
  | inside hw _ ih =>
    obtain ⟨hword, hsub⟩ := hg.of_leadsOn hw
    exact ih hword hsub

/-- A literal of a level **stands in an entry** of it that is the first to have it. -/
theorem exists_first_entry (h : w ∈ literals g) :
    ∃ a e b, g = a ++ e :: b ∧ w ∉ literals a ∧ w ∈ e.literals := by
  cases hfind : g.find? fun e => decide (w ∈ e.literals) with
  | none =>
    obtain ⟨e, he, hw⟩ := List.mem_flatMap.mp h
    exact absurd hw (by simpa using List.find?_eq_none.mp hfind e he)
  | some e =>
    obtain ⟨hw, a, b, hg, ha⟩ := List.find?_eq_some_iff_append.mp hfind
    refine ⟨a, e, b, hg, fun hmem => ?_, by simpa using hw⟩
    obtain ⟨x, hx, hwx⟩ := List.mem_flatMap.mp hmem
    simpa [hwx] using ha x hx

/-- A word of a branch stands at a place that is the **first to have it**. -/
theorem exists_first_word {levels : List (String × Grammar)} (h : w ∈ levels.map Prod.fst) :
    ∃ front sub back, levels = front ++ (w, sub) :: back ∧ w ∉ front.map Prod.fst := by
  obtain ⟨before, after, heq, hbefore⟩ := List.eq_append_cons_of_mem h
  obtain ⟨front, rest, rfl, rfl, hrest⟩ := List.map_eq_append_iff.mp heq
  obtain ⟨⟨v, sub⟩, back, rfl, rfl, -⟩ := List.map_eq_cons_iff.mp hrest
  exact ⟨front, sub, back, rfl, hbefore⟩

/-- A literal of a level **leads on or ends** it. -/
theorem leadsOn_or_endsWith (h : w ∈ literals g) : (∃ sub, LeadsOn g w sub) ∨ EndsWith g w := by
  obtain ⟨a, e, b, rfl, ha, he⟩ := exists_first_entry h
  cases e with
  | word v =>
    obtain rfl := List.mem_singleton.mp he
    exact Or.inr (.intro ha)
  | branch levels =>
    obtain ⟨front, sub, back, rfl, hfront⟩ := exists_first_word he
    exact Or.inl ⟨sub, .intro ha hfront⟩

end Grammar

/-! ## The sentence -/

namespace Naming

variable {n : Naming} {g sub level : Grammar} {key w last : String} {parts : List String}

/-- A level none of whose literals is next has its sentence, with the **place for its word** open. -/
theorem matchLevel_of_not_mem (h : ∀ w ∈ g.literals, parts.head? ≠ some w) :
    n.matchLevel parts g = some (n.mismatch g.literals) := by
  have htried := @tryEntries_append n parts [] g [] h
  rw [List.append_nil, List.nil_append, tryEntries] at htried
  rw [matchLevel, htried]
  rfl

/-- A level that leads on has the sentence of the level **it leads to**, with the place filled. -/
theorem matchLevel_of_leadsOn (h : g.LeadsOn w sub) (parts : List String) :
    n.matchLevel (w :: parts) g = (n.matchLevel parts sub).map (nameLevel w) := by
  cases h with
  | @intro a b _ front back _ hentries hwords =>
    rw [matchLevel, tryEntries_append (head?_ne_of_not_mem hentries parts), tryEntries,
      tryLevels_append (head?_ne_of_not_mem hwords parts), tryLevels, if_pos List.head?_cons,
      List.tail_cons, matchLevel]
    cases (n.tryEntries parts sub []).sentence? n <;> rfl

/-- A level that ends with the part that is next **matches**. -/
theorem matchLevel_of_endsWith (h : g.EndsWith w) (parts : List String) :
    n.matchLevel (w :: parts) g = none := by
  cases h with
  | @intro a b _ hentries =>
    rw [matchLevel, tryEntries_append (head?_ne_of_not_mem hentries parts), tryEntries,
      if_pos List.head?_cons]
    rfl

/-- **Parts that do not match** stray, by whatever key the level was entered. -/
theorem exists_strays : ∀ {parts : List String} {g : Grammar}, n.matchLevel parts g ≠ none →
    ∀ key, ∃ last level, g.Strays key parts last level
  | [], g, _, key => ⟨key, g, .here fun _ _ h => nomatch h⟩
  | w :: parts, g, h, key => by
    by_cases hw : w ∈ g.literals
    · rcases Grammar.leadsOn_or_endsWith hw with ⟨sub, hsub⟩ | hend
      · rw [matchLevel_of_leadsOn hsub, ne_eq, Option.map_eq_none_iff] at h
        obtain ⟨last, level, hstrays⟩ := exists_strays h w
        exact ⟨last, level, .inside hsub hstrays⟩
      · exact absurd (matchLevel_of_endsWith hend parts) h
    · refine ⟨key, g, .here ?_⟩
      intro v hv heq
      exact hw (Option.some.inj heq ▸ hv)

/-- **Parts that stray** have the sentence of the level they stray from, whatever levels are above it. -/
theorem matchLevel_of_strays (h : g.Strays key parts last level) (hkey : Unmarked key.toList)
    (hg : g.Unmarked) (hds : ∀ d ∈ n.delimiters, Unmarked d.toList) :
    (n.matchLevel parts g).map (nameLevel key) = some (n.refusal last level.literals) := by
  induction h with
  | here h => rw [matchLevel_of_not_mem h, Option.map_some, nameLevel_mismatch]
  | inside hw h ih =>
    -- The level below has filled the place, and this one finds none in the sentence.
    obtain ⟨hword, hsub⟩ := hg.of_leadsOn hw
    obtain ⟨hlast, hlevel⟩ := h.unmarked hword hsub
    rw [matchLevel_of_leadsOn hw, ih hword hsub, Option.map_some, nameLevel_of_unmarked]
    exact unmarked_refusal hlast hlevel hds

/-- The key of the first level is **unmarked**. -/
theorem unmarked_root : Unmarked "<root>".toList := by decide +kernel

/-- **A name that strays** is rejected with the sentence of the level it strays from. -/
theorem check_of_strays (hoptions : n.constraints? = some g) (hg : g.Unmarked)
    (hds : ∀ d ∈ n.delimiters, Unmarked d.toList) {name : String}
    (h : g.Strays "<root>" (n.parts name) last level) :
    n.check name = .mismatch (n.refusal last level.literals) := by
  obtain ⟨sentence, hmatch, hsentence⟩ :=
    Option.map_eq_some_iff.mp (matchLevel_of_strays h unmarked_root hg hds)
  rw [check, hoptions]
  simp only [hmatch, hsentence]

/-- A constrained name that passes **matches**. -/
theorem check_of_passes (hoptions : n.constraints? = some g) {name : String}
    (h : (n.check name).passes = true) : n.check name = .matched := by
  rw [passes_iff_matched hoptions] at h
  rw [check, hoptions]
  simp only [matchLevel, h, Tried.sentence?]

/-- A constrained name that does not pass **strays**. -/
theorem exists_strays_of_rejected (hoptions : n.constraints? = some g) {name : String}
    (h : (n.check name).passes = false) :
    ∃ last level, g.Strays "<root>" (n.parts name) last level := by
  refine exists_strays (n := n) ?_ "<root>"
  intro hmatch
  rw [check, hoptions] at h
  simp [hmatch, Verdict.passes] at h

/-- **A rejection names the level that failed.**  Where a grammar constrains names, a name is rejected if
and only if its parts stray.  Where no literal and no delimiter has the place for a word in it, the sentence
names the last branch that was entered, all literals of the level there and the delimiters.  Of a name that
passes it says that all is well. -/
theorem check_names_level (hoptions : n.options = some g) (hne : g ≠ []) (hg : g.Unmarked)
    (hds : ∀ d ∈ n.delimiters, Unmarked d.toList) (name : String) :
    ((n.check name).passes = true → (n.check name).message = "ok") ∧
    ((n.check name).passes = false ↔ ∃ last level, g.Strays "<root>" (n.parts name) last level) ∧
    (∀ last level, g.Strays "<root>" (n.parts name) last level →
      (n.check name).message = "Does not match valid names for " ++ last ++ ": " ++
        Text.join ", " level.literals ++ ", with delimiters: " ++
          ("[" ++ Text.join ", " (n.delimiters.map fun d => "'" ++ d ++ "'") ++ "]")) := by
  have hconstraints := constraints?_eq_some.mpr ⟨hoptions, hne⟩
  refine ⟨?_, ⟨exists_strays_of_rejected hconstraints, ?_⟩, ?_⟩
  · intro hpass
    rw [check_of_passes hconstraints hpass, Verdict.message]
  · rintro ⟨last, level, h⟩
    rw [check_of_strays hconstraints hg hds h, Verdict.passes]
  · intro last level h
    rw [check_of_strays hconstraints hg hds h]
    rfl

/-- No literal of the grammar has the place for a word in it. -/
theorem unmarked_threeLevels : threeLevels.Unmarked := by
  have hleaf : Grammar.Unmarked [.word "c", .word "d"] := .intro (by decide +kernel) (by simp)
  have hinner : Grammar.Unmarked [.branch [("b", [.word "c", .word "d"])], .word "e"] := by
    refine .intro (by decide +kernel) fun levels w sub hb hw => ?_
    obtain rfl : levels = [("b", [.word "c", .word "d"])] := by simpa using hb
    rw [(Prod.mk.inj (List.mem_singleton.mp hw)).2]
    exact hleaf
  refine .intro (by decide +kernel) fun levels w sub hb hw => ?_
  obtain rfl : levels = [("a", [.branch [("b", [.word "c", .word "d"])], .word "e"])] := by
    simpa [threeLevels] using hb
  rw [(Prod.mk.inj (List.mem_singleton.mp hw)).2]
  exact hinner

/-- A name that strays on the third level is told what **that level** allows. -/
theorem check_names_third_level : threeLevels ≠ [] ∧ threeLevels.Unmarked ∧
    (∀ d ∈ dotted.delimiters, Unmarked d.toList) ∧ (dotted.check "a-b.g").passes = false ∧
    (dotted.check "a-b.g").message =
      "Does not match valid names for b: c, d, with delimiters: ['.', ',', '-']" := by
  have hne : threeLevels ≠ [] := List.cons_ne_nil _ _
  have hds : ∀ d ∈ dotted.delimiters, Unmarked d.toList := by decide +kernel
  have hparts : dotted.parts "a-b.g" = ["a", "b", "g"] := by decide +kernel
  have hlast : Grammar.Strays "b" [.word "c", .word "d"] ["g"] "b" [.word "c", .word "d"] :=
    .here (by decide)
  have hb : Grammar.LeadsOn [.branch [("b", [.word "c", .word "d"])], .word "e"] "b"
      [.word "c", .word "d"] :=
    @Grammar.LeadsOn.intro [] _ _ [] _ _ (by decide) (by decide)
  have ha : threeLevels.LeadsOn "a" [.branch [("b", [.word "c", .word "d"])], .word "e"] :=
    @Grammar.LeadsOn.intro [] _ _ [] _ _ (by decide) (by decide)
  have hstrays : threeLevels.Strays "<root>" (dotted.parts "a-b.g") "b" [.word "c", .word "d"] :=
    hparts ▸ .inside ha (.inside hb hlast)
  obtain ⟨-, hrejected, hsentence⟩ :=
    check_names_level (n := dotted) rfl hne unmarked_threeLevels hds "a-b.g"
  refine ⟨hne, unmarked_threeLevels, hds, hrejected.mpr ⟨_, _, hstrays⟩, ?_⟩
  rw [hsentence _ _ hstrays]
  decide +kernel

/-- A literal that brings a place for a word along has it **filled by the level above**. -/
example : (({ dotted with options := some [.branch [("a", [.branch [("\x7bkey\x7d", [.word "c"])]])]] } :
    Naming).check "a.\x7bkey\x7d.g").message =
      "Does not match valid names for a: c, with delimiters: ['.', ',', '-']" := by decide +kernel

end Naming

end Scaffold
