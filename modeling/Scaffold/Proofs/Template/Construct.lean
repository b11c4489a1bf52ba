import Scaffold.Proofs.Template.Flat
import Scaffold.Proofs.Template.Unclosed

/-!
# Proofs/Template/Construct — texts without a complete construct

A complete construct is what opens a tag and, behind its end, what closes it (`Token.HasConstruct`).  A text
without one can hold delimiters all the same: a closing one may stand before an opening one or overlap it,
and comments hide what is in them.  Its tokens are texts, or they break off inside a tag that is never closed
(`Token.loses_of_scanFrom`).  So where anything in it opens a tag, it is refused or writes less
than itself: a comment is left out (`length_render_lt`).
-/

namespace Scaffold

/-- What is mapped to an answer **is an answer**. -/
theorem Except.exists_of_map {ε α β : Type} {f : α → β} {x : Except ε α} {b : β} (h : x.map f = .ok b) :
    ∃ a, x = .ok a ∧ f a = b := by
  cases x with
  | error e => exact nomatch h
  | ok a => exact ⟨a, rfl, Except.ok.inj h⟩

namespace Text

variable {cs opening closing : List Char}

/-- A text **encloses** something between two delimiters: the one, and behind its end the other. -/
def Encloses (opening closing cs : List Char) : Prop :=
  ∃ before inside after, cs = before ++ opening ++ inside ++ closing ++ after

/-- Where a text encloses something, **both delimiters** occur. -/
theorem Encloses.infixes (h : Encloses opening closing cs) : opening <:+: cs ∧ closing <:+: cs := by
  obtain ⟨before, inside, after, rfl⟩ := h
  constructor
  · exact ⟨before, inside ++ closing ++ after, by simp only [List.append_assoc]⟩
  · exact ⟨before ++ opening ++ inside, after, rfl⟩

/-- What encloses something does so **at the end of a text** too. -/
theorem Encloses.of_suffix {back : List Char} (h : Encloses opening closing back) (hsuffix : back <:+ cs) :
    Encloses opening closing cs := by
  obtain ⟨before, inside, after, rfl⟩ := h
  obtain ⟨front, rfl⟩ := hsuffix
  exact ⟨front ++ before, inside, after, by simp only [List.append_assoc]⟩

/-- A text encloses something where the one delimiter **starts** some part of it, and the other one is in the
rest. -/
theorem encloses_iff : Encloses opening closing cs ↔
    ∃ back ∈ cs.tails, opening <+: back ∧ closing <:+: back.drop opening.length := by
  constructor
  · rintro ⟨before, inside, after, rfl⟩
    refine ⟨opening ++ (inside ++ closing ++ after), ?_, List.prefix_append _ _, ?_⟩
    · rw [List.mem_tails]
      exact ⟨before, by simp only [List.append_assoc]⟩
    · rw [List.drop_left]
      exact List.infix_append inside closing after
  · rintro ⟨back, hback, ⟨rest, rfl⟩, inside, after, hrest⟩
    obtain ⟨before, rfl⟩ := (List.mem_tails _ _).mp hback
    rw [List.drop_left] at hrest
    exact ⟨before, inside, after, by rw [← hrest]; simp only [List.append_assoc]⟩

instance (opening closing cs : List Char) : Decidable (Encloses opening closing cs) :=
  decidable_of_iff _ encloses_iff.symm

/-- A delimiter in front and another one **later on** enclose something. -/
theorem encloses_of_occurs (h : closing <:+: cs) : Encloses opening closing (opening ++ cs) := by
  obtain ⟨inside, after, rfl⟩ := h
  exact ⟨[], inside, after, by simp only [List.nil_append, List.append_assoc]⟩

/-- A text **occurs** where it is found. -/
theorem occursIn_iff {needle : List Char} : ∀ {cs : List Char}, occursIn needle cs = true ↔ needle <:+: cs
  | [] => by rw [occursIn, List.isEmpty_iff, List.infix_nil]
  | c :: cs => by
    rw [occursIn, Bool.or_eq_true, occursIn_iff, List.isPrefixOf_iff_prefix, List.infix_cons_iff]

end Text

namespace Template

open Text

namespace Token

variable {cs rest : List Char} {t : Token} {kind : TagKind}

/-- What **opens** a tag of a kind. -/
def opener : TagKind → List Char
  | .print => ['\x7b', '\x7b']
  | .tag => ['\x7b', '%']

/-- Whether a text has a **complete construct**: what opens a tag, and behind its end what closes it. -/
def HasConstruct (cs : List Char) : Prop := ∃ kind, Encloses (opener kind) (closer kind) cs

/-- Whether a text has **both ends** of a tag, in whatever order. -/
def HasEnds (cs : List Char) : Prop := ∃ kind, opener kind <:+: cs ∧ closer kind <:+: cs

instance (cs : List Char) : Decidable (HasConstruct cs) :=
  decidable_of_iff (Encloses (opener .print) (closer .print) cs ∨ Encloses (opener .tag) (closer .tag) cs)
    ⟨fun h => h.elim (⟨.print, ·⟩) (⟨.tag, ·⟩), fun ⟨kind, h⟩ => by
      cases kind
      · exact Or.inl h
      · exact Or.inr h⟩

/-- A complete construct has **both ends**. -/
theorem HasConstruct.hasEnds (h : HasConstruct cs) : HasEnds cs := by
  obtain ⟨kind, hkind⟩ := h
  exact ⟨kind, hkind.infixes⟩

/-- A text **counts as a template** if it has both ends of a tag. -/
theorem isTemplate_iff {s : String} : isTemplate s = true ↔ HasEnds s.toList := by
  have hprint : "\x7b\x7b".toList = opener .print ∧ "\x7d\x7d".toList = closer .print := ⟨rfl, rfl⟩
  have htag : "\x7b%".toList = opener .tag ∧ "%\x7d".toList = closer .tag := ⟨rfl, rfl⟩
  simp only [isTemplate, hprint, htag, Bool.or_eq_true, Bool.and_eq_true, occursIn_iff]
  constructor
  · rintro (h | h)
    · exact ⟨.print, h⟩
    · exact ⟨.tag, h⟩
  · rintro ⟨kind, h⟩
    cases kind
    · exact Or.inl h
    · exact Or.inr h

instance (cs : List Char) : Decidable (HasEnds cs) :=
  decidable_of_iff (isTemplate (String.ofList cs) = true) (by rw [isTemplate_iff, String.toList_ofList])

/-- Whether a token **closes** a tag. -/
def closes : Token → Bool
  | .closePrint | .closeTag => true
  | _ => false

theorem closes_closing (kind : TagKind) : kind.closing.closes = true := by
  cases kind <;> rfl

/-! ## Inside a tag -/

theorem untilQuote_suffix {quote : Char} {raw : List Char} (h : untilQuote quote cs = some (raw, rest)) :
    rest <:+ cs := by
  fun_induction untilQuote quote cs generalizing raw rest with
  | case1 => contradiction
  | case2 c cs ih =>
    obtain ⟨p, hp, hpair⟩ := Option.map_eq_some_iff.mp h
    obtain ⟨-, rfl⟩ := Prod.mk.inj hpair
    exact ((ih hp).trans (List.suffix_cons c cs)).trans (List.suffix_cons _ _)
  | case3 cs =>
    obtain ⟨-, rfl⟩ := Prod.mk.inj (Option.some.inj h)
    exact List.suffix_cons _ _
  | case4 => contradiction
  | case5 c cs _ _ _ ih =>
    obtain ⟨p, hp, hpair⟩ := Option.map_eq_some_iff.mp h
    obtain ⟨-, rfl⟩ := Prod.mk.inj hpair
    exact (ih hp).trans (List.suffix_cons c cs)

theorem numberRun_suffix (base : Nat) : ∀ (state : NumberState) (cs : List Char),
    (numberRun base state cs).2.2 <:+ cs
  | _, [] => List.suffix_refl _
  | state, c :: cs => by
    rw [numberRun]
    split
    · exact (numberRun_suffix base _ cs).trans (List.suffix_cons c cs)
    · exact List.suffix_refl _

theorem sign?_suffix (h : sign? cs = some (t, rest)) : rest <:+ cs ∧ t.closes = false := by
  unfold sign? at h
  split at h
  all_goals grind [closes, List.suffix_cons, List.IsSuffix.trans]

theorem quotedText_suffix {quote : Char} (h : quotedText quote cs = .ok (t, rest)) :
    rest <:+ cs ∧ t.closes = false := by
  unfold quotedText at h
  grind [closes, untilQuote_suffix]

theorem number_suffix (h : number cs = .ok (t, rest)) : rest <:+ cs ∧ t.closes = false := by
  unfold number at h
  split at h
  next base body hbase =>
  have hbody : body <:+ cs := by grind [List.suffix_cons, List.IsSuffix.trans]
  split at h
  next run final more hrun =>
  have hmore : more <:+ body := by
    have hsuffix := numberRun_suffix base (if base = 10 then .whole else .based) body
    rwa [hrun] at hsuffix
  have hrest := hmore.trans hbody
  grind [closes]

/-- A token inside a tag leaves **a suffix**, and closes no tag. -/
theorem inner_suffix (h : inner cs = .ok (t, rest)) : rest <:+ cs ∧ t.closes = false := by
  unfold inner at h
  split at h
  · next p hsign =>
    obtain rfl := Except.ok.inj h
    exact sign?_suffix hsign
  · split at h
    · contradiction
    · next c r _ =>
      split_ifs at h
      · obtain ⟨hsuffix, hcloses⟩ := quotedText_suffix h
        exact ⟨hsuffix.trans (List.suffix_cons c r), hcloses⟩
      · exact number_suffix h
      · obtain ⟨rfl, rfl⟩ := Prod.mk.inj (Except.ok.inj h)
        exact ⟨List.dropWhile_suffix _, rfl⟩

theorem skipBlanks_suffix (cs : List Char) : skipBlanks cs <:+ cs := List.dropWhile_suffix _

/-- Where a tag is closed, **what closes it** occurs. -/
theorem infix_of_close? {p : Bool × List Char} (h : close? kind cs = some p) : closer kind <:+: cs := by
  unfold close? at h
  split at h
  · split_ifs at h with hstarts
    exact List.infix_cons (List.isPrefixOf_iff_prefix.mp hstarts).isInfix
  · split_ifs at h with hstarts
    exact List.infix_cons (List.isPrefixOf_iff_prefix.mp hstarts).isInfix
  · split_ifs at h with hstarts
    exact (List.isPrefixOf_iff_prefix.mp hstarts).isInfix

/-- **A tag that is never closed** has no closing token. -/
theorem closing_not_mem_of_scanFrom : ∀ {fuel : Nat} {trim : Bool} {cs : List Char} {ts : List Token},
    ¬ closer kind <:+: cs → scanFrom fuel (some kind) trim cs = .ok ts → kind.closing ∉ ts
  | 0, _, _, _, _, h => nomatch h
  | fuel + 1, trim, cs, ts, hnone, h => by
    unfold scanFrom at h
    dsimp only at h
    have hskip := skipBlanks_suffix cs
    split at h
    · next hclose => exact absurd ((infix_of_close? hclose).trans hskip.isInfix) hnone
    · split at h
      · obtain rfl := Except.ok.inj h
        exact List.not_mem_nil
      · next hcs =>
        split at h
        · contradiction
        · next t rest hinner =>
          obtain ⟨more, hmore, rfl⟩ := Except.exists_of_map h
          obtain ⟨hsuffix, hcloses⟩ := inner_suffix hinner
          have hrest : ¬ closer kind <:+: rest := fun hoccurs =>
            hnone (hoccurs.trans ((hsuffix.trans (hcs ▸ hskip)).isInfix))
          rw [List.mem_cons, not_or]
          constructor
          · intro ht
            rw [← ht, closes_closing] at hcloses
            exact nomatch hcloses
          · exact closing_not_mem_of_scanFrom hrest hmore

/-- Where a tag is one word, **it is closed**. -/
theorem infix_of_wordTag? {word : String} {p : Bool × List Char} (h : wordTag? word cs = some p) :
    closer .tag <:+: cs := by
  unfold wordTag? at h
  dsimp only at h
  split_ifs at h
  have hsuffix := (skipBlanks_suffix _).trans ((List.drop_suffix word.length _).trans (skipBlanks_suffix cs))
  exact (infix_of_close? h).trans hsuffix.isInfix

/-! ## Between tags -/

/-- The text before a tag and what follows it are **the whole text**. -/
theorem untilTag_append (cs : List Char) : (untilTag cs).1 ++ (untilTag cs).2 = cs := by
  fun_induction untilTag cs with
  | case1 => rfl
  | case2 => rfl
  | case3 => rfl
  | case4 a b cs _ before rest hrest ih =>
    rw [hrest] at ih
    exact congrArg (a :: ·) ih

/-- Where there is a tag, it is **found**. -/
theorem untilTag_ne_nil {a b : Char} (hopens : opens a b = true) (h : [a, b] <:+: cs) :
    (untilTag cs).2 ≠ [] := by
  fun_induction untilTag cs with
  | case1 => simp at h
  | case2 c => exact absurd h.length_le (by simp)
  | case3 x y cs hxy => exact List.cons_ne_nil _ _
  | case4 x y cs hxy before rest hrest ih =>
    rw [hrest] at ih
    rcases List.infix_cons_iff.mp h with hstarts | hoccurs
    · simp only [List.cons_prefix_cons, List.nil_prefix, and_true] at hstarts
      rw [hstarts.1, hstarts.2] at hopens
      exact absurd hopens hxy
    · exact ih hoccurs

/-- What is found **opens** a tag or a comment. -/
theorem opens_of_untilTag {a b : Char} {rest : List Char} (h : (untilTag cs).2 = a :: b :: rest) :
    opens a b = true := by
  fun_induction untilTag cs with
  | case1 => exact nomatch h
  | case2 c => exact nomatch h
  | case3 x y cs hxy =>
    obtain ⟨rfl, hrest⟩ := List.cons.inj h
    obtain ⟨rfl, -⟩ := List.cons.inj hrest
    exact hxy
  | case4 x y cs hxy before rest' hrest ih =>
    rw [hrest] at ih
    exact ih h

theorem control_suffix (cs : List Char) : (control cs).2 <:+ cs := by
  unfold control
  split
  · exact List.suffix_cons _ _
  · exact List.suffix_cons _ _
  · exact List.suffix_refl _

theorem untilText_suffix {stop : List Char} : ∀ {cs comment rest : List Char},
    untilText stop cs = some (comment, rest) → rest <:+ cs
  | [], _, _, h => nomatch h
  | c :: cs, comment, rest, h => by
    rw [untilText] at h
    split_ifs at h
    · obtain ⟨-, rfl⟩ := Prod.mk.inj (Option.some.inj h)
      exact List.drop_suffix _ _
    · obtain ⟨⟨more, rest⟩, hrest, hpair⟩ := Option.map_eq_some_iff.mp h
      obtain ⟨-, rfl⟩ := Prod.mk.inj hpair
      exact (untilText_suffix hrest).trans (List.suffix_cons c cs)

/-- Tokens that are **texts**, and what these are together. -/
inductive Texts : List Token → List Char → Prop
  | nil : Texts [] []
  | cons {ts : List Token} {written : List Char} (piece : List Char) (h : Texts ts written) :
    Texts (.text (String.ofList piece) :: ts) (piece ++ written)

/-- Tokens that **break off** inside a tag: texts, and then a tag that is never closed. -/
def BreaksOff (ts : List Token) : Prop :=
  ∃ (front : List Token) (written : List Char) (kind : TagKind) (inner : List Token),
    Texts front written ∧ kind.closing ∉ inner ∧ ts = front ++ kind.opening :: inner

variable {ts us : List Token} {written more : List Char}

theorem texts_ofText (cs : List Char) : Texts (ofText cs) cs := by
  rw [ofText]
  split_ifs with h
  · rw [List.isEmpty_iff.mp h]
    exact .nil
  · have hone := Texts.cons cs .nil
    rwa [List.append_nil] at hone

theorem Texts.append (h : Texts ts written) (hmore : Texts us more) : Texts (ts ++ us) (written ++ more) := by
  induction h with
  | nil => exact hmore
  | cons piece h ih =>
    rw [List.cons_append, List.append_assoc]
    exact .cons piece ih

theorem Texts.breaksOff (h : Texts ts written) (hbreaks : BreaksOff us) : BreaksOff (ts ++ us) := by
  obtain ⟨front, text, kind, inner, hfront, hnone, rfl⟩ := hbreaks
  exact ⟨ts ++ front, written ++ text, kind, inner, h.append hfront, hnone, (List.append_assoc _ _ _).symm⟩

/-- A text without a complete construct has none **at its end** either. -/
theorem not_hasConstruct_of_suffix (hnone : ¬HasConstruct cs) (hsuffix : rest <:+ cs) : ¬HasConstruct rest := by
  rintro ⟨kind, hkind⟩
  exact hnone ⟨kind, hkind.of_suffix hsuffix⟩

/-- Behind what opens a tag, **what closes it** does not occur in a text without a complete construct. -/
theorem not_infix_of_opener (kind : TagKind) (hnone : ¬HasConstruct cs)
    (hopener : opener kind ++ rest <:+ cs) : ¬ closer kind <:+: rest :=
  fun hcloser => hnone ⟨kind, (encloses_of_occurs hcloser).of_suffix hopener⟩

/-- Trimming the start leaves **a suffix**. -/
theorem trimmed_suffix (trim : Bool) (cs : List Char) :
    (if trim = true then trimStartBy isBlank cs else cs) <:+ cs := by
  split_ifs
  · exact List.dropWhile_suffix _
  · exact List.suffix_refl _

/-- Trimming the end makes a text **no longer**. -/
theorem length_trimmed_le (trim : Bool) (cs : List Char) :
    (if trim = true then trimEndBy isBlank cs else cs).length ≤ cs.length := by
  split_ifs
  · rw [trimEndBy, List.length_reverse, ← cs.length_reverse]
    exact (List.dropWhile_suffix _).length_le
  · exact Nat.le_refl _

/-- What opens a tag is **a pair of characters** that does. -/
theorem opens_opener (kind : TagKind) : ∃ a b, opens a b = true ∧ opener kind = [a, b] := by
  cases kind
  · exact ⟨_, _, rfl, rfl⟩
  · exact ⟨_, _, rfl, rfl⟩

/-- Where a tag is opened in a text without a complete construct, the tokens **break off**. -/
theorem breaksOff_of_opener {fuel : Nat} {back : List Char} {front : List Token} (kind : TagKind)
    (hfront : Texts front written) (hnone : ¬HasConstruct cs) (hopener : opener kind ++ rest <:+ cs)
    (hback : back <:+ rest)
    (h : (scanFrom fuel (some kind) false back).map (front ++ kind.opening :: ·) = .ok ts) : BreaksOff ts := by
  obtain ⟨inner, hinner, rfl⟩ := Except.exists_of_map h
  have hcloser : ¬ closer kind <:+: back := fun hoccurs =>
    not_infix_of_opener kind hnone hopener (hoccurs.trans hback.isInfix)
  exact ⟨front, written, kind, inner, hfront, closing_not_mem_of_scanFrom hcloser hinner, rfl⟩

/-- Tokens that **lose** something of a text: they break off, or they are texts that together are no longer
than it, and shorter if anything in it opens a tag. -/
def Loses (cs : List Char) (ts : List Token) : Prop :=
  BreaksOff ts ∨ ∃ written, Texts ts written ∧ written.length ≤ cs.length ∧
    ((∃ kind, opener kind <:+: cs) → written.length < cs.length)

/-- **Nothing** loses nothing. -/
theorem loses_nil : Loses [] [] := by
  refine Or.inr ⟨[], .nil, Nat.le_refl 0, ?_⟩
  rintro ⟨kind, hkind⟩
  obtain ⟨a, b, -, hopener⟩ := opens_opener kind
  exact absurd hkind.length_le (by simp [hopener])

/-- Texts that are shorter **lose** something. -/
theorem Texts.loses (h : Texts ts written) (hlt : written.length < cs.length) : Loses cs ts :=
  Or.inr ⟨written, h, Nat.le_of_lt hlt, fun _ => hlt⟩

/-- Where there is **no tag**, what is left of a text is written: all of it, or what is behind its blanks. -/
theorem loses_of_no_tag {back : List Char} (hback : back <:+ cs) (hnone : (untilTag back).2 = []) :
    Loses cs (ofText back) := by
  refine Or.inr ⟨back, texts_ofText back, hback.length_le, ?_⟩
  rintro ⟨kind, hkind⟩
  obtain ⟨a, b, hopens, hopener⟩ := opens_opener kind
  rcases Nat.lt_or_ge back.length cs.length with hlt | hge
  · exact hlt
  · have hsame : back = cs := hback.eq_of_length_le hge
    exact absurd hnone (untilTag_ne_nil hopens (hsame ▸ hopener ▸ hkind))

/-- What is lost behind a comment **is lost with it**. -/
theorem Loses.behind {front : List Token} {back : List Char} (h : Loses back ts) (hfront : Texts front written)
    (hlt : written.length + back.length < cs.length) : Loses cs (front ++ ts) := by
  rcases h with hbreaks | ⟨more, hmore, hle, -⟩
  · exact Or.inl (hfront.breaksOff hbreaks)
  · refine (hfront.append hmore).loses ?_
    rw [List.length_append]
    omega

/-- **The tokens** of a text without a complete construct lose something of it, if anything in it opens a
tag. -/
theorem loses_of_scanFrom : ∀ {fuel : Nat} {trim : Bool} {cs : List Char} {ts : List Token},
    ¬HasConstruct cs → scanFrom fuel none trim cs = .ok ts → Loses cs ts
  | 0, _, _, _, _, h => nomatch h
  | fuel + 1, trim, [], ts, _, h => by
    obtain rfl := Except.ok.inj h
    exact loses_nil
  | fuel + 1, trim, c :: cs, ts, hnone, h => by
    unfold scanFrom at h
    dsimp only at h
    have htrim := trimmed_suffix trim (c :: cs)
    generalize (if trim = true then trimStartBy isBlank (c :: cs) else c :: cs) = all at h htrim
    have hall := untilTag_append all
    have hle := htrim.length_le
    split at h
    · next hrest =>
      rw [hrest, List.append_nil] at hall
      rw [hall] at h
      obtain rfl := Except.ok.inj h
      exact loses_of_no_tag htrim hrest
    · next hrest =>
      obtain rfl := Except.ok.inj h
      have hlength := congrArg List.length (hrest ▸ hall)
      rw [List.length_append, List.length_singleton] at hlength
      exact (texts_ofText _).loses (by omega)
    · next a b r hrest =>
      have hlength := congrArg List.length (hrest ▸ hall)
      rw [List.length_append, List.length_cons, List.length_cons] at hlength
      have hsuffix : a :: b :: r <:+ c :: cs := List.IsSuffix.trans ⟨_, hrest ▸ hall⟩ htrim
      have hfront := texts_ofText
        (if (control r).1 = true then trimEndBy isBlank (untilTag all).1 else (untilTag all).1)
      have hshort := length_trimmed_le (control r).1 (untilTag all).1
      have hcontrol := control_suffix r
      obtain ⟨rfl, rfl | rfl | rfl⟩ : a = '\x7b' ∧ (b = '\x7b' ∨ b = '%' ∨ b = '#') := by
        simpa [opens, or_assoc] using opens_of_untilTag hrest
      · exact Or.inl (breaksOff_of_opener .print hfront hnone hsuffix hcontrol h)
      · rw [if_neg (by decide), if_pos rfl] at h
        split at h
        · next hraw =>
          have hoccurs := (infix_of_wordTag? hraw).trans hcontrol.isInfix
          exact absurd hoccurs (not_infix_of_opener .tag hnone hsuffix)
        · exact Or.inl (breaksOff_of_opener .tag hfront hnone hsuffix hcontrol h)
      · rw [if_pos rfl] at h
        split at h
        · contradiction
        -- a comment is left out, and reading goes on behind it
        · next comment back hback =>
          have hbehind := (untilText_suffix hback).trans hcontrol
          have hshorter := hbehind.length_le
          obtain ⟨more, hmore, rfl⟩ := Except.exists_of_map h
          have hnone' := not_hasConstruct_of_suffix hnone
            ((hbehind.trans (List.suffix_append ['\x7b', '#'] r)).trans hsuffix)
          exact (loses_of_scanFrom hnone' hmore).behind hfront (by omega)

end Token

/-! ## Rendering -/

section

open Token Scaffold.Template.Grammar

variable {ts back rest : List Token} {written : List Char} {place : Place} {stops : List String}
  {ctx : Context} {pages : Pages} {text out : String}

/-- **Texts** are read as statements that write them, and reading goes on behind them. -/
theorem stmts_of_texts (h : Texts ts written) : ∀ {fuel : Nat} {ss : List Stmt},
    stmts fuel place stops (ts ++ back) = .ok (ss, rest) → ∃ fuel' front ss',
      stmts fuel' place stops back = .ok (ss', rest) ∧ ss = front ++ ss' ∧ areFlat [] front = true ∧
        ∀ env, writtenAll env front = String.ofList written := by
  induction h with
  | nil =>
    intro fuel ss h
    exact ⟨fuel, [], ss, h, rfl, rfl, fun env => rfl⟩
  | cons piece _ ih =>
    intro fuel ss h
    cases fuel with
    | zero => exact nomatch h
    | succ fuel =>
      rw [List.cons_append, stmts] at h
      split at h
      · contradiction
      · next more rest' hmore =>
        obtain ⟨rfl, rfl⟩ := Prod.mk.inj (Except.ok.inj h)
        obtain ⟨fuel', front, ss', hback, rfl, hflat, hwritten⟩ := ih hmore
        refine ⟨fuel', .text (String.ofList piece) :: front, ss', hback, rfl, ?_, fun env => ?_⟩
        · rw [areFlat, Stmt.isFlat, Bool.true_and, hflat]
        · rw [writtenAll, Stmt.written, hwritten, String.ofList_append]

/-- **A text without a complete construct** in which something opens a tag is refused, or it is a template
that writes a shorter text. -/
theorem parse_of_not_hasConstruct {body : List Stmt} (hnone : ¬HasConstruct text.toList)
    (hopener : ∃ kind, opener kind <:+: text.toList) (h : parse text = .ok body) :
    areFlat [] body = true ∧ ∀ env, (writtenAll env body).length < text.length := by
  unfold parse at h
  split at h
  · contradiction
  next ts hscan =>
  split at h
  · contradiction
  · next ss hstmts =>
    split_ifs at h
    obtain rfl := Except.ok.inj h
    rcases loses_of_scanFrom hnone hscan with
      ⟨front, written, kind, inner, hfront, hclosing, rfl⟩ | ⟨written, hwritten, -, hshorter⟩
    · obtain ⟨fuel, _, _, hbroken, -⟩ := stmts_of_texts hfront hstmts
      exact absurd hbroken (stmts_unclosed hclosing)
    · rw [← List.append_nil ts] at hstmts
      obtain ⟨fuel, front, ss', hnil, rfl, hflat, hwrites⟩ := stmts_of_texts hwritten hstmts
      cases fuel with
      | zero => exact nomatch hnil
      | succ fuel =>
        obtain ⟨rfl, -⟩ := Prod.mk.inj (Except.ok.inj hnil)
        rw [List.append_nil]
        refine ⟨hflat, fun env => ?_⟩
        rw [hwrites, String.length_ofList, ← String.length_toList]
        exact hshorter hopener
  · contradiction

/-- A text without a complete construct in which something opens a tag **never renders to itself**: what it
renders to, if it does, is shorter. -/
theorem length_render_lt (hnone : ¬HasConstruct text.toList) (hopener : ∃ kind, opener kind <:+: text.toList)
    (h : render pages text ctx = .ok out) : out.length < text.length := by
  cases hparse : parse text with
  | error e =>
    rw [render, hparse] at h
    contradiction
  | ok body =>
    obtain ⟨hflat, hlength⟩ := parse_of_not_hasConstruct hnone hopener hparse
    rw [render_of_areFlat hparse hflat (List.forall_mem_nil _)] at h
    exact Except.ok.inj h ▸ hlength _

/-- Both ends of a tag may stand **in a comment**, and the text is one that is rendered. -/
example : (render [] "\x7b#\x7d\x7d\x7b\x7b#\x7dx" []).toOption = some "x" := by
  decide +kernel

end

end Template

end Scaffold
