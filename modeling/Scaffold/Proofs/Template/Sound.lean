import Scaffold.Proofs.Template.Flat

/-!
# Proofs/Template/Sound — templates that cannot fail

A page is a flat template with blocks that have flat bodies, and may extend another page; where the names it
takes attributes of stand for something it only writes (`execAll_of_arePage`).  Whether a text is such a
template is computed from it (`isSound`, `extendsSound`), and then it renders in every context that has the
names (`exists_render_of_isSound`, `Renderer.exists_render_of_extendsSound`).
-/

namespace Scaffold

namespace Template

variable {names : List String} {h : Host} {r : Run}

/-- A flat statement **only writes**. -/
theorem exists_exec_of_isFlat {s : Stmt} (hs : s.isFlat names = true) (hr : r.Ready names) :
    ∃ out, exec h s r = .ok (.next, { r with out := out }) := by
  obtain ⟨out, hout⟩ := r.exists_write (s.written r.lookup)
  exact ⟨out, by rw [exec_of_isFlat hs hr, hout]⟩

/-- Flat statements **only write**. -/
theorem exists_execAll_of_areFlat {ss : List Stmt} (hs : areFlat names ss = true)
    (hr : r.Ready names) : ∃ out, execAll h ss r = .ok (.next, { r with out := out }) := by
  obtain ⟨out, hout⟩ := r.exists_write (writtenAll r.lookup ss)
  exact ⟨out, by rw [execAll_of_areFlat hs hr, hout]⟩

/-! ## Pages -/

/-- A statement of a **page**: a flat one, or a block with a flat body. -/
def Stmt.isPage (names : List String) : Stmt → Bool
  | .block _ body => areFlat names body
  | s => s.isFlat names

/-- A statement of a page is **a block** with a flat body, or is flat itself. -/
theorem Stmt.cases_of_isPage {s : Stmt} (hs : s.isPage names = true) :
    (∃ name body, s = .block name body ∧ areFlat names body = true) ∨ s.isFlat names = true := by
  cases s with
  | block name body => exact Or.inl ⟨name, body, rfl, hs⟩
  | _ => exact Or.inr hs

/-- Blocks that **can be run**: each has a body, and all of its bodies are flat. -/
def Layers.AreFlat (names : List String) (ls : Layers) : Prop :=
  ∀ l ∈ ls, l.2 ≠ [] ∧ ∀ body ∈ l.2, areFlat names body = true

/-- A run on a **page**: it is ready, may nest further, and all its blocks can be run. -/
structure Run.OnPage (names : List String) (r : Run) : Prop extends r.Ready names where
  shallow : r.frames.length + r.depth < Run.maxDepth
  flat : r.blocks.AreFlat names

/-- The first body of a block that can be run **is flat**. -/
theorem Layers.AreFlat.get {ls : Layers} (hls : ls.AreFlat names) {name : String}
    (hname : name ∈ ls.map Prod.fst) : ∃ body, (ls.get name)[0]? = some body ∧
      areFlat names body = true := by
  obtain ⟨l, hl, rfl⟩ := List.mem_map.mp hname
  obtain ⟨found, hfound⟩ : ∃ found, ls.find? (fun m => m.1 == l.1) = some found :=
    Option.isSome_iff_exists.mp (List.find?_isSome.mpr ⟨l, hl, beq_self_eq_true _⟩)
  obtain ⟨hne, hflat⟩ := hls found (List.mem_of_find?_eq_some hfound)
  obtain ⟨body, rest, hbodies⟩ := List.exists_cons_of_ne_nil hne
  refine ⟨body, ?_, hflat body (hbodies ▸ List.mem_cons_self)⟩
  rw [Layers.get, hfound, Option.map_some, Option.getD_some, hbodies]
  rfl

variable {pages : Pages}

/-- To enter a body at a level is to run it **one level below**. -/
theorem enter_level (n : Nat) (bindings : List Binding) (body : List Stmt) (r : Run) :
    (Host.level pages (n + 1)).enter bindings body r =
      runBody (Host.level pages n) bindings body r := rfl

/-- **A flat body** that is entered writes, and does nothing else. -/
theorem enter_of_areFlat (pages : Pages) (n : Nat) {body : List Stmt} (hbody : areFlat names body = true)
    (hr : r.Ready names) : ∃ out, (Host.level pages (n + 1)).enter [] body r =
      .ok { r with out := out } := by
  obtain ⟨out, hout⟩ := exists_execAll_of_areFlat (h := Host.level pages n) (r := { r with parent := none })
    hbody ⟨hr.plain, hr.known⟩
  refine ⟨out, ?_⟩
  rw [enter_level, runBody, bindParameters]
  simp only [hout]

/-- **A block** that can be run writes, and does nothing else. -/
theorem exec_block (n : Nat) {name : String} {body : List Stmt} (hr : r.OnPage names)
    (hname : name ∈ r.blocks.map Prod.fst) :
    ∃ out, exec (Host.level pages (n + 1)) (.block name body) r = .ok (.next, { r with out := out }) := by
  rw [exec]
  split
  · exact ⟨r.out, rfl⟩
  obtain ⟨first, hfirst, hflat⟩ := hr.flat.get hname
  have hpush : r.push = .ok { r with frames := [] :: r.frames } :=
    if_neg (Nat.not_lt.mpr hr.shallow)
  obtain ⟨out, hout⟩ := enter_of_areFlat pages n
    (r := { r with frames := [] :: r.frames, current := some (name, 0) }) hflat
    ⟨hr.plain, hr.known⟩
  refine ⟨out, ?_⟩
  rw [runBlock, hfirst]
  simp only [hpush, hout]
  rfl

/-- **A page** writes, and does nothing else. -/
theorem execAll_of_arePage (pages : Pages) (n : Nat) : ∀ {ss : List Stmt} {r : Run},
    ss.all (Stmt.isPage names) = true → r.OnPage names →
      (∀ name body, .block name body ∈ ss → name ∈ r.blocks.map Prod.fst) →
        ∃ out, execAll (Host.level pages (n + 1)) ss r = .ok (.next, { r with out := out })
  | [], r, _, _, _ => ⟨r.out, by rw [execAll]⟩
  | s :: ss, r, hs, hr, hblocks => by
    rw [List.all_cons, Bool.and_eq_true] at hs
    obtain ⟨out, hout⟩ : ∃ out, exec (Host.level pages (n + 1)) s r =
        .ok (.next, { r with out := out }) := by
      obtain ⟨name, body, rfl, -⟩ | hflat := Stmt.cases_of_isPage hs.1
      · exact exec_block n hr (hblocks name body List.mem_cons_self)
      · exact exists_exec_of_isFlat hflat hr.toReady
    rw [execAll, hout]
    exact execAll_of_arePage pages n (r := { r with out := out }) hs.2
      ⟨⟨hr.plain, hr.known⟩, hr.shallow, hr.flat⟩
      fun name body hmem => hblocks name body (List.mem_cons_of_mem _ hmem)

/-- Where nothing is written, a page does **nothing**. -/
theorem execAll_of_muted : ∀ {ss : List Stmt} {r : Run}, ss.all (Stmt.isPage names) = true →
    r.Ready names → r.muted = true → ∃ out, execAll h ss r = .ok (.next, { r with out := out })
  | [], r, _, _, _ => ⟨r.out, by rw [execAll]⟩
  | s :: ss, r, hs, hr, hmuted => by
    rw [List.all_cons, Bool.and_eq_true] at hs
    obtain ⟨out, hout⟩ : ∃ out, exec h s r = .ok (.next, { r with out := out }) := by
      obtain ⟨name, body, rfl, -⟩ | hflat := Stmt.cases_of_isPage hs.1
      · exact ⟨r.out, by rw [exec, if_pos (by rw [hmuted, Bool.true_or])]⟩
      · exact exists_exec_of_isFlat hflat hr
    rw [execAll, hout]
    exact execAll_of_muted (r := { r with out := out }) hs.2 ⟨hr.plain, hr.known⟩ hmuted

/-- **A page** that is run writes, and does nothing else. -/
theorem runBody_of_arePage (pages : Pages) (n : Nat) {body : List Stmt}
    (hbody : body.all (Stmt.isPage names) = true) (hr : r.OnPage names)
    (hblocks : ∀ name inner, .block name inner ∈ body → name ∈ r.blocks.map Prod.fst) :
    ∃ out, runBody (Host.level pages (n + 1)) [] body r = .ok { r with out := out } := by
  obtain ⟨out, hout⟩ := execAll_of_arePage pages n (r := { r with parent := none }) hbody
    ⟨⟨hr.plain, hr.known⟩, hr.shallow, hr.flat⟩ hblocks
  refine ⟨out, ?_⟩
  rw [runBody, bindParameters]
  simp only [hout]

/-! ## The blocks of a page -/

mutual

/-- A flat statement has **no blocks**. -/
theorem blocks_of_isFlat : ∀ {s : Stmt}, s.isFlat names = true → s.blocks = []
  | .text _, _ => rfl
  | .print _, _ => rfl
  | .branch test yes no, hs => by
    rw [Stmt.isFlat, Bool.and_eq_true, Bool.and_eq_true] at hs
    rw [Stmt.blocks, blocksOf_of_areFlat hs.1.2, blocksOf_of_areFlat hs.2, List.append_nil]

/-- Flat statements have **no blocks**. -/
theorem blocksOf_of_areFlat : ∀ {ss : List Stmt}, areFlat names ss = true → blocksOf ss = []
  | [], _ => rfl
  | s :: ss, hs => by
    rw [areFlat, Bool.and_eq_true] at hs
    rw [blocksOf, blocks_of_isFlat hs.1, blocksOf_of_areFlat hs.2, List.append_nil]

end

/-- The blocks of a page have **flat bodies**. -/
theorem areFlat_of_mem_blocksOf : ∀ {ss : List Stmt}, ss.all (Stmt.isPage names) = true →
    ∀ b ∈ blocksOf ss, areFlat names b.2 = true
  | [], _, b, hb => absurd hb List.not_mem_nil
  | s :: ss, hs, b, hb => by
    rw [List.all_cons, Bool.and_eq_true] at hs
    rw [blocksOf, List.mem_append] at hb
    rcases hb with hb | hb
    · obtain ⟨name, body, rfl, hbody⟩ | hflat := Stmt.cases_of_isPage hs.1
      · rw [Stmt.blocks, blocksOf_of_areFlat hbody, List.mem_singleton] at hb
        exact hb ▸ hbody
      · rw [blocks_of_isFlat hflat] at hb
        exact absurd hb List.not_mem_nil
    · exact areFlat_of_mem_blocksOf hs.2 b hb

/-- A block of a page is **among its blocks**. -/
theorem mem_blocksOf {name : String} {body : List Stmt} : ∀ {ss : List Stmt},
    .block name body ∈ ss → (name, body) ∈ blocksOf ss
  | s :: ss, h => by
    rw [blocksOf, List.mem_append]
    rcases List.mem_cons.mp h with rfl | h
    · exact Or.inl List.mem_cons_self
    · exact Or.inr (mem_blocksOf h)

/-- The blocks of a page **can be run**. -/
theorem Layers.areFlat_ofBlocks {bs : Blocks} (hbs : ∀ b ∈ bs, areFlat names b.2 = true) :
    (ofBlocks bs).AreFlat names := by
  intro l hl
  obtain ⟨b, hb, rfl⟩ := List.mem_map.mp hl
  exact ⟨List.cons_ne_nil _ _, fun body hbody => List.mem_singleton.mp hbody ▸ hbs b hb⟩

/-- A flat body that is put below others leaves blocks that **can be run**. -/
theorem Layers.areFlat_add {name : String} {body : List Stmt} (hbody : areFlat names body = true) :
    ∀ {ls : Layers}, ls.AreFlat names → (ls.add name body).AreFlat names
  | [], _ => by
    intro l hl
    obtain rfl := List.mem_singleton.mp hl
    exact ⟨List.cons_ne_nil _ _, fun b hb => List.mem_singleton.mp hb ▸ hbody⟩
  | (key, bodies) :: ls, hls => by
    rw [AreFlat, List.forall_mem_cons] at hls
    rw [add]
    split
    · refine List.forall_mem_cons.mpr ⟨⟨by simp, fun b hb => ?_⟩, hls.2⟩
      rcases List.mem_append.mp hb with hb | hb
      · exact hls.1.2 b hb
      · exact List.mem_singleton.mp hb ▸ hbody
    · exact List.forall_mem_cons.mpr ⟨hls.1, areFlat_add hbody hls.2⟩

/-- Putting a body below others names **its block besides**. -/
theorem Layers.mem_names_add {name key : String} {body : List Stmt} : ∀ {ls : Layers},
    key ∈ (ls.add name body).map Prod.fst ↔ key ∈ ls.map Prod.fst ∨ key = name
  | [] => by simp [add]
  | (k, bodies) :: ls => by
    rw [add]
    split
    · next hk =>
      rw [List.map_cons, List.mem_cons, List.map_cons, List.mem_cons]
      exact ⟨Or.inl, fun h => h.elim id fun hkey => Or.inl (hkey.trans hk.symm)⟩
    · rw [List.map_cons, List.mem_cons, mem_names_add, List.map_cons, List.mem_cons, or_assoc]

/-- Flat bodies that are put below others leave blocks that **can be run**. -/
theorem Layers.areFlat_foldl : ∀ (bs : Blocks) {ls : Layers}, (∀ b ∈ bs, areFlat names b.2 = true) →
    ls.AreFlat names → (bs.foldl (fun ls b => ls.add b.1 b.2) ls).AreFlat names
  | [], _, _, hls => hls
  | b :: bs, ls, hbs, hls => by
    rw [List.forall_mem_cons] at hbs
    exact areFlat_foldl bs hbs.2 (areFlat_add hbs.1 hls)

/-- Putting bodies below others names **their blocks besides**. -/
theorem Layers.mem_names_foldl {key : String} : ∀ (bs : Blocks) {ls : Layers},
    key ∈ bs.map Prod.fst ∨ key ∈ ls.map Prod.fst →
      key ∈ (bs.foldl (fun ls b => ls.add b.1 b.2) ls).map Prod.fst
  | [], _, hkey => hkey.elim (fun hnil => absurd hnil List.not_mem_nil) id
  | b :: bs, ls, hkey => by
    refine mem_names_foldl bs ?_
    rw [List.map_cons, List.mem_cons] at hkey
    rw [mem_names_add]
    rcases hkey with (rfl | hkey) | hkey
    · exact Or.inr (Or.inr rfl)
    · exact Or.inl hkey
    · exact Or.inr (Or.inl hkey)

/-! ## Rendering -/

variable {ctx : Context} {text : String}

/-- Whether a text is a **page**. -/
def isSound (names : List String) (text : String) : Bool :=
  match parse text with
  | .ok body => body.all (Stmt.isPage names)
  | .error _ => false

/-- Whether a text **extends** another template, and is a page but for that. -/
def extendsSound (names : List String) (parent text : String) : Bool :=
  match parse text with
  | .ok (.extend (.lit (.text name)) :: body) => name == parent && body.all (Stmt.isPage names)
  | _ => false

/-- A flat statement is one **of a page**. -/
theorem Stmt.isPage_of_isFlat {s : Stmt} (hs : s.isFlat names = true) : s.isPage names = true := by
  cases s with
  | block name body => exact nomatch hs
  | _ => exact hs

/-- Flat statements are **a page**. -/
theorem all_isPage_of_areFlat : ∀ {ss : List Stmt}, areFlat names ss = true →
    ss.all (Stmt.isPage names) = true
  | [], _ => rfl
  | s :: ss, hs => by
    rw [areFlat, Bool.and_eq_true] at hs
    rw [List.all_cons, Bool.and_eq_true]
    exact ⟨Stmt.isPage_of_isFlat hs.1, all_isPage_of_areFlat hs.2⟩

/-- A flat template is **a page**, whatever it does not read. -/
theorem isSound_of_ignores {hidden : String} (h : ignores names hidden text = true) :
    isSound names text = true := by
  obtain ⟨body, hparse, hbody, -⟩ := exists_parse_of_ignores h
  rw [isSound, hparse]
  exact all_isPage_of_areFlat hbody

/-- A text that is a page is **parsed** as one. -/
theorem exists_parse_of_isSound (h : isSound names text = true) :
    ∃ body, parse text = .ok body ∧ body.all (Stmt.isPage names) = true := by
  rw [isSound] at h
  split at h
  · next body hparse => exact ⟨body, hparse, h⟩
  · simp at h

/-- A text that extends another template is **parsed** as a page behind the extension. -/
theorem exists_parse_of_extendsSound {parent : String} (h : extendsSound names parent text = true) :
    ∃ body, parse text = .ok (.extend (.lit (.text parent)) :: body) ∧
      body.all (Stmt.isPage names) = true := by
  rw [extendsSound] at h
  split at h
  · next name body hparse =>
    rw [Bool.and_eq_true, beq_iff_eq] at h
    exact ⟨body, h.1 ▸ hparse, h.2⟩
  · simp at h

/-- A rendering starts **on a page**, if its blocks have flat bodies and the context has the names. -/
theorem onPage_startOf {body : List Stmt} (hctx : ∀ x ∈ names, Fields.has ctx x = true)
    (hblocks : ∀ b ∈ blocksOf body, areFlat names b.2 = true) : (startOf ctx body).OnPage names :=
  ⟨ready_startOf hctx, by simp [startOf, Run.maxDepth], Layers.areFlat_ofBlocks hblocks⟩

/-- **A page renders** in every context that has the names. -/
theorem exists_render_of_isSound (hsound : isSound names text = true)
    (hctx : ∀ x ∈ names, Fields.has ctx x = true) : ∃ s, render pages text ctx = .ok s := by
  obtain ⟨body, hparse, hbody⟩ := exists_parse_of_isSound hsound
  have hpage := onPage_startOf hctx (areFlat_of_mem_blocksOf hbody)
  obtain ⟨out, hout⟩ := runBody_of_arePage pages 499 hbody hpage fun name inner hmem =>
    List.mem_map.mpr ⟨(name, [inner]), List.mem_map.mpr ⟨_, mem_blocksOf hmem, rfl⟩, rfl⟩
  have hrun : runBody (Host.level pages Run.maxDepth) [] body (startOf ctx body) =
      .ok { startOf ctx body with out := out } := hout
  exact ⟨out, by rw [render_eq hparse, hrun]; rfl⟩

/-! ## Extending a page -/

/-- The host of any level has **the same sources**. -/
theorem page_level (n : Nat) (name : String) : (Host.level pages n).page name =
    (⟨pages, fun _ _ _ => .error .invalidOperation⟩ : Host).page name := by
  cases n <;> rfl

/-- **Extending** a template that is there puts its blocks below, and mutes what follows. -/
theorem exec_extend {parent : String} {p : Page} (hpage : h.page parent = .ok p)
    (hloaded : parent ∉ r.loaded) (hparent : r.parent = none) :
    exec h (.extend (.lit (.text parent))) r = .ok (.next, { r with
      parent := some p, muted := true, loaded := parent :: r.loaded,
      blocks := (blocksOf p.body).foldl (fun ls b => ls.add b.1 b.2) r.blocks }) := by
  rw [exec, eval]
  simp [Literal.value, Value.ofText, hparent, inherit, hloaded, hpage, Except.map]

/-- Extending a template that is not there **asks for it**. -/
theorem exec_extend_missing {parent : String} (hpage : h.page parent = .error (.needs parent))
    (hloaded : parent ∉ r.loaded) (hparent : r.parent = none) :
    exec h (.extend (.lit (.text parent))) r = .error (.needs parent) := by
  rw [exec, eval]
  simp [Literal.value, Value.ofText, hparent, inherit, hloaded, hpage, Except.map]

/-- **A page that extends another** can be run where that one is there. -/
theorem runBody_of_extend (n : Nat) {parent : String} {body base : List Stmt}
    (hpages : pages.find? (fun p => p.1 == parent) = some (parent, .ok base))
    (hbody : body.all (Stmt.isPage names) = true) (hbase : base.all (Stmt.isPage names) = true)
    (hr : r.OnPage names) (hloaded : parent ∉ r.loaded) :
    ∃ done, runBody (Host.level pages (n + 2)) [] (.extend (.lit (.text parent)) :: body) r =
      .ok done := by
  have hpage : (Host.level pages (n + 2)).page parent = .ok ⟨parent, base⟩ := by
    rw [page_level, Host.page, hpages]
  have hextend := exec_extend (r := { r with parent := none }) hpage hloaded rfl
  obtain ⟨out, hout⟩ := execAll_of_muted (h := Host.level pages (n + 2)) (r := { r with
    parent := some ⟨parent, base⟩, muted := true, loaded := parent :: r.loaded,
    blocks := (blocksOf base).foldl (fun ls b => ls.add b.1 b.2) r.blocks }) hbody
    ⟨hr.plain, hr.known⟩ rfl
  have hflat := Layers.areFlat_foldl _ (areFlat_of_mem_blocksOf hbase) hr.flat
  obtain ⟨written, hwritten⟩ := runBody_of_arePage pages n (r := { r with
    out := out, parent := some ⟨parent, base⟩, loaded := parent :: r.loaded,
    blocks := (blocksOf base).foldl (fun ls b => ls.add b.1 b.2) r.blocks }) hbase
    ⟨⟨hr.plain, hr.known⟩, hr.shallow, hflat⟩ fun name inner hmem =>
      Layers.mem_names_foldl _ (Or.inl (List.mem_map_of_mem (mem_blocksOf hmem)))
  rw [runBody, bindParameters]
  simp only [execAll, hextend, hout]
  rw [enter_level, hwritten]
  exact ⟨_, rfl⟩

/-- A page that extends a template that is not there **asks for it**. -/
theorem runBody_of_extend_missing (n : Nat) {parent : String} {body : List Stmt}
    (hpages : pages.find? (fun p => p.1 == parent) = none) (hloaded : parent ∉ r.loaded) :
    runBody (Host.level pages n) [] (.extend (.lit (.text parent)) :: body) r =
      .error (.needs parent) := by
  have hpage : (Host.level pages n).page parent = .error (.needs parent) := by
    rw [page_level, Host.page, hpages]
  have hextend := exec_extend_missing (r := { r with parent := none }) hpage hloaded rfl
  rw [runBody, bindParameters]
  simp only [execAll, hextend]

/-- Rendering a page that extends a template that is not there **asks for it**. -/
theorem render_of_extend_missing {parent : String} {body : List Stmt}
    (hparse : parse text = .ok (.extend (.lit (.text parent)) :: body)) (hparent : parent ≠ freeName) :
    render [] text ctx = .error (.needs parent) := by
  have hloaded : parent ∉ [freeName] := by simpa using hparent
  rw [render_eq hparse, runBody_of_extend_missing _ rfl hloaded]
  rfl

/-- **A page that extends another** renders where that one is there. -/
theorem exists_render_of_extend {parent : String} {body base : List Stmt}
    (hparse : parse text = .ok (.extend (.lit (.text parent)) :: body)) (hparent : parent ≠ freeName)
    (hbody : body.all (Stmt.isPage names) = true) (hbase : base.all (Stmt.isPage names) = true)
    (hctx : ∀ x ∈ names, Fields.has ctx x = true) :
    ∃ s, render [(parent, .ok base)] text ctx = .ok s := by
  have hloaded : parent ∉ [freeName] := by simpa using hparent
  have hpage : (startOf ctx (.extend (.lit (.text parent)) :: body)).OnPage names :=
    onPage_startOf hctx fun b hb => areFlat_of_mem_blocksOf hbody b hb
  have hfound : List.find? (fun p : String × Except Fault (List Stmt) => p.1 == parent)
      [(parent, .ok base)] = some (parent, .ok base) := by simp
  obtain ⟨done, hdone⟩ := runBody_of_extend 498 hfound hbody hbase hpage hloaded
  exact ⟨done.out, (render_eq hparse).trans (congrArg (Except.map (·.out)) hdone)⟩

end Template

/-- **A page that extends another** renders in every context that has the names, where a renderer finds
the other one. -/
theorem Renderer.exists_render_of_extendsSound {renderer : Renderer} {d : Disk} {ctx : Context}
    {names : List String} {parent text base : String}
    (hsound : Template.extendsSound names parent text = true)
    (hbase : Template.isSound names base = true) (hparent : parent ≠ Template.freeName)
    (hfind : renderer.findPage d parent = Template.parse base)
    (hctx : ∀ x ∈ names, Fields.has ctx x = true) : ∃ s, renderer.render d text ctx = .ok s := by
  obtain ⟨body, hparse, hbody⟩ := Template.exists_parse_of_extendsSound hsound
  obtain ⟨inner, hinner, hpage⟩ := Template.exists_parse_of_isSound hbase
  obtain ⟨s, hs⟩ := Template.exists_render_of_extend hparse hparent hbody hpage hctx
  have hfrom : renderer.renderFrom d text ctx maxPages [] = ([(parent, .ok inner)], .ok s) := by
    rw [maxPages, renderFrom, Template.render_of_extend_missing hparse hparent]
    simp only [hfind, hinner, List.nil_append]
    rw [renderFrom, hs]
  exact ⟨s, by rw [render, hfrom]⟩

end Scaffold
