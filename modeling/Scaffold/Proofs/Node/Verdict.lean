import Scaffold.Proofs.Disk.Effect
import Scaffold.Proofs.Node.Plan

/-!
# Proofs/Node/Verdict — what a comparison with the disk says of every path

A comparison lists all that is due by the plan, in order, each under one of three verdicts
(`verify_eq_plan`).  The verdict on a file depends on its bytes alone, whatever kind of content is
due (`holds_iff`); the verdict on a folder depends on the verdicts on all that is due in it
(`sound_folder`).
-/

namespace Scaffold

/-- What a comparison says of a **path**. -/
inductive Verdict where
  | missing
  | differs
  | sound
deriving DecidableEq

/-! ## Files -/

/-- Texts and bytes are compared alike: **byte by byte**. -/
theorem Node.holds_iff {d : Disk} {p : Path} : ∀ {content : Content},
    Node.holds d p content = true ↔ d.readBytes p = .ok content.toBytes
  | .text s => by
    rw [Node.holds, Content.toBytes, ← Disk.readText_eq_ok]
    cases d.readText p <;> simp [Except.toOption]
  | .bytes b => by
    rw [Node.holds, Content.toBytes]
    cases d.readBytes p with
    | error f => simp [Except.toOption]
    | ok b' =>
      have hbeq : (b' == b) = (b'.data == b.data) := rfl
      simp [Except.toOption, hbeq, ByteArray.ext_iff]

namespace Due

variable {d : Disk}

mutual

/-- Whether the disk **holds** what is due: the bytes of a file, or a directory with all that is due
in it. -/
def sound (d : Disk) : Due → Bool
  | .file p content => Node.holds d p content
  | .folder p below => d.isDirectory p && allSound d below

/-- Whether the disk holds all that is due. -/
def allSound (d : Disk) : List Due → Bool
  | [] => true
  | x :: xs => sound d x && allSound d xs

end

theorem allSound_eq_all (d : Disk) : ∀ xs : List Due, allSound d xs = xs.all (sound d)
  | [] => rfl
  | x :: xs => by rw [allSound, List.all_cons, allSound_eq_all d xs]

/-- The verdict on what is due. -/
def verdict (d : Disk) (x : Due) : Verdict :=
  if !d.pathExists x.path then .missing else if x.sound d then .sound else .differs

/-- A file is sound if its **bytes** are there. -/
theorem sound_file {p : Path} {content : Content} :
    (Due.file p content).sound d = true ↔ d.readBytes p = .ok content.toBytes := by
  rw [sound, Node.holds_iff]

/-- What is sound is there. -/
theorem pathExists_of_sound : ∀ {x : Due}, x.sound d = true → d.pathExists x.path = true
  | .file _ _, h => Disk.pathExists_of_readBytes (sound_file.mp h)
  | .folder _ _, h => by
    rw [sound, Bool.and_eq_true] at h
    exact Disk.pathExists_of_isDirectory h.1

theorem verdict_eq_missing {x : Due} : x.verdict d = .missing ↔ d.pathExists x.path = false := by
  rw [verdict]
  cases d.pathExists x.path <;> cases x.sound d <;> simp

theorem verdict_eq_sound {x : Due} : x.verdict d = .sound ↔ x.sound d = true := by
  rw [verdict]
  cases hs : x.sound d with
  | true => simp [pathExists_of_sound hs]
  | false => cases d.pathExists x.path <;> simp

/-- **A folder is sound** if it is a directory and all that is due in it is sound. -/
theorem sound_folder {p : Path} {below : List Due} : (Due.folder p below).sound d = true ↔
    d.isDirectory p = true ∧ ∀ x ∈ below, x.verdict d = .sound := by
  rw [sound, Bool.and_eq_true, allSound_eq_all, List.all_eq_true]
  exact and_congr_right fun _ => forall₂_congr fun x _ => verdict_eq_sound.symm

/-! ## Reports -/

/-- The paths under one verdict. -/
def listed (d : Disk) (v : Verdict) (xs : List Due) : List Path :=
  (xs.filter fun x => x.verdict d = v).map path

/-- The **report** on all that is due. -/
def report (d : Disk) (xs : List Due) : Report :=
  ⟨listed d .missing xs, listed d .differs xs, listed d .sound xs⟩

@[simp] theorem listed_append (d : Disk) (v : Verdict) (xs ys : List Due) :
    listed d v (xs ++ ys) = listed d v xs ++ listed d v ys := by
  simp [listed]

/-- Reports on parts are added up. -/
theorem report_append (d : Disk) (xs ys : List Due) :
    report d (xs ++ ys) = (report d xs).append (report d ys) := by
  simp [report, Report.append]

/-- The report on one thing lists its path once. -/
theorem report_singleton (d : Disk) (x : Due) : report d [x] =
    if !d.pathExists x.path then ⟨[x.path], [], []⟩
    else if x.sound d then ⟨[], [], [x.path]⟩ else ⟨[], [x.path], []⟩ := by
  have hv : x.verdict d = if !d.pathExists x.path then .missing
      else if x.sound d then .sound else .differs := rfl
  rw [report, listed, listed, listed]
  simp only [List.filter_cons, List.filter_nil, hv]
  cases d.pathExists x.path <;> cases x.sound d <;> rfl

/-- A report is **clean** if everything is sound. -/
theorem isClean_report {xs : List Due} :
    (report d xs).isClean = true ↔ ∀ x ∈ xs, x.verdict d = .sound := by
  rw [report, Report.isClean, Bool.and_eq_true, List.isEmpty_iff, List.isEmpty_iff, listed, listed,
    List.map_eq_nil_iff, List.map_eq_nil_iff, List.filter_eq_nil_iff, List.filter_eq_nil_iff]
  constructor
  · rintro ⟨hmissing, hdiffers⟩ x hx
    have h₁ := hmissing x hx
    have h₂ := hdiffers x hx
    cases hv : x.verdict d <;> simp [hv] at h₁ h₂ ⊢
  · intro h
    exact ⟨fun x hx => by simp [h x hx], fun x hx => by simp [h x hx]⟩

/-- A clean report is one in which all is sound. -/
theorem isClean_report_eq (d : Disk) (xs : List Due) : (report d xs).isClean = allSound d xs := by
  rw [Bool.eq_iff_iff, isClean_report, allSound_eq_all, List.all_eq_true]
  exact forall₂_congr fun x _ => verdict_eq_sound

/-- Every verdict is listed **once**. -/
theorem size_report (d : Disk) : ∀ xs : List Due, (report d xs).size = xs.length
  | [] => rfl
  | x :: xs => by
    have ih := size_report d xs
    rw [Report.size, report] at ih
    rw [Report.size, report, List.length_cons, ← ih]
    simp only [listed, List.length_map, List.filter_cons]
    cases x.verdict d <;> simp <;> omega

end Due

/-! ## Comparing -/

namespace Node

mutual

/-- **A comparison** is the report on all that is due by the plan, unless something in the plan
fails. -/
theorem verify_eq_plan (r : Renderer) (d : Disk) (context : Context) (override : Option Path)
    (base : Path) : ∀ n : Node, n.verify r d context override base =
      Plan.answer (n.plan r d context override base).fault?
        (Due.report d (n.plan r d context override base).due)
  | .file _ name source => by
    rw [verify, plan]
    rcases renderedFile r d context override base name source with e | _ | ⟨p, content⟩
    · rfl
    · rfl
    · simp only [Plan.fault?, Plan.due, Plan.answer_none, Due.report_singleton]
      rfl
  | .folder _ name contents => by
    rw [verify, plan]
    rcases path r d context override base name with e | _ | p
    · rfl
    · rfl
    · simp only [Plan.fault?, Plan.due, verifyAll_eq_plan r d context p contents]
      cases Plan.faultAll? (planAll r d context p contents) with
      | some e => rfl
      | none =>
        simp only [Plan.answer_none, Due.report_append, Due.report_singleton,
          Due.isClean_report_eq]
        rfl

/-- Comparisons of several nodes are added up. -/
theorem verifyAll_eq_plan (r : Renderer) (d : Disk) (context : Context) (base : Path) :
    ∀ ns : List Node, verifyAll r d context base ns =
      Plan.answer (Plan.faultAll? (planAll r d context base ns))
        (Due.report d (Plan.dueAll (planAll r d context base ns)))
  | [] => rfl
  | n :: ns => by
    rw [verifyAll, planAll, Plan.faultAll?, Plan.dueAll, Due.report_append,
      verify_eq_plan r d context none base n, verifyAll_eq_plan r d context base ns]
    cases Plan.fault? (plan r d context none base n) with
    | some e => rfl
    | none => cases Plan.faultAll? (planAll r d context base ns) <;> rfl

end

end Node

/-! ## Clean comparisons -/

/-- What is due at a path is **met** there: a file has its bytes, a folder is a directory, whatever
is in it. -/
def Due.Met (d : Disk) : Due → Prop
  | .file p content => d.readBytes p = .ok content.toBytes
  | .folder p _ => d.isDirectory p = true

/-- What is sound is met. -/
theorem Due.met_of_sound {d : Disk} : ∀ {x : Due}, x.verdict d = .sound → x.Met d
  | .file _ _, h => sound_file.mp (verdict_eq_sound.mp h)
  | .folder _ _, h => (sound_folder.mp (verdict_eq_sound.mp h)).1

namespace Plan

mutual

/-- Where all that is due is met, all of it is **sound**: a folder comes after all that is due in
it. -/
theorem sound_of_met {d : Disk} : ∀ x : Plan, (∀ y ∈ x.due, y.Met d) →
    ∀ y ∈ x.due, y.verdict d = .sound
  | .skip, _, y, hy => absurd hy (by simp [due])
  | .fault _, _, y, hy => absurd hy (by simp [due])
  | .file p content, h, y, hy => by
    obtain rfl : y = .file p content := by simpa [due] using hy
    exact Due.verdict_eq_sound.mpr (Due.sound_file.mpr (h _ hy))
  | .folder p inside, h, y, hy => by
    simp only [due, List.mem_append, List.mem_singleton] at h hy
    have hinside := allSound_of_met inside fun z hz => h z (Or.inl hz)
    rcases hy with hy | rfl
    · exact hinside y hy
    · exact Due.verdict_eq_sound.mpr (Due.sound_folder.mpr ⟨h _ (Or.inr rfl), hinside⟩)

/-- Where all that is due by plans is met, all of it is sound. -/
theorem allSound_of_met {d : Disk} : ∀ xs : List Plan, (∀ y ∈ dueAll xs, y.Met d) →
    ∀ y ∈ dueAll xs, y.verdict d = .sound
  | [], _, y, hy => absurd hy (by simp [dueAll])
  | x :: xs, h, y, hy => by
    simp only [dueAll, List.mem_append] at h hy
    rcases hy with hy | hy
    · exact sound_of_met x (fun z hz => h z (Or.inl hz)) y hy
    · exact allSound_of_met xs (fun z hz => h z (Or.inr hz)) y hy

end

/-- **All that is due is sound** if it is met, and only then. -/
theorem sound_iff_met {d : Disk} {x : Plan} :
    (∀ y ∈ x.due, y.verdict d = .sound) ↔ ∀ y ∈ x.due, y.Met d :=
  ⟨fun h y hy => Due.met_of_sound (h y hy), sound_of_met x⟩

end Plan

/-- **A comparison classifies the disk exactly.**  It fails where a preview does, and lists every
path that is due once: as missing if nothing is there, as sound if a file has its bytes or a folder
is a directory with nothing but sound paths in it, and as different otherwise. -/
theorem Node.verify_classifies (r : Renderer) (d : Disk) (context : Context)
    (override : Option Path) (base : Path) (n : Node) :
    n.verify r d context override base = (n.preview r d context override base).map
      (fun _ => Due.report d (n.plan r d context override base).due) ∧
    (Due.report d (n.plan r d context override base).due).size =
      (n.plan r d context override base).due.length ∧
    (∀ p content,
      ((Due.file p content).verdict d = .missing ↔ d.pathExists p = false) ∧
      ((Due.file p content).verdict d = .sound ↔ d.readBytes p = .ok content.toBytes) ∧
      (d.isDirectory p = true → (Due.file p content).verdict d = .differs)) ∧
    (∀ p below,
      ((Due.folder p below).verdict d = .missing ↔ d.pathExists p = false) ∧
      ((Due.folder p below).verdict d = .sound ↔
        d.isDirectory p = true ∧ ∀ x ∈ below, x.verdict d = .sound)) ∧
    ((Due.report d (n.plan r d context override base).due).isClean = true ↔
      ∀ x ∈ (n.plan r d context override base).due, x.Met d) := by
  refine ⟨?_, Due.size_report d _, fun p content => ⟨Due.verdict_eq_missing, ?_, fun hdir => ?_⟩,
    fun p below => ⟨Due.verdict_eq_missing, ?_⟩, ?_⟩
  · rw [verify_eq_plan, preview_eq_plan]
    cases (n.plan r d context override base).fault? <;> rfl
  · rw [Due.verdict_eq_sound, Due.sound_file]
  · -- A directory is there, and it has no bytes.
    obtain ⟨cs, hstat⟩ := Disk.isDirectory_eq_true.mp hdir
    have hmissing : (Due.file p content).verdict d ≠ .missing := fun h => by
      have hthere : d.pathExists p = true := Disk.pathExists_of_isDirectory hdir
      rw [Due.verdict_eq_missing, Due.path, hthere] at h
      simp at h
    have hsound : (Due.file p content).verdict d ≠ .sound := fun h => by
      rw [Due.verdict_eq_sound, Due.sound_file, Disk.readBytes, hstat] at h
      simp at h
    cases hv : (Due.file p content).verdict d
    · exact absurd hv hmissing
    · rfl
    · exact absurd hv hsound
  · rw [Due.verdict_eq_sound, Due.sound_folder]
  · rw [Due.isClean_report, Plan.sound_iff_met]

/-- A directory stands where a file is due. -/
theorem Node.verify_classifies_directory :
    (Disk.bare ["out"]).isDirectory ⟨"/out"⟩ = true ∧
      (Due.file ⟨"/out"⟩ (.text "x")).verdict (Disk.bare ["out"]) = .differs := by
  have hdir : (Disk.bare ["out"]).isDirectory ⟨"/out"⟩ = true := by decide
  have h := verify_classifies default (Disk.bare ["out"]) [] none ⟨"/"⟩
    (.file none (.literal "out") (.text "x"))
  exact ⟨hdir, (h.2.2.1 ⟨"/out"⟩ (.text "x")).2.2 hdir⟩

end Scaffold
