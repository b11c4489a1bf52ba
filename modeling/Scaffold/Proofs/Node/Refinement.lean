import Scaffold.Proofs.Node.Agreement

/-!
# Proofs/Node/Refinement — what a failure leaves behind

Writing a node **refines** its script (`materialize_refines_script`): the disk it leaves is the one
that the steps of the script leave, taken one after the other up to the first that fails, and it
fails where that step fails, with its error.  Nothing is undone then: all that the steps before have
made and written is there, and nothing is ever removed.
-/

namespace Scaffold.Node

/-- **Writing a node refines its script**, also where it fails.  The steps before the first that
fails have taken effect, none behind it has, and its error is the one answered; what no step is
about stays, and nothing is removed on the way.  Where rendering does not read the disk the script
is known beforehand. -/
theorem materialize_refines_script (r : Renderer) (context : Context) (override : Option Path)
    (base : Path) (d : Disk) (n : Node) :
    outcome (materialize r context override base d n) =
        Step.runAll d (script r context override base d n) ∧
      (∃ done failed,
        Step.Halts d (script r context override base d n) done failed
          (outcome (materialize r context override base d n)) ∧
        Step.Left d done failed (materialize r context override base d n).1) ∧
      (∀ e, Passes d (script r context override base d n) e →
        d.Grows e ∧ e.Grows (materialize r context override base d n).1) ∧
      (Diskless r n →
        script r context override base d n = (plan r d context override base n).steps) := by
  have hrun := materialize_eq_script r context override base d n
  have hdisk : (materialize r context override base d n).1 =
      (Step.runAll d (script r context override base d n)).1 := by rw [← outcome_fst, hrun]
  refine ⟨hrun, ?_, ?_, ?_⟩
  · obtain ⟨done, failed, hhalts⟩ := Step.exists_halts (script r context override base d n) d
    rw [← hrun] at hhalts
    exact ⟨done, failed, hhalts, hhalts.left⟩
  · rintro e ⟨done, hdone, rfl⟩
    rw [hdisk]
    exact ⟨Step.runAll_grows d done, Step.grows_of_isPrefix hdone⟩
  · exact fun h => script_eq_steps n fun e => h d e context override base

/-- A folder with a file **below a file**, and one more. -/
def blocked : Node :=
  .folder none (.literal "docs") [.file none (.literal "a") (.text "x"),
    .file none (.literal "a/b") (.text "y"), .file none (.literal "c") (.text "z")]

/-- The steps of the sample folder before the first that **fails**. -/
def blockedSteps : List Step := [.makeDirs ⟨"out/docs"⟩, .write ⟨"out/docs/a"⟩ (.text "x")]

/-- A file below a file cannot be written: the one before it stays, and the one behind it is never
written. -/
theorem materialize_refines_script_blocked : ∃ e,
    outcome (materialize bareRenderer [] none ⟨"out"⟩ (Disk.bare ["w"]) blocked) =
        (e, .error (.disk .notADirectory)) ∧
      e.readBytes ⟨"out/docs/a"⟩ = .ok "x".toUTF8 ∧
      e.look ["w", "out", "docs", "c"] = none := by
  obtain ⟨-, ⟨done, failed, hhalts, hleft⟩, -, hscript⟩ := materialize_refines_script bareRenderer
    [] none ⟨"out"⟩ (Disk.bare ["w"]) blocked
  have hsteps : (plan bareRenderer (Disk.bare ["w"]) [] none ⟨"out"⟩ blocked).steps =
      blockedSteps ++ .write ⟨"out/docs/a/b"⟩ (.text "y") :: [.write ⟨"out/docs/c"⟩ (.text "z")] :=
    rfl
  rw [hscript (diskless_of_embedded isEmbedded_bareRenderer rfl), hsteps] at hhalts
  have hok : (Step.runAll (Disk.bare ["w"]) blockedSteps).2.toOption = some () := by
    decide +kernel
  have hfault : ((Step.runAll (Disk.bare ["w"]) blockedSteps).1.writeFile ⟨"out/docs/a/b"⟩
      "y".toUTF8).map (fun _ => ()) = .error .notADirectory := by
    decide +kernel
  rcases hdone : Step.runAll (Disk.bare ["w"]) blockedSteps with ⟨d', x | _⟩
  · rw [hdone] at hok
    simp [Except.toOption] at hok
  · have hs : (Step.write ⟨"out/docs/a/b"⟩ (.text "y")).run d' =
        (d', .error (.disk .notADirectory)) := by
      rw [hdone] at hfault
      rw [Step.run, Content.toBytes]
      rcases hw : d'.writeFile ⟨"out/docs/a/b"⟩ "y".toUTF8 with fault | d₂
      · rw [hw] at hfault
        obtain rfl : fault = .notADirectory := Except.error.inj hfault
        rfl
      · rw [hw] at hfault
        simp [Except.map] at hfault
    have hend := @Step.Halts.failed (Disk.bare ["w"]) blockedSteps
      [.write ⟨"out/docs/c"⟩ (.text "z")] _ d' d' _ hdone hs
    obtain ⟨rfl, rfl⟩ := hhalts.unique hend
    have houtcome := hhalts.runAll_eq.symm.trans hend.runAll_eq
    have hdisk : (materialize bareRenderer [] none ⟨"out"⟩ (Disk.bare ["w"]) blocked).1 = d' := by
      rw [← outcome_fst, houtcome]
    rw [hdisk] at hleft
    refine ⟨d', houtcome, hleft.readBytes (a := [_]) (b := []) rfl (by simp), ?_⟩
    have hlook : (Disk.bare ["w"]).look ["w", "out", "docs", "c"] = none := by decide +kernel
    have hstations : ["w", "out", "docs", "c"] ∉ (Disk.bare ["w"]).stations ⟨"out/docs"⟩ := by
      decide +kernel
    rw [← hlook]
    refine hleft.look fun s hmem => ?_
    simp only [blockedSteps, Option.toList_some, List.cons_append, List.nil_append, List.mem_cons,
      List.not_mem_nil, or_false] at hmem
    rcases hmem with rfl | rfl | rfl
    · exact fun _ => hstations
    · rw [Step.Spares]; decide +kernel
    · rw [Step.Spares]; decide +kernel

end Scaffold.Node
