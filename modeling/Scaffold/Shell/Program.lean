import Scaffold.Disk.Basic
import Scaffold.Error

/-!
# Shell/Program — what can be run, and where

A `Host` is what surrounds the library: the programs that can be run by name, the settings of the version
control, and the time.  A program is the shell, the one that copies its input, or a script.
-/

namespace Scaffold

/-- A **program**. -/
inductive Program where
  | shell
  | copy
  | script (text : String)

/-- What comes of **looking for** a program. -/
inductive Lookup where
  | missing
  /-- There is a file that may not be run. -/
  | denied
  | found (program : Program)

/-- The **surroundings** of a run. -/
structure Host where
  programs : List (String × Lookup)
  /-- The settings of the version control, if there are any. -/
  gitSettings : Option String
  /-- The time that records carry. -/
  time : String
  year : Int

namespace Host

/-- Looks for a program by name.  Names with a slash are paths, and no file may be run. -/
def lookup (h : Host) (name : String) (fileExists : Bool) : Lookup :=
  if name.toList.contains '/' then if fileExists then .denied else .missing
  else (h.programs.lookup name).getD .missing

end Host

/-- How a program **ended**; nothing for success. -/
abbrev Ending := Option ExitStatus

/-- The ending of a number. -/
def Ending.ofCode (n : Nat) : Ending := if n = 0 then none else some (.code n)

/-- The names of the signals that end a process. -/
def signalNames : List (Nat × String) := [
  (1, "SIGHUP"), (2, "SIGINT"), (3, "SIGQUIT"), (4, "SIGILL"), (5, "SIGTRAP"), (6, "SIGABRT"),
  (7, "SIGBUS"), (8, "SIGFPE"), (9, "SIGKILL"), (10, "SIGUSR1"), (11, "SIGSEGV"), (12, "SIGUSR2"),
  (13, "SIGPIPE"), (14, "SIGALRM"), (15, "SIGTERM"), (16, "SIGSTKFLT"), (24, "SIGXCPU"),
  (25, "SIGXFSZ"), (26, "SIGVTALRM"), (27, "SIGPROF"), (29, "SIGIO"), (30, "SIGPWR"),
  (31, "SIGSYS")]

/-- A signal by its number or its name. -/
def signal? (s : String) : Option ExitStatus :=
  let byNumber := s.toNat?.bind fun n => signalNames.find? fun x => x.1 == n
  let byName := signalNames.find? fun x => x.2 == s || x.2 == "SIG" ++ s
  (byNumber.orElse fun _ => byName).map fun x => .signal x.1 x.2

end Scaffold
