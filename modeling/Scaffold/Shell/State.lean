import Scaffold.Shell.Program
import Scaffold.Shell.Syntax
import Scaffold.Text.Lossy
import Scaffold.Number.Literal

/-!
# Shell/State — what a script works on, and the commands built in

A script works on a disk, from a directory of its own, with variables, arguments and three streams.  The
commands built in answer the changed state; `State.status` tells how the last one went.
-/

namespace Scaffold.Shell

/-- The **state** of a script. -/
structure State where
  /-- The working directory of the disk is the directory of the script. -/
  disk : Disk
  vars : List (String × String)
  name : String
  args : List String
  input : List UInt8
  output : List UInt8
  errors : List UInt8
  status : Nat
  /-- How the script has ended, once it has. -/
  ended : Option Ending
  /-- A command that fails ends the script. -/
  strict : Bool

/-- The bytes of a text. -/
def bytes (s : String) : List UInt8 := s.toUTF8.toList

namespace State

/-- Writes to the output. -/
def write (s : State) (bs : List UInt8) : State := { s with output := s.output ++ bs }

/-- Writes a message to the errors and sets the status. -/
def fail (s : State) (status : Nat) (message : String) : State :=
  { s with errors := s.errors ++ bytes (s.name ++ ": " ++ message ++ "\n"), status := status }

/-- Sets the status. -/
def finish (s : State) (status : Nat) : State := { s with status := status }

/-- Sets the status by a test. -/
def decide (s : State) (b : Bool) : State := s.finish (if b then 0 else 1)

/-- Ends the script. -/
def exit (s : State) (ending : Ending) : State := { s with ended := some ending }

/-- Sets a variable. -/
def set (s : State) (name value : String) : State :=
  { s with vars := (name, value) :: s.vars.filter fun v => v.1 ≠ name }

/-- Removes a variable. -/
def unset (s : State) (name : String) : State :=
  { s with vars := s.vars.filter fun v => v.1 ≠ name }

/-- The number a process is known by. -/
def processNumber : String := "4242"

/-- The value of a variable. -/
def value? (s : State) (name : String) : Option String :=
  match name with
  | "?" => some (toString s.status)
  | "#" => some (toString s.args.length)
  | "$" => some processNumber
  | "0" => some s.name
  | "@" => if s.args.isEmpty then none else some (Text.join " " s.args)
  | "*" => if s.args.isEmpty then none else some (Text.join " " s.args)
  | "-" => some ""
  | _ =>
    match name.toNat? with
    | some n => s.args[n - 1]?
    | none => s.vars.lookup name

end State

/-! ## Writing -/

/-- The byte an octal escape of at most some digits writes, and what follows. -/
def octal (most : Nat) (cs : List Char) : Option (UInt8 × List Char) :=
  let digits := (cs.take most).takeWhile fun c => '0' ≤ c && c ≤ '7'
  (Literal.readNat? 8 digits).map fun n => (n.toUInt8, cs.drop digits.length)

/-- The byte a one-letter escape writes. -/
def letterEscape? : Char → Option UInt8
  | 'a' => some 7
  | 'b' => some 8
  | 'f' => some 12
  | 'n' => some 10
  | 'r' => some 13
  | 't' => some 9
  | 'v' => some 11
  | '\\' => some 92
  | _ => none

/-- The bytes of a character. -/
def charBytes (c : Char) : List UInt8 := bytes (String.singleton c)

/-- The bytes a text with escapes writes, and whether it asks to write no more. -/
def unescape : Nat → List Char → List UInt8 × Bool
  | 0, _ => ([], false)
  | fuel + 1, cs =>
    let before (bs : List UInt8) (p : List UInt8 × Bool) : List UInt8 × Bool := (bs ++ p.1, p.2)
    match cs with
    | [] => ([], false)
    | '\\' :: 'c' :: _ => ([], true)
    | '\\' :: '0' :: cs =>
      match octal 3 cs with
      | some (b, rest) => before [b] (unescape fuel rest)
      | none => before [0] (unescape fuel cs)
    | '\\' :: c :: cs =>
      match letterEscape? c with
      | some b => before [b] (unescape fuel cs)
      | none => before (charBytes '\\' ++ charBytes c) (unescape fuel cs)
    | c :: cs => before (charBytes c) (unescape fuel cs)

/-- Writes words with blanks between them. -/
def echo (s : State) (args : List String) : State :=
  let (quiet, args) :=
    match args with
    | "-n" :: rest => (true, rest)
    | rest => (false, rest)
  let text := (Text.join " " args).toList
  let (bs, stopped) := unescape (text.length + 1) text
  (s.write (if quiet || stopped then bs else bs ++ [10])).finish 0

/-- Fills a format once; what it writes, the arguments left, and whether it took any. -/
def format : Nat → List Char → List String → List UInt8 × List String × Bool
  | 0, _, args => ([], args, false)
  | fuel + 1, cs, args =>
    let before (bs : List UInt8) (p : List UInt8 × List String × Bool) :
        List UInt8 × List String × Bool := (bs ++ p.1, p.2)
    let taking (bs : List UInt8) (cs : List Char) : List UInt8 × List String × Bool :=
      let p := format fuel cs args.tail
      (bs ++ p.1, p.2.1, true)
    let arg := args.head?.getD ""
    match cs with
    | [] => ([], args, false)
    | '%' :: '%' :: cs => before [37] (format fuel cs args)
    | '%' :: 's' :: cs => taking (bytes arg) cs
    | '%' :: 'b' :: cs => taking (unescape (arg.length + 1) arg.toList).1 cs
    | '%' :: 'c' :: cs => taking ((bytes arg).take 1) cs
    | '%' :: 'd' :: cs => taking (bytes (toString ((Literal.readInt? arg.toList).getD 0))) cs
    | '%' :: 'i' :: cs => taking (bytes (toString ((Literal.readInt? arg.toList).getD 0))) cs
    | '%' :: 'u' :: cs => taking (bytes (toString ((Literal.readInt? arg.toList).getD 0))) cs
    | '\\' :: c :: rest =>
      match octal 3 (c :: rest), letterEscape? c with
      | some (b, rest), _ => before [b] (format fuel rest args)
      | none, some b => before [b] (format fuel rest args)
      | none, none => before (charBytes '\\' ++ charBytes c) (format fuel rest args)
    | c :: cs => before (charBytes c) (format fuel cs args)

/-- Fills a format as often as there are arguments. -/
def formatAll (cs : List Char) : Nat → List String → List UInt8
  | 0, _ => []
  | fuel + 1, args =>
    let (bs, left, took) := format (cs.length + 1) cs args
    if took && !left.isEmpty then bs ++ formatAll cs fuel left else bs

/-! ## Files -/

/-- Copies files, or the input, to the output. -/
def copy (s : State) (args : List String) : State :=
  let files := if args.isEmpty then ["-"] else args
  files.foldl
    (fun s file =>
      if file == "-" then { s.write s.input with input := [] }
      else if file == "/dev/null" then s
      else
        match s.disk.readBytes ⟨file⟩ with
        | .ok b => s.write b.toList
        | .error fault => s.fail 1 (file ++ ": " ++ fault.message))
    (s.finish 0)

/-- Changes the directory. -/
def changeDir (s : State) (args : List String) : State :=
  let target := args.head?.getD ((s.vars.lookup "HOME").getD "/")
  match s.disk.walk ⟨target⟩ with
  | .ok (.present loc (.dir _)) =>
    let d := { s.disk with workDir := loc }
    ({ s with disk := d }.set "PWD" d.workPath.text).finish 0
  | _ => s.fail 2 ("cd: can't cd to " ++ target)

/-! ## Tests -/

/-- A test of one word. -/
def unaryTest? (s : State) (op arg : String) : Option Bool :=
  match op with
  | "-n" => some (!arg.isEmpty)
  | "-z" => some arg.isEmpty
  | "-e" => some (s.disk.pathExists ⟨arg⟩)
  | "-r" => some (s.disk.pathExists ⟨arg⟩)
  | "-w" => some (s.disk.pathExists ⟨arg⟩)
  | "-d" => some (s.disk.isDirectory ⟨arg⟩)
  | "-x" => some (s.disk.isDirectory ⟨arg⟩)
  | "-f" => some (s.disk.pathExists ⟨arg⟩ && !s.disk.isDirectory ⟨arg⟩)
  | "-s" =>
    some (match s.disk.stat? ⟨arg⟩ with
      | some (.file b) => b.size ≠ 0
      | some (.dir _) => true
      | none => false)
  | _ => none

/-- A test of two words. -/
def binaryTest? (a op b : String) : Option Bool :=
  let numbers := (Literal.readInt? a.toList).bind fun m =>
    (Literal.readInt? b.toList).map fun n => (m, n)
  match op with
  | "=" => some (a == b)
  | "==" => some (a == b)
  | "!=" => some (a != b)
  | "-eq" => numbers.map fun p => p.1 == p.2
  | "-ne" => numbers.map fun p => p.1 != p.2
  | "-lt" => numbers.map fun p => p.1 < p.2
  | "-le" => numbers.map fun p => p.1 ≤ p.2
  | "-gt" => numbers.map fun p => p.1 > p.2
  | "-ge" => numbers.map fun p => p.1 ≥ p.2
  | _ => none

/-- A **test**; `none` for one that is not understood. -/
def test? (s : State) : List String → Option Bool
  | [] => some false
  | ["!", a, op, b] => (binaryTest? a op b).map (!·)
  | [a] => some (!a.isEmpty)
  | ["!", a] => some a.isEmpty
  | [op, a] => unaryTest? s op a
  | ["!", op, a] => (unaryTest? s op a).map (!·)
  | [a, op, b] => binaryTest? a op b
  | _ => none

/-- Runs a test. -/
def runTest (s : State) (args : List String) : State :=
  match test? s args with
  | some b => s.decide b
  | none => s.fail 2 "test: unexpected operator"

/-! ## Other commands -/

/-- Reads a line into variables; the last one takes the rest of the line. -/
def assignWords (s : State) : List String → List String → State
  | [], _ => s
  | [name], words => s.set name (Text.join " " words)
  | name :: names, [] => assignWords (s.set name "") names []
  | name :: names, w :: words => assignWords (s.set name w) names words

/-- The words between blanks. -/
def fieldsOf (cs : List Char) : List String :=
  let blank (c : Char) : Bool := c = ' ' || c = '\t' || c = '\n'
  let pieces := Text.splitChar ' ' (cs.map fun c => if blank c then ' ' else c)
  (pieces.filter fun p => !p.isEmpty).map String.ofList

/-- Reads a line; a line that does not end is read and fails. -/
def readLine (s : State) (args : List String) : State :=
  let names := args.filter fun a => a ≠ "-r"
  let line := s.input.takeWhile (· ≠ 10)
  let behind := s.input.drop line.length
  let words := fieldsOf (Text.lossy line.toByteArray).toList
  (assignWords { s with input := behind.drop 1 } names words).decide (!behind.isEmpty)

/-- Sends a signal to a process; the script knows only its own. -/
def kill (s : State) (args : List String) : State :=
  let (name, target) :=
    match args with
    | ["-s", name, target] => (name, target)
    | [option, target] => (String.ofList (option.toList.drop 1), target)
    | [target] => ("TERM", target)
    | _ => ("", "")
  if target ≠ State.processNumber then s.fail 1 "kill: No such process"
  else
    match signal? name with
    | some ending => s.exit (some ending)
    | none => s.finish 0

/-- Sets variables from words like `name=value`. -/
def exportAll (s : State) (args : List String) : State :=
  args.foldl
    (fun s a =>
      match Text.splitOnce? '=' a.toList with
      | some (name, value) => s.set (String.ofList name) (String.ofList value)
      | none => s)
    (s.finish 0)

/-- Sets options or arguments. -/
def setOptions (s : State) (args : List String) : State :=
  match args with
  | "--" :: rest => { s with args := rest }.finish 0
  | option :: _ =>
    if option.toList.head? == some '-' then
      { s with strict := s.strict || option.toList.contains 'e' }.finish 0
    else if option.toList.head? == some '+' then
      { s with strict := s.strict && !option.toList.contains 'e' }.finish 0
    else { s with args := args }.finish 0
  | [] => s.finish 0

/-- Ends the script with a number, or with the status so far. -/
def exitWith (s : State) (args : List String) : State :=
  match args.head? with
  | none => s.exit (Ending.ofCode s.status)
  | some a =>
    match Literal.readNat? 10 a.toList with
    | some n => s.exit (Ending.ofCode (n % 256))
    | none => (s.fail 2 ("exit: Illegal number: " ++ a)).exit (Ending.ofCode 2)

/-- Runs a command that is **built in**. -/
def builtIn? (s : State) (name : String) (args : List String) : Option State :=
  match name with
  | ":" => some (s.finish 0)
  | "true" => some (s.finish 0)
  | "false" => some (s.finish 1)
  | "echo" => some (echo s args)
  | "printf" =>
    match args with
    | f :: rest => some ((s.write (formatAll f.toList (rest.length + 1) rest)).finish 0)
    | [] => some (s.fail 2 "printf: usage: printf format [arg ...]")
  | "exit" => some (exitWith s args)
  | "cd" => some (changeDir s args)
  | "pwd" => some ((s.write (bytes (s.disk.workPath.text ++ "\n"))).finish 0)
  | "test" => some (runTest s args)
  | "[" =>
    if args.getLast? == some "]" then some (runTest s args.dropLast)
    else some (s.fail 2 "[: missing ]")
  | "read" => some (readLine s args)
  | "shift" =>
    let n := (args.head?.bind String.toNat?).getD 1
    some ({ s with args := s.args.drop n }.finish 0)
  | "export" => some (exportAll s args)
  | "unset" => some ((args.foldl State.unset s).finish 0)
  | "set" => some (setOptions s args)
  | "kill" => some (kill s args)
  | "umask" => some (s.finish 0)
  | "wait" => some (s.finish 0)
  | _ => none

end Scaffold.Shell
