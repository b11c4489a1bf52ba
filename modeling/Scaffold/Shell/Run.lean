import Scaffold.Shell.State

/-!
# Shell/Run — running scripts and programs

`Shell.run` runs a program in a directory with arguments and an input, and answers the disk it leaves,
what it wrote and how it ended.  Every command is run to its end before the next one starts; what a
command writes to a file is there when it has ended.
-/

namespace Scaffold.Shell

/-! ## Fields -/

/-- A **piece** of expanded words. -/
inductive Piece where
  | keep (cs : List Char)
  /-- Text that is cut at blanks. -/
  | cut (cs : List Char)
  | stop

/-- Appends to the word that is being put together. -/
def extend (current : Option (List Char)) (cs : List Char) : Option (List Char) :=
  some (current.getD [] ++ cs)

/-- Cuts text at blanks: the words that are complete, and the one that is not. -/
def cutAt (current : Option (List Char)) : List Char → List (List Char) × Option (List Char)
  | [] => ([], current)
  | c :: cs =>
    if c = ' ' || c = '\t' || c = '\n' then
      let (ws, last) := cutAt none cs
      (current.toList ++ ws, last)
    else cutAt (extend current [c]) cs

/-- The words that pieces make. -/
def join (current : Option (List Char)) : List Piece → List String
  | [] => current.toList.map String.ofList
  | .keep cs :: ps => join (extend current cs) ps
  | .cut cs :: ps =>
    let (ws, last) := cutAt current cs
    ws.map String.ofList ++ join last ps
  | .stop :: ps => current.toList.map String.ofList ++ join none ps

/-- Text as a piece. -/
def piece (quoted : Bool) (s : String) : Piece :=
  if quoted then .keep s.toList else .cut s.toList

/-- Arguments as pieces of their own. -/
def separate : List String → List Piece
  | [] => []
  | [a] => [.keep a.toList]
  | a :: as => .keep a.toList :: .stop :: separate as

/-- Drops line ends at the end. -/
def dropLineEnds (s : String) : String :=
  String.ofList (s.toList.reverse.dropWhile (· = '\n')).reverse

/-! ## Streams -/

/-- Where a stream **goes**. -/
inductive Sink where
  | output
  | errors
  | nowhere
  | file (path : Path)

/-- The streams of a command. -/
structure Streams where
  input : Option (List UInt8)
  output : Sink
  errors : Sink

/-- The streams without redirections. -/
def Streams.plain : Streams := ⟨none, .output, .errors⟩

/-- Sends bytes where a stream goes. -/
def deliver (s : State) (bs : List UInt8) : Sink → State
  | .output => s.write bs
  | .errors => { s with errors := s.errors ++ bs }
  | .nowhere => s
  | .file p =>
    let old := ((s.disk.readBytes p).toOption.map ByteArray.toList).getD []
    match s.disk.writeFile p (old ++ bs).toByteArray with
    | .ok d => { s with disk := d }
    | .error _ => s

/-- Opens a file for writing. -/
def openFile (s : State) (target : String) (keep : Bool) : Option (State × Sink) :=
  if target == "/dev/null" then some (s, .nowhere)
  else
    let p := s.disk.workPath.join ⟨target⟩
    let old := if keep then (s.disk.readBytes p).toOption.getD ByteArray.empty else ByteArray.empty
    match s.disk.writeFile p old with
    | .ok d => some ({ s with disk := d }, .file p)
    | .error _ => none

/-- Binds a stream. -/
def bindStream (s : State) (streams : Streams) (r : Redirect) (target : String) :
    Option (State × Streams) :=
  let put (sink : Sink) : Streams :=
    if r.stream = 2 then { streams with errors := sink } else { streams with output := sink }
  match r.binding with
  | .write => (openFile s target false).map fun p => (p.1, put p.2)
  | .append => (openFile s target true).map fun p => (p.1, put p.2)
  | .duplicate =>
    if target == "1" then some (s, put streams.output)
    else if target == "2" then some (s, put streams.errors)
    else if target == "-" then some (s, put .nowhere)
    else none
  | .read =>
    if target == "/dev/null" then some (s, { streams with input := some [] })
    else
      match s.disk.readBytes ⟨target⟩ with
      | .ok b => some (s, { streams with input := some b.toList })
      | .error _ => none

/-- Runs something with its streams bound. -/
def within (s : State) (streams : Streams) (body : State → State) : State :=
  let inner := body { s with
    input := streams.input.getD s.input, output := [], errors := [] }
  let left := if streams.input.isSome then s.input else inner.input
  let outer := { inner with input := left, output := s.output, errors := s.errors }
  deliver (deliver outer inner.output streams.output) inner.errors streams.errors

/-- Takes over what a command in a state of its own has done. -/
def takeOver (s inner : State) : State :=
  let status :=
    match inner.ended with
    | none => inner.status
    | some none => 0
    | some (some (.code n)) => n
    | some (some (.signal n _)) => 128 + n
  { s with
    disk := { inner.disk with workDir := s.disk.workDir }, input := inner.input,
    output := inner.output, errors := inner.errors, status := status }

/-- How a script has ended. -/
def State.ending (s : State) : Ending := s.ended.getD (Ending.ofCode s.status)

/-! ## Commands -/

/-- How long a script may run. -/
def maxSteps : Nat := 4000

mutual

/-- Expands the parts of a word. -/
def expandParts (h : Host) : Nat → State → Word → List Piece × State
  | 0, s, _ => ([], s)
  | _ + 1, s, [] => ([], s)
  | fuel + 1, s, part :: parts =>
    let (here, s) :=
      match part with
      | .text _ cs => ([.keep cs], s)
      | .output quoted script =>
        let inner := runText h fuel { s with output := [] } script
        let text := dropLineEnds (Text.lossy inner.output.toByteArray)
        ([piece quoted text], takeOver s { inner with output := s.output })
      | .value true "@" none => (separate s.args, s)
      | .value quoted name none => ([piece quoted ((s.value? name).getD "")], s)
      | .value quoted name (some o) =>
        let value := (s.value? name).filter fun v => !(o.emptyToo && v.isEmpty)
        match value, o.ifPresent with
        | some v, false => ([piece quoted v], s)
        | none, true => ([piece quoted ""], s)
        | _, _ =>
          match doubleQuoted (o.word.length + 2) (o.word ++ ['"']) with
          | some (w, _) => expandParts h fuel s w
          | none => ([piece quoted (String.ofList o.word)], s)
    let (rest, s) := expandParts h fuel s parts
    (here ++ rest, s)

/-- Expands words to fields. -/
def expandWords (h : Host) : Nat → State → List Word → List String × State
  | 0, s, _ => ([], s)
  | _ + 1, s, [] => ([], s)
  | fuel + 1, s, w :: ws =>
    let w :=
      match w with
      | [.text true [], .value true "@" none] => [.value true "@" none]
      | w => w
    let (pieces, s) := expandParts h fuel s w
    let (rest, s) := expandWords h fuel s ws
    (join none pieces ++ rest, s)

/-- Expands a word to one text. -/
def expandText (h : Host) : Nat → State → Word → String × State
  | 0, s, _ => ("", s)
  | fuel + 1, s, w =>
    let (pieces, s) := expandParts h fuel s w
    let text (p : Piece) : List Char :=
      match p with
      | .keep cs => cs
      | .cut cs => cs
      | .stop => [' ']
    (String.ofList (pieces.flatMap text), s)

/-- Sets variables. -/
def assignAll (h : Host) : Nat → State → List (String × Word) → State
  | 0, s, _ => s
  | _ + 1, s, [] => s
  | fuel + 1, s, (name, w) :: rest =>
    let (value, s) := expandText h fuel s w
    assignAll h fuel (s.set name value) rest

/-- Binds the streams of a command. -/
def bindAll (h : Host) : Nat → State → Streams → List Redirect → Option (State × Streams)
  | 0, _, _, _ => none
  | _ + 1, s, streams, [] => some (s, streams)
  | fuel + 1, s, streams, r :: rs =>
    let (target, s) := expandText h fuel s r.target
    (bindStream s streams r target).bind fun (s, streams) => bindAll h fuel s streams rs

/-- Runs something with redirections. -/
def redirected (h : Host) : Nat → State → List Redirect → (State → State) → State
  | 0, s, _, _ => s
  | fuel + 1, s, rs, body =>
    match bindAll h fuel s .plain rs with
    | some (s, streams) => within s streams body
    | none => s.fail 2 "cannot open"

/-- Runs a command by its name. -/
def call (h : Host) : Nat → State → String → List String → State
  | 0, s, _, _ => s
  | fuel + 1, s, name, args =>
    match name, args with
    | "command", "-v" :: n :: _ =>
      if (builtIn? s n []).isSome || (h.programs.lookup n).isSome then
        (s.write (bytes (n ++ "\n"))).finish 0
      else s.finish 127
    | "command", n :: rest => call h fuel s n rest
    | "exec", n :: rest =>
      let s := call h fuel s n rest
      if s.ended.isSome then s else s.exit (Ending.ofCode s.status)
    | "eval", args => runText h fuel s (Text.join " " args).toList
    | name, args =>
      match builtIn? s name args with
      | some s => s
      | none =>
        match h.lookup name (s.disk.pathExists ⟨name⟩) with
        | .missing => s.fail 127 (name ++ ": not found")
        | .denied => s.fail 126 (name ++ ": Permission denied")
        | .found p => takeOver s (start h fuel p name args s)

/-- Starts a program in a state of its own. -/
def start (h : Host) : Nat → Program → String → List String → State → State
  | 0, _, _, _, s => s
  | fuel + 1, program, name, args, s =>
    let s := { s with ended := none, status := 0, strict := false }
    match program with
    | .copy => copy { s with name := name } args
    | .script text => runText h fuel { s with name := name, args := args } text.toList
    | .shell =>
      match args with
      | "-c" :: script :: rest =>
        runText h fuel { s with name := rest.head?.getD name, args := rest.tail } script.toList
      | "-ec" :: script :: rest =>
        runText h fuel { s with name := rest.head?.getD name, args := rest.tail, strict := true }
          script.toList
      | "-e" :: "-c" :: script :: rest =>
        runText h fuel { s with name := rest.head?.getD name, args := rest.tail, strict := true }
          script.toList
      | file :: rest =>
        match s.disk.readText ⟨file⟩ with
        | .ok text => runText h fuel { s with name := file, args := rest } text.toList
        | .error _ => { s with name := name }.fail 2 ("cannot open " ++ file)
      | [] =>
        let text := Text.lossy s.input.toByteArray
        runText h fuel { s with name := name, args := [], input := [] } text.toList

/-- Runs a script. -/
def runText (h : Host) : Nat → State → List Char → State
  | 0, s, _ => s
  | fuel + 1, s, script =>
    match Command.ofText? script with
    | some c => exec h fuel false s c
    | none => (s.fail 2 "Syntax error").exit (Ending.ofCode 2)

/-- Runs a **command**; one that is only tried may fail without ending a strict script. -/
def exec (h : Host) : Nat → Bool → State → Command → State
  | 0, _, s, _ => s
  | fuel + 1, tried, s, c =>
    if s.ended.isSome then s
    else
      match c with
      | .skip => s
      | .simple settings words rs =>
        let s :=
          match expandWords h fuel s words with
          | ([], s) => redirected h fuel s rs fun s => assignAll h fuel (s.finish 0) settings
          | (name :: args, s) =>
            redirected h fuel s rs fun s =>
              let inner := call h fuel (assignAll h fuel s settings) name args
              if settings.isEmpty then inner else { inner with vars := s.vars }
        if s.strict && !tried && s.status ≠ 0 && s.ended.isNone then
          s.exit (Ending.ofCode s.status)
        else s
      | .inside own body rs =>
        redirected h fuel s rs fun s =>
          if own then takeOver s (exec h fuel tried s body) else exec h fuel tried s body
      | .pipe left right =>
        let first := exec h fuel true { s with output := [] } left
        let s := takeOver s { first with output := s.output, input := [] }
        let second := exec h fuel tried { s with input := first.output } right
        takeOver s { second with input := [] }
      | .both left right =>
        let s := exec h fuel true s left
        if s.status = 0 then exec h fuel tried s right else s
      | .either left right =>
        let s := exec h fuel true s left
        if s.status = 0 then s else exec h fuel tried s right
      | .then_ left right => exec h fuel tried (exec h fuel tried s left) right
      | .negate body => let s := exec h fuel true s body; s.decide (s.status ≠ 0)
      | .cond test yes no =>
        let s := exec h fuel true s test
        if s.ended.isSome then s
        else if s.status = 0 then exec h fuel tried s yes
        else exec h fuel tried (s.finish 0) no
      | .loop while_ test body =>
        let s := exec h fuel true s test
        if s.ended.isSome then s
        else if (s.status = 0) = (while_ = true) then
          exec h fuel tried (exec h fuel tried s body) (.loop while_ test body)
        else s.finish 0
      | .each name words body =>
        let (values, s) := expandWords h fuel s words
        eachValue h fuel tried s name values body

/-- Runs a command once for each value of a variable. -/
def eachValue (h : Host) : Nat → Bool → State → String → List String → Command → State
  | 0, _, s, _, _, _ => s
  | _ + 1, _, s, _, [], _ => s
  | fuel + 1, tried, s, name, v :: vs, body =>
    eachValue h fuel tried (exec h fuel tried (s.set name v) body) name vs body

end

/-- What a program **leaves**. -/
structure Left where
  disk : Disk
  output : ByteArray
  errors : ByteArray
  ending : Ending

/-- **Runs** a program in a directory; `none` if it cannot be started there. -/
def run (h : Host) (d : Disk) (dir : Path) (name : String) (args : List String)
    (input : ByteArray) : Option Left :=
  match d.walk dir with
  | .ok (.present loc (.dir _)) =>
    let inside := { d with workDir := loc }
    match h.lookup name (inside.pathExists ⟨name⟩) with
    | .found program =>
      let vars := [("PWD", inside.workPath.text)]
      let s : State := ⟨inside, vars, name, [], input.toList, [], [], 0, none, false⟩
      let s := start h maxSteps program name args s
      some ⟨{ s.disk with workDir := d.workDir }, s.output.toByteArray, s.errors.toByteArray, s.ending⟩
    | _ => none
  | _ => none

end Scaffold.Shell
