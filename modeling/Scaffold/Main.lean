import Scaffold.CommandLine.Reach
import Scaffold.Disk.Changes
import Std.Time.DateTime

/-!
# Main — the program

The disk is looked at where the call looks at it, the call is run on what was found, and what it has
changed is written.  No other program is started, and nobody is asked.
-/

namespace Scaffold.CommandLine

/-! ## Looking -/

/-- What is at a location. -/
def look (loc : Location) : IO (Option Entry) := do
  try
    return some (.file (← IO.FS.readBinFile (Disk.absolute loc)))
  catch
    | .inappropriateType _ 21 _ => return some (.dir [])
    | _ => return none

/-- A disk that is known in part, and the places where it was looked at. -/
structure Known where
  disk : Disk
  seen : List Location

/-- Looks at a place, unless it is known. -/
def Known.lookAt (k : Known) (loc : Location) : IO Known := do
  if k.seen.contains loc || (k.disk.at? loc).isSome then return k
  match ← look loc with
  | some e => return ⟨k.disk.put loc e, loc :: k.seen⟩
  | none => return { k with seen := loc :: k.seen }

/-- Looks where a call looks, until a look brings up nothing new. -/
def explore (host : Host) (words : List String) : Nat → Known → IO Known
  | 0, k => return k
  | rounds + 1, k => do
    let places := (reach host k.disk words).flatMap k.disk.stations
    let more ← places.foldlM Known.lookAt k
    if more.seen.length == k.seen.length then return k else explore host words rounds more

/-- The most rounds of looking. -/
def maxRounds : Nat := 100

/-! ## Surroundings -/

/-- A number with at least two digits. -/
def twoDigits (n : Int) : String := if n < 10 then "0" ++ toString n else toString n

/-- A time as records write it. -/
def timeText (t : Std.Time.PlainDateTime) : String :=
  toString t.year.toInt ++ "-" ++ twoDigits t.month.toInt ++ "-" ++ twoDigits t.day.toInt ++ "T" ++
    twoDigits t.hour.val ++ ":" ++ twoDigits t.minute.val ++ ":" ++ twoDigits t.second.val ++ "+00:00"

/-- The settings of the version control. -/
def gitSettings : IO (Option String) := do
  let some home ← IO.getEnv "HOME" | return none
  match ← look ((Text.split '/' home).filter (!·.isEmpty) ++ [".gitconfig"]) with
  | some (.file bytes) => return String.fromUTF8? bytes
  | _ => return none

/-- The surroundings of the program. -/
def surroundings : IO Host := do
  let now ← Std.Time.Timestamp.now
  let time := Std.Time.PlainDateTime.ofWallTime (.ofDuration now.val)
  return ⟨[], ← gitSettings, timeText time, time.year.toInt⟩

/-! ## Running -/

/-- The line for a command line that is refused, or that asks for help. -/
def usageText : String :=
  "Usage: kiln [OPTIONS] <create|dryrun|validate|list|inspect|check-name> [ARGUMENTS]"

/-- Writes a change. -/
def writeChange (path : String) : Entry → IO Unit
  | .dir _ => IO.FS.createDirAll path
  | .file bytes => IO.FS.writeBinFile path bytes

/-- Prints what was said. -/
def report (left : Leaving) : IO Unit := do
  IO.print left.log.output
  for warning in left.log.warnings do
    IO.eprintln ("warning: " ++ warning)
  IO.eprint left.log.errors
  if left.usage.isSome then
    if left.exitCode = 0 then IO.println usageText else IO.eprintln usageText

/-- Runs a call on the disk. -/
def runOnDisk (words : List String) : IO UInt32 := do
  let host ← surroundings
  let workDir := (Text.split '/' (toString (← IO.currentDir))).filter (!·.isEmpty)
  let known ← explore host words maxRounds ⟨.bare workDir, []⟩
  let left := run host nobody known.disk words
  for (path, e) in known.disk.changes left.disk do
    writeChange path e
  report left
  return left.exitCode.toUInt32

end Scaffold.CommandLine

/-- The program. -/
def main (args : List String) : IO UInt32 := Scaffold.CommandLine.runOnDisk args
