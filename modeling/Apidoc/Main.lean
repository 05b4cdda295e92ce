import Apidoc.Command.Run
import Std.Time.Format

/-!
# The program

The working directory is read as a whole, the command runs on what was read, and what it changed is
written back.  Lines of input are read one by one: the command runs again from the start with each
line more, and only what is new is shown.  There is no connection to a service, so documentation is
made as if there was no key for one.
-/

namespace Apidoc

/-! ## the disk -/

/-- Reads a directory with all below it; names are kept from the top. -/
partial def readFolder (top : String) (parts : List String) : IO (List (List String × Node)) := do
  let names :=
    (← (IO.FS.realPath ("/".intercalate (top :: parts))) >>= fun p => p.readDir).toList.map
    fun e => e.fileName
  let below ← (names.mergeSort fun a b => a ≤ b).mapM fun name => do
    let here := parts ++ [name]
    let full ← IO.FS.realPath ("/".intercalate (top :: here))
    if ← full.isDir then return (here, .folder) :: (← readFolder top here)
    else if ← full.pathExists then
      return [(here, .file (.ofBytes (← IO.FS.readBinFile full)))]
    else return []
  return below.flatten

/-- Writes what is new or other than before, and removes what is gone. -/
def writeBack (before after : Disk) : IO Unit := do
  let full (parts : List String) : String := "/".intercalate (after.home :: parts)
  for (parts, node) in after.nodes do
    if before.node? parts != some node then
      match node with
      | .folder => IO.FS.createDirAll (full parts)
      | .file (.text s) => IO.FS.writeFile (full parts) s
      | .file (.binary _) => pure ()
  for (parts, _) in before.nodes do
    if (after.node? parts).isNone then IO.FS.removeFile (full parts)

/-! ## the clock -/

def currentMoment : IO Moment := do
  let t ← Std.Time.PlainDateTime.now
  return { year := t.year.toInt.toNat, month := t.month.val.toNat, day := t.day.val.toNat,
           hour := t.hour.val.toNat, minute := t.minute.val.toNat, second := t.second.val.toNat,
           micro := t.nanosecond.val.toNat / 1000, offset := none }

/-! ## the console -/

def tell (shown : List Shown) : IO Unit :=
  shown.forM fun s => do
    match s with
    | .out text => IO.print text; (← IO.getStdout).flush
    | .err text => IO.eprint text
    | .event _ => pure ()

/-- Runs a command with the lines given so far, asking for more as long as it wants more; `told` of
what it shows has been shown before. -/
partial def converse (s : Surroundings) (args : List String) (start : World) (lines : List Input)
    (told : Nat) : IO (Except Fault Nat × World) := do
  let (result, w) := runLine s args { start with input := lines }
  match w.awaited with
  | none =>
    tell (w.shown.drop told)
    return (result, w)
  | some n =>
    tell ((w.shown.take n).drop told)
    let line ← (← IO.getStdin).getLine
    if line.isEmpty then
      tell (w.shown.drop n)
      return (result, w)
    else converse s args start (lines ++ (inputLines line).map .line) n

end Apidoc

open Apidoc in
def main (args : List String) : IO UInt32 := do
  let home := toString (← IO.currentDir)
  let disk : Disk := ⟨home, ← readFolder home []⟩
  let m ← currentMoment
  let s : Surroundings :=
    { program := "docuagent", screen := .plain, now := Data.momentText "T" m,
      stamp := Data.momentText " " { m with micro := 0 }, serviceKey := none, service :=
        fun _ _ => none }
  let (result, w) ← converse s args { disk := disk } [] 0
  w.malformed.forM fun path => IO.println ("Warning: Could not parse " ++ path)
  writeBack disk w.disk
  match result with
  | .ok code => return code.toUInt32
  | .error f =>
    IO.eprintln ("Error: " ++ f.message.getD "the data cannot be read or shown")
    return 1
