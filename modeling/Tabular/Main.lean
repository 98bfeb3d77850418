import Tabular.CommandLine

/-!
# The program

Carries out on the disk, the standard streams and the exit code what the library says is to be done.

Nothing is decided here that is not decided in the library: arguments are read by
`CommandLine.parse`, scripts are cut by `Splitter.piece`, events are played by `Session.act`, and
messages are the texts of `Message.render`. What is left is to call the system, to tell its faults
apart by their numbers, and to flush the output after each event, so that a session that somebody
watches answers before it reads on.
-/

namespace Tabular.Main

open Disk (Action Fault Reader)

/-- Whether a failed call reported this number, with either sign. -/
def reports (code number : UInt32) : Bool :=
  code == number || code == 0 - number

/-- The fault that a failed call stands for. Any other is described by the first line of its
report. -/
def faultOf : IO.Error → Fault
  | .noFileOrDirectory .. => .notFound
  | e@(.inappropriateType _ code _) | e@(.invalidArgument _ code _) =>
    if reports code 20 then .notADirectory
    else if reports code 21 then .isADirectory
    else if reports code 36 then .nameTooLong
    else .other (e.toString.takeWhile (· != '\n')).toString
  | e => .other (e.toString.takeWhile (· != '\n')).toString

/-- Makes a call on a path, which must be one that a call can be made on. -/
def attempt {α : Type} (path : String) (call : IO α) : IO (Except Fault α) := do
  if '\x00' ∈ path.toList then return .error .zeroInName
  try return .ok (← call) catch e => return .error (faultOf e)

/-- The content of a file of the disk. -/
def contentOf (path : String) : IO (Except Fault Text.Bytes) := do
  let content ← attempt path (IO.FS.readBinFile path)
  return content.map (·.data.toList)

/-- Does on the disk what an action asks for. -/
def perform {α : Type} : Action α → IO α
  | .done result => return result
  | .read path next => return next (← contentOf path)
  | .write path content next =>
    return next (← attempt path (IO.FS.writeBinFile path ⟨content.toArray⟩))

/-- Does what events ask for and writes what comes of them, as long as the session goes on. -/
def playOn (prompt : Option String) : List Event → Database → IO (Database × Flow)
  | [], db => return (db, .goOn)
  | event :: rest, db => do
    let reply ← perform (Session.act prompt .arrival db event)
    let output ← IO.getStdout
    output.putStr (Message.render reply.messages)
    output.flush
    match reply.flow with
    | .goOn => playOn prompt rest reply.database
    | flow => return (reply.database, flow)

/-- The bytes of standard input up to the next line feed, which is included, or the end. -/
partial def inputLine (line : Text.Bytes) : IO Text.Bytes := do
  let input ← IO.getStdin
  match (← input.read 1).data.toList with
  | [] => return line.reverse
  | byte :: _ =>
    if byte = Text.lf then return (byte :: line).reverse
    else inputLine (byte :: line)

/-- The block at a position of a file, reached by reading up to there. What was the end of the file
is looked at anew, since the file may have grown. -/
def blockAt (file : IO.FS.Handle) (position : Nat) : IO Text.Bytes := do
  let block ← file.read Disk.blockSize.toUSize
  if !block.isEmpty then return block.data.toList
  if position = 0 then return []
  file.rewind
  let _ ← file.read position.toUSize
  return (← file.read Disk.blockSize.toUSize).data.toList

/-- The next line of a file, or what is left at its end. -/
partial def fileLine (file : IO.FS.Handle) (r : Reader) : IO (Text.Bytes × Reader) := do
  match r.line? with
  | some result => return result
  | none =>
    match ← blockAt file r.position with
    | [] => return r.flush
    | block => fileLine file (r.feed block)

/-- Plays what a source hands out piece by piece, so that each is answered before the next is
read. -/
partial def playFrom {σ : Type} (prompt : Option String)
    (source : σ → IO (Except Fault (Text.Bytes × σ))) (here : σ) (s : Splitter) (db : Database) :
    IO Flow := do
  match ← source here with
  | .error fault => return (← playOn prompt [.unreadable fault] db).2
  | .ok (piece, there) =>
    let (events, s') := s.piece piece
    match ← playOn prompt events db with
    | (db', .goOn) => playFrom prompt source there s' db'
    | (_, flow) => return flow

/-- Runs the script that the options name, or else what comes from standard input. -/
def runWith (options : CommandLine.Options) : IO Flow := do
  let db := Database.empty options.dataDir
  match options.script with
  | some path =>
    match ← attempt path (IO.FS.Handle.mk path .read) with
    | .error fault => return .stop fault
    | .ok file =>
      playFrom none (fun r ↦ attempt path (fileLine file r)) (Reader.start path) .start db
  | none =>
    let prompt := if ← (← IO.getStdin).isTty then some options.prompt else none
    IO.print (Message.render (Session.promptWhen prompt true))
    (← IO.getStdout).flush
    playFrom prompt (fun () ↦ attempt "" do return (← inputLine [], ())) () .start db

end Tabular.Main

open Tabular

/-- Runs the program. -/
def main (args : List String) : IO UInt32 := do
  match CommandLine.parse args with
  | .error fault =>
    IO.eprintln ("error: " ++ fault.message)
    return 2
  | .ok .version =>
    IO.println CommandLine.versionLine
    return 0
  | .ok .help =>
    CommandLine.helpLines.forM fun line ↦ IO.println line
    return 0
  | .ok (.run options) =>
    match ← Main.runWith options with
    | .goOn | .finish => return 0
    | .stop fault =>
      IO.eprintln (CommandLine.complaint fault.message)
      return 1
    | .outOfRange => return 101
