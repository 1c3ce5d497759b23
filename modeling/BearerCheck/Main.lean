import BearerCheck.CommandLine
import BearerCheck.Service.Session
import Std.Time.DateTime.Timestamp

namespace BearerCheck.Main

open CommandLine

def fileError : IO.Error → Settings.FileError
  | .noFileOrDirectory .. => .system "No such file or directory" 2
  | .permissionDenied .. => .system "Permission denied" 13
  | .inappropriateType _ _ reason => .system reason 21
  | e => .system (toString e) 0

def readFile (path : String) : IO (Except Settings.FileError (List UInt8)) := do
  try
    return .ok (← IO.FS.readBinFile path).toList
  catch e => return .error (fileError e)

def environmentOf (content : List UInt8) : IO Environment := do
  let text := (Text.Utf8.decode content).getD ""
  let mut known : List (String × List UInt8) := []
  for piece in Reference.pieces text.toList do
    if let .reference name := piece then
      let name := String.ofList name
      if let some value ← IO.getEnv name then
        known := (name, Text.Utf8.encode value) :: known
  let found := known
  return fun name => found.lookup name

/-- This program has no network, and no verdict depends on one. -/
def client : Issuer.Client := fun _ => .error (.failed "no network")

def now : IO Int64 := do
  return Int64.ofInt (← Std.Time.Timestamp.now).toSecondsSinceUnixEpoch.val

partial def readLine (input : IO.FS.Stream) (read : List UInt8) : IO (List UInt8) := do
  match (← input.read 1).toList with
  | [] => return read.reverse
  | b :: _ =>
    if b = Text.Ascii.lineFeed then return (b :: read).reverse else readLine input (b :: read)

-- behind the line there is nothing yet, and `Service.step` would not look at it
partial def serve (v : Verifier) (input output : IO.FS.Stream) : IO Unit := do
  match ← readLine input [] with
  | [] => return
  | line =>
    if let (some a, _) := Service.step v (← now) line then
      output.write ⟨a.line.toArray⟩
      output.flush
    serve v input output

def tell (e : IO.FS.Stream) (f : Fault) : IO UInt32 := do
  e.putStrLn f.message
  return 1

def start (o : Options) : IO UInt32 := do
  let errors ← IO.getStderr
  let file ← match o.config with
    | some path => some <$> readFile path
    | none => pure none
  let e ← environmentOf (match file with
    | some (.ok content) => content
    | _ => [])
  match o.verifier e file client with
  | .error reason => tell errors (.settings reason.message)
  | .ok v =>
    try
      serve v (← IO.getStdin) (← IO.getStdout)
      return 0
    catch reason => tell errors (.io (toString reason))

end BearerCheck.Main

def main (arguments : List String) : IO UInt32 := do
  match BearerCheck.CommandLine.read arguments with
  | .misuse =>
    (← IO.getStderr).putStrLn "For more information, try '--help'."
    return 2
  | .tell text =>
    (← IO.getStdout).putStr text
    return 0
  | .serve o => BearerCheck.Main.start o
