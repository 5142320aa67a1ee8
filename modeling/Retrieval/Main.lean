import Retrieval.Command.Serve

namespace Retrieval.Main

open Command

def settingNames : List String :=
  ["QUARRY_CONFIG", "QUARRY_STOPWORDS_EN", "QUARRY_STOPWORDS_CS"]

def environment : IO (List (String × String)) :=
  settingNames.filterMapM fun name => do
    return (← IO.getEnv name).map (name, ·)

/-- Takes what is at a path into a storage, with all that is below it. Links to folders are followed
on the way to the path only. -/
partial def take (s : Storage) (path : String) (linked : Bool) : IO Storage := do
  let file := (← IO.currentDir) / path
  let folder ← if linked then file.isDir else
    try pure ((← file.symlinkMetadata).type == .dir) catch _ => pure false
  if folder then
    let mut s := s.addFolder (s.place path)
    for entry in (← file.readDir) do
      s ← take s (Storage.join path [entry.fileName]) false
    return s
  else
    try return s.addFile (s.place path) (← IO.FS.readBinFile file) catch _ => return s

def takeAll (s : Storage) (paths : List String) : IO Storage :=
  paths.foldlM (fun s path => if path.isEmpty then pure s else take s path true) s

def storage (o : Overrides) (input : Option String) : IO Storage := do
  let current := Storage.names (toString (← IO.currentDir))
  let s ← takeAll (.empty current) (o.config.toList ++ input.toList)
  match o.apply s with
  | .ok c => takeAll s (c.englishStopWords.toList ++ c.czechStopWords.toList)
  | .error _ => return s

def write (took : Float) (o : Output) : IO Unit := do
  let out ← IO.getStdout
  out.putStr (o.text (some took) (Decimal.Fixed.render 4 took ++ "s"))
  out.flush
  (← IO.getStderr).putStr o.errorText

def timed {α : Type} (f : Unit → α) : IO (α × Float) := do
  let before ← IO.monoNanosNow
  let result ← IO.lazyPure f
  let after ← IO.monoNanosNow
  return (result, (after - before).toFloat / 1e9)

partial def shell (files : Storage) (c : Catalog) (a : Asking) : IO Unit := do
  write 0 .prompt
  let line ← (← IO.getStdin).getLine
  if line.isEmpty then return
  let ((output, next), took) ← timed fun _ => a.answer files c (.ofText line)
  output.forM (write took)
  match next with
  | some a => shell files c a
  | none => return

def fail (e : Failure) : IO UInt32 := do
  write 0 (.error ("Error: " ++ e.message))
  return 1

def loading : Command → Loading
  | .stats l | .query l .. | .shell l _ => l

def execute (command : Command) : IO UInt32 := do
  let l := loading command
  let files ← storage l.overrides (some l.input)
  match l.load files with
  | .error e => fail e
  | .ok c =>
    match command with
    | .stats _ =>
      write 0 (.stats c.statsJson)
      return 0
    | .query _ a q json =>
      let (result, took) ← timed fun _ => a.ask files c q json
      match result with
      | .error e => fail e
      | .ok output =>
        output.forM (write took)
        return 0
    | .shell _ a =>
      shell files c a
      return 0

/-- A server gets as far as its socket, which it has no means to open. -/
def serve (s : Serving) : IO UInt32 := do
  let files ← storage s.overrides s.input
  match s.prepare files (← IO.getEnv "ADMIN_TOKEN") with
  | .error e => fail e
  | .ok _ =>
    IO.eprintln ("Error: cannot listen on " ++ s.host ++ ":" ++ toString s.socket)
    return 1

def misuse : IO UInt32 := do
  IO.eprintln "error: the arguments are not understood"
  return 2

def run (args : List String) : IO UInt32 := do
  let given ← environment
  if (← IO.appPath).fileStem == some "server" then
    match Serving.parse? given args with
    | some s => serve s
    | none => misuse
  else
    match parse? given args with
    | some command => execute command
    | none => misuse

end Retrieval.Main

def main (args : List String) : IO UInt32 :=
  Retrieval.Main.run args
