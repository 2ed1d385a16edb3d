import ScriptTokens.Program

namespace ScriptTokens

def readEntry? (path : String) : IO (Option FileEntry) := do
  try
    return some (.file (← IO.FS.readBinFile path))
  catch
    | .inappropriateType _ code _ => return if code = 21 then some .folder else none
    | _ => return none

def pathsOnTheWay (path : String) : List String :=
  let names := FileTree.names path
  ((List.range names.length).map fun n => "/".intercalate (names.take (n + 1))).filter (· != "")

def readTree (paths : List String) : IO FileTree :=
  (paths.flatMap pathsOnTheWay).foldlM (fun tree path => do
    match ← readEntry? path with
    | some entry => return tree.insert path entry
    | none => return tree) .empty

def readEnvironment : IO (List (String × String)) :=
  Program.variableNames.filterMapM fun name => do
    return (← IO.getEnv name).map fun value => (name, value)

def readInput : IO ByteArray := do (← IO.getStdin).readBinToEnd

def collect (arguments : List String) : IO Invocation := do
  let environment ← readEnvironment
  match CommandLine.parse arguments (Program.configVariable environment) with
  | .error _ => return { arguments, environment, files := .empty, input := .empty }
  | .ok parsed =>
    let input ← if Program.startsPrompt parsed then readInput else pure .empty
    let files ← readTree (Program.paths parsed environment input)
    return { arguments, environment, files, input }

end ScriptTokens

def main (arguments : List String) : IO UInt32 := do
  let outcome := ScriptTokens.Program.run (← ScriptTokens.collect arguments)
  IO.print outcome.output
  IO.eprint outcome.errors
  return outcome.code.toUInt32
