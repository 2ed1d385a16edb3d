import ScriptTokens.CommandLine
import ScriptTokens.Config.File

namespace ScriptTokens

inductive Layer
  | setting (key value : String)
  | environment (environment : List (String × String))
  | file (files : FileTree) (path : String)
  | arguments (arguments : Arguments)

structure Layering where
  config : Config
  notices : List Notice
  failure : Option Failure
  deriving DecidableEq, Repr

namespace Config

def add (config : Config) : Layer → Layering
  | .setting key value =>
    let (config, notices) := config.set key value
    ⟨config, notices, none⟩
  | .environment environment =>
    let (config, notices) := config.setVariables environment
    ⟨config, notices, none⟩
  | .file files path =>
    match config.mergeFile files path with
    | .ok config => ⟨config, [.merged path], none⟩
    | .error failure => ⟨config, [], some failure⟩
  | .arguments arguments => ⟨config.override arguments.overrides, [], none⟩

end Config

end ScriptTokens
