import ScriptTokens.FileTree
import ScriptTokens.Text.Bytes
import ScriptTokens.Token

namespace ScriptTokens

inductive Failure
  | unreadable (path : String) (fault : ReadFault)
  | invalidConfig (path : String)
  | oversizedHistory
  | input (fault : ReadFault)
  | badPattern (fault : UnknownKind)
  | offset (fault : Text.OffsetFault)
  deriving DecidableEq, Repr

def Failure.message : Failure → String
  | unreadable path fault => "cannot read " ++ path ++ ": " ++ fault.message
  | invalidConfig path => "invalid config " ++ path ++ ": TOML parse error"
  | oversizedHistory => "TOML error: out-of-range value for u64 type"
  | input fault => "REPL error: " ++ fault.message
  | badPattern fault => "invalid pattern: " ++ fault.message
  | offset .beyondEnd => "byte offset past the end of the text"
  | offset .insideCharacter => "byte offset inside a character"
  | offset .reversed => "byte offsets in reverse order"

end ScriptTokens
