import ScriptTokens.TokenStream

namespace ScriptTokens

def commentLine (line : List Char) : List Char :=
  Text.trim ((Text.trim line).dropWhile (· == '*'))

def commentBody (comment : List Char) : List Char :=
  Text.stripEnds ['*', '/'] (Text.stripStarts ['/', '*', '*'] comment)

def commentSummary (comment : List Char) : List Char :=
  (((Text.lines (commentBody comment)).map commentLine).find? (!·.isEmpty)).getD []

def docSummaries (source : String) : List (Nat × String) :=
  ((tokenize source).filter (·.kind == .docComment)).map fun token =>
    (token.line.getD 0, String.ofList (commentSummary token.value.toList))

end ScriptTokens
