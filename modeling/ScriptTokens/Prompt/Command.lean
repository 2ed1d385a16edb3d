import ScriptTokens.Text.Blank
import ScriptTokens.Text.Lowercase

namespace ScriptTokens.Prompt

inductive Command
  | help
  | exit
  | clear
  | version
  | load
  | look
  | docs
  deriving DecidableEq, Repr

namespace Command

def name : Command → String
  | help => "help"
  | exit => "exit"
  | clear => "clear"
  | version => "version"
  | load => "load"
  | look => "look"
  | docs => "docs"

def ofName? : String → Option Command
  | "help" | "h" | "?" => some help
  | "exit" | "quit" | "q" => some exit
  | "clear" | "cls" => some clear
  | "version" | "v" => some version
  | "load" | "l" => some load
  | "look" => some look
  | "docs" | "d" => some docs
  | _ => none

def nonempty? (text : List Char) : Option String :=
  if text.isEmpty then none else some (String.ofList text)

def parse (input : String) : Option (Command × Option String) :=
  match Text.trim input.toList with
  | '.' :: cs =>
    let word := Text.lowercase (cs.takeWhile fun c => !Text.isBlank c)
    let argument := Text.trim (cs.dropWhile fun c => !Text.isBlank c)
    (ofName? (String.ofList word)).map fun command => (command, nonempty? argument)
  | _ => none

def overview : List (String × String) :=
  [(".help", "Show this help message"),
    (".exit", "Exit the REPL"),
    (".clear", "Clear the screen"),
    (".version", "Show version information"),
    (".load <file>", "Tokenize a file"),
    (".look <pattern>", "Run a lookahead against the last source"),
    (".docs", "List doc comments of the last source")]

def words : List String :=
  overview.map fun (usage, _) => String.ofList (usage.toList.takeWhile fun c => !Text.isBlank c)

end Command

end ScriptTokens.Prompt
