import ScriptTokens.CommandLine

namespace ScriptTokens.CommandLine

def programVersion : String := "0.1.0"

def versionText : String := "doclex " ++ programVersion ++ "\n"

def indentLines (width : Nat) (text : String) : String :=
  String.ofList <| text.toList.flatMap fun c =>
    if c = '\n' then '\n' :: List.replicate width ' ' else [c]

def textLines (lines : List String) : String := String.join (lines.map (· ++ "\n"))

def summary : String := textLines
  ["Dump tokens and documentation comments from JavaScript sources",
    "",
    "Usage: doclex [OPTIONS] [FILES]...",
    "",
    "Arguments:"]

def variableText (width : Nat) (fromEnvironment : Option String) : String :=
  "[env: DOCLEX_CONFIG=" ++ indentLines width (fromEnvironment.getD "") ++ "]"

def shortHelp (fromEnvironment : Option String) : String :=
  summary ++ textLines
    ["  [FILES]...  Files to tokenize (starts the REPL when none are given)",
      "",
      "Options:",
      "  -e, --eval <CODE>      Tokenize the given source text",
      "      --format <FORMAT>  Output format [possible values: text, json]",
      "      --docs             Only print doc comments with their line numbers",
      "      --no-color         Disable colored output",
      "      --config <PATH>    Read configuration from this file as well " ++
        variableText 25 fromEnvironment,
      "      --show-config      Print the effective configuration and exit",
      "  -v, --verbose          Enable verbose logging",
      "  -h, --help             Print help (see more with '--help')",
      "  -V, --version          Print version"]

def longHelp (fromEnvironment : Option String) : String :=
  summary ++ textLines
    ["  [FILES]...",
      "          Files to tokenize (starts the REPL when none are given)",
      "",
      "Options:",
      "  -e, --eval <CODE>",
      "          Tokenize the given source text",
      "",
      "      --format <FORMAT>",
      "          Output format",
      "",
      "          Possible values:",
      "          - text: One token per line",
      "          - json: A JSON document per input",
      "",
      "      --docs",
      "          Only print doc comments with their line numbers",
      "",
      "      --no-color",
      "          Disable colored output",
      "",
      "      --config <PATH>",
      "          Read configuration from this file as well",
      "          ",
      "          " ++ variableText 10 fromEnvironment,
      "",
      "      --show-config",
      "          Print the effective configuration and exit",
      "",
      "  -v, --verbose",
      "          Enable verbose logging",
      "",
      "  -h, --help",
      "          Print help (see a summary with '-h')",
      "",
      "  -V, --version",
      "          Print version"]

def help (long : Bool) (fromEnvironment : Option String) : String :=
  if long then longHelp fromEnvironment else shortHelp fromEnvironment

end ScriptTokens.CommandLine

namespace ScriptTokens

def UsageFault.message : UsageFault → String
  | .conflict => "error: arguments that cannot be used together\n"
  | .badValue => "error: a value is missing or invalid\n"
  | .unwantedValue => "error: an option takes no value\n"
  | .unknownOption => "error: unknown option\n"

end ScriptTokens
