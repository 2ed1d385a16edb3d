import ScriptTokens.Lexeme
import ScriptTokens.Pattern
import ScriptTokens.Cursor

/-!
# Lexing with patterns

The tokens of a text as a scanner finds them, which knows nothing but patterns to try at a cursor,
one after the other. White space and ordinary comments are left out on the way.
-/

namespace ScriptTokens.Lexing
open Pattern Lexeme

def opening (body : Pattern) : Pattern := seq textStart body

def isPunctuation (c : Char) : Bool :=
  ['.', '(', ')', ',', ';', '=', '\x7b', '\x7d', ':'].contains c

def literalPart (close : Char) : Pattern :=
  either (one fun c => c != close && c != '\\')
    (seq (one (· == '\\')) (optional (one fun _ => true)))

def literalBody (close : Char) : Pattern := many false (literalPart close)

def whiteSpace : Pattern := opening (oneOrMore (one Text.isBlank))
def punctuation : Pattern := opening (one isPunctuation)
def word : Pattern := opening (seq (one isWordStart) (many false (one isWordPart)))

def quoted (quote : Char) : Pattern :=
  opening (seq (one (· == quote))
    (seq (group 1 (literalBody quote)) (either (one (· == quote)) textEnd)))

def slash : Pattern := opening (one (· == '/'))
def docCommentOpen : Pattern := opening (literal "/**")
def blockCommentOpen : Pattern := opening (literal "/*")
def blockCommentClose : Pattern := literal "*/"
def lineCommentOpen : Pattern := opening (literal "//")
def lineEnd : Pattern := literal "\n"

def regexLiteral : Pattern :=
  opening (seq (one (· == '/')) (seq (literalBody '/')
    (either (seq (one (· == '/')) (many false (one isFlag))) textEnd)))

def number : Pattern :=
  opening (seq (oneOrMore (one Char.isDigit))
    (optional (seq (one (· == '.')) (many false (one Char.isDigit)))))

def sigilIdent : Pattern := opening (seq (one (· == '$')) (many false (one isWordPart)))
def anyChar : Pattern := opening (one fun _ => true)

def tokenTo (cursor : Cursor) (kind : Kind) (value : List Char) (start : Nat) : Token :=
  ⟨kind, String.ofList value, none, ⟨start, cursor.offset⟩⟩

def scanToken (cursor : Cursor) (kindOf : List Char → Kind) (pattern : Pattern) :
    Option (Token × Cursor) :=
  match cursor.scan pattern with
  | (some text, behind) => some (tokenTo behind (kindOf text) text cursor.offset, behind)
  | (none, _) => none

def wordKind (word : List Char) : Kind :=
  if isReserved (String.ofList word) then .keyword else .ident

def scanString (cursor : Cursor) (quote : Char) : Option (Token × Cursor) :=
  match cursor.scanGroups (quoted quote) with
  | (some texts, behind) =>
    some (tokenTo behind .string ((texts[1]?.bind id).getD []) cursor.offset, behind)
  | (none, _) => none

def scanDocComment (cursor : Cursor) : Except Text.OffsetFault (Option Token × Cursor) := do
  let counted := cursor.countNewlines
  let inside := (counted.2.scan blockCommentOpen).2
  let behind := (inside.scanUntil blockCommentClose).2
  let text ← behind.slice cursor.offset behind.offset
  let span := ⟨cursor.offset, behind.offset⟩
  return (some ⟨.docComment, String.ofList text, some (counted.1 + 1), span⟩, behind)

def scanSlash (last : Option Token) (cursor : Cursor) :
    Except Text.OffsetFault (Option Token × Cursor) :=
  if cursor.check docCommentOpen then scanDocComment cursor
  else match cursor.scan blockCommentOpen with
    | (some _, inside) => .ok (none, (inside.scanUntil blockCommentClose).2)
    | (none, _) =>
      match cursor.scan lineCommentOpen with
      | (some _, inside) => .ok (none, (inside.scanUntil lineEnd).2)
      | (none, _) =>
        match if last.any Token.isOperand then none
          else scanToken cursor (fun _ => .regex) regexLiteral with
        | some (token, behind) => .ok (some token, behind)
        | none =>
          let (text, behind) := cursor.scan slash
          .ok (some (tokenTo behind .operator (text.getD ['/']) cursor.offset), behind)

def scanPlain (cursor : Cursor) : Option (Token × Cursor) :=
  (scanToken cursor (fun _ => .operator) punctuation).or
    ((scanToken cursor wordKind word).or
      ((scanString cursor '\'').or (scanString cursor '"')))

def scanOther (cursor : Cursor) : Option (Token × Cursor) :=
  (scanToken cursor (fun _ => .number) number).or
    ((scanToken cursor (fun _ => .ident) sigilIdent).or
      (scanToken cursor (fun _ => .operator) anyChar))

/-- One round of lexing behind white space; without a token it has left out a comment. -/
def lexHere (last : Option Token) (cursor : Cursor) :
    Except Text.OffsetFault (Option Token × Cursor) :=
  match scanPlain cursor with
  | some (token, behind) => .ok (some token, behind)
  | none =>
    if cursor.check slash then scanSlash last cursor
    else match scanOther cursor with
      | some (token, behind) => .ok (some token, behind)
      | none => .ok (none, cursor)

def lexWithin (last : Option Token) : Nat → Cursor →
    Except Text.OffsetFault (Option Token × Cursor)
  | 0, cursor => .ok (none, cursor)
  | rounds + 1, cursor =>
    let cursor := (cursor.scan whiteSpace).2
    if cursor.atEnd then .ok (none, cursor)
    else do
      let (token, behind) ← lexHere last cursor
      if token.isSome then return (token, behind) else lexWithin last rounds behind

def lex (last : Option Token) (cursor : Cursor) :
    Except Text.OffsetFault (Option Token × Cursor) :=
  lexWithin last (cursor.rest.length + 1) cursor

end ScriptTokens.Lexing
