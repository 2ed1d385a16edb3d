import ScriptTokens.Text.Extender
import ScriptTokens.Text.Printable

namespace ScriptTokens.Text

structure EscapeRule where
  singleQuote : Bool
  doubleQuote : Bool
  extender : Bool

namespace EscapeRule

def valueHead : EscapeRule := ⟨true, true, true⟩

def valueTail : EscapeRule := ⟨true, true, false⟩

def quoted : EscapeRule := ⟨false, true, true⟩

end EscapeRule

def hexDigits (n : Nat) : List Char := Nat.toDigits 16 n

def byNumber (c : Char) : List Char :=
  '\\' :: 'u' :: '\x7b' :: hexDigits c.toNat ++ ['\x7d']

def escapeChar (rule : EscapeRule) (c : Char) : List Char :=
  if c = '\x00' then ['\\', '0']
  else if c = '\t' then ['\\', 't']
  else if c = '\r' then ['\\', 'r']
  else if c = '\n' then ['\\', 'n']
  else if c = '\\' then ['\\', '\\']
  else if c = '"' && rule.doubleQuote then ['\\', '"']
  else if c = '\'' && rule.singleQuote then ['\\', '\'']
  else if rule.extender && isExtender c then byNumber c
  else if isPrintable c then [c]
  else byNumber c

def escapeValue : List Char → List Char
  | [] => []
  | c :: cs => escapeChar .valueHead c ++ cs.flatMap (escapeChar .valueTail)

def quote (text : List Char) : List Char :=
  '"' :: text.flatMap (escapeChar .quoted) ++ ['"']

end ScriptTokens.Text
