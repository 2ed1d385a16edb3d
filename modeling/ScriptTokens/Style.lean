namespace ScriptTokens

inductive Color
  | red
  | green
  | yellow
  | blue
  | magenta
  | cyan
  | white
  deriving DecidableEq, Repr

inductive Effect
  | bold
  | dimmed
  deriving DecidableEq, Repr

def Color.digit : Color → String
  | .red => "1"
  | .green => "2"
  | .yellow => "3"
  | .blue => "4"
  | .magenta => "5"
  | .cyan => "6"
  | .white => "7"

def Effect.code : Effect → String
  | .bold => "1"
  | .dimmed => "2"

def controlSequence (codes : String) : String := "\x1b[" ++ codes ++ "m"

def resetSequence : String := controlSequence "0"

def Color.layer (color : Color) (text : String) : String :=
  controlSequence ("3" ++ color.digit) ++ text ++ controlSequence "39"

def Effect.layer (effect : Effect) (text : String) : String :=
  controlSequence effect.code ++ text ++ resetSequence

structure Style where
  color : Option Color
  bright : Bool
  effect : Option Effect
  deriving DecidableEq, Repr

namespace Style

def plain : Style := ⟨none, false, none⟩
def dimmed : Style := ⟨none, false, some .dimmed⟩
def ofColor (color : Color) : Style := ⟨some color, false, none⟩
def brightColor (color : Color) : Style := ⟨some color, true, none⟩

def bold (style : Style) : Style := { style with effect := some .bold }

def codes (style : Style) : List String :=
  (style.color.map fun color => (if style.bright then "9" else "3") ++ color.digit).toList ++
    (style.effect.map Effect.code).toList

def apply (style : Style) (text : String) : String :=
  match style.codes with
  | [] => text
  | codes => controlSequence (";".intercalate codes) ++ text ++ resetSequence

end Style

/-- The text without its control sequences. `inside` says that one has begun. -/
def eraseSequences (inside : Bool) : List Char → List Char
  | [] => []
  | c :: cs =>
    if inside then eraseSequences (c != 'm') cs
    else if c = '\x1b' then eraseSequences true cs
    else c :: eraseSequences false cs

def erase (text : String) : String := String.ofList (eraseSequences false text.toList)

end ScriptTokens
