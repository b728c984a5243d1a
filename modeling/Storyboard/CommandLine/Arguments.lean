/-!
# Arguments

The words of a command line. A command has flags, options with a value, and operands; which ones
it knows stands in its `Usage`. A word that starts with a minus sign is a flag or an option, up to
a word `--`, after which everything is an operand. The flag for more log output may stand
anywhere, also before the name of the command, and several times.
-/

namespace Storyboard.CommandLine

/-- The flags and options that a command knows, by their long and short names. -/
structure Usage where
  flags : List (String × Option Char) := []
  options : List (String × Option Char) := []

/-- What the words of a command line hold. -/
structure Parsed where
  flags : List String := []
  options : List (String × String) := []
  operands : List String := []
deriving DecidableEq, Repr

namespace Parsed

def has (p : Parsed) (flag : String) : Bool :=
  p.flags.contains flag

def option? (p : Parsed) (name : String) : Option String :=
  p.options.lookup name

end Parsed

/-- The flag for more log output. -/
def verbose : String := "verbose"

namespace Usage

variable (u : Usage)

/-- The long name of a short flag or option. -/
def longName (c : Char) (names : List (String × Option Char)) : Option String :=
  (names.find? (·.2 = some c)).map (·.1)

/-- Take in a flag; only the one for log output may be repeated. -/
def takeFlag (p : Parsed) (name : String) : Option Parsed :=
  if name = verbose then some p
  else if p.has name then none
  else some { p with flags := p.flags ++ [name] }

/-- Take in an option, which must not be repeated. -/
def takeOption (p : Parsed) (name value : String) : Option Parsed :=
  if (p.option? name).isSome then none
  else some { p with options := p.options ++ [(name, value)] }

/-- What a word asks for. -/
inductive Wish
  /-- Nothing more. -/
  | done (p : Parsed)
  /-- The value of an option, as the next word. -/
  | value (p : Parsed) (name : String)

/-- Take in the letters of a word of short names. The rest of a word is the value of an option. -/
def takeShort (p : Parsed) : List Char → Option Wish
  | [] => some (.done p)
  | c :: cs =>
    if c = 'v' then takeShort p cs
    else
      match longName c u.flags, longName c u.options with
      | some name, _ => (takeFlag p name).bind fun p => takeShort p cs
      | none, some name =>
        match cs with
        | [] => some (.value p name)
        | '=' :: cs => (takeOption p name (.ofList cs)).map .done
        | cs => (takeOption p name (.ofList cs)).map .done
      | none, none => none

/-- Take in a word with a long name, which may have its value after an equals sign. -/
def takeLong (p : Parsed) (word : List Char) : Option Wish :=
  let name := String.ofList (word.takeWhile (· ≠ '='))
  let known (names : List (String × Option Char)) := names.any (·.1 = name)
  match word.dropWhile (· ≠ '=') with
  | [] =>
    if name = verbose || known u.flags then (takeFlag p name).map .done
    else if known u.options then some (.value p name)
    else none
  | _ :: value => if known u.options then (takeOption p name (.ofList value)).map .done else none

/-- Whether a word can be an operand or a value, and not a flag or an option. -/
def isPlain (word : String) : Bool :=
  match word.toList with
  | '-' :: _ :: _ => false
  | _ => true

/-- Take in the words of a command line. -/
def parse (p : Parsed) : List String → Option Parsed
  | [] => some p
  | word :: words =>
    if isPlain word then parse { p with operands := p.operands ++ [word] } words
    else if word = "--" then some { p with operands := p.operands ++ words }
    else
      let wish :=
        match word.toList with
        | '-' :: '-' :: name => u.takeLong p name
        | _ :: letters => u.takeShort p letters
        | [] => none
      match wish, words with
      | none, _ => none
      | some (.done p), words => parse p words
      | some (.value _ _), [] => none
      | some (.value p name), value :: words =>
        if isPlain value then (takeOption p name value).bind fun p => parse p words else none

end Usage

end Storyboard.CommandLine
