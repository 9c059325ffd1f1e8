namespace Lox.Command

structure Arguments where
  debug : Bool
  filename : Option String
deriving DecidableEq, Repr

/-- Why the arguments are not a run of the program. -/
inductive Refusal where
  | help
  /-- `escapable` arguments look like options and could be meant as a file name. -/
  | unknown (argument : String) (escapable : Bool)
  | repeatedDebug
  /-- A flag was given a value, as in `--debug=yes`. -/
  | unwantedValue (flag value : String)
deriving DecidableEq, Repr

namespace Arguments

def setDebug (arguments : Arguments) : Except Refusal Arguments :=
  if arguments.debug then .error .repeatedDebug else .ok { arguments with debug := true }

def setFilename (arguments : Arguments) (name : String) : Except Refusal Arguments :=
  match arguments.filename with
  | some _ => .error (.unknown name false)
  | none => .ok { arguments with filename := some name }

/-- Read the letters behind a single dash. -/
def readLetters (arguments : Arguments) : List Char → Except Refusal Arguments
  | [] => .ok arguments
  | 'd' :: letters => do (← arguments.setDebug).readLetters letters
  | 'h' :: _ => .error .help
  | letter :: _ => .error (.unknown (String.ofList ['-', letter]) true)

/-- Read an option of two dashes; `text` is what stands behind them. -/
def readLong (arguments : Arguments) (text : List Char) : Except Refusal Arguments :=
  let name := String.ofList (text.takeWhile (· ≠ '='))
  let value := (text.dropWhile (· ≠ '=')).tail?
  match value with
  | none =>
    if name = "debug" then arguments.setDebug
    else if name = "help" then .error .help
    else .error (.unknown ("--" ++ name) true)
  | some value =>
    if name = "debug" ∨ name = "help" then
      .error (.unwantedValue ("--" ++ name) (String.ofList value))
    else .error (.unknown ("--" ++ name) true)

def readFrom (arguments : Arguments) : List String → Except Refusal Arguments
  | [] => .ok arguments
  | argument :: more =>
    match argument.toList with
    | ['-', '-'] => more.foldlM setFilename arguments
    | '-' :: '-' :: text => do (← arguments.readLong text).readFrom more
    | '-' :: letter :: letters => do (← arguments.readLetters (letter :: letters)).readFrom more
    | _ => do (← arguments.setFilename argument).readFrom more

/-- Read a command line, without the name of the program. -/
def parse (arguments : List String) : Except Refusal Arguments :=
  readFrom ⟨false, none⟩ arguments

end Arguments

namespace Refusal

def isHelp : Refusal → Bool
  | help => true
  | _ => false

/-- The exit status of a refused run. -/
def status (refusal : Refusal) : Nat := if refusal.isHelp then 0 else 2

def helpText : String :=
  "Usage: scanlox [OPTIONS] [FILENAME]\n\nArguments:\n  [FILENAME]  \n\nOptions:\n" ++
    "  -d, --debug  \n  -h, --help   Print help\n"

def reason : Refusal → String
  | help => ""
  | unknown argument _ => "unexpected argument '" ++ argument ++ "' found"
  | repeatedDebug => "the argument '--debug' cannot be used multiple times"
  | unwantedValue flag value =>
    "unexpected value '" ++ value ++ "' for '" ++ flag ++ "' found; no more were expected"

def tip : Refusal → String
  | unknown argument true =>
    "  tip: to pass '" ++ argument ++ "' as a value, use '-- " ++ argument ++ "'\n\n"
  | _ => ""

def usage : Refusal → String
  | unwantedValue flag _ => "scanlox " ++ flag ++ " [FILENAME]"
  | _ => "scanlox [OPTIONS] [FILENAME]"

/-- What a refused run prints. -/
def text (refusal : Refusal) : String :=
  if refusal.isHelp then helpText
  else "error: " ++ refusal.reason ++ "\n\n" ++ refusal.tip ++ "Usage: " ++ refusal.usage ++
    "\n\nFor more information, try '--help'.\n"

end Refusal

end Lox.Command
