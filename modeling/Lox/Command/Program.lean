import Lox.Command.Arguments
import Lox.Command.Directory
import Lox.Listing
import Lox.Log.Filter
import Lox.Text.Lines

namespace Lox.Command

/-- What a run writes, in order, and its exit status. -/
structure Transcript where
  writes : List Write
  status : Nat
deriving DecidableEq, Repr

namespace Transcript

def stdout (transcript : Transcript) : String := textTo .out transcript.writes

def stderr (transcript : Transcript) : String := textTo .err transcript.writes

end Transcript

/-- The exit status of a script with a lexical error. -/
def dataError : Nat := 65

/-- Why a run breaks off. -/
inductive Failure where
  | file (fault : FileFault)
  | notUtf8 (content : List UInt8) (fault : Utf8.Fault)
  /-- Text that is read piecewise is not well-formed. -/
  | invalidStream
deriving DecidableEq, Repr

def Failure.text : Failure → String
  | .file fault => fault.text
  | .notUtf8 content fault =>
    let bytes := String.intercalate ", " (content.map fun byte => byte.toNat.repr)
    let length := match fault.length with
      | some length => "Some(" ++ length.repr ++ ")"
      | none => "None"
    "FromUtf8Error \x7b bytes: [" ++ bytes ++ "], error: Utf8Error \x7b valid_up_to: " ++
      fault.validUpTo.repr ++ ", error_len: " ++ length ++ " \x7d \x7d"
  | .invalidStream =>
    "Error \x7b kind: InvalidData, message: \"stream did not contain valid UTF-8\" \x7d"

/-- The last write of a run that breaks off. -/
def Failure.write (failure : Failure) : Write := ⟨.err, "Error: " ++ failure.text ++ "\n"⟩

/-- The record of an event, if a filter shows it. -/
def logged (filter : Log.Filter) (event : Log.Event) : List Write :=
  if filter.admits event then [⟨.err, event.text ++ "\n"⟩] else []

/-- The log record and the listed record of each result, in scan order. -/
def loggedListing (filter : Log.Filter) (results : List Result) : List Write :=
  results.flatMap fun result =>
    logged filter (.ofResult result) ++ [Listing.record result]

/-- List a file as a whole. -/
def runScript (filter : Log.Filter) (filename : String)
    (content : Except FileFault (List UInt8)) : Transcript :=
  match content with
  | .error fault => ⟨[(Failure.file fault).write], 1⟩
  | .ok bytes =>
    match Utf8.decode bytes with
    | .error fault => ⟨[(Failure.notUtf8 bytes fault).write], 1⟩
    | .ok text =>
      let results := scan (String.ofList text)
      { writes := logged filter (.scanningScript filename bytes.length) ++
          loggedListing filter results
        status := if results.any Result.isError then dataError else 0 }

def prompt : Write := ⟨.out, "> "⟩

/-- What is written for one line of a session, unless it is not well-formed. -/
def reply (filter : Log.Filter) (line : List UInt8) : Except Failure (List Write) :=
  match Utf8.decode line with
  | .error _ => .error .invalidStream
  | .ok text => .ok (loggedListing filter (scan (String.ofList text)))

/-- Go on with a session whose writes so far are `written`, held in reverse and by line. -/
def runLines (filter : Log.Filter) (written : List (List Write)) :
    List (List UInt8) → Transcript
  | [] => ⟨([prompt] :: written).reverse.flatten, 0⟩
  | line :: lines =>
    match reply filter line with
    | .error failure => ⟨([prompt, failure.write] :: written).reverse.flatten, 1⟩
    | .ok writes => runLines filter ((prompt :: writes) :: written) lines

/-- List each line on its own, with its line feed, behind a prompt. Errors do not end a session. -/
def runSession (filter : Log.Filter) (input : List UInt8) : Transcript :=
  runLines filter [] (splitAfter '\n'.toUInt8 input)

/-- The filter of a run: the one that the environment sets, if that is well-formed, and else one for
the level that the arguments ask for. -/
def filterOf (arguments : Arguments) (setting : Option String) : Log.Filter :=
  (setting.bind Log.Filter.parse?).getD
    (.ofLevel (if arguments.debug then .debug else .warn))

/-- Run the program on a command line, with the log filter that the environment sets, the files
that can be read, and the standard input. -/
def run (arguments : List String) (setting : Option String)
    (read : String → Except FileFault (List UInt8)) (input : List UInt8) : Transcript :=
  match Arguments.parse arguments with
  | .error refusal =>
    ⟨[⟨if refusal.isHelp then .out else .err, refusal.text⟩], refusal.status⟩
  | .ok parsed =>
    let filter := filterOf parsed setting
    match parsed.filename with
    | some filename => runScript filter filename (read filename)
    | none => runSession filter input

end Lox.Command
