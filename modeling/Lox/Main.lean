import Lox.Command.Program

/-!
The program in its surroundings: arguments, environment, files and streams. What is printed and the
exit status are those of `Command.run`; a session answers each line as soon as it is read.
-/

namespace Lox.Main

def put (write : Write) : IO Unit := do
  let stream ← match write.stream with
    | .out => IO.getStdout
    | .err => IO.getStderr
  stream.putStr write.text
  stream.flush

/-- The fault that a failed reading stands for, if it is one that the program has a text for. -/
def fileFault? : IO.Error → Option Command.FileFault
  | .noFileOrDirectory .. => some .notFound
  | .inappropriateType _ code _ => some (if code = 21 then .isADirectory else .notADirectory)
  | .invalidArgument _ code _ => if code = 36 ∨ code = 0 - 36 then some .nameTooLong else none
  | _ => none

def readFile (filename : String) : IO (Except Command.FileFault (List UInt8)) := do
  try
    return .ok (← IO.FS.readBinFile filename).toList
  catch error =>
    match fileFault? error with
    | some fault => return .error fault
    | none => throw error

/-- The bytes up to and with the next line feed, put behind the reversed bytes `line`. -/
partial def readLineOnto (line : List UInt8) (input : IO.FS.Stream) : IO (List UInt8) := do
  match (← input.read 1).toList with
  | [byte] =>
    if byte = '\n'.toUInt8 then return (byte :: line).reverse
    else readLineOnto (byte :: line) input
  | _ => return line.reverse

partial def session (filter : Log.Filter) (input : IO.FS.Stream) : IO UInt32 := do
  put Command.prompt
  match ← readLineOnto [] input with
  | [] => return 0
  | line =>
    match Command.reply filter line with
    | .error failure =>
      put failure.write
      return 1
    | .ok writes =>
      writes.forM put
      session filter input

def run (arguments : List String) : IO UInt32 := do
  let setting ← IO.getEnv "RUST_LOG"
  match Command.Arguments.parse arguments with
  | .ok ⟨debug, none⟩ =>
    session (Command.filterOf ⟨debug, none⟩ setting) (← IO.getStdin)
  | parsed =>
    let content ← match parsed with
      | .ok ⟨_, some filename⟩ => readFile filename
      | _ => pure (.error .notFound)
    let transcript := Command.run arguments setting (fun _ => content) []
    transcript.writes.forM put
    return UInt32.ofNat transcript.status

end Lox.Main

def main (arguments : List String) : IO UInt32 := Lox.Main.run arguments
