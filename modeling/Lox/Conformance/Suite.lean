import Lox.Command.Program
import Lox.Conformance.Annotation
import Lox.Conformance.Comparison

namespace Lox.Conformance

open Command (Directory Transcript FileFault Failure)

/-- The exit status that the annotations of a source ask for. -/
def expectedStatus (contents : List Char) : Nat :=
  if (annotations .error contents).isEmpty then 0 else Command.dataError

/-- What is wrong with a run of a source, one line of text each. -/
def failures (contents : List Char) (run : Transcript) : List String :=
  let expected := expectedStatus contents
  (compare (annotations .expect contents) run.stdout.toList).map Discrepancy.text ++
    (compare (annotations .error contents) run.stderr.toList).map Discrepancy.text ++
    if run.status = expected then []
    else ["Expected exit status " ++ expected.repr ++ ", got Some(" ++ run.status.repr ++ ")"]

/-- Check one source: the failures of its run, unless it cannot be run. Without a program to run
there is nothing to check, but the source is read first. -/
def check (program : Bool) (name : String) (content : Except FileFault (List UInt8)) :
    Except Failure (List String) :=
  match content with
  | .error fault => .error (.file fault)
  | .ok bytes =>
    match Utf8.decode bytes with
    | .error _ => .error .invalidStream
    | .ok text =>
      if program then
        .ok (failures text (Command.runScript (.ofLevel .warn) name content))
      else .error (.file .notFound)

/-- What is printed about a checked source. -/
def verdict (failures : List String) : String :=
  if failures.isEmpty then "pass!\n"
  else "\x1b[0;31mfail!\x1b[0m\n" ++ String.join (failures.map (· ++ "\n"))

/-- Go on with a suite behind `written`, with `status` so far. A source that cannot be run ends
the suite. -/
def runNames (program : Bool) (directory : Directory) (written : List Write) (status : Nat) :
    List String → Transcript
  | [] => ⟨written, status⟩
  | name :: names =>
    let announced := written ++ [⟨.out, "Running test: " ++ name ++ " ... "⟩]
    match check program name (directory.read name) with
    | .error failure => ⟨announced ++ [failure.write], 1⟩
    | .ok failures =>
      runNames program directory (announced ++ [⟨.out, verdict failures⟩])
        (if failures.isEmpty then status else 1) names

/-- Run the sources of a directory in the order of their names. -/
def runSuite (program : Bool) (directory : Option Directory) : Transcript :=
  match directory with
  | none => ⟨[(Failure.file .notFound).write], 1⟩
  | some directory => runNames program directory [] 0 directory.names

end Lox.Conformance
