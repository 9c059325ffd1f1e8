import Lox.Result
import Lox.Text.Quoted

namespace Lox.Log

inductive Level where
  | error
  | warn
  | info
  | debug
  | trace
deriving DecidableEq, Repr

namespace Level

def all : List Level := [error, warn, info, debug, trace]

/-- How much a threshold on this level lets through. A threshold of 0 lets nothing through. -/
def verbosity : Level → Nat
  | error => 1
  | warn => 2
  | info => 3
  | debug => 4
  | trace => 5

def name : Level → String
  | error => "ERROR"
  | warn => "WARN"
  | info => "INFO"
  | debug => "DEBUG"
  | trace => "TRACE"

end Level

/-- What is worth a record. -/
inductive Event where
  | scanningScript (filename : String) (bytes : Nat)
  | scannedToken (token : Token)
  | lexicalError (error : LexicalError)
deriving DecidableEq, Repr

namespace Event

def ofResult : Result → Event
  | .token token => scannedToken token
  | .error error => lexicalError error

def level : Event → Level
  | scanningScript .. => .debug
  | scannedToken _ => .trace
  | lexicalError _ => .debug

/-- The part of the program that an event comes from. -/
def target : Event → String
  | scanningScript .. => "scanlox"
  | scannedToken _ | lexicalError _ => "scanlox::lexer"

def message : Event → String
  | scanningScript .. => "scanning script"
  | scannedToken _ => "scanned token"
  | lexicalError _ => "lexical error"

/-- The named values of a record, in the order in which they are shown. -/
def fields : Event → List (String × String)
  | scanningScript filename bytes => [("filename", Text.quoted filename), ("bytes", bytes.repr)]
  | scannedToken token => [("token", token.text), ("line", token.line.toNat.repr)]
  | lexicalError error =>
    [("line", error.line.toNat.repr), ("error", error.cause.message)]

/-- A record without time and colour. -/
def text (event : Event) : String :=
  event.level.name ++ " " ++ event.target ++ ": " ++ event.message ++
    String.join (event.fields.map fun (name, value) => " " ++ name ++ "=" ++ value)

end Event

end Lox.Log
