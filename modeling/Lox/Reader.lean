import Lox.Scanner

namespace Lox

namespace Scanner

/-- Pull results until the first error: that error, or how many tokens came before the end. -/
def firstErrorFrom (tokens : Nat) (scanner : Scanner) : (LexicalError ⊕ Nat) × Scanner :=
  match _ : scanner.next with
  | (none, scanner') => (.inr tokens, scanner')
  | (some (.error error), scanner') => (.inl error, scanner')
  | (some (.token token), scanner') => firstErrorFrom (tokens + 1) scanner'
termination_by scanner.rest.length
decreasing_by
  have nearer := next_rest_lt scanner (.token token)
  simp_all

def firstError (scanner : Scanner) : (LexicalError ⊕ Nat) × Scanner := firstErrorFrom 0 scanner

end Scanner

/-- A scanner together with the source that it can be put back to. -/
structure Reader where
  source : String
  scanner : Scanner

namespace Reader

def ofSource (source : String) : Reader := ⟨source, .ofSource source⟩

/-- What a reader can be asked for. -/
inductive Request where
  | next
  /-- Skip some results and give the one behind them. -/
  | nth (skipped : Nat)
  | take (wanted : Nat)
  | rest
  | count
  | last
  | errors
  | firstError
  /-- The next result, which has to be a token. -/
  | token
  /-- The next result, which has to be an error. -/
  | error
  | line
  | restart
deriving DecidableEq, Repr

inductive Answer where
  | nothing
  | result (result : Result)
  | results (results : List Result)
  | count (results : Nat)
  | tokens (passed : Nat)
  /-- The pulled result was of the wrong sort. It is consumed all the same. -/
  | misuse
deriving DecidableEq, Repr

def Answer.ofResult? : Option Result → Answer
  | none => nothing
  | some r => result r

/-- Answer a request. Every request but `line` and `restart` pulls results, and no more of them
than the answer needs. -/
def ask (reader : Reader) (request : Request) : Answer × Reader :=
  let moved {α : Type} (pulled : α × Scanner) (answer : α → Answer) : Answer × Reader :=
    (answer pulled.1, { reader with scanner := pulled.2 })
  match request with
  | .next => moved reader.scanner.next .ofResult?
  | .nth skipped => moved (reader.scanner.take skipped).2.next .ofResult?
  | .take wanted => moved (reader.scanner.take wanted) .results
  | .rest => moved reader.scanner.drain .results
  | .count => moved reader.scanner.drain fun results => .count results.length
  | .last => moved reader.scanner.drain fun results => .ofResult? results.getLast?
  | .errors => moved reader.scanner.drain fun results => .results (results.filter Result.isError)
  | .firstError => moved reader.scanner.firstError fun
    | .inl error => .result (.error error)
    | .inr tokens => .tokens tokens
  | .token => moved reader.scanner.next fun
    | some (.error _) => .misuse
    | pulled => .ofResult? pulled
  | .error => moved reader.scanner.next fun
    | some (.token _) => .misuse
    | pulled => .ofResult? pulled
  | .line => (.nothing, reader)
  | .restart => (.nothing, ofSource reader.source)

/-- Ask the reader at `index`, if there is one. -/
def askAt (readers : List Reader) (index : Nat) (request : Request) :
    Option (Answer × List Reader) := do
  let reader ← readers[index]?
  let (answer, reader') := reader.ask request
  return (answer, readers.set index reader')

end Reader

end Lox
