import Lox.Segment

namespace Lox

/-- A position in a source text that moves forward as results are pulled from it. It goes no further
than the unit that it delivers. -/
structure Scanner where
  /-- The text that lies ahead. -/
  rest : List Char
  /-- The number of bytes that lie behind. -/
  offset : Nat
  /-- One more than the number of line feeds that lie behind. -/
  line : UInt32
deriving DecidableEq, Repr

namespace Scanner

def ofSource (source : String) : Scanner := ⟨source.toList, 0, 1⟩

/-- The scanner behind `text`, with `rest` ahead. -/
def advance (scanner : Scanner) (text rest : List Char) : Scanner where
  rest := rest
  offset := scanner.offset + Utf8.size text
  line := scanner.line + UInt32.ofNat (text.count '\n')

/-- Pull a result. Where none is left, the scanner has gone to the end of the text. -/
def next : Scanner → Option Result × Scanner
  | scanner@⟨[], _, _⟩ => (none, scanner)
  | scanner@⟨first :: rest, offset, _⟩ =>
    let cutting := Segment.split first rest
    let scanner' := scanner.advance cutting.1.text cutting.2
    match cutting.1.result? offset scanner'.line with
    | some result => (some result, scanner')
    | none => scanner'.next
termination_by scanner => scanner.rest.length
decreasing_by
  have shorter := Segment.split_rest_length_le first rest
  simp only [advance, List.length_cons]
  omega

/-- Pulling a result brings the end of the text nearer. -/
theorem next_rest_lt (scanner : Scanner) (result : Result)
    (pulled : scanner.next.1 = some result) :
    scanner.next.2.rest.length < scanner.rest.length := by
  fun_induction next scanner with
  | case1 => simp at pulled
  | case2 first rest offset line cutting scanner' result' found =>
    have shorter := Segment.split_rest_length_le first rest
    simp only [scanner', advance, cutting, List.length_cons]
    omega
  | case3 first rest offset line cutting scanner' found ih =>
    have shorter := Segment.split_rest_length_le first rest
    have nearer := ih pulled
    simp only [scanner', advance, cutting, List.length_cons] at nearer ⊢
    omega

/-- Pull results as long as `more` wants them, put behind the reversed list `pulled`. -/
def takeOnto (pulled : List Result) : Nat → Scanner → List Result × Scanner
  | 0, scanner => (pulled.reverse, scanner)
  | wanted + 1, scanner =>
    match scanner.next with
    | (none, scanner') => (pulled.reverse, scanner')
    | (some result, scanner') => takeOnto (result :: pulled) wanted scanner'

/-- Pull up to `wanted` results, and no more. -/
def take (scanner : Scanner) (wanted : Nat) : List Result × Scanner :=
  takeOnto [] wanted scanner

def drainOnto (pulled : List Result) (scanner : Scanner) : List Result × Scanner :=
  match _ : scanner.next with
  | (none, scanner') => (pulled.reverse, scanner')
  | (some result, scanner') => drainOnto (result :: pulled) scanner'
termination_by scanner.rest.length
decreasing_by
  have nearer := next_rest_lt scanner result
  simp_all

/-- Pull all results that are left. -/
def drain (scanner : Scanner) : List Result × Scanner := drainOnto [] scanner

end Scanner

/-- All results of a source text, in order. -/
def scan (source : String) : List Result := (Scanner.ofSource source).drain.1

end Lox
