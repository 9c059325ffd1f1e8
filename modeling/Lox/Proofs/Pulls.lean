import Lox.Proofs.LineNumbers
import Lox.Proofs.Lookahead
import Lox.Reader

namespace Lox

namespace Scanner

/-- What some pulls deliver, in order. A pull that delivers nothing adds nothing. -/
def delivered (scanner : Scanner) : Nat → List Result
  | 0 => []
  | pulls + 1 => scanner.next.1.toList ++ scanner.next.2.delivered pulls

private theorem delivered_eq (scanner : Scanner) (pulls : Nat) :
    scanner.delivered pulls = scanner.pending.take pulls := by
  induction pulls generalizing scanner with
  | zero => rfl
  | succ pulls ih =>
    obtain ⟨results, -, last⟩ := scanner.next_spec
    rw [delivered, ih, results]
    cases pulled : scanner.next.1 with
    | some result => rfl
    | none => simp [last pulled]

/-- Pulls that are not needed any more change nothing. -/
private theorem after_of_length_lt {scanner : Scanner} (all : scanner.pending.length < pulls) :
    scanner.after pulls = scanner.spent := by
  induction pulls generalizing scanner with
  | zero => exact absurd all (Nat.not_lt_zero _)
  | succ pulls ih =>
    obtain ⟨results, reached, last⟩ := scanner.next_spec
    rw [after]
    cases pulled : scanner.next.1 with
    | none => rw [last pulled, after_spent]
    | some result =>
      rw [results, pulled] at all
      rw [ih (Nat.lt_of_succ_lt_succ all), reached]

private theorem after_min (scanner : Scanner) (pulls : Nat) :
    scanner.after (min pulls (scanner.pending.length + 1)) = scanner.after pulls := by
  by_cases few : pulls ≤ scanner.pending.length + 1
  · rw [Nat.min_eq_left few]
  · have many : scanner.pending.length + 1 < pulls := Nat.lt_of_not_le few
    rw [Nat.min_eq_right (Nat.le_of_lt many), after_of_length_lt (Nat.lt_succ_self _),
      after_of_length_lt (Nat.lt_of_succ_lt many)]

private theorem after_add (scanner : Scanner) (pulls more : Nat) :
    scanner.after (pulls + more) = (scanner.after pulls).after more := by
  induction pulls generalizing scanner with
  | zero => rw [Nat.zero_add]; rfl
  | succ pulls ih =>
    rw [Nat.succ_add]
    exact ih scanner.next.2

/-- What one more pull delivers behind some others, and where it leaves the scanner. -/
private theorem next_behind (scanner : Scanner) (pulls : Nat) :
    (scanner.after pulls).next = (scanner.pending[pulls]?, scanner.after (pulls + 1)) := by
  have result : (scanner.after pulls).next.1 = scanner.pending[pulls]? := by
    rw [next_eq_head?, pending_after, List.head?_drop]
  exact Prod.ext result (scanner.after_add pulls 1).symm

private theorem take_eq (scanner : Scanner) (wanted : Nat) :
    scanner.take wanted = (scanner.pending.take wanted, scanner.after wanted) :=
  takeOnto_eq [] wanted scanner

/-- What is told of results that end with the first error: that error, or else how many there are,
counted on from `tokens`. -/
def errorOrCount (tokens : Nat) (results : List Result) : LexicalError ⊕ Nat :=
  match results.findSome? Result.error? with
  | some error => .inl error
  | none => .inr (tokens + results.length)

private theorem errorOrCount_token (tokens : Nat) (token : Token) (results : List Result) :
    errorOrCount tokens (.token token :: results) = errorOrCount (tokens + 1) results := by
  have count : tokens + (results.length + 1) = tokens + 1 + results.length := by omega
  rw [errorOrCount, List.length_cons, count]
  rfl

/-- How often a scanner is pulled until the first error, or until nothing is left. -/
def pullsToError (left : List Result) : Nat := (left.takeWhile (!·.isError)).length + 1

private theorem firstErrorFrom_eq (tokens : Nat) (scanner : Scanner) :
    scanner.firstErrorFrom tokens =
    (errorOrCount tokens (scanner.delivered (pullsToError scanner.pending)),
      scanner.after (pullsToError scanner.pending)) := by
  fun_induction firstErrorFrom tokens scanner with
  | case1 tokens scanner scanner' next =>
    obtain ⟨results, -, last⟩ := scanner.next_spec
    rw [next] at results last
    have nothing : scanner.pending = [] := by
      rw [results, last rfl]
      exact pending_spent scanner
    simp [nothing, pullsToError, errorOrCount, delivered, after, next]
  | case2 tokens scanner error scanner' next =>
    obtain ⟨results, -, -⟩ := scanner.next_spec
    rw [next] at results
    have left : scanner.pending = .error error :: scanner'.pending := results
    have here : pullsToError scanner.pending = 1 := by
      rw [left, pullsToError, List.takeWhile_cons_of_neg Bool.false_ne_true]
      rfl
    rw [here, delivered, after, next]
    rfl
  | case3 tokens scanner token scanner' next ih =>
    obtain ⟨results, -, -⟩ := scanner.next_spec
    rw [next] at results
    have left : scanner.pending = .token token :: scanner'.pending := results
    have later : pullsToError scanner.pending = pullsToError scanner'.pending + 1 := by
      rw [left, pullsToError, List.takeWhile_cons_of_pos rfl]
      rfl
    rw [ih, later, delivered, after, next]
    exact congrArg (·, _) (errorOrCount_token _ _ _).symm

/-- Pull a result with so many rounds at most, one for each unit. -/
def nextWithin : Nat → Scanner → Option (Option Result × Scanner)
  | _, scanner@⟨[], _, _⟩ => some (none, scanner)
  | 0, ⟨_ :: _, _, _⟩ => none
  | rounds + 1, scanner@⟨first :: rest, offset, _⟩ =>
    let cutting := Segment.split first rest
    let scanner' := scanner.advance cutting.1.text cutting.2
    match cutting.1.result? offset scanner'.line with
    | some result => some (some result, scanner')
    | none => nextWithin rounds scanner'

/-- A pull ends: each round takes a character off the text at least. -/
private theorem nextWithin_eq (scanner : Scanner) :
    ∀ rounds, scanner.rest.length ≤ rounds → scanner.nextWithin rounds = some scanner.next := by
  fun_induction next scanner with
  | case1 offset line =>
    intro rounds _
    rw [nextWithin]
  | case2 first rest offset line cutting scanner' result found =>
    intro rounds enough
    cases rounds with
    | zero => exact absurd enough (Nat.not_succ_le_zero _)
    | succ rounds => rw [nextWithin, found]
  | case3 first rest offset line cutting scanner' nothing ih =>
    intro rounds enough
    cases rounds with
    | zero => exact absurd enough (Nat.not_succ_le_zero _)
    | succ rounds =>
      have shorter := Segment.split_rest_length_le first rest
      rw [nextWithin, nothing]
      exact ih rounds (Nat.le_trans shorter (Nat.le_of_succ_le_succ enough))

private theorem length_segments_le (text : List Char) : (segments text).length ≤ text.length := by
  induction text using units_induction with
  | nil => rw [segments_nil]; exact Nat.le_refl 0
  | unit unit rest begins ih =>
    have present : 0 < unit.text.length := List.length_pos_iff.mpr begins.isUnit.text_ne_nil
    rw [segments_begins begins, List.length_cons, List.length_append]
    omega

private theorem length_pending_le (scanner : Scanner) :
    scanner.pending.length ≤ scanner.rest.length :=
  Nat.le_trans (length_placed_le _ _ _) (length_segments_le _)

/-- How a scanner is pulled. A pull ends, in no more rounds than there are characters ahead, and what
it delivers brings the end nearer. A pull that delivers nothing has gone to the end of the text, and
all pulls that follow deliver nothing and leave the scanner as it is. -/
structure GoesOnward (scanner : Scanner) : Prop where
  ends : scanner.nextWithin scanner.rest.length = some scanner.next
  nearer : ∀ result, scanner.next.1 = some result →
    scanner.next.2.rest.length < scanner.rest.length
  exhausted : scanner.next.1 = none → scanner.next.2.rest = [] ∧
    scanner.next.2.offset = scanner.offset + Utf8.size scanner.rest
  absorbed : scanner.next.1 = none → ∀ pulls,
    (scanner.next.2.after pulls).next = (none, scanner.next.2)

private theorem goesOnward (scanner : Scanner) : scanner.GoesOnward := by
  obtain ⟨-, -, last⟩ := scanner.next_spec
  refine ⟨scanner.nextWithin_eq _ (Nat.le_refl _), scanner.next_rest_lt, ?_, ?_⟩
  · intro nothing
    rw [last nothing]
    exact ⟨rfl, rfl⟩
  · intro nothing pulls
    rw [last nothing, after_spent, next_spent]

end Scanner

private theorem length_scan_le (source : String) : (scan source).length ≤ source.length := by
  rw [scan, Scanner.drain_eq, ← String.length_toList]
  exact Scanner.length_pending_le _

namespace Reader

open Scanner (errorOrCount pullsToError)

/-- How often a request pulls, by the results that are left. -/
def Request.pulls (left : List Result) : Request → Nat
  | .next | .token | .error => 1
  | .nth skipped => min skipped left.length + 1
  | .take wanted => min wanted (left.length + 1)
  | .rest | .count | .last | .errors => left.length + 1
  | .firstError => pullsToError left
  | .line | .restart => 0

/-- The answer to a request by what its pulls deliver. -/
def Request.tell (delivered : List Result) : Request → Answer
  | .next => .ofResult? delivered.head?
  | .nth skipped => .ofResult? delivered[skipped]?
  | .take _ | .rest => .results delivered
  | .count => .count delivered.length
  | .last => .ofResult? delivered.getLast?
  | .errors => .results (delivered.filter Result.isError)
  | .firstError => match errorOrCount 0 delivered with
    | .inl failure => .result (.error failure)
    | .inr tokens => .tokens tokens
  | .token => match delivered.head? with
    | some (.error _) => .misuse
    | pulled => .ofResult? pulled
  | .error => match delivered.head? with
    | some (.token _) => .misuse
    | pulled => .ofResult? pulled
  | .line | .restart => .nothing

/-- The results that a request consumes. -/
def delivered (reader : Reader) (request : Request) : List Result :=
  reader.scanner.delivered (request.pulls reader.scanner.drain.1)

/-- A request is answered from what its pulls deliver. The reader stands behind these pulls then,
unless it is put back to the beginning of its source. -/
structure AnswersByPulls (reader : Reader) (request : Request) : Prop where
  answer : (reader.ask request).1 = request.tell (reader.delivered request)
  source : (reader.ask request).2.source = reader.source
  scanner : (reader.ask request).2.scanner =
    if request = .restart then .ofSource reader.source
    else reader.scanner.after (request.pulls reader.scanner.drain.1)
  ends : request.pulls reader.scanner.drain.1 ≤ reader.scanner.rest.length + 1
  frugal : ∀ wanted, request = .take wanted → request.pulls reader.scanner.drain.1 ≤ wanted

private theorem Request.pulls_le (left : List Result) (request : Request) :
    request.pulls left ≤ left.length + 1 := by
  cases request with
  | next | token | error => exact Nat.le_add_left 1 _
  | nth skipped => exact Nat.succ_le_succ (Nat.min_le_right _ _)
  | take wanted => exact Nat.min_le_right _ _
  | rest | count | last | errors => exact Nat.le_refl _
  | firstError => exact Nat.succ_le_succ (List.takeWhile_prefix _).length_le
  | line | restart => exact Nat.zero_le _

private theorem delivered_eq (reader : Reader) (request : Request) : reader.delivered request =
    reader.scanner.pending.take (request.pulls reader.scanner.pending) := by
  rw [delivered, Scanner.delivered_eq, Scanner.drain_eq]

private theorem take_min (left : List Result) (pulls : Nat) :
    left.take (min pulls (left.length + 1)) = left.take pulls := by
  rw [List.take_eq_take_iff]
  omega

/-- A request that is not to go back: its pulls deliver what the answer tells, and they leave the
scanner where the reader has it then. -/
private theorem ask_eq (reader : Reader) (onward : request ≠ .restart) :
    reader.ask request =
      (request.tell (reader.scanner.pending.take (request.pulls reader.scanner.pending)),
        { reader with
          scanner := reader.scanner.after (request.pulls reader.scanner.pending) }) := by
  obtain ⟨source, scanner⟩ := reader
  have once : scanner.next = ((scanner.pending.take 1).head?, scanner.after 1) := by
    rw [List.head?_take, if_neg Nat.one_ne_zero, List.head?_eq_getElem?]
    exact scanner.next_behind 0
  have all : scanner.drain =
      (scanner.pending.take (scanner.pending.length + 1),
        scanner.after (scanner.pending.length + 1)) := by
    rw [Scanner.drain_eq, List.take_of_length_le (Nat.le_succ _),
      Scanner.after_of_length_lt (Nat.lt_succ_self _)]
  cases request with
  | next | token | error => rw [ask, once]; rfl
  | nth skipped =>
    -- Where fewer results are left than are to be skipped, the pull after them ends the skipping.
    have pulls : min skipped scanner.pending.length + 1 =
        min (skipped + 1) (scanner.pending.length + 1) := (Nat.add_min_add_right _ _ 1).symm
    have behind : (scanner.after skipped).next =
        ((scanner.pending.take (skipped + 1))[skipped]?, scanner.after (skipped + 1)) := by
      rw [List.getElem?_take_of_lt (Nat.lt_succ_self _)]
      exact scanner.next_behind skipped
    rw [ask, Scanner.take_eq, behind, Request.pulls, pulls, Scanner.after_min, take_min]
    rfl
  | take wanted =>
    rw [ask, Scanner.take_eq, Request.pulls, Scanner.after_min, take_min]
    rfl
  | rest | count | last | errors => rw [ask, all]; rfl
  | firstError =>
    rw [ask, Scanner.firstError, Scanner.firstErrorFrom_eq, Scanner.delivered_eq]
    rfl
  | line => rfl
  | restart => exact absurd rfl onward

private theorem answersByPulls (reader : Reader) (request : Request) :
    reader.AnswersByPulls request := by
  have few := Nat.le_trans (request.pulls_le reader.scanner.pending)
    (Nat.succ_le_succ reader.scanner.length_pending_le)
  by_cases back : request = .restart
  · subst back
    exact ⟨rfl, rfl, rfl, Nat.zero_le _, nofun⟩
  · have asked := reader.ask_eq back
    constructor
    · rw [asked, delivered_eq]
    · rw [asked]
    · rw [asked, if_neg back, Scanner.drain_eq]
    · rwa [Scanner.drain_eq]
    · rintro wanted rfl
      exact Nat.min_le_left _ _

/-- What a reader has consumed since it was put back last, if `earlier` was consumed before these
requests. -/
def consumedFrom (earlier : List Result) (reader : Reader) : List Request → List Result
  | [] => earlier
  | request :: requests =>
    consumedFrom (if request = .restart then [] else earlier ++ reader.delivered request)
      (reader.ask request).2 requests

/-- What comes back from a reader: its answer, and the line that it stands on then. -/
structure Reply where
  answer : Answer
  line : UInt32
deriving DecidableEq, Repr

/-- Ask one reader, time and again. -/
def askEach (reader : Reader) : List Request → List Reply × Reader
  | [] => ([], reader)
  | request :: requests =>
    let (answer, reader') := reader.ask request
    let (replies, last) := reader'.askEach requests
    (⟨answer, reader'.scanner.line⟩ :: replies, last)

/-- Ask readers in any order. A request comes with the index of the reader that it is for, and so
does the reply. -/
def askAll (readers : List Reader) :
    List (Nat × Request) → Option (List (Nat × Reply) × List Reader)
  | [] => some ([], readers)
  | (index, request) :: requests => do
    let (answer, readers') ← askAt readers index request
    let reader' ← readers'[index]?
    let (replies, last) ← askAll readers' requests
    return ((index, ⟨answer, reader'.scanner.line⟩) :: replies, last)

/-- Of entries that have an index each, those at one index. -/
def entriesAt {α : Type} (index : Nat) (entries : List (Nat × α)) : List α :=
  (entries.filter (·.1 = index)).map Prod.snd

private theorem entriesAt_cons_self {α : Type} (index : Nat) (item : α) (entries : List (Nat × α)) :
    entriesAt index ((index, item) :: entries) = item :: entriesAt index entries := by
  simp [entriesAt]

private theorem entriesAt_cons_of_ne {α : Type} (other : asked ≠ index) (item : α)
    (entries : List (Nat × α)) :
    entriesAt index ((asked, item) :: entries) = entriesAt index entries := by
  simp [entriesAt, other]

/-- A reader has consumed the first results of its source, each once and in order, and it has the
others left. It stands where as many pulls bring a fresh scanner. -/
structure HasConsumed (reader : Reader) (consumed : List Result) : Prop where
  results : consumed ++ reader.scanner.drain.1 = scan reader.source
  scanner : ∃ pulls, reader.scanner = (Scanner.ofSource reader.source).after pulls

private theorem hasConsumed_ofSource (source : String) : (ofSource source).HasConsumed [] :=
  ⟨rfl, 0, rfl⟩

theorem HasConsumed.ask {reader : Reader} (has : reader.HasConsumed consumed)
    (request : Request) : (reader.ask request).2.HasConsumed
      (if request = .restart then [] else consumed ++ reader.delivered request) := by
  by_cases back : request = .restart
  · subst back
    exact hasConsumed_ofSource reader.source
  · obtain ⟨results, pulls, place⟩ := has
    rw [if_neg back, reader.ask_eq back, delivered_eq]
    constructor
    · rw [Scanner.drain_eq] at results ⊢
      rw [Scanner.pending_after, List.append_assoc, List.take_append_drop]
      exact results
    · refine ⟨pulls + request.pulls reader.scanner.pending, ?_⟩
      rw [Scanner.after_add, ← place]

private theorem HasConsumed.askEach {reader : Reader} (has : reader.HasConsumed earlier)
    (requests : List Request) :
    (reader.askEach requests).2.HasConsumed (reader.consumedFrom earlier requests) := by
  induction requests generalizing reader earlier with
  | nil => exact has
  | cons request requests ih => exact ih (has.ask request)

private theorem source_askEach (reader : Reader) (requests : List Request) :
    (reader.askEach requests).2.source = reader.source := by
  induction requests generalizing reader with
  | nil => rfl
  | cons request requests ih => exact (ih _).trans (reader.answersByPulls request).source

private theorem askAt_eq {readers : List Reader} (found : readers[index]? = some reader)
    (request : Request) : askAt readers index request =
      some ((reader.ask request).1, readers.set index (reader.ask request).2) := by
  rw [askAt, found]
  rfl

/-- Readers that are asked in any order: each gives the replies, and comes to the place, that it
would if it alone were asked what it is asked. -/
private theorem askAll_eq (readers : List Reader) (requests : List (Nat × Request))
    (present : ∀ entry ∈ requests, entry.1 < readers.length) :
    ∃ replies last, askAll readers requests = some (replies, last) ∧
      replies.map Prod.fst = requests.map Prod.fst ∧
      ∀ index reader, readers[index]? = some reader →
        entriesAt index replies = (reader.askEach (entriesAt index requests)).1 ∧
          last[index]? = some (reader.askEach (entriesAt index requests)).2 := by
  -- The readers vary: behind the first request the one that was asked stands elsewhere.
  induction requests generalizing readers with
  | nil => exact ⟨[], readers, rfl, rfl, fun index reader found => ⟨rfl, found⟩⟩
  | cons entry requests ih =>
    obtain ⟨asked, request⟩ := entry
    have here : asked < readers.length := present _ List.mem_cons_self
    have found := List.getElem?_eq_getElem here
    generalize readers[asked] = reader at found
    have moved : (readers.set asked (reader.ask request).2)[asked]? =
        some (reader.ask request).2 := List.getElem?_set_self here
    have present' : ∀ entry ∈ requests,
        entry.1 < (readers.set asked (reader.ask request).2).length := by
      intro entry member
      rw [List.length_set]
      exact present entry (List.mem_cons_of_mem _ member)
    obtain ⟨replies, last, later, order, apart⟩ := ih _ present'
    let reply : Reply := ⟨(reader.ask request).1, (reader.ask request).2.scanner.line⟩
    refine ⟨(asked, reply) :: replies, last, ?_, ?_, ?_⟩
    · rw [askAll, askAt_eq found]
      simp only [Option.bind_eq_bind, Option.bind_some, moved, later]
      rfl
    · exact congrArg (asked :: ·) order
    · intro index other found'
      by_cases same : asked = index
      · subst same
        obtain rfl : other = reader := Option.some.inj (found'.symm.trans found)
        obtain ⟨replied, came⟩ := apart asked _ moved
        rw [entriesAt_cons_self, entriesAt_cons_self]
        exact ⟨congrArg (reply :: ·) replied, came⟩
      · rw [entriesAt_cons_of_ne same, entriesAt_cons_of_ne same]
        apply apart index other
        rwa [List.getElem?_set_ne same]

/-- Where nothing is left, a reader stands at the end of its source. -/
theorem HasConsumed.ended {reader : Reader} (has : reader.HasConsumed consumed)
    (nothing : reader.scanner.next.1 = none) :
    reader.scanner.next.2 = (Scanner.ofSource reader.source).spent := by
  obtain ⟨-, -, last⟩ := reader.scanner.next_spec
  obtain ⟨-, pulls, place⟩ := has
  rw [last nothing, place, Scanner.spent_after]

/-- Readers of some sources are asked in any order. Each replies, and comes to the place, as if it
alone were asked what it is asked. Since it was put back last it has consumed the first results of
its source, none of them lost, twice or out of order. No request pulls for ever, and one for some
results pulls no more often than that. Where nothing is left, a reader stays at the end of its
source. There are no more results than characters. -/
theorem readers_pull_in_order (sources : List String) (requests : List (Nat × Request))
    (present : ∀ entry ∈ requests, entry.1 < sources.length) :
    (∃ replies last, askAll (sources.map ofSource) requests = some (replies, last) ∧
      replies.map Prod.fst = requests.map Prod.fst ∧
      ∀ index source, sources[index]? = some source →
        let own := entriesAt index requests
        let alone := (ofSource source).askEach own
        entriesAt index replies = alone.1 ∧ last[index]? = some alone.2 ∧
          alone.2.source = source ∧
          alone.2.HasConsumed ((ofSource source).consumedFrom [] own) ∧
          (alone.2.scanner.next.1 = none →
            alone.2.scanner.next.2 = (Scanner.ofSource source).spent)) ∧
      (∀ reader request, AnswersByPulls reader request) ∧
      (∀ scanner, Scanner.GoesOnward scanner) ∧
      ∀ source, (scan source).length ≤ source.length := by
  refine ⟨?_, answersByPulls, Scanner.goesOnward, length_scan_le⟩
  have present' : ∀ entry ∈ requests, entry.1 < (sources.map ofSource).length := by
    rwa [List.length_map]
  obtain ⟨replies, last, asked, order, apart⟩ := askAll_eq _ _ present'
  refine ⟨replies, last, asked, order, ?_⟩
  intro index source found own alone
  have found' : (sources.map ofSource)[index]? = some (ofSource source) := by
    rw [List.getElem?_map, found]
    rfl
  obtain ⟨replied, came⟩ := apart index _ found'
  have kept : alone.2.source = source := source_askEach _ own
  have has := (hasConsumed_ofSource source).askEach own
  refine ⟨replied, came, kept, has, fun nothing => ?_⟩
  rw [← kept]
  exact has.ended nothing

/-- One reader is put back behind an error and pulled up to that error again. In between another
goes past a string to the last token of its source, and over that. -/
theorem readers_pull_in_order_over_restart :
    let sources := ["a @ 1", "\"é\n\" +"]
    let requests : List (Nat × Request) :=
      [(0, .take 2), (1, .nth 1), (0, .restart), (0, .firstError), (1, .next)]
    let identifier : Token := ⟨.identifier, "a", .identifier "a", 1⟩
    let error : LexicalError := ⟨1, .unexpectedCharacter '@' 2⟩
    (∀ entry ∈ requests, entry.1 < sources.length) ∧
      ∃ replies last restarted spent,
        askAll (sources.map ofSource) requests = some (replies, last) ∧
        entriesAt 0 replies = [⟨.results [.token identifier, .error error], 1⟩, ⟨.nothing, 1⟩,
          ⟨.result (.error error), 1⟩] ∧
        entriesAt 1 replies = [⟨.result (.token ⟨.plus, "+", .none, 2⟩), 2⟩, ⟨.nothing, 2⟩] ∧
        last[0]? = some restarted ∧ last[1]? = some spent ∧
        restarted.HasConsumed [.token identifier, .error error] ∧
        restarted.scanner = ⟨" 1".toList, 3, 1⟩ ∧ spent.scanner.next.2 = ⟨[], 7, 2⟩ := by
  intro sources requests identifier error
  have present : ∀ entry ∈ requests, entry.1 < sources.length := by decide
  obtain ⟨⟨replies, last, asked, -, apart⟩, -⟩ := readers_pull_in_order sources requests present
  obtain ⟨replied, came, -, has, -⟩ := apart 0 "a @ 1" rfl
  obtain ⟨replied', came', -, -, ended⟩ := apart 1 "\"é\n\" +" rfl
  have consumed : (ofSource "a @ 1").consumedFrom [] (entriesAt 0 requests) =
      [.token identifier, .error error] := by decide +kernel
  rw [consumed] at has
  refine ⟨present, replies, last, _, _, asked, replied.trans ?_, replied'.trans ?_, came, came',
    has, ?_, (ended ?_).trans ?_⟩
  · decide +kernel
  · decide +kernel
  · decide +kernel
  · decide +kernel
  · decide +kernel

end Reader

end Lox
