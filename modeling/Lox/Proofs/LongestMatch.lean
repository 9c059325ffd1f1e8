import Lox.Proofs.Results
import Mathlib.Data.List.Forall2

namespace Lox

private theorem digitRun_le_numberTail (text : List Char) : digitRun text ≤ numberTail text := by
  simp only [numberTail]
  split
  · split <;> omega
  · exact Nat.le_refl _

private theorem digitRun_le_length (text : List Char) : digitRun text ≤ text.length :=
  (List.takeWhile_prefix Char.isDigit).length_le

private theorem numberTail_le_length (text : List Char) : numberTail text ≤ text.length := by
  have whole := digitRun_le_length text
  simp only [numberTail]
  split
  · rename_i c more behind
    have decimals := digitRun_le_length more
    have counted := congrArg List.length behind
    simp only [List.length_drop, List.length_cons] at counted
    split <;> omega
  · exact whole

private theorem length_le_numberTail (admits : Shape.Admits .number (first :: body))
    (rest : List Char) : body.length ≤ numberTail (body ++ rest) := by
  generalize same : first :: body = text at admits
  cases admits with
  | whole nonempty numeric =>
    subst same
    have inside : ∀ c ∈ body, c.isDigit := fun c member => numeric c (by simp [member])
    refine Nat.le_trans ?_ (digitRun_le_numberTail _)
    rw [digitRun, List.takeWhile_append_of_pos inside, List.length_append]
    omega
  | @fractional digits decimals nonempty numeric nonempty' numeric' =>
    cases digits with
    | nil => exact absurd rfl nonempty
    | cons digit digits =>
      rw [List.cons_append] at same
      obtain ⟨rfl, rfl⟩ := List.cons.inj same
      obtain ⟨run, rest, rfl, inside, outside⟩ := exists_run Char.isDigit rest
      have inside' : ∀ c ∈ digits, c.isDigit := fun c member => numeric c (by simp [member])
      have numerics : ∀ c ∈ decimals ++ run, c.isDigit := by
        intro c member
        exact (List.mem_append.mp member).elim (numeric' c) (inside c)
      have tail := numberTail_fractional inside' (by simp [nonempty']) numerics outside
      rw [List.append_assoc, List.cons_append, ← List.append_assoc decimals, tail]
      simp only [List.length_append, List.length_cons]
      omega

namespace Segment

private theorem split_number_eq (digit : first.isDigit) (tail : List Char) :
    (split first tail).1 = ⟨.number, first :: tail.take (numberTail tail)⟩ := by
  simp [split, cut, isBlank_eq_false_of_isDigit digit, digit]

private theorem split_word_eq (start : isWordStart first) (tail : List Char) :
    (split first tail).1 = ⟨.word, first :: tail.takeWhile isWordPart⟩ := by
  have run := List.prefix_iff_eq_take.mp (List.takeWhile_prefix isWordPart (l := tail))
  simp [split, cut, isBlank_eq_false_of_isWordStart start, isDigit_eq_false_of_isWordStart start,
    start, ← run]

/-- A character that extends a mark makes a longer unit of it, be it a mark or a comment. -/
private theorem one_lt_split_length (member : ([first], kind) ∈ markTexts)
    (extended : c ∈ extenders kind)
    (tail : List Char) : 1 < (split first (c :: tail)).1.text.length := by
  obtain ⟨notBlank, notDigit, notStart, notQuote, slash | lone | ⟨notSlash, noLone, extensible⟩⟩ :=
    markTexts_forms _ member first rfl
  · obtain ⟨same, rfl⟩ := slash
    cases same
    simp only [extenders, List.mem_cons, List.not_mem_nil, or_false] at extended
    rcases extended with rfl | rfl
    · have comment : cut '/' ('/' :: tail) =
          (.lineComment, 1 + (tail.takeWhile (· ≠ '\n')).length) := by
        simp [cut, notBlank, notDigit, notStart]
      simp only [split, comment, List.length_cons, List.length_take]
      omega
    · cases ending : commentLength? 0 tail <;>
        simp [split, cut, notBlank, notDigit, notStart, ending]
  · simp [lone.2.2.2] at extended
  · obtain rfl : c = '=' := extenders_single _ member (by simpa using notSlash) c extended
    rcases extensible with ⟨-, found, -⟩ | ⟨same, -⟩
    · obtain ⟨kinds, known, -⟩ := Option.map_eq_some_iff.mp found
      simp [split, cut, notBlank, notDigit, notStart, notQuote, notSlash, noLone, known]
    · simp at same

/-- A rule that stops short reads less than the first unit. -/
private theorem Reads.eq_or_lt_of_not_stops {unit : Segment} (reads : unit.Reads rest)
    (goesOn : ¬ unit.Stops rest) (same : first :: tail = unit.text ++ rest) :
    unit = (split first tail).1 ∨ unit.text.length < (split first tail).1.text.length := by
  obtain ⟨shape, text⟩ := unit
  obtain ⟨admits, -⟩ := reads
  cases text with
  | nil =>
    have nonempty : ([] : List Char) ≠ [] := IsUnit.text_ne_nil (.inl admits)
    exact absurd rfl nonempty
  | cons c body =>
    rw [List.cons_append] at same
    obtain ⟨rfl, rfl⟩ := List.cons.inj same
    cases shape with
    | number =>
      have digit := isDigit_of_admits admits
      have least := length_le_numberTail admits rest
      have most := numberTail_le_length (body ++ rest)
      rw [split_number_eq digit]
      -- A numeral that ends where the first number ends is that number.
      by_cases equal : numberTail (body ++ rest) = body.length
      · simp [equal]
      · right
        rw [List.length_cons, List.length_cons, List.length_take]
        omega
    | word =>
      cases admits with
      | word start parts =>
        have inside : ∀ d ∈ body, isWordPart d := by simpa [isWordPart] using parts
        have begins : isWordStart first := by simpa [isWordStart] using start
        rw [split_word_eq begins, List.takeWhile_append_of_pos inside]
        cases run : rest.takeWhile isWordPart with
        | nil => simp
        | cons d run => simp
    | mark kind =>
      cases admits with
      | mark member =>
        simp only [Stops, Classical.not_forall, Classical.not_not] at goesOn
        obtain ⟨c, head, extended⟩ := goesOn
        obtain ⟨more, rfl⟩ := List.head?_eq_some_iff.mp head
        cases body with
        | nil => exact .inr (one_lt_split_length member extended more)
        | cons d body => simp [extenders_pair _ member (by simp)] at extended
    | _ => exact absurd trivial goesOn

/-- The first unit is the longest that a rule reads, and a stray character where none reads any. -/
private theorem Begins.isLongest {unit : Segment} (begins : unit.Begins rest) :
    unit.IsLongest rest := by
  have longest (other : Segment) (rest' : List Char)
      (same : other.text ++ rest' = unit.text ++ rest) (reads : other.Reads rest') :
      other = unit ∨ other.text.length < unit.text.length := by
    cases found : unit.text ++ rest with
    | nil => exact absurd (List.append_eq_nil_iff.mp found).1 begins.isUnit.text_ne_nil
    | cons first tail =>
      have cutOff : (split first tail).1 = unit := by rw [begins.split_eq found.symm]
      by_cases stops : other.Stops rest'
      · have begins' : other.Begins rest' := ⟨.inl reads.admits, reads.reaches, stops⟩
        rw [begins'.split_eq (found.symm.trans same.symm)] at cutOff
        exact .inl cutOff
      · rw [← cutOff]
        exact reads.eq_or_lt_of_not_stops stops (found.symm.trans same.symm)
  refine ⟨?_, longest⟩
  rcases begins.isUnit with admits | ⟨c, stray, rfl⟩
  · exact .inl ⟨admits, begins.reaches⟩
  · refine .inr ⟨c, rfl, ?_⟩
    intro other rest' same reads
    apply stray _ _ reads.admits
    have nonempty := IsUnit.text_ne_nil (.inl reads.admits)
    cases text : other.text with
    | nil => exact absurd text nonempty
    | cons d body =>
      rw [text, List.cons_append] at same
      rw [(List.cons.inj same).1]
      rfl

/-- A text has one longest first unit. -/
theorem IsLongest.unique {unit unit' : Segment} (isLongest : unit.IsLongest rest)
    (isLongest' : unit'.IsLongest rest') (same : unit.text ++ rest = unit'.text ++ rest') :
    unit = unit' := by
  rcases isLongest.reads with reads | ⟨c, rfl, nothing⟩
  · rcases isLongest'.reads with reads' | ⟨c, rfl, nothing⟩
    · rcases isLongest'.longest unit rest same reads with equal | shorter
      · exact equal
      · rcases isLongest.longest unit' rest' same.symm reads' with equal | shorter'
        · exact equal.symm
        · omega
    · exact absurd reads (nothing unit rest same)
  · rcases isLongest'.reads with reads' | ⟨d, rfl, -⟩
    · exact absurd reads' (nothing unit' rest' same.symm)
    · obtain ⟨rfl, -⟩ := List.cons.inj same
      rfl

end Segment

open Segment

/-- Units cut a text: they give the text, and each is the longest unit of what is left of it. -/
structure IsCutting (text : List Char) (units : List Segment) : Prop where
  whole : joined units = text
  nonempty : ∀ unit ∈ units, unit.text ≠ []
  longest : ∀ before unit behind, units = before ++ unit :: behind →
    unit.IsLongest (joined behind)

theorem isCutting_segments (text : List Char) : IsCutting text (segments text) where
  whole := joined_segments text
  nonempty := fun _ member => (isUnit_of_mem_segments member).text_ne_nil
  longest := fun _ _ _ same => ((inOrder_segments text).begins same).isLongest

theorem IsCutting.behind {text : List Char} {units : List Segment}
    (cutting : IsCutting text (unit :: units)) : IsCutting (joined units) units where
  whole := rfl
  nonempty := fun other member => cutting.nonempty other (by simp [member])
  longest := fun before other behind same =>
    cutting.longest (unit :: before) other behind (by simp [same])

theorem IsCutting.unique {text : List Char} {units units' : List Segment}
    (cutting : IsCutting text units) (cutting' : IsCutting text units') : units = units' := by
  induction units generalizing text units' with
  | nil =>
    cases units' with
    | nil => rfl
    | cons unit' units' =>
      have empty := cutting'.whole.trans cutting.whole.symm
      exact absurd (List.append_eq_nil_iff.mp empty).1 (cutting'.nonempty unit' (by simp))
  | cons unit units ih =>
    cases units' with
    | nil =>
      have empty := cutting.whole.trans cutting'.whole.symm
      exact absurd (List.append_eq_nil_iff.mp empty).1 (cutting.nonempty unit (by simp))
    | cons unit' units' =>
      have same : unit.text ++ joined units = unit'.text ++ joined units' :=
        cutting.whole.trans cutting'.whole.symm
      obtain rfl := (cutting.longest [] unit units rfl).unique
        (cutting'.longest [] unit' units' rfl) same
      have rest : joined units' = joined units := (List.append_cancel_left same).symm
      rw [ih cutting.behind (rest ▸ cutting'.behind)]

/-- A unit and the text before it account for a result: what is delivered, from which byte on, and
on the line on which the unit ends. -/
def Accounts (place : List Char × Segment) (result : Result) : Prop :=
  Delivers place.2 (Utf8.size place.1) (1 + feeds (place.1 ++ place.2.text)) result

private theorem placed_accounted (units : List Segment) (isUnit : ∀ unit ∈ units, unit.IsUnit)
    (before : List Char) :
    List.Forall₂ Accounts ((located before units).filter fun place => ¬ place.2.IsTrivia)
      (placed (Utf8.size before) (1 + feeds before) units) := by
  induction units generalizing before with
  | nil => exact .nil
  | cons unit units ih =>
    obtain ⟨here, isUnit'⟩ := List.forall_mem_cons.mp isUnit
    have later := ih isUnit' (before ++ unit.text)
    rw [Utf8.size_append, feeds_append, ← UInt32.add_assoc] at later
    rw [placed, located]
    cases found : unit.result? (Utf8.size before) (1 + feeds before + feeds unit.text) with
    | none =>
      have trivia := (here.isTrivia_iff _ _).mpr found
      simpa [trivia] using later
    | some result =>
      have delivers := here.result?_eq_some_iff.mp found
      have notTrivia := not_isTrivia_of_result? found
      rw [List.filter_cons_of_pos (by simpa using notTrivia)]
      refine .cons ?_ later
      rwa [Accounts, feeds_append, ← UInt32.add_assoc]

/-- A scan cuts the source into the one list of units that are longest matches, and its results are
those of the units that are neither blanks nor comments, in order. -/
theorem scan_cuts_longest_units (source : String) :
    ∃ units, IsCutting source.toList units ∧
      (∀ units', IsCutting source.toList units' → units' = units) ∧
      List.Forall₂ Accounts ((located [] units).filter fun place => ¬ place.2.IsTrivia)
        (scan source) := by
  have cutting := isCutting_segments source.toList
  refine ⟨segments source.toList, cutting, fun _ cutting' => cutting'.unique cutting, ?_⟩
  rw [scan_eq_placed]
  exact placed_accounted _ (fun _ => isUnit_of_mem_segments) []

end Lox
