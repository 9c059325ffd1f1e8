import Lox.Proofs.ScannedToken

namespace Lox

namespace Segment

/-- A comment or a string that is never closed. -/
def IsOpen (unit : Segment) : Prop := unit.shape = .openComment ∨ unit.shape = .openString

/-- A line feed goes on with no unit. -/
private theorem Stops.append_feed {unit : Segment} (stops : unit.Stops rest) (more : List Char) :
    unit.Stops (rest ++ '\n' :: more) := by
  obtain ⟨shape, text⟩ := unit
  have next : ∀ {p : Char → Prop}, p '\n' → (∀ c ∈ rest.head?, p c) →
      ∀ c ∈ (rest ++ '\n' :: more).head?, p c := by
    intro p feed before c head
    cases rest with
    | nil =>
      obtain rfl := Option.some.inj head
      exact feed
    | cons first rest => exact before c head
  cases shape with
  | number =>
    obtain ⟨noDigit, noPoint⟩ := stops
    refine ⟨next (by decide) noDigit, noPoint.imp_right fun noPoint c behind same => ?_⟩
    cases rest with
    | nil => simp at same
    | cons first rest =>
      -- A point may be the last character, and then the line feed stands where a digit would.
      cases rest with
      | nil =>
        obtain ⟨-, rfl, -⟩ : first = '.' ∧ '\n' = c ∧ more = behind := by simpa using same
        decide
      | cons second rest =>
        obtain ⟨rfl, rfl, -⟩ :
            first = '.' ∧ second = c ∧ rest ++ '\n' :: more = behind := by simpa using same
        exact noPoint _ _ rfl
  | word => exact next (by decide) stops
  | mark kind =>
    have noExtender : '\n' ∉ extenders kind := by cases kind <;> decide
    exact next noExtender stops
  | _ => trivial

private theorem Begins.append_feed {unit : Segment} (begins : unit.Begins rest)
    (closed : ¬ unit.IsOpen) (more : List Char) : unit.Begins (rest ++ '\n' :: more) := by
  refine ⟨begins.isUnit, ?_, begins.stops.append_feed more⟩
  obtain ⟨shape, text⟩ := unit
  have reaches := begins.reaches
  cases shape with
  | lineComment =>
    rcases reaches with rfl | head
    · exact .inr rfl
    · refine .inr ?_
      rw [List.head?_append, head]
      rfl
  | openComment => exact absurd (.inl rfl) closed
  | openString => exact absurd (.inr rfl) closed
  | _ => trivial

end Segment

/-- Behind a line feed a text is cut on its own, unless a unit before it is open. -/
theorem segments_append_feed (text more : List Char)
    (closed : ∀ unit ∈ segments text, ¬ unit.IsOpen) :
    segments (text ++ '\n' :: more) = segments text ++ segments ('\n' :: more) := by
  induction text using units_induction with
  | nil => rw [segments_nil, List.nil_append, List.nil_append]
  | unit unit rest begins ih =>
    rw [segments_begins begins] at closed ⊢
    have here := begins.append_feed (closed unit (by simp)) more
    have later := ih fun other member => closed other (by simp [member])
    rw [List.append_assoc, segments_begins here, later, List.cons_append]

/-- Every comment and string of a source is closed. -/
def IsClosed (source : String) : Prop :=
  ∀ error, Result.error error ∈ scan source →
    error.cause ≠ .unterminatedString ∧ error.cause ≠ .unterminatedComment

theorem mem_errors_iff {results : List Result} :
    error ∈ results.filterMap Result.error? ↔ Result.error error ∈ results := by
  rw [List.mem_filterMap]
  constructor
  · rintro ⟨result, member, same⟩
    cases result with
    | token token => cases same
    | error error' => exact Option.some.inj same ▸ member
  · exact fun member => ⟨_, member, rfl⟩

instance (source : String) : Decidable (IsClosed source) :=
  decidable_of_iff (∀ error ∈ (scan source).filterMap Result.error?,
      error.cause ≠ .unterminatedString ∧ error.cause ≠ .unterminatedComment)
    (by simp only [mem_errors_iff, IsClosed])

private theorem mem_placed_of_mem {units : List Segment} (member : unit ∈ units) (offset : Nat)
    (line : UInt32) : ∃ offset' line', ∀ result, unit.result? offset' line' = some result →
      result ∈ placed offset line units := by
  obtain ⟨front, back, rfl⟩ := List.append_of_mem member
  exact ⟨_, _, fun result found => mem_placed_iff.mpr ⟨front, unit, back, rfl, found⟩⟩

theorem IsClosed.not_isOpen (closed : IsClosed source) :
    ∀ unit ∈ segments source.toList, ¬ unit.IsOpen := by
  intro unit member isOpen
  obtain ⟨offset, line, delivered⟩ := mem_placed_of_mem member 0 1
  rw [← scan_eq_placed] at delivered
  obtain ⟨shape, text⟩ := unit
  rcases isOpen with same | same
  · obtain rfl : shape = .openComment := same
    exact (closed _ (delivered _ rfl)).2 rfl
  · obtain rfl : shape = .openString := same
    exact (closed _ (delivered _ rfl)).1 rfl

end Lox
