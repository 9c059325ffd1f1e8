import Lox.Text.Lines

namespace Lox

section Pieces

variable {α : Type} [DecidableEq α] {separator : α}

theorem splitAfter_cons (item : α) (items : List α) :
    splitAfter separator (item :: items) =
      if item = separator then [item] :: splitAfter separator items
      else match splitAfter separator items with
        | [] => [[item]]
        | piece :: rest => (item :: piece) :: rest := rfl

theorem splitAfter_append (items items' : List α) :
    splitAfter separator (items ++ separator :: items') =
      splitAfter separator (items ++ [separator]) ++ splitAfter separator items' := by
  induction items with
  | nil => simp [splitAfter]
  | cons item items ih =>
    rw [List.cons_append, List.cons_append, splitAfter_cons, splitAfter_cons, ih]
    by_cases here : item = separator
    · simp [here]
    · simp only [here, if_false]
      cases pieces : splitAfter separator (items ++ [separator]) with
      | nil =>
        cases items with
        | nil => simp [splitAfter_cons] at pieces
        | cons next items =>
          rw [List.cons_append, splitAfter_cons] at pieces
          split at pieces
          · simp at pieces
          · split at pieces <;> simp at pieces
      | cons piece pieces => simp

theorem splitAfter_run {run : List α} (absent : separator ∉ run) :
    splitAfter separator (run ++ [separator]) = [run ++ [separator]] := by
  induction run with
  | nil => simp [splitAfter]
  | cons item run ih =>
    have other : item ≠ separator := fun same => absent (by simp [same])
    have later := ih fun member => absent (by simp [member])
    rw [List.cons_append, splitAfter_cons, if_neg other, later]

theorem splitAfter_last {run : List α} (absent : separator ∉ run) (nonempty : run ≠ []) :
    splitAfter separator run = [run] := by
  induction run with
  | nil => exact absurd rfl nonempty
  | cons item run ih =>
    have other : item ≠ separator := fun same => absent (by simp [same])
    rw [splitAfter_cons, if_neg other]
    cases run with
    | nil => rfl
    | cons next run => rw [ih (fun member => absent (by simp [member])) (by simp)]

/-- A list is put together of its pieces, beginning with the last. -/
theorem pieces_induction (separator : α) {motive : List α → Prop} (nil : motive [])
    (last : ∀ run, separator ∉ run → run ≠ [] → motive run)
    (piece : ∀ run items, separator ∉ run → motive items →
      motive (run ++ separator :: items)) (items : List α) : motive items := by
  by_cases present : separator ∈ items
  · obtain ⟨run, rest, same, absent⟩ := List.eq_append_cons_of_mem present
    rw [same]
    exact piece run rest absent (pieces_induction separator nil last piece rest)
  · by_cases nonempty : items = []
    · exact nonempty ▸ nil
    · exact last items present nonempty
termination_by items.length
decreasing_by
  rw [same, List.length_append, List.length_cons]
  omega

theorem flatten_splitAfter (items : List α) : (splitAfter separator items).flatten = items := by
  induction items with
  | nil => rfl
  | cons item items ih =>
    rw [splitAfter_cons]
    by_cases here : item = separator
    · simp [here, ih]
    · rw [if_neg here]
      cases pieces : splitAfter separator items with
      | nil =>
        rw [pieces] at ih
        simp [← ih]
      | cons piece rest =>
        rw [pieces] at ih
        simp [← ih]

/-- A piece holds no separator but the one that ends it. -/
private theorem exists_run_of_mem_splitAfter {items piece : List α}
    (member : piece ∈ splitAfter separator items) :
    ∃ run, separator ∉ run ∧ (piece = run ∨ piece = run ++ [separator]) := by
  induction items generalizing piece with
  | nil => simp [splitAfter] at member
  | cons item items ih =>
    rw [splitAfter_cons] at member
    by_cases here : item = separator
    · rw [if_pos here] at member
      rcases List.mem_cons.mp member with rfl | later
      · exact ⟨[], by simp, .inr (by simp [here])⟩
      · exact ih later
    · rw [if_neg here] at member
      split at member
      · obtain rfl := List.mem_singleton.mp member
        exact ⟨[item], by simpa using Ne.symm here, .inl rfl⟩
      · rename_i head rest pieces
        rcases List.mem_cons.mp member with rfl | later
        · have first : head ∈ splitAfter separator items := by simp [pieces]
          obtain ⟨run, absent, same⟩ := ih first
          refine ⟨item :: run, by simp [absent, Ne.symm here], ?_⟩
          rcases same with same | same <;> simp [same]
        · exact ih (by simp [pieces, later])

end Pieces

private theorem withoutLineEnd_of_not_mem {line : List Char} (absent : '\n' ∉ line) :
    withoutLineEnd line = line := by
  rcases List.eq_nil_or_concat line with rfl | ⟨front, last, rfl⟩
  · rfl
  · have other : last ≠ '\n' := fun same => absent (by simp [same])
    simp [withoutLineEnd, other]

private theorem withoutLineEnd_feed (line : List Char) :
    withoutLineEnd (line ++ ['\n']) =
      if line.getLast? = some '\r' then line.dropLast else line := by
  rcases List.eq_nil_or_concat line with rfl | ⟨front, last, rfl⟩
  · rfl
  · by_cases return' : last = '\r'
    · simp [withoutLineEnd, return']
    · simp [withoutLineEnd, return']

theorem withoutLineEnd_feed_isPrefix (line : List Char) :
    withoutLineEnd (line ++ ['\n']) <+: line := by
  rw [withoutLineEnd_feed]
  split
  · exact List.dropLast_prefix line
  · exact List.prefix_rfl

theorem withoutLineEnd_append {front : List Char} (other : front.getLast? ≠ some '\r')
    (line : List Char) : withoutLineEnd (front ++ line ++ ['\n']) =
      front ++ withoutLineEnd (line ++ ['\n']) := by
  rw [withoutLineEnd_feed, withoutLineEnd_feed]
  rcases List.eq_nil_or_concat line with rfl | ⟨behind, last, rfl⟩
  · simp [other]
  · by_cases return' : last = '\r'
    · simp [return', ← List.append_assoc]
    · simp [return', ← List.append_assoc]

/-- What is read of a line does not depend on a carriage return at its end. -/
def IgnoresReturn {α : Type} (read : List Char → α) : Prop :=
  ∀ line, read (line ++ ['\r']) = read line

theorem IgnoresReturn.withoutLineEnd {α : Type} {read : List Char → α}
    (ignores : IgnoresReturn read) (line : List Char) :
    read (withoutLineEnd (line ++ ['\n'])) = read line := by
  rw [withoutLineEnd_feed]
  split
  · rename_i last
    obtain ⟨front, rfl⟩ := List.getLast?_eq_some_iff.mp last
    rw [List.dropLast_concat, ignores]
  · rfl

theorem lines_append (text text' : List Char) :
    lines (text ++ '\n' :: text') = lines (text ++ ['\n']) ++ lines text' := by
  rw [lines, splitAfter_append, List.map_append]
  rfl

theorem lines_run {run : List Char} (absent : '\n' ∉ run) (text : List Char) :
    lines (run ++ '\n' :: text) = withoutLineEnd (run ++ ['\n']) :: lines text := by
  rw [lines_append, lines, splitAfter_run absent]
  rfl

theorem lines_last {run : List Char} (absent : '\n' ∉ run) (nonempty : run ≠ []) :
    lines run = [run] := by
  rw [lines, splitAfter_last absent nonempty, List.map_singleton,
    withoutLineEnd_of_not_mem absent]

theorem lines_flatMap {runs : List (List Char)} (each : ∀ run ∈ runs, '\n' ∉ run) :
    lines (runs.flatMap (· ++ ['\n'])) = runs.map fun run => withoutLineEnd (run ++ ['\n']) := by
  induction runs with
  | nil => rfl
  | cons run runs ih =>
    have here : '\n' ∉ run := each run (by simp)
    have later := ih fun other member => each other (by simp [member])
    rw [List.flatMap_cons, List.append_assoc, List.singleton_append, lines_run here, later,
      List.map_cons]

theorem lines_eq_nil_iff : lines text = [] ↔ text = [] := by
  constructor
  · intro none
    have whole : (splitAfter '\n' text).flatten = text := flatten_splitAfter text
    rw [← whole, List.map_eq_nil_iff.mp none, List.flatten_nil]
  · rintro rfl
    rfl

/-- A line is a part of its text, and no line feed is in it. -/
theorem mem_lines (member : line ∈ lines text) : '\n' ∉ line ∧ line <:+: text := by
  obtain ⟨piece, present, rfl⟩ := List.mem_map.mp member
  have whole : (splitAfter '\n' text).flatten = text := flatten_splitAfter text
  have part : piece <:+: text := by
    rw [← whole]
    exact List.infix_of_mem_flatten present
  obtain ⟨run, absent, rfl | rfl⟩ := exists_run_of_mem_splitAfter present
  · rw [withoutLineEnd_of_not_mem absent]
    exact ⟨absent, part⟩
  · have front := withoutLineEnd_feed_isPrefix run
    have run_part : run <:+: text := (List.prefix_append run ['\n']).isInfix.trans part
    exact ⟨fun feed => absent (front.subset feed), front.isInfix.trans run_part⟩

/-- The lines of a text, read off the text. A line ends with a line feed, and one carriage return
before that belongs to its end. Behind the last line feed there is a line only if there is
something, and it keeps a carriage return. -/
inductive HasLines : List Char → List (List Char) → Prop where
  | nil : HasLines [] []
  | last (noFeed : '\n' ∉ line) (nonempty : line ≠ []) : HasLines line [line]
  | feed (noFeed : '\n' ∉ line) (noReturn : line.getLast? ≠ some '\r')
      (behind : HasLines text others) : HasLines (line ++ '\n' :: text) (line :: others)
  | returnFeed (noFeed : '\n' ∉ line) (behind : HasLines text others) :
      HasLines (line ++ '\r' :: '\n' :: text) (line :: others)

theorem hasLines_lines (text : List Char) : HasLines text (lines text) := by
  induction text using pieces_induction '\n' with
  | nil => exact .nil
  | last run absent nonempty =>
    rw [lines_last absent nonempty]
    exact .last absent nonempty
  | piece run items absent ih =>
    rw [lines_run absent, withoutLineEnd_feed]
    split
    · rename_i last
      obtain ⟨front, rfl⟩ := List.getLast?_eq_some_iff.mp last
      have absent' : '\n' ∉ front := fun member => absent (List.mem_append_left _ member)
      rw [List.append_assoc, List.dropLast_concat]
      exact .returnFeed absent' ih
    · rename_i last
      exact .feed absent last ih

theorem hasLines_iff {all : List (List Char)} : HasLines text all ↔ all = lines text := by
  constructor
  · intro has
    induction has with
    | nil => rfl
    | last noFeed nonempty => rw [lines_last noFeed nonempty]
    | feed noFeed noReturn behind ih =>
      rw [lines_run noFeed, withoutLineEnd_feed, if_neg noReturn, ih]
    | @returnFeed line text others noFeed behind ih =>
      have noFeed' : '\n' ∉ line ++ ['\r'] := by simp [noFeed]
      have apart : line ++ '\r' :: '\n' :: text = (line ++ ['\r']) ++ '\n' :: text := by simp
      rw [apart, lines_run noFeed', withoutLineEnd_feed, if_pos (by simp), List.dropLast_concat, ih]
  · rintro rfl
    exact hasLines_lines text

theorem trimEnd_append {text blanks : List Char} (blank : ∀ c ∈ blanks, isWhiteSpace c) :
    trimEnd (text ++ blanks) = trimEnd text := by
  have blank' : ∀ c ∈ blanks.reverse, isWhiteSpace c := by simpa using blank
  rw [trimEnd, List.reverse_append, List.dropWhile_append_of_pos blank', trimEnd]

theorem ignoresReturn_trimEnd : IgnoresReturn trimEnd := by
  intro line
  have blank : isWhiteSpace '\r' := by decide
  exact trimEnd_append (by simpa using blank)

/-- Whether a carriage return belongs to a line's end is no matter once the line is trimmed. -/
theorem trimEnd_withoutLineEnd (line : List Char) :
    trimEnd (withoutLineEnd (line ++ ['\n'])) = trimEnd line :=
  ignoresReturn_trimEnd.withoutLineEnd line

/-- A line without the white space at its end. -/
structure Trims (line shown : List Char) : Prop where
  split : ∃ blanks, line = shown ++ blanks ∧ ∀ c ∈ blanks, isWhiteSpace c
  ends : ∀ c ∈ shown.getLast?, ¬ isWhiteSpace c

private theorem trimEnd_of_getLast? {text : List Char}
    (ends : ∀ c ∈ text.getLast?, ¬ isWhiteSpace c) : trimEnd text = text := by
  rcases List.eq_nil_or_concat text with rfl | ⟨front, last, rfl⟩
  · rfl
  · have visible : ¬ isWhiteSpace last := ends last (by simp)
    simp [trimEnd, visible]

private theorem trims_trimEnd (line : List Char) : Trims line (trimEnd line) where
  split := by
    refine ⟨(line.reverse.takeWhile isWhiteSpace).reverse, ?_, ?_⟩
    · rw [trimEnd, ← List.reverse_append, List.takeWhile_append_dropWhile, List.reverse_reverse]
    · intro c member
      exact List.all_eq_true.mp List.all_takeWhile c (List.mem_reverse.mp member)
  ends := by
    intro c last
    rw [trimEnd, List.getLast?_reverse] at last
    have visible := List.head?_dropWhile_not isWhiteSpace line.reverse
    rw [last] at visible
    simpa using visible

theorem trims_iff : Trims line shown ↔ shown = trimEnd line := by
  constructor
  · rintro ⟨⟨blanks, rfl, blank⟩, ends⟩
    rw [trimEnd_append blank, trimEnd_of_getLast? ends]
  · rintro rfl
    exact trims_trimEnd line

end Lox
