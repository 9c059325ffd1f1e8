import Lox.Proofs.Grammar

namespace Lox

theorem isBlank_iff : isBlank c = true ↔ c ∈ [' ', '\t', '\r', '\n'] := by
  simp [isBlank, or_assoc]

theorem isBlank_eq_false_of_isDigit (digit : c.isDigit) : isBlank c = false := by
  apply Bool.eq_false_iff.mpr
  intro blank
  have member := isBlank_iff.mp blank
  simp only [List.mem_cons, List.not_mem_nil, or_false] at member
  rcases member with rfl | rfl | rfl | rfl <;> simp at digit

theorem isBlank_eq_false_of_isWordStart (start : isWordStart c) : isBlank c = false := by
  apply Bool.eq_false_iff.mpr
  intro blank
  have member := isBlank_iff.mp blank
  simp only [List.mem_cons, List.not_mem_nil, or_false] at member
  rcases member with rfl | rfl | rfl | rfl <;> simp [isWordStart] at start

private theorem le_toNat_of_isAlpha {c : Char} (letter : c.isAlpha) : 65 ≤ c.toNat := by
  rcases (Bool.or_eq_true _ _).mp letter with upper | lower
  · exact UInt32.le_iff_toNat_le.mp (of_decide_eq_true upper).1
  · obtain ⟨least, -⟩ := (Bool.and_eq_true _ _).mp lower
    exact Nat.le_trans (by decide) (UInt32.le_iff_toNat_le.mp (of_decide_eq_true least))

/-- The digits come before the letters and the underscore. -/
theorem isDigit_eq_false_of_isWordStart (start : isWordStart c) : c.isDigit = false := by
  apply Bool.eq_false_iff.mpr
  intro digit
  have most : c.toNat ≤ 57 := (Char.isDigit_iff_toNat.mp digit).2
  rcases (Bool.or_eq_true _ _).mp start with letter | underscore
  · have least := le_toNat_of_isAlpha letter
    omega
  · obtain rfl := eq_of_beq underscore
    exact absurd most (by decide)

section Runs

variable {α : Type} {p : α → Bool}

/-- A text goes on with a run of characters of one class and then with none of it. -/
theorem exists_run (p : α → Bool) (text : List α) :
    ∃ run rest, text = run ++ rest ∧ (∀ c ∈ run, p c) ∧ ∀ c ∈ rest.head?, ¬ p c := by
  refine ⟨text.takeWhile p, text.dropWhile p, List.takeWhile_append_dropWhile.symm, ?_, ?_⟩
  · intro c member
    exact List.all_eq_true.mp List.all_takeWhile c member
  · intro c head
    simpa [Option.mem_def.mp head] using List.head?_dropWhile_not p text

theorem takeWhile_run {run rest : List α} (inside : ∀ c ∈ run, p c)
    (outside : ∀ c ∈ rest.head?, ¬ p c) : (run ++ rest).takeWhile p = run := by
  rw [List.takeWhile_append_of_pos inside]
  cases rest with
  | nil => simp
  | cons c rest => simp [List.takeWhile_cons_of_neg (outside c rfl)]

private theorem idxOf?_first [DecidableEq α] {a : α} {body : List α} (absent : a ∉ body)
    (rest : List α) : (body ++ a :: rest).idxOf? a = some body.length := by
  induction body with
  | nil => simp [List.idxOf?_cons]
  | cons c body ih =>
    have other : c ≠ a := fun same => absent (by simp [same])
    have later := ih fun member => absent (by simp [member])
    simp [List.idxOf?_cons, other, later]

end Runs

theorem isInfix_pair_cons [DecidableEq α] {a b c : α} {text : List α} :
    [a, b] <:+: c :: text ↔ (c = a ∧ text.head? = some b) ∨ [a, b] <:+: text := by
  rw [List.infix_cons_iff]
  cases text with
  | nil => simp
  | cons d text => simp [List.cons_prefix_cons, @eq_comm α a, @eq_comm α b]

/-- A text with an end of a comment has a first one. -/
private theorem exists_first_end (text : List Char) (ends : ['*', '/'] <:+: text) :
    ∃ body rest, text = body ++ '*' :: '/' :: rest ∧ ¬ ['*', '/'] <:+: body ++ ['*'] := by
  induction text with
  | nil => simp at ends
  | cons c text ih =>
    by_cases here : c = '*' ∧ text.head? = some '/'
    · obtain ⟨rfl, head⟩ := here
      obtain ⟨rest, rfl⟩ := List.head?_eq_some_iff.mp head
      refine ⟨[], rest, rfl, ?_⟩
      rw [List.nil_append, isInfix_pair_cons]
      simp
    · obtain ⟨body, rest, same, noEnd⟩ :=
        ih ((isInfix_pair_cons.mp ends).resolve_left here)
      refine ⟨c :: body, rest, by simp [same], ?_⟩
      rw [List.cons_append, isInfix_pair_cons]
      rintro (⟨rfl, head⟩ | later)
      · apply here
        subst same
        cases body with
        | nil => simp at head
        | cons d body => exact ⟨rfl, by simpa using head⟩
      · exact noEnd later

private theorem commentLength?_first (before : Nat) (body rest : List Char)
    (noEnd : ¬ ['*', '/'] <:+: body ++ ['*']) :
    commentLength? before (body ++ '*' :: '/' :: rest) = some (before + body.length) := by
  induction body generalizing before with
  | nil => simp [commentLength?]
  | cons c body ih =>
    rw [List.cons_append, isInfix_pair_cons, not_or] at noEnd
    have later := ih (before + 1) noEnd.2
    rw [List.cons_append, commentLength?]
    · rw [later, List.length_cons]
      congr 1
      omega
    · intro more star slash
      apply noEnd.1
      refine ⟨star, ?_⟩
      cases body with
      | nil => simp at slash
      | cons d body => simpa using (List.cons.inj slash).1

private theorem commentLength?_none (before : Nat) (text : List Char)
    (noEnd : ¬ ['*', '/'] <:+: text) : commentLength? before text = none := by
  induction text generalizing before with
  | nil => rfl
  | cons c text ih =>
    rw [isInfix_pair_cons, not_or] at noEnd
    rw [commentLength?]
    · exact ih (before + 1) noEnd.2
    · rintro more rfl rfl
      simp at noEnd

private theorem digitRun_run {run rest : List Char} (inside : ∀ c ∈ run, c.isDigit)
    (outside : ∀ c ∈ rest.head?, ¬ c.isDigit) : digitRun (run ++ rest) = run.length := by
  rw [digitRun, takeWhile_run inside outside]

private theorem numberTail_whole {run rest : List Char} (inside : ∀ c ∈ run, c.isDigit)
    (outside : ∀ c ∈ rest.head?, ¬ c.isDigit)
    (noPoint : ∀ c more, rest = '.' :: c :: more → ¬ c.isDigit) :
    numberTail (run ++ rest) = run.length := by
  simp only [numberTail, digitRun_run inside outside, List.drop_left]
  split
  · rename_i c more
    rw [if_neg (noPoint c more rfl)]
  · rfl

theorem numberTail_fractional {run decimals rest : List Char} (inside : ∀ c ∈ run, c.isDigit)
    (nonempty : decimals ≠ []) (numeric : ∀ c ∈ decimals, c.isDigit)
    (outside : ∀ c ∈ rest.head?, ¬ c.isDigit) :
    numberTail (run ++ '.' :: (decimals ++ rest)) = run.length + 1 + decimals.length := by
  cases decimals with
  | nil => exact absurd rfl nonempty
  | cons d decimals =>
    have point : ∀ c ∈ ('.' :: d :: (decimals ++ rest)).head?, ¬ c.isDigit := by simp
    have digit : d.isDigit := numeric d (by simp)
    have inside' : ∀ c ∈ decimals, c.isDigit := fun c member => numeric c (by simp [member])
    have whole := digitRun_run inside point
    simp only [numberTail, whole, List.drop_left, List.cons_append, digit, if_true,
      digitRun_run inside' outside, List.length_cons]
    omega

theorem isDigit_of_admits (admits : Shape.Admits .number (first :: body)) : first.isDigit := by
  generalize same : first :: body = text at admits
  cases admits with
  | whole nonempty numeric => exact numeric first (by simp [← same])
  | @fractional digits _ nonempty numeric =>
    cases digits with
    | nil => exact absurd rfl nonempty
    | cons digit digits =>
      obtain ⟨rfl, -⟩ := List.cons.inj same
      exact numeric first (by simp)

namespace Segment

private theorem split_of_cut {shape : Shape} {body rest : List Char}
    (known : cut first (body ++ rest) = (shape, body.length)) :
    split first (body ++ rest) = (⟨shape, first :: body⟩, rest) := by
  simp [split, known]

private theorem split_of_cut_single {shape : Shape} (known : cut first rest = (shape, 0)) :
    split first rest = (⟨shape, [first]⟩, rest) := by
  simp [split, known]

private theorem split_blank (member : c ∈ [' ', '\t', '\r', '\n']) (rest : List Char) :
    split c rest = (⟨.blank, [c]⟩, rest) := by
  apply split_of_cut_single
  simp [cut, isBlank_iff.mpr member]

private theorem split_number (digit : first.isDigit)
    (known : numberTail (body ++ rest) = body.length) :
    split first (body ++ rest) = (⟨.number, first :: body⟩, rest) := by
  apply split_of_cut
  simp [cut, isBlank_eq_false_of_isDigit digit, digit, known]

private theorem split_whole (numeric : ∀ c ∈ first :: run, c.isDigit)
    (stops : NumberStops (first :: run) rest) :
    split first (run ++ rest) = (⟨.number, first :: run⟩, rest) := by
  have inside : ∀ c ∈ run, c.isDigit := fun c member => numeric c (by simp [member])
  have noPoint : '.' ∉ first :: run := fun member => by simpa using numeric '.' member
  exact split_number (numeric first (by simp))
    (numberTail_whole inside stops.1 (stops.2.resolve_left noPoint))

private theorem split_fractional (numeric : ∀ c ∈ first :: run, c.isDigit)
    (nonempty : decimals ≠ []) (numeric' : ∀ c ∈ decimals, c.isDigit)
    (stops : NumberStops (first :: run ++ '.' :: decimals) rest) :
    split first (run ++ '.' :: decimals ++ rest) =
      (⟨.number, first :: run ++ '.' :: decimals⟩, rest) := by
  have inside : ∀ c ∈ run, c.isDigit := fun c member => numeric c (by simp [member])
  have tail := numberTail_fractional inside nonempty numeric' stops.1
  have known : numberTail (run ++ '.' :: decimals ++ rest) = (run ++ '.' :: decimals).length := by
    rw [List.append_assoc, List.cons_append, tail, List.length_append, List.length_cons]
    omega
  exact split_number (numeric first (by simp)) known

private theorem split_word (start : isWordStart first) (inside : ∀ c ∈ body, isWordPart c)
    (outside : ∀ c ∈ rest.head?, ¬ isWordPart c) :
    split first (body ++ rest) = (⟨.word, first :: body⟩, rest) := by
  apply split_of_cut
  simp [cut, isBlank_eq_false_of_isWordStart start, isDigit_eq_false_of_isWordStart start, start,
    takeWhile_run inside outside]

private theorem split_string (noQuote : '"' ∉ body) (rest : List Char) :
    split '"' (body ++ ['"'] ++ rest) = (⟨.string, '"' :: (body ++ ['"'])⟩, rest) := by
  have quote : (body ++ ['"'] ++ rest).idxOf? '"' = some body.length := by
    rw [List.append_assoc]
    exact idxOf?_first noQuote rest
  apply split_of_cut
  simp only [cut, quote]
  simp [isBlank, isWordStart]

private theorem split_openString (noQuote : '"' ∉ body) :
    split '"' body = (⟨.openString, '"' :: body⟩, []) := by
  have quote : body.idxOf? '"' = none := List.idxOf?_eq_none_iff.mpr noQuote
  simp [split, cut, quote, isBlank, isWordStart]

private theorem split_lineComment (noFeed : '\n' ∉ body)
    (stops : rest = [] ∨ rest.head? = some '\n') :
    split '/' ('/' :: body ++ rest) = (⟨.lineComment, '/' :: '/' :: body⟩, rest) := by
  have inside : ∀ c ∈ body, decide (c ≠ '\n') = true := by
    intro c member
    exact decide_eq_true fun same => noFeed (same ▸ member)
  have outside : ∀ c ∈ rest.head?, ¬ decide (c ≠ '\n') = true := by
    intro c head
    rcases stops with rfl | feed
    · simp at head
    · have same : '\n' = c := Option.some.inj (feed.symm.trans head)
      simp [← same]
  have run := takeWhile_run inside outside
  apply split_of_cut
  simp only [cut, List.cons_append, run, List.length_cons, Nat.add_comm 1]
  simp [isBlank, isWordStart]

private theorem split_blockComment (noEnd : ¬ ['*', '/'] <:+: body ++ ['*']) (rest : List Char) :
    split '/' ('*' :: (body ++ ['*', '/']) ++ rest) =
      (⟨.blockComment, '/' :: '*' :: (body ++ ['*', '/'])⟩, rest) := by
  have ending := commentLength?_first 0 body rest noEnd
  apply split_of_cut
  simp [cut, isBlank, isWordStart, ending]
  omega

private theorem split_openComment (noEnd : ¬ ['*', '/'] <:+: body) :
    split '/' ('*' :: body) = (⟨.openComment, '/' :: '*' :: body⟩, []) := by
  simp [split, cut, isBlank, isWordStart, commentLength?_none 0 body noEnd]

private theorem split_slash (stops : ∀ c ∈ rest.head?, c ∉ ['/', '*']) :
    split '/' rest = (⟨.mark .slash, ['/']⟩, rest) := by
  cases rest with
  | nil => simp [split, cut, isBlank, isWordStart]
  | cons c rest =>
    have other := stops c rfl
    simp only [List.mem_cons, List.not_mem_nil, or_false, not_or] at other
    have single : cut '/' (c :: rest) = (.mark .slash, 0) := by
      unfold cut
      split
      · rename_i blank; simp [isBlank] at blank
      · simp [isWordStart, other]
    exact split_of_cut_single single

theorem loneMark?_mem (found : loneMark? c = some kind) : ([c], kind) ∈ markTexts := by
  unfold loneMark? at found
  split at found <;> simp_all [markTexts]

theorem extensibleMark?_mem (found : extensibleMark? c = some (kind, extended)) :
    ([c], kind) ∈ markTexts ∧ ([c, '='], extended) ∈ markTexts := by
  unfold extensibleMark? at found
  split at found <;> simp_all [markTexts]

private theorem split_stray (stray : IsStray c) (rest : List Char) :
    split c rest = (⟨.stray, [c]⟩, rest) := by
  have notBlank : isBlank c = false := by
    apply Bool.eq_false_iff.mpr
    intro blank
    exact stray _ _ (.blank (isBlank_iff.mp blank)) rfl
  have notDigit : c.isDigit = false := by
    apply Bool.eq_false_iff.mpr
    intro digit
    exact stray _ [c] (.whole (by simp) (by simpa using digit)) rfl
  have notStart : isWordStart c = false := by
    apply Bool.eq_false_iff.mpr
    intro start
    exact stray _ [c] (.word (by simpa [isWordStart] using start) (by simp)) rfl
  have notQuote : c ≠ '"' := by
    rintro rfl
    exact stray _ ['"'] (.openString (by simp)) rfl
  have notSlash : c ≠ '/' := by
    rintro rfl
    exact stray (.mark .slash) ['/'] (.mark (by simp [markTexts])) rfl
  have noLone : loneMark? c = none := by
    apply Option.eq_none_iff_forall_ne_some.mpr
    intro kind found
    exact stray _ _ (.mark (loneMark?_mem found)) rfl
  have noExtensible : extensibleMark? c = none := by
    apply Option.eq_none_iff_forall_ne_some.mpr
    intro kinds found
    exact stray _ _ (.mark (extensibleMark?_mem found).1) rfl
  apply split_of_cut_single
  simp [cut, notBlank, notDigit, notStart, notQuote, notSlash, noLone, noExtensible]

/-- The sorts of marks: alone, the slash, and a character without and with an equals sign. -/
theorem markTexts_forms : ∀ entry ∈ markTexts, ∀ first ∈ entry.1.head?,
    isBlank first = false ∧ first.isDigit = false ∧ isWordStart first = false ∧ first ≠ '"' ∧
      (entry = (['/'], .slash) ∧ first = '/' ∨
        first ≠ '/' ∧ entry.1 = [first] ∧ loneMark? first = some entry.2 ∧
          extenders entry.2 = [] ∨
        first ≠ '/' ∧ loneMark? first = none ∧
          (entry.1 = [first] ∧ (extensibleMark? first).map Prod.fst = some entry.2 ∧
              extenders entry.2 = ['='] ∨
            entry.1 = [first, '='] ∧ (extensibleMark? first).map Prod.snd = some entry.2 ∧
              extenders entry.2 = [])) := by
  simp [markTexts, extenders, loneMark?, extensibleMark?, isBlank, isWordStart]

theorem extenders_pair : ∀ entry ∈ markTexts, entry.1.length ≠ 1 → extenders entry.2 = [] := by
  simp [markTexts, extenders]

theorem extenders_single :
    ∀ entry ∈ markTexts, entry.1 ≠ ['/'] → ∀ c ∈ extenders entry.2, c = '=' := by
  simp [markTexts, extenders]

private theorem split_mark (member : (first :: body, kind) ∈ markTexts)
    (stops : ∀ c ∈ rest.head?, c ∉ extenders kind) :
    split first (body ++ rest) = (⟨.mark kind, first :: body⟩, rest) := by
  obtain ⟨notBlank, notDigit, notStart, notQuote, slash | lone | ⟨notSlash, noLone, extensible⟩⟩ :=
    markTexts_forms _ member first rfl
  · obtain ⟨same, rfl⟩ := slash
    cases same
    exact split_slash stops
  · obtain ⟨notSlash, same, found, -⟩ := lone
    cases same
    apply split_of_cut_single
    simp [cut, notBlank, notDigit, notStart, notQuote, notSlash, found]
  · rcases extensible with ⟨same, found, only⟩ | ⟨same, found, -⟩
    · cases same
      have noEqual : rest.head? ≠ some '=' := fun head => stops '=' head (by simp [only])
      obtain ⟨⟨_, extended⟩, known, rfl⟩ := Option.map_eq_some_iff.mp found
      apply split_of_cut_single
      simp [cut, notBlank, notDigit, notStart, notQuote, notSlash, noLone, known, noEqual]
    · cases same
      obtain ⟨⟨plain, _⟩, known, rfl⟩ := Option.map_eq_some_iff.mp found
      apply split_of_cut
      simp [cut, notBlank, notDigit, notStart, notQuote, notSlash, noLone, known]

/-- What the grammar allows as the first unit is what is cut off. -/
theorem Begins.split_eq (begins : Begins unit rest) (same : first :: tail = unit.text ++ rest) :
    split first tail = (unit, rest) := by
  obtain ⟨isUnit, reaches, stops⟩ := begins
  obtain ⟨shape, text⟩ := unit
  simp only [IsUnit, Reaches, Stops] at isUnit reaches stops same
  rcases isUnit with admits | ⟨c, stray, rfl, rfl⟩
  · cases admits with
    | blank member =>
      obtain ⟨rfl, rfl⟩ := List.cons.inj same
      exact split_blank member _
    | lineComment noFeed =>
      obtain ⟨rfl, rfl⟩ := List.cons.inj same
      exact split_lineComment noFeed reaches
    | blockComment noEnd =>
      obtain ⟨rfl, rfl⟩ := List.cons.inj same
      exact split_blockComment noEnd _
    | openComment noEnd =>
      subst reaches
      obtain ⟨rfl, rfl⟩ := List.cons.inj same
      simpa using split_openComment noEnd
    | openString noQuote =>
      subst reaches
      obtain ⟨rfl, rfl⟩ := List.cons.inj same
      simpa using split_openString noQuote
    | string noQuote =>
      obtain ⟨rfl, rfl⟩ := List.cons.inj same
      exact split_string noQuote _
    | whole nonempty numeric =>
      cases text with
      | nil => exact absurd rfl nonempty
      | cons digit run =>
        obtain ⟨rfl, rfl⟩ := List.cons.inj same
        exact split_whole numeric stops
    | @fractional digits decimals nonempty numeric nonempty' numeric' =>
      cases digits with
      | nil => exact absurd rfl nonempty
      | cons digit run =>
        obtain ⟨rfl, rfl⟩ := List.cons.inj same
        exact split_fractional numeric nonempty' numeric' stops
    | word start parts =>
      obtain ⟨rfl, rfl⟩ := List.cons.inj same
      exact split_word (by simpa [isWordStart] using start)
        (fun d member => by simpa [isWordPart] using parts d member) stops
    | mark member =>
      cases text with
      | nil => simp [markTexts] at member
      | cons c body =>
        obtain ⟨rfl, rfl⟩ := List.cons.inj same
        exact split_mark member stops
  · obtain ⟨rfl, rfl⟩ := List.cons.inj same
    exact split_stray stray _

private theorem exists_begins_number (digit : first.isDigit) (tail : List Char) :
    ∃ unit rest, first :: tail = Segment.text unit ++ rest ∧ Begins unit rest := by
  obtain ⟨run, rest, rfl, inside, outside⟩ := exists_run Char.isDigit tail
  have numeric : ∀ c ∈ first :: run, c.isDigit := List.forall_mem_cons.mpr ⟨digit, inside⟩
  by_cases point : ∃ c more, rest = '.' :: c :: more ∧ c.isDigit
  · obtain ⟨c, more, rfl, digit'⟩ := point
    obtain ⟨decimals, rest, rfl, inside', outside'⟩ := exists_run Char.isDigit more
    have numeric' : ∀ d ∈ c :: decimals, d.isDigit :=
      List.forall_mem_cons.mpr ⟨digit', inside'⟩
    refine ⟨⟨.number, first :: run ++ '.' :: c :: decimals⟩, rest, by simp, ?_⟩
    exact ⟨.inl (.fractional (by simp) numeric (by simp) numeric'), trivial,
      outside', .inl (by simp)⟩
  · refine ⟨⟨.number, first :: run⟩, rest, by simp, .inl (.whole (by simp) numeric), trivial,
      outside, .inr ?_⟩
    intro c more same digit'
    exact point ⟨c, more, same, digit'⟩

private theorem exists_begins_word (start : first.isAlpha ∨ first = '_') (tail : List Char) :
    ∃ unit rest, first :: tail = Segment.text unit ++ rest ∧ Begins unit rest := by
  obtain ⟨run, rest, rfl, inside, outside⟩ := exists_run isWordPart tail
  have parts : ∀ c ∈ run, c.isAlphanum ∨ c = '_' := by
    intro c member
    simpa [isWordPart] using inside c member
  exact ⟨⟨.word, first :: run⟩, rest, by simp, .inl (.word start parts), trivial, outside⟩

private theorem exists_begins_quote (tail : List Char) :
    ∃ unit rest, '"' :: tail = Segment.text unit ++ rest ∧ Begins unit rest := by
  obtain ⟨body, rest, rfl, inside, outside⟩ := exists_run (· ≠ '"') tail
  have noQuote : '"' ∉ body := fun member => by simpa using inside '"' member
  cases rest with
  | nil => exact ⟨⟨.openString, '"' :: body⟩, [], by simp, .inl (.openString noQuote), rfl, trivial⟩
  | cons c rest =>
    obtain rfl : c = '"' := by simpa using outside c rfl
    exact ⟨⟨.string, '"' :: (body ++ ['"'])⟩, rest, by simp, .inl (.string noQuote), trivial,
      trivial⟩

private theorem exists_begins_slash (tail : List Char) :
    ∃ unit rest, '/' :: tail = Segment.text unit ++ rest ∧ Begins unit rest := by
  by_cases line : tail.head? = some '/'
  · obtain ⟨comment, rfl⟩ := List.head?_eq_some_iff.mp line
    obtain ⟨body, rest, rfl, inside, outside⟩ := exists_run (· ≠ '\n') comment
    have noFeed : '\n' ∉ body := fun member => by simpa using inside '\n' member
    refine ⟨⟨.lineComment, '/' :: '/' :: body⟩, rest, by simp, .inl (.lineComment noFeed), ?_,
      trivial⟩
    cases rest with
    | nil => exact .inl rfl
    | cons c rest => exact .inr (by simpa using outside c rfl)
  · by_cases block : tail.head? = some '*'
    · obtain ⟨comment, rfl⟩ := List.head?_eq_some_iff.mp block
      by_cases ends : ['*', '/'] <:+: comment
      · obtain ⟨body, rest, rfl, noEnd⟩ := exists_first_end comment ends
        exact ⟨⟨.blockComment, '/' :: '*' :: (body ++ ['*', '/'])⟩, rest, by simp,
          .inl (.blockComment noEnd), trivial, trivial⟩
      · exact ⟨⟨.openComment, '/' :: '*' :: comment⟩, [], by simp, .inl (.openComment ends), rfl,
          trivial⟩
    · refine ⟨⟨.mark .slash, ['/']⟩, tail, rfl, .inl (.mark (by simp [markTexts])), trivial, ?_⟩
      intro c head member
      have next : tail.head? = some c := head
      simp only [extenders, List.mem_cons, List.not_mem_nil, or_false] at member
      rcases member with rfl | rfl
      · exact line next
      · exact block next

private theorem exists_begins_mark (member : (first :: body, kind) ∈ markTexts) (tail : List Char) :
    ∃ unit rest, first :: tail = Segment.text unit ++ rest ∧ Begins unit rest := by
  obtain ⟨-, -, -, -, slash | lone | ⟨notSlash, -, extensible⟩⟩ :=
    markTexts_forms _ member first rfl
  · obtain ⟨-, rfl⟩ := slash
    exact exists_begins_slash tail
  · obtain ⟨-, -, found, none⟩ := lone
    refine ⟨⟨.mark kind, [first]⟩, tail, rfl, .inl (.mark (loneMark?_mem found)), trivial, ?_⟩
    simp [Stops, none]
  · have known : ∃ plain extended, extensibleMark? first = some (plain, extended) := by
      rcases extensible with ⟨-, found, -⟩ | ⟨-, found, -⟩ <;>
        obtain ⟨⟨plain, extended⟩, known, -⟩ := Option.map_eq_some_iff.mp found <;>
        exact ⟨plain, extended, known⟩
    obtain ⟨plain, extended, known⟩ := known
    obtain ⟨plainText, extendedText⟩ := extensibleMark?_mem known
    by_cases equal : tail.head? = some '='
    · obtain ⟨rest, rfl⟩ := List.head?_eq_some_iff.mp equal
      refine ⟨⟨.mark extended, [first, '=']⟩, rest, rfl, .inl (.mark extendedText), trivial, ?_⟩
      simp [Stops, extenders_pair _ extendedText (by simp)]
    · refine ⟨⟨.mark plain, [first]⟩, tail, rfl, .inl (.mark plainText), trivial, ?_⟩
      intro c head extended'
      obtain rfl : c = '=' := extenders_single _ plainText (by simpa using notSlash) c extended'
      exact equal head

private theorem exists_begins (first : Char) (tail : List Char) :
    ∃ unit rest, first :: tail = Segment.text unit ++ rest ∧ Begins unit rest := by
  by_cases known : ∃ shape text, Shape.Admits shape text ∧ text.head? = some first
  · obtain ⟨shape, text, admits, head⟩ := known
    cases admits with
    | blank member =>
      obtain rfl := Option.some.inj head
      exact ⟨⟨.blank, [_]⟩, tail, rfl, .inl (.blank member), trivial, trivial⟩
    | lineComment | blockComment | openComment =>
      obtain rfl := Option.some.inj head
      exact exists_begins_slash tail
    | openString | string =>
      obtain rfl := Option.some.inj head
      exact exists_begins_quote tail
    | whole nonempty numeric =>
      exact exists_begins_number (numeric first (List.mem_of_mem_head? head)) tail
    | @fractional digits _ nonempty numeric =>
      cases digits with
      | nil => exact absurd rfl nonempty
      | cons d digits =>
        obtain rfl := Option.some.inj head
        exact exists_begins_number (numeric _ (by simp)) tail
    | word start parts =>
      obtain rfl := Option.some.inj head
      exact exists_begins_word start tail
    | mark member =>
      obtain ⟨body, rfl⟩ := List.head?_eq_some_iff.mp head
      exact exists_begins_mark member tail
  · have stray : IsStray first := fun shape text admits head => known ⟨shape, text, admits, head⟩
    exact ⟨⟨.stray, [first]⟩, tail, rfl, .inr ⟨first, stray, rfl⟩, trivial, trivial⟩

/-- The unit that is cut off is the one that the grammar allows, and nothing is lost. -/
theorem split_spec (first : Char) (tail : List Char) :
    first :: tail = (split first tail).1.text ++ (split first tail).2 ∧
      (split first tail).1.Begins (split first tail).2 := by
  obtain ⟨unit, rest, same, begins⟩ := exists_begins first tail
  rw [begins.split_eq same]
  exact ⟨same, begins⟩

end Segment

end Lox
