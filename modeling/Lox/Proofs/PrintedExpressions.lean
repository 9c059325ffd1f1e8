import Lox.Proofs.Adjacency
import Lox.Proofs.Literals
import Lox.Proofs.PrefixForm
import Lox.Proofs.Spacing

namespace Lox

/-- In front of `rest` a text is read as tokens with blanks between them: what stands behind a lexeme
makes nothing else of it. -/
inductive IsReadAs : List Char → List Token → (rest : List Char) → Prop where
  | nil : IsReadAs [] [] rest
  | blank (later : IsReadAs text tokens rest) : IsReadAs (' ' :: text) tokens rest
  | lexeme (scanned : Token.IsScanned token) (stops : token.unit.Stops (text ++ rest))
      (later : IsReadAs text tokens rest) :
      IsReadAs (token.lexeme.toList ++ text) (token :: tokens) rest

namespace IsReadAs

theorem of_append_nil (read : IsReadAs (text ++ []) tokens rest) : IsReadAs text tokens rest := by
  rwa [List.append_nil] at read

theorem append (first : IsReadAs text tokens (text' ++ rest))
    (second : IsReadAs text' tokens' rest) :
    IsReadAs (text ++ text') (tokens ++ tokens') rest := by
  generalize behind : text' ++ rest = more at first
  induction first with
  | nil => exact second
  | blank _ ih => exact .blank (ih behind)
  | lexeme scanned stops _ ih =>
    subst behind
    rw [List.append_assoc]
    exact .lexeme scanned (by rwa [List.append_assoc]) (ih rfl)

/-- The results are the tokens but for their lines. -/
private theorem contents_eq (read : IsReadAs text tokens []) (offset : Nat) (line : UInt32) :
    (placed offset line (segments text)).map Result.content? =
      tokens.map fun token => some token.content := by
  generalize behind : [] = rest at read
  induction read generalizing offset line with
  | nil => rw [segments_nil]; rfl
  | @blank text tokens _ _ ih =>
    have gap : Trivia [' '] := .blank (by simp) .nil
    have cut := gap.placed_append offset line text
    rw [List.singleton_append] at cut
    rw [cut, ih _ _ behind]
  | @lexeme token text _ tokens scanned stops _ ih =>
    subst behind
    rw [List.append_nil] at stops
    have cut := segments_begins ⟨scanned.isUnit, token.unit_reaches text, stops⟩
    have here := scanned.result? offset (line + feeds token.unit.text)
    have whole : token.unit.text = token.lexeme.toList := rfl
    rw [← whole, cut, placed, here, List.map_append, ih _ _ rfl]
    rfl

end IsReadAs

theorem ClosesAtom.stops (closes : ClosesAtom rest) (unit : Segment) : unit.Stops rest := by
  refine Segment.stops_of_head fun c head => ?_
  have each : ∀ c ∈ [' ', ')'], c ∈ [' ', '\t', '\r', '\n', ')'] := by simp
  exact each c (closes c head)

namespace Expr

/-- The parentheses, and the word that stands for grouping. -/
def opening : Token := ⟨.leftParen, "(", .none, 1⟩

def closing : Token := ⟨.rightParen, ")", .none, 1⟩

def groupWord : Token := ⟨.identifier, "group", .identifier "group", 1⟩

/-- The tokens of an expression in the order of its prefix form. A literal has one, which denotes
its value. -/
inductive Flattens : Expr → List Token → Prop where
  | literal (denotes : Value.ofToken? token = some value) : Flattens (.literal value) [token]
  | grouping (inner : Flattens e tokens) :
      Flattens (.grouping e) (opening :: groupWord :: (tokens ++ [closing]))
  | unary (operand : Flattens e tokens) :
      Flattens (.unary operator e) (opening :: operator :: (tokens ++ [closing]))
  | binary (left : Flattens e tokens) (right : Flattens e' tokens') :
      Flattens (.binary e operator e')
        (opening :: operator :: (tokens ++ (tokens' ++ [closing])))

private theorem isScanned_opening : opening.IsScanned := .of_scan_lexeme (by decide +kernel)

private theorem isScanned_closing : closing.IsScanned := .of_scan_lexeme (by decide +kernel)

private theorem isScanned_groupWord : groupWord.IsScanned := .of_scan_lexeme (by decide +kernel)

/-- What an operator or the word for grouping opens. -/
private theorem isReadAs_opened (scanned : Token.IsScanned head)
    (later : IsReadAs shown tokens rest) :
    IsReadAs ('(' :: (head.lexeme.toList ++ ' ' :: shown)) (opening :: head :: tokens) rest := by
  have alone (more : List Char) : opening.unit.Stops more := fun _ _ => List.not_mem_nil
  have stops : head.unit.Stops (' ' :: shown ++ rest) := (closesAtom_blank _).stops _
  exact .lexeme isScanned_opening (alone _) (.lexeme scanned stops (.blank later))

private theorem isReadAs_closing (rest : List Char) : IsReadAs [')'] [closing] rest := by
  have alone : closing.unit.Stops ([] ++ rest) := fun _ _ => List.not_mem_nil
  exact .lexeme isScanned_closing alone .nil

/-- An expression is read as its tokens wherever it may stand. -/
private theorem exists_isReadAs (built : BuiltFrom Token.IsScanned Value.IsBare e) :
    ∃ tokens, Flattens e tokens ∧ ∀ rest, ClosesAtom rest → IsReadAs e.text.toList tokens rest := by
  induction built with
  | @literal value leaf =>
    obtain ⟨token, lexeme, denotes, only⟩ := (Value.IsWritable.bare leaf).exists_token
    rw [← lexeme] at only
    refine ⟨[token], .literal denotes, fun rest closes => .of_append_nil ?_⟩
    rw [text, ← leaf.source_eq, ← lexeme]
    exact .lexeme (.of_scan_lexeme only) (closes.stops _) .nil
  | @grouping inner _ ih =>
    obtain ⟨tokens, flattens, read⟩ := ih
    refine ⟨_, .grouping flattens, fun rest closes => .of_append_nil ?_⟩
    rw [text_grouping_append]
    exact isReadAs_opened isScanned_groupWord
      ((read _ (closesAtom_closing _)).append (isReadAs_closing _))
  | @unary operator operand head _ ih =>
    obtain ⟨tokens, flattens, read⟩ := ih
    refine ⟨_, .unary flattens, fun rest closes => .of_append_nil ?_⟩
    rw [text_unary_append]
    exact isReadAs_opened head ((read _ (closesAtom_closing _)).append (isReadAs_closing _))
  | @binary left operator right _ head _ ihLeft ihRight =>
    obtain ⟨tokens, flattens, read⟩ := ihLeft
    obtain ⟨tokens', flattens', read'⟩ := ihRight
    refine ⟨_, .binary flattens flattens', fun rest closes => .of_append_nil ?_⟩
    rw [text_binary_append]
    exact isReadAs_opened head ((read _ (closesAtom_blank _)).append
      (.blank ((read' _ (closesAtom_closing _)).append (isReadAs_closing _))))

/-- An expression with operators from any sources, and with literals that show as they are read, is
read back from its text: the results are its tokens but for their lines. -/
theorem scan_text_flattens (e : Expr) (built : BuiltFrom Token.IsScanned Value.IsBare e) :
    ∃ tokens, Flattens e tokens ∧
      (scan e.text).map Result.content? = tokens.map fun token => some token.content := by
  obtain ⟨tokens, flattens, read⟩ := exists_isReadAs built
  refine ⟨tokens, flattens, ?_⟩
  rw [scan_eq_placed]
  exact (read [] closesAtom_nil).contents_eq 0 1

/-- The operators are a slash and a string over two lines with parentheses in it. -/
theorem scan_text_flattens_over_lines :
    let slash : Token := ⟨.slash, "/", .none, 7⟩
    let string : Token := ⟨.string, "\"a)\n(b\"", .string "a)\n(b", 2⟩
    let e : Expr := .binary (.unary string (.literal (.number ⟨0x4046D5C28F5C28F6⟩))) slash
      (.grouping (.literal (.bool true)))
    BuiltFrom Token.IsScanned Value.IsBare e ∧
      e.text = "(/ (\"a)\n(b\" 45.67) (group true))" ∧
      ∃ tokens, Flattens e tokens ∧
        (scan e.text).map Result.content? = tokens.map fun token => some token.content := by
  intro slash string e
  have read : scan "\n\n\n\n\n\n/" = [.token slash] := by decide +kernel
  have division : slash.IsScanned := ⟨"\n\n\n\n\n\n/", by simp [read]⟩
  have quoted : string.IsScanned := .of_scan_lexeme (by decide +kernel)
  have built : BuiltFrom Token.IsScanned Value.IsBare e :=
    .binary (.unary quoted (.literal (.number (by decide +kernel) (by decide +kernel)))) division
      (.grouping (.literal (.bool true)))
  exact ⟨built, by decide +kernel, scan_text_flattens e built⟩

end Expr

end Lox
