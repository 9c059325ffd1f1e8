import Lox.Expr
import Lox.Proofs.Numerals

namespace Lox

/-- A text without the characters that the prefix form is put together with. -/
structure IsAtom (text : List Char) : Prop where
  nonempty : text ≠ []
  free : ∀ c ∈ text, c ∉ [' ', '(', ')']

/-- What may stand behind an atom: nothing, a blank or a closing parenthesis. -/
def ClosesAtom (rest : List Char) : Prop := ∀ c ∈ rest.head?, c ∈ [' ', ')']

theorem closesAtom_nil : ClosesAtom [] := by simp [ClosesAtom]

theorem closesAtom_blank (rest : List Char) : ClosesAtom (' ' :: rest) := by simp [ClosesAtom]

theorem closesAtom_closing (rest : List Char) : ClosesAtom (')' :: rest) := by simp [ClosesAtom]

namespace IsAtom

theorem takeWhile_append {text rest : List Char} (atom : IsAtom text) (closes : ClosesAtom rest) :
    (text ++ rest).takeWhile (fun c => decide (c ∉ [' ', '(', ')'])) = text := by
  refine takeWhile_run (fun c member => decide_eq_true (atom.free c member)) ?_
  intro c head
  have closing := closes c head
  simp only [List.mem_cons, List.not_mem_nil, or_false] at closing
  rcases closing with rfl | rfl <;> decide

/-- Where an atom ends can be seen. -/
theorem append_inj {text text' rest rest' : List Char} (atom : IsAtom text) (atom' : IsAtom text')
    (closes : ClosesAtom rest) (closes' : ClosesAtom rest') (same : text ++ rest = text' ++ rest') :
    text = text' ∧ rest = rest' := by
  have first := atom.takeWhile_append closes
  rw [same, atom'.takeWhile_append closes'] at first
  subst first
  exact ⟨rfl, List.append_cancel_left same⟩

private theorem append_ne_opening {text : List Char} (atom : IsAtom text) (rest more : List Char) :
    text ++ rest ≠ '(' :: more := by
  obtain ⟨c, body, rfl⟩ := List.exists_cons_of_ne_nil atom.nonempty
  intro same
  obtain ⟨rfl, -⟩ := List.cons.inj same
  exact atom.free '(' (by simp) (by simp)

/-- Behind an opening parenthesis the first atom can be told from the rest. -/
private theorem opening_inj {text text' rest rest' : List Char} (atom : IsAtom text)
    (atom' : IsAtom text') (same : '(' :: (text ++ ' ' :: rest) = '(' :: (text' ++ ' ' :: rest')) :
    text = text' ∧ rest = rest' := by
  obtain ⟨first, behind⟩ := atom.append_inj atom' (closesAtom_blank _) (closesAtom_blank _)
    (List.cons.inj same).2
  exact ⟨first, (List.cons.inj behind).2⟩

end IsAtom

/-- An operator that stands for itself: an atom, and not the word that grouping shows as. -/
structure Token.IsPlain (operator : Token) : Prop where
  atom : IsAtom operator.lexeme.toList
  other : operator.lexeme ≠ "group"

private theorem isAtom_group : IsAtom "group".toList := ⟨by simp, by simp⟩

private theorem Token.IsPlain.ne_group {operator : Token} (plain : operator.IsPlain) :
    operator.lexeme.toList ≠ "group".toList :=
  fun same => plain.other (String.toList_inj.mp same)

/-- A literal that stands for itself: of strings only atoms do. -/
def Value.IsPlain (value : Value) : Prop :=
  ∀ body, value = .string body → IsAtom body.toList

private theorem Binary64.isAtom_text (x : Binary64) : IsAtom x.text.toList := by
  refine ⟨x.text_ne_nil, ?_⟩
  intro c member other
  simp only [List.mem_cons, List.not_mem_nil, or_false] at other
  rcases other with rfl | rfl | rfl <;> exact x.not_mem_text (by decide) (by decide) member

private theorem Value.IsPlain.isAtom {value : Value} (plain : value.IsPlain) :
    IsAtom value.text.toList := by
  cases value with
  | nil => exact ⟨by simp [text], by simp [text]⟩
  | bool value => cases value <;> exact ⟨by simp [text], by simp [text]⟩
  | string body => exact plain body rfl
  | number x => exact x.isAtom_text

namespace Expr

/-- All operators and all literals of an expression are of certain sorts. -/
inductive BuiltFrom (P : Token → Prop) (Q : Value → Prop) : Expr → Prop where
  | literal (leaf : Q value) : BuiltFrom P Q (.literal value)
  | grouping (inner : BuiltFrom P Q e) : BuiltFrom P Q (.grouping e)
  | unary (head : P operator) (operand : BuiltFrom P Q e) : BuiltFrom P Q (.unary operator e)
  | binary (left : BuiltFrom P Q e) (head : P operator) (right : BuiltFrom P Q e') :
      BuiltFrom P Q (.binary e operator e')

namespace BuiltFrom

variable {P P' : Token → Prop} {Q Q' : Value → Prop}

theorem mono {e : Expr} (built : BuiltFrom P Q e) (operators : ∀ token, P token → P' token)
    (literals : ∀ value, Q value → Q' value) : BuiltFrom P' Q' e := by
  induction built with
  | literal leaf => exact .literal (literals _ leaf)
  | grouping _ inner => exact .grouping inner
  | unary head _ operand => exact .unary (operators _ head) operand
  | binary _ head _ left right => exact .binary left (operators _ head) right

@[simp] theorem literal_iff : BuiltFrom P Q (.literal value) ↔ Q value :=
  ⟨fun | .literal leaf => leaf, .literal⟩

@[simp] theorem grouping_iff : BuiltFrom P Q (.grouping e) ↔ BuiltFrom P Q e :=
  ⟨fun | .grouping inner => inner, .grouping⟩

@[simp] theorem unary_iff :
    BuiltFrom P Q (.unary operator e) ↔ P operator ∧ BuiltFrom P Q e :=
  ⟨fun | .unary head operand => ⟨head, operand⟩, fun ⟨head, operand⟩ => .unary head operand⟩

@[simp] theorem binary_iff : BuiltFrom P Q (.binary e operator e') ↔
    BuiltFrom P Q e ∧ P operator ∧ BuiltFrom P Q e' :=
  ⟨fun | .binary left head right => ⟨left, head, right⟩,
    fun ⟨left, head, right⟩ => .binary left head right⟩

end BuiltFrom

/-- Its operators and literals stand for themselves. -/
def IsPlain (e : Expr) : Prop := BuiltFrom Token.IsPlain Value.IsPlain e

/-- Trees of one shape: in each place the operators have one lexeme, and the literals one text. -/
inductive Alike : Expr → Expr → Prop where
  | literal (same : value.text = value'.text) : Alike (.literal value) (.literal value')
  | grouping (inner : Alike e e') : Alike (.grouping e) (.grouping e')
  | unary (same : operator.lexeme = operator'.lexeme) (operand : Alike e e') :
      Alike (.unary operator e) (.unary operator' e')
  | binary (left : Alike e e') (same : operator.lexeme = operator'.lexeme) (right : Alike f f') :
      Alike (.binary e operator f) (.binary e' operator' f')

private theorem Alike.text_eq {e e' : Expr} (alike : Alike e e') : e.text = e'.text := by
  induction alike with
  | literal same => exact same
  | grouping _ inner => rw [text, text, inner]
  | unary same _ operand => rw [text, text, same, operand]
  | binary _ same _ left right => rw [text, text, left, same, right]

theorem text_grouping_append (inner : Expr) (rest : List Char) :
    (grouping inner).text.toList ++ rest =
      '(' :: ("group".toList ++ ' ' :: (inner.text.toList ++ ')' :: rest)) := by
  simp [text]

theorem text_unary_append (operator : Token) (operand : Expr) (rest : List Char) :
    (unary operator operand).text.toList ++ rest =
      '(' :: (operator.lexeme.toList ++ ' ' :: (operand.text.toList ++ ')' :: rest)) := by
  simp [text]

theorem text_binary_append (left : Expr) (operator : Token) (right : Expr) (rest : List Char) :
    (binary left operator right).text.toList ++ rest =
      '(' :: (operator.lexeme.toList ++ ' ' ::
        (left.text.toList ++ ' ' :: (right.text.toList ++ ')' :: rest))) := by
  simp [text]

/-- The expression, and what stands behind it, can be told from the text of both. -/
def IsTold (e : Expr) : Prop :=
  ∀ ⦃e' rest rest'⦄, IsPlain e' → ClosesAtom rest → ClosesAtom rest' →
    e.text.toList ++ rest = e'.text.toList ++ rest' → Alike e e' ∧ rest = rest'

private theorem isTold_literal (leaf : Value.IsPlain value) : IsTold (literal value) := by
  intro e' rest rest' plain closes closes' same
  cases plain with
  | literal leaf' =>
    obtain ⟨shown, behind⟩ := leaf.isAtom.append_inj leaf'.isAtom closes closes' same
    exact ⟨.literal (String.toList_inj.mp shown), behind⟩
  | grouping inner =>
    rw [text_grouping_append] at same
    exact absurd same (leaf.isAtom.append_ne_opening _ _)
  | unary head operand =>
    rw [text_unary_append] at same
    exact absurd same (leaf.isAtom.append_ne_opening _ _)
  | binary left head right =>
    rw [text_binary_append] at same
    exact absurd same (leaf.isAtom.append_ne_opening _ _)

theorem IsTold.grouping (inner : IsTold e) : IsTold (grouping e) := by
  intro e' rest rest' plain closes closes' same
  rw [text_grouping_append] at same
  cases plain with
  | literal leaf => exact absurd same.symm (leaf.isAtom.append_ne_opening _ _)
  | grouping inner' =>
    rw [text_grouping_append] at same
    obtain ⟨-, behind⟩ := isAtom_group.opening_inj isAtom_group same
    obtain ⟨alike, ending⟩ := inner inner' (closesAtom_closing _) (closesAtom_closing _) behind
    exact ⟨.grouping alike, (List.cons.inj ending).2⟩
  | unary head operand =>
    rw [text_unary_append] at same
    exact absurd (isAtom_group.opening_inj head.atom same).1.symm head.ne_group
  | binary left head right =>
    rw [text_binary_append] at same
    exact absurd (isAtom_group.opening_inj head.atom same).1.symm head.ne_group

theorem IsTold.unary (head : Token.IsPlain operator) (operand : IsTold e) :
    IsTold (unary operator e) := by
  intro e' rest rest' plain closes closes' same
  rw [text_unary_append] at same
  cases plain with
  | literal leaf => exact absurd same.symm (leaf.isAtom.append_ne_opening _ _)
  | grouping inner =>
    rw [text_grouping_append] at same
    exact absurd (head.atom.opening_inj isAtom_group same).1 head.ne_group
  | unary head' operand' =>
    rw [text_unary_append] at same
    obtain ⟨lexeme, behind⟩ := head.atom.opening_inj head'.atom same
    obtain ⟨alike, ending⟩ := operand operand' (closesAtom_closing _) (closesAtom_closing _) behind
    exact ⟨.unary (String.toList_inj.mp lexeme) alike, (List.cons.inj ending).2⟩
  | binary left' head' right' =>
    -- The same operand may be the first of two, but then no parenthesis closes behind it.
    rw [text_binary_append] at same
    obtain ⟨-, behind⟩ := head.atom.opening_inj head'.atom same
    obtain ⟨-, ending⟩ := operand left' (closesAtom_closing _) (closesAtom_blank _) behind
    cases ending

theorem IsTold.binary (left : IsTold e) (head : Token.IsPlain operator) (right : IsTold f) :
    IsTold (binary e operator f) := by
  intro e' rest rest' plain closes closes' same
  rw [text_binary_append] at same
  cases plain with
  | literal leaf => exact absurd same.symm (leaf.isAtom.append_ne_opening _ _)
  | grouping inner =>
    rw [text_grouping_append] at same
    exact absurd (head.atom.opening_inj isAtom_group same).1 head.ne_group
  | unary head' operand' =>
    rw [text_unary_append] at same
    obtain ⟨-, behind⟩ := head.atom.opening_inj head'.atom same
    obtain ⟨-, ending⟩ := left operand' (closesAtom_blank _) (closesAtom_closing _) behind
    cases ending
  | binary left' head' right' =>
    rw [text_binary_append] at same
    obtain ⟨lexeme, behind⟩ := head.atom.opening_inj head'.atom same
    obtain ⟨first, between⟩ := left left' (closesAtom_blank _) (closesAtom_blank _) behind
    obtain ⟨second, ending⟩ := right right' (closesAtom_closing _) (closesAtom_closing _)
      (List.cons.inj between).2
    exact ⟨.binary first (String.toList_inj.mp lexeme) second, (List.cons.inj ending).2⟩

private theorem IsPlain.isTold {e : Expr} (plain : e.IsPlain) : IsTold e := by
  induction plain with
  | literal leaf => exact isTold_literal leaf
  | grouping _ inner => exact inner.grouping
  | unary head _ operand => exact .unary head operand
  | binary _ head _ left right => exact .binary left head right

/-- Expressions whose operators and literals stand for themselves show the same exactly if they are
the same tree. -/
theorem text_eq_iff_alike (e e' : Expr) (plain : e.IsPlain) (plain' : e'.IsPlain) :
    e.text = e'.text ↔ Alike e e' := by
  constructor
  · intro same
    exact (plain.isTold plain' closesAtom_nil closesAtom_nil (by rw [same])).1
  · exact Alike.text_eq

/-- A literal may be a word or a string of the same letters, and an operator may stand on any
line. -/
theorem text_eq_iff_alike_over_lines :
    let minus (line : UInt32) : Token := ⟨.minus, "-", .none, line⟩
    let e : Expr := .binary (.unary (minus 1) (.literal (.number ⟨0x3FE0000000000000⟩))) (minus 2)
      (.grouping (.literal .nil))
    let e' : Expr := .binary (.unary (minus 3) (.literal (.string "0.5"))) (minus 4)
      (.grouping (.literal (.string "nil")))
    e.IsPlain ∧ e'.IsPlain ∧ e.text = "(- (- 0.5) (group nil))" ∧ (e.text = e'.text ↔ Alike e e') ∧
      Alike e e' := by
  intro minus e e'
  have sign : IsAtom "-".toList ∧ "-" ≠ "group" := ⟨⟨by simp, by simp⟩, by simp⟩
  have head (line : UInt32) : (minus line).IsPlain := ⟨sign.1, sign.2⟩
  have word (body : String) (atom : IsAtom body.toList) : (Value.string body).IsPlain := by
    rintro _ ⟨⟩
    exact atom
  have plain : e.IsPlain :=
    .binary (.unary (head 1) (.literal (by rintro _ ⟨⟩))) (head 2)
      (.grouping (.literal (by rintro _ ⟨⟩)))
  have plain' : e'.IsPlain :=
    .binary (.unary (head 3) (.literal (word _ ⟨by simp, by simp⟩))) (head 4)
      (.grouping (.literal (word _ ⟨by simp, by simp⟩)))
  have shown : e.text = "(- (- 0.5) (group nil))" := by decide +kernel
  have shown' : e'.text = "(- (- 0.5) (group nil))" := by decide +kernel
  have unambiguous := text_eq_iff_alike e e' plain plain'
  exact ⟨plain, plain', shown, unambiguous, unambiguous.mp (shown.trans shown'.symm)⟩

end Expr

end Lox
