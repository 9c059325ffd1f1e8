namespace Lox

/-- Cut a list behind every occurrence of `separator`. Only the last piece may lack one, and no
piece is empty. -/
def splitAfter {α : Type} [DecidableEq α] (separator : α) (items : List α) : List (List α) :=
  items.foldr (fun item pieces =>
    if item = separator then [item] :: pieces
    else match pieces with
      | [] => [[item]]
      | piece :: rest => (item :: piece) :: rest) []

/-- A line without its end. A last line without a line feed keeps a carriage return. -/
def withoutLineEnd (line : List Char) : List Char :=
  match line.reverse with
  | '\n' :: '\r' :: reversed => reversed.reverse
  | '\n' :: reversed => reversed.reverse
  | _ => line

/-- The lines of a text. A text that ends with a line feed has no empty line behind it. -/
def lines (text : List Char) : List (List Char) :=
  (splitAfter '\n' text).map withoutLineEnd

/-- The characters with the Unicode property White_Space. -/
def isWhiteSpace (c : Char) : Bool :=
  let value := c.toNat
  (0x9 ≤ value && value ≤ 0xD) || value == 0x20 || value == 0x85 || value == 0xA0 ||
    value == 0x1680 || (0x2000 ≤ value && value ≤ 0x200A) || value == 0x2028 ||
    value == 0x2029 || value == 0x202F || value == 0x205F || value == 0x3000

/-- The text without the white space at its end. -/
def trimEnd (text : List Char) : List Char :=
  (text.reverse.dropWhile isWhiteSpace).reverse

end Lox
