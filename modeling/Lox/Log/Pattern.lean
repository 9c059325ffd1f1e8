import Lox.Text.Alphanumeric
import Lox.Text.Lines

/-!
Patterns: the regular expressions that the value of a log field can be compared with. Here they are
only read, not matched: `isPattern` says whether a text is well-formed. A pattern stands between
braces and cannot hold a closing one, so that it has neither counted repetition nor anything else
that is written with braces.

What is read is kept as its height only: how many groups, classes, repetitions, alternations and
sequences stand inside one another.
-/

namespace Lox.Log.Pattern

/-- The flags that change how a pattern is read. -/
structure Mode where
  /-- White space is passed over, and so are comments, from a number sign to the end of the line. -/
  verbose : Bool
  /-- A pattern is about characters and not about bytes. -/
  unicode : Bool
deriving DecidableEq, Repr

/-- The greatest height of a pattern. -/
def maximalHeight : Nat := 250

/-- The height of several parts side by side; a single one is not counted as a sequence. -/
def join : List Nat → Nat
  | [] => 0
  | [height] => height
  | heights => heights.foldl max 0 + 1

/-- The text behind the blanks that it begins with, which may begin inside a comment. -/
def behindBlank (comment : Bool) : List Char → List Char
  | [] => []
  | c :: text =>
    if comment then behindBlank (c ≠ '\n') text
    else if isWhiteSpace c then behindBlank false text
    else if c = '#' then behindBlank true text
    else c :: text

/-- The text from where a mode reads on. -/
def Mode.skip (mode : Mode) (text : List Char) : List Char :=
  if mode.verbose then behindBlank false text else text

/-- The character that is looked at behind a hyphen. White space is passed over and the sign of a
comment too, but not the comment; where nothing else follows, it is the character next to the
hyphen. -/
def Mode.peek (mode : Mode) (text : List Char) : Option Char :=
  let next := text.dropWhile isWhiteSpace
  let next := if next.head? = some '#' then (next.drop 1).dropWhile isWhiteSpace else next
  if mode.verbose && next ≠ [] then next.head? else text.head?

/-- What a backslash and the characters behind it stand for. -/
inductive Escape where
  | character (value : Nat)
  /-- A character by two hexadecimal digits, or a byte where a pattern is about bytes. -/
  | byte (value : Nat)
  /-- A digit, a blank or a part of a word, or what is none. -/
  | set (negated : Bool)
  /-- A general category of characters. -/
  | category
  /-- The beginning or the end of the text. -/
  | place
  /-- The beginning or the end of a word. -/
  | boundary
deriving DecidableEq, Repr

namespace Escape

/-- The number of the single character, or byte, that is meant. -/
def value? : Escape → Option Nat
  | character value | byte value => some value
  | _ => none

/-- Whether an escape has a place in a pattern. Among bytes, nothing may stand for half a character;
among characters, the boundary of a word is more than a pattern for whole values can find. -/
def isAllowed (mode : Mode) : Escape → Bool
  | character _ | place => true
  | byte value => mode.unicode || value < 0x80
  | set negated => mode.unicode || !negated
  | category => mode.unicode
  | boundary => !mode.unicode

/-- Whether an escape has a place in a class. Among bytes, only ASCII characters have. -/
def isMember (mode : Mode) : Escape → Bool
  | character value => mode.unicode || value < 0x80
  | place | boundary => false
  | escape => escape.isAllowed mode

end Escape

def hexDigit? (c : Char) : Option Nat :=
  if c.isDigit then some (c.toNat - '0'.toNat)
  else if 'a' ≤ c.toLower ∧ c.toLower ≤ 'f' then some (c.toLower.toNat - 'a'.toNat + 10)
  else none

/-- Read hexadecimal digits behind `value`. Blanks may stand between them. -/
def hexDigits? (mode : Mode) (value : Nat) : Nat → List Char → Option (Nat × List Char)
  | 0, text => if value.isValidChar then some (value, mode.skip text) else none
  | width + 1, text =>
    match mode.skip text with
    | [] => none
    | c :: text => do
      let digit ← hexDigit? c
      hexDigits? mode (16 * value + digit) width text

/-- The characters with a short escape, by the letter that stands for them. -/
def shortEscapes : List (Char × Nat) :=
  [('a', 7), ('t', 9), ('n', 10), ('v', 11), ('f', 12), ('r', 13)]

/-- The general categories that a single letter names, in either case. -/
def categories : List Char := ['C', 'L', 'M', 'N', 'P', 'S', 'Z']

/-- Read what stands behind a backslash. Letters and digits without a meaning of their own are
refused, and so are characters outside ASCII. -/
def escape? (mode : Mode) : List Char → Option (Escape × List Char)
  | [] => none
  | c :: text =>
    if c = 'x' then (hexDigits? mode 0 2 text).map fun (value, text) => (.byte value, text)
    else if c = 'u' ∨ c = 'U' then
      (hexDigits? mode 0 (if c = 'u' then 4 else 8) text).map fun (value, text) =>
        (.character value, text)
    else if c = 'p' ∨ c = 'P' then
      match mode.skip text with
      | [] => none
      | letter :: text =>
        if categories.contains letter.toUpper then some (.category, mode.skip text) else none
    else if ['d', 's', 'w'].contains c then some (.set false, text)
    else if ['D', 'S', 'W'].contains c then some (.set true, text)
    else if ['A', 'z'].contains c then some (.place, text)
    else if ['b', 'B', '<', '>'].contains c then some (.boundary, text)
    else match shortEscapes.lookup c with
      | some value => some (.character value, text)
      | none =>
        if c.isAlphanum ∨ 0x80 ≤ c.toNat then none else some (.character c.toNat, text)

/-- A bracketed class that is being read. -/
structure Class where
  /-- The height of what stands before the last set operator. -/
  left : Option Nat
  /-- The heights of the members behind it, the last one first. -/
  members : List Nat
deriving DecidableEq, Repr

namespace Class

def add (height : Nat) (cls : Class) : Class := { cls with members := height :: cls.members }

/-- The height of what stands between the brackets. -/
def height (cls : Class) : Nat :=
  match cls.left with
  | none => join cls.members
  | some left => max left (join cls.members) + 1

end Class

/-- Read hyphens that stand for themselves; `turns` bounds their number. -/
def behindHyphens (mode : Mode) (cls : Class) : Nat → List Char → Class × List Char
  | turns + 1, '-' :: text => behindHyphens mode (cls.add 0) turns (mode.skip text)
  | _, text => (cls, text)

/-- Read on from behind the bracket that opens a class: a circumflex, hyphens, and a closing bracket
that stands for itself because nothing precedes it. Among bytes no class can be negated. -/
def openClass? (mode : Mode) (text : List Char) : Option (Class × List Char) :=
  let text := mode.skip text
  let negated := text.head? = some '^'
  let text := if negated then mode.skip (text.drop 1) else text
  if negated ∧ !mode.unicode then none
  else match text with
    | ']' :: text => some (⟨none, [0]⟩, mode.skip text)
    | text => some (behindHyphens mode ⟨none, []⟩ text.length text)

def classNames : List String :=
  ["alnum", "alpha", "ascii", "blank", "cntrl", "digit", "graph", "lower", "print", "punct",
    "space", "upper", "word", "xdigit"]

/-- Read a class by its name, as in `[:alpha:]`, from behind its opening bracket, and say whether it
is negated. -/
def namedClass? : List Char → Option (Bool × List Char)
  | ':' :: text =>
    let negated := text.head? = some '^'
    let text := if negated then text.drop 1 else text
    let name := text.takeWhile (· ≠ ':')
    match text.drop name.length with
    | ':' :: ']' :: text =>
      if classNames.contains (String.ofList name) then some (negated, text) else none
    | _ => none
  | _ => none

def member? (mode : Mode) : List Char → Option (Escape × List Char)
  | [] => none
  | '\\' :: text => escape? mode text
  | c :: text => some (.character c.toNat, text)

/-- The text behind a member of a class: a single one, or a range whose ends are in order. A hyphen
before a closing bracket or another hyphen makes no range. -/
def behindMember? (mode : Mode) (text : List Char) : Option (List Char) := do
  let (first, text) ← member? mode text
  let text := mode.skip text
  let single := if first.isMember mode then some text else none
  match text with
  | '-' :: more =>
    if mode.peek more = some ']' ∨ mode.peek more = some '-' then single
    else
      let (last, text) ← member? mode (mode.skip more)
      let inOrder := (← first.value?) ≤ (← last.value?)
      if first.isMember mode ∧ last.isMember mode ∧ inOrder then some text else none
  | _ => single

/-- Read a class to its end, inside the classes `outer`: its height, and the text behind it. Each
turn takes a character at least, and the first argument bounds the turns. -/
def readClass? (mode : Mode) : Nat → List Class → Class → List Char → Option (Nat × List Char)
  | 0, _, _, _ => none
  | turns + 1, outer, cls, text =>
    match mode.skip text with
    | [] => none
    | '[' :: text =>
      match namedClass? text with
      | some (negated, text) =>
        if negated ∧ !mode.unicode then none else readClass? mode turns outer (cls.add 0) text
      | none => do
        let (inner, text) ← openClass? mode text
        readClass? mode turns (cls :: outer) inner text
    | ']' :: text =>
      match outer with
      | [] => some (cls.height + 1, text)
      | parent :: outer => readClass? mode turns outer (parent.add (cls.height + 1)) text
    | '&' :: '&' :: text | '-' :: '-' :: text | '~' :: '~' :: text =>
      readClass? mode turns outer ⟨some cls.height, []⟩ text
    | text => do
      let text ← behindMember? mode text
      readClass? mode turns outer (cls.add 0) text

/-- A group that is being read, or the whole pattern. -/
structure Group where
  /-- The mode to go back to at the end of the group. -/
  before : Mode
  /-- The heights of the alternatives that are finished. -/
  branches : List Nat
  /-- The heights of the parts of the last alternative, the last one first. -/
  parts : List Nat
  /-- Whether the last part can be repeated. -/
  isRepeatable : Bool
deriving DecidableEq, Repr

namespace Group

def opened (before : Mode) : Group := ⟨before, [], [], false⟩

def add (height : Nat) (group : Group) : Group :=
  { group with parts := height :: group.parts, isRepeatable := true }

/-- A setting of flags is a part that cannot be repeated. -/
def addFlags (group : Group) : Group :=
  { group with parts := 0 :: group.parts, isRepeatable := false }

def branch (group : Group) : Group :=
  { group with branches := join group.parts :: group.branches, parts := [], isRepeatable := false }

def repeatLast (group : Group) : Group :=
  match group.parts with
  | [] => group
  | height :: parts => { group with parts := (height + 1) :: parts }

/-- The height of what the group holds. -/
def height (group : Group) : Nat := join (join group.parts :: group.branches)

end Group

/-- What can stand behind an opening parenthesis. -/
inductive Opening where
  | group (name : Option (List Char)) (mode : Mode)
  /-- Flags for the rest of the group around them. -/
  | flags (mode : Mode)
deriving DecidableEq, Repr

/-- Read a group's name and its closing angle bracket. -/
def name? (text : List Char) : Option (List Char × List Char) :=
  let name := text.takeWhile (· ≠ '>')
  let isPart (c : Char) : Bool := Text.isAlphanumeric c || ['_', '.', '[', ']'].contains c
  match name, text.drop name.length with
  | first :: more, _ :: text =>
    if (Text.isAlphabetic first || first = '_') && more.all isPart then some (name, text) else none
  | _, _ => none

/-- Set the flags that stand before a minus sign and take back those behind it. -/
def Mode.set (flags : List Char) (mode : Mode) : Mode :=
  let raised := flags.takeWhile (· ≠ '-')
  let state (flag : Char) (otherwise : Bool) : Bool :=
    if flags.contains flag then raised.contains flag else otherwise
  { verbose := state 'x' mode.verbose, unicode := state 'u' mode.unicode }

/-- Read flags, each of which stands once, and a colon or the closing parenthesis. -/
def flags? (mode : Mode) (text : List Char) : Option (Opening × List Char) :=
  let flags := text.takeWhile fun c => c ≠ ':' ∧ c ≠ ')'
  if flags.all ['i', 'm', 's', 'u', 'x', 'U', 'R', '-'].contains ∧ flags.Nodup ∧
      flags.getLast? ≠ some '-' then
    match text.drop flags.length with
    | ':' :: text => some (.group none (mode.set flags), text)
    | ')' :: text => if flags = [] then none else some (.flags (mode.set flags), text)
    | _ => none
  else none

/-- Read on from behind an opening parenthesis. Looking ahead or behind is no group. -/
def opening? (mode : Mode) (text : List Char) : Option (Opening × List Char) :=
  match mode.skip text with
  | '?' :: 'P' :: '<' :: text | '?' :: '<' :: text =>
    (name? text).map fun (name, text) => (.group (some name) mode, text)
  | '?' :: text => flags? mode text
  | text => some (.group none mode, text)

/-- Read on inside the groups `outer`, where the groups in `names` have been named. Each turn takes
a character at least, and the first argument bounds the turns. -/
def isWellFormed : Nat → List (List Char) → List Group → Group → Mode → List Char → Bool
  | 0, _, outer, group, mode, text =>
    mode.skip text = [] && outer = [] && group.height ≤ maximalHeight
  | turns + 1, names, outer, group, mode, text =>
    match mode.skip text with
    | [] => outer = [] && group.height ≤ maximalHeight
    | '(' :: text =>
      match opening? mode text with
      | some (.flags mode, text) => isWellFormed turns names outer group.addFlags mode text
      | some (.group name mode', text) =>
        !name.any names.contains &&
          isWellFormed turns (name.toList ++ names) (group :: outer) (.opened mode) mode' text
      | none => false
    | ')' :: text =>
      match outer with
      | [] => false
      | parent :: outer =>
        isWellFormed turns names outer (parent.add (group.height + 1)) group.before text
    | '|' :: text => isWellFormed turns names outer group.branch mode text
    | '[' :: text =>
      match (openClass? mode text).bind fun (cls, text) =>
          readClass? mode (text.length + 1) [] cls text with
      | some (height, text) => isWellFormed turns names outer (group.add height) mode text
      | none => false
    | '\\' :: text =>
      match escape? mode text with
      | some (escape, text) =>
        escape.isAllowed mode && isWellFormed turns names outer (group.add 0) mode text
      | none => false
    | '.' :: text => mode.unicode && isWellFormed turns names outer (group.add 0) mode text
    | c :: text =>
      if c = '*' ∨ c = '+' ∨ c = '?' then
        let text := if text.head? = some '?' then text.drop 1 else text
        group.isRepeatable && isWellFormed turns names outer group.repeatLast mode text
      else c ≠ '\x7b' && isWellFormed turns names outer (group.add 0) mode text

/-- A decimal number with a sign: `+1`, `-2.5e3`, `+inf`. -/
def isSigned : List Char → Bool
  | [] => false
  | sign :: text =>
    let unsigned (text : List Char) : List Char :=
      match text with
      | '+' :: text | '-' :: text => text
      | text => text
    let isWord := ["inf", "infinity", "nan"].contains (String.ofList (text.map Char.toLower))
    let mantissa := text.takeWhile fun c => c ≠ 'e' ∧ c ≠ 'E'
    let whole := mantissa.takeWhile Char.isDigit
    let decimals := (mantissa.drop whole.length).drop 1
    let isMantissa := (mantissa.drop whole.length).head?.all (· = '.') &&
      decimals.all Char.isDigit && (whole ≠ [] || decimals ≠ [])
    let isExponent := match text.drop mantissa.length with
      | [] => true
      | _ :: exponent => unsigned exponent ≠ [] && (unsigned exponent).all Char.isDigit
    (sign = '+' || sign = '-') && (isWord || (isMantissa && isExponent))

end Pattern

/-- A value to compare with is a number or a regular expression. Numbers without a plus sign are
regular expressions too. -/
def isPattern (text : List Char) : Bool :=
  let mode : Pattern.Mode := { verbose := false, unicode := true }
  Pattern.isSigned text || Pattern.isWellFormed text.length [] [] (.opened mode) mode text

end Lox.Log
