import Lox.Number.Shortest

namespace Lox

inductive TokenKind where
  | leftParen | rightParen | leftBrace | rightBrace
  | comma | dot | minus | plus | semicolon | slash | star
  | bang | bangEqual | equal | equalEqual | greater | greaterEqual | less | lessEqual
  | identifier | string | number
  | and | «class» | else | false | for | fun | if | nil | or
  | print | return | super | this | true | var | while
deriving DecidableEq, Repr

namespace TokenKind

def all : List TokenKind :=
  [leftParen, rightParen, leftBrace, rightBrace, comma, dot, minus, plus, semicolon, slash, star,
    bang, bangEqual, equal, equalEqual, greater, greaterEqual, less, lessEqual,
    identifier, string, number,
    .and, .class, .else, .false, .for, .fun, .if, nil, .or,
    print, .return, super, this, .true, var, .while]

def name : TokenKind → String
  | leftParen => "LEFT_PAREN"
  | rightParen => "RIGHT_PAREN"
  | leftBrace => "LEFT_BRACE"
  | rightBrace => "RIGHT_BRACE"
  | comma => "COMMA"
  | dot => "DOT"
  | minus => "MINUS"
  | plus => "PLUS"
  | semicolon => "SEMICOLON"
  | slash => "SLASH"
  | star => "STAR"
  | bang => "BANG"
  | bangEqual => "BANG_EQUAL"
  | equal => "EQUAL"
  | equalEqual => "EQUAL_EQUAL"
  | greater => "GREATER"
  | greaterEqual => "GREATER_EQUAL"
  | less => "LESS"
  | lessEqual => "LESS_EQUAL"
  | identifier => "IDENTIFIER"
  | string => "STRING"
  | number => "NUMBER"
  | .and => "AND"
  | .class => "CLASS"
  | .else => "ELSE"
  | .false => "FALSE"
  | .for => "FOR"
  | .fun => "FUN"
  | .if => "IF"
  | nil => "NIL"
  | .or => "OR"
  | print => "PRINT"
  | .return => "RETURN"
  | super => "SUPER"
  | this => "THIS"
  | .true => "TRUE"
  | var => "VAR"
  | .while => "WHILE"

/-- The reserved words. They are matched in lower case only. -/
def keywords : List (String × TokenKind) :=
  [("and", .and), ("class", .class), ("else", .else), ("false", .false), ("for", .for),
    ("fun", .fun), ("if", .if), ("nil", .nil), ("or", .or), ("print", .print),
    ("return", .return), ("super", .super), ("this", .this), ("true", .true), ("var", .var),
    ("while", .while)]

def keyword? (word : String) : Option TokenKind := keywords.lookup word

end TokenKind

/-- The decoded part of a token. Scanning gives strings, numbers and identifiers one, and no other
token. -/
inductive Literal where
  | none
  | string (text : String)
  | number (value : Binary64)
  | identifier (name : String)
deriving DecidableEq, Repr

def Literal.text : Literal → String
  | .none => ""
  | .string text => text
  | .number value => value.text
  | .identifier name => name

/-- Literals of one form are compared by content, numbers as IEEE doubles. -/
instance : BEq Literal where
  beq
    | .none, .none => true
    | .string a, .string b => decide (a = b)
    | .number a, .number b => a == b
    | .identifier a, .identifier b => decide (a = b)
    | _, _ => false

/-- A unit of source text with its kind, its decoded part, and the line that its last character
stands on. -/
structure Token where
  kind : TokenKind
  lexeme : String
  literal : Literal
  line : UInt32
deriving DecidableEq, Repr

def Token.text (token : Token) : String :=
  token.kind.name ++ " " ++ token.lexeme ++ " " ++ token.literal.text

instance : BEq Token where
  beq a b := decide (a.kind = b.kind) && decide (a.lexeme = b.lexeme) &&
    a.literal == b.literal && decide (a.line = b.line)

end Lox
