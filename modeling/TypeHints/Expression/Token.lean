import TypeHints.Number.Binary64

/-!
# Tokens of type expressions

A type expression is read token by token. Each token knows where it starts, where the token before
it stops, where the first comment between the two begins and whether a line ends there; these are
the only traces that blanks and comments leave.
-/

namespace TypeHints.Expression

/-- Punctuation. -/
inductive Sign where
  | openParen | closeParen
  | openBracket | closeBracket
  | openBrace | closeBrace
  | less | greater
  /-- Two opening angle brackets. -/
  | less2
  | comma | dot | ellipsis
  | question | colon | semicolon
  /-- A question mark with a dot behind it. -/
  | questionDot
  /-- Two question marks. -/
  | question2
  | bar | ampersand
  | arrow | equals
  | plus | minus | star | slash | exclaim | tilde | at
  /-- Two stars. -/
  | star2
  /-- Two plus or two minus signs. -/
  | step
  /-- Another operator between two operands, by its text. -/
  | binary (text : String)
  /-- An operator with an equals sign that changes its left operand, by its text. -/
  | change (text : String)
deriving DecidableEq, Repr

/-- What a token is. A word is an identifier or a keyword; `escaped` says that it was spelled with
escapes. Templates come whole or in parts around their substitutions; `sound` says that every escape
in them is valid. -/
inductive Lexeme where
  | word (text : String) (escaped : Bool)
  /-- A word behind a number sign, which is part of the text. -/
  | privateWord (text : String)
  | string (value : String)
  | number (value : Binary64)
  | bigint (value : Nat)
  | template (sound : Bool)
  | templateHead (sound : Bool)
  | templateMiddle
  | templateTail
  /-- A regular expression between slashes. -/
  | pattern
  | sign (s : Sign)
  | finish
  /-- Something that is no token. -/
  | unknown
deriving DecidableEq, Repr

/-- A token with its place in the text, counted in characters. -/
structure Token where
  /-- What the token is. -/
  lexeme : Lexeme
  /-- Where the token before it stops. -/
  prior : Nat
  /-- Where the first comment before the token begins, else where the token starts. -/
  lead : Nat
  /-- Where the token starts. -/
  start : Nat
  /-- Whether a line ends between the token before it and this one. -/
  afterLineEnd : Bool
deriving DecidableEq, Repr

/-- The words that are never names on their own. -/
def reservedWords : List String :=
  ["break", "case", "catch", "class", "const", "continue", "debugger", "default", "delete", "do",
   "else", "enum", "export", "extends", "false", "finally", "for", "function", "if", "import", "in",
   "instanceof", "new", "null", "return", "super", "switch", "this", "throw", "true", "try",
   "typeof", "var", "void", "while", "with"]

/-- The words that have a meaning in some places and are names elsewhere. -/
def contextualWords : List String :=
  ["implements", "interface", "let", "package", "private", "protected", "public", "static", "yield",
   "abstract", "accessor", "as", "asserts", "assert", "any", "async", "await", "boolean",
   "constructor", "declare", "defer", "get", "infer", "intrinsic", "is", "keyof", "module",
   "namespace", "never", "out", "readonly", "require", "number", "object", "satisfies", "set",
   "string", "symbol", "type", "undefined", "unique", "unknown", "using", "from", "global",
   "bigint", "override", "of"]

/-- Whether a word is a keyword, in some place at least. -/
def isKeyword (w : String) : Bool := reservedWords.contains w || contextualWords.contains w

/-- The words that may modify a declaration. -/
def modifierWords : List String :=
  ["abstract", "accessor", "async", "const", "declare", "default", "export", "in", "public",
   "private", "protected", "readonly", "static", "out", "override"]

/-- The modifiers that can only belong to a member of a class. -/
def memberModifierWords : List String :=
  ["public", "private", "protected", "readonly", "override", "static", "accessor"]

/-- The keywords that are types on their own and are names of types in front of a dot. -/
def keywordTypes : List String :=
  ["any", "unknown", "string", "number", "bigint", "symbol", "boolean", "undefined", "never",
   "object"]

/-- The reserved words that begin a type. -/
def typeWords : List String := ["void", "null", "this", "typeof", "new", "true", "false", "import"]

/-- The reserved words that begin a value and may be assigned to or called. -/
def targetWords : List String :=
  ["this", "super", "null", "true", "false", "function", "class", "new"]

/-- The words that are operators in front of an operand. -/
def operatorWords : List String := ["delete", "typeof", "void"]

end TypeHints.Expression
