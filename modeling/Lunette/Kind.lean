import Lunette.Text

/-!
# Token kinds

The closed set of token kinds, their names, the two tables that the scanner looks lexemes up
in, and the classes of kinds that the grammar distinguishes.
-/

namespace Lunette

/-- The kinds of tokens. -/
inductive Kind where
  | plus | minus | star | slash | less | greater | equal | assign | notEqual
  | comma | semicolon | openParen | closeParen
  | number | string | identifier
  | localWord | ifWord | thenWord | elseWord | endWord | andWord | orWord | notWord
  | nilWord | falseWord | trueWord
  | endOfInput
  deriving DecidableEq

namespace Kind

/-- All kinds, in their listing order. -/
def all : List Kind :=
  [.plus, .minus, .star, .slash, .less, .greater, .equal, .assign, .notEqual,
   .comma, .semicolon, .openParen, .closeParen,
   .number, .string, .identifier,
   .localWord, .ifWord, .thenWord, .elseWord, .endWord, .andWord, .orWord, .notWord,
   .nilWord, .falseWord, .trueWord,
   .endOfInput]

/-- The name under which a kind is shown. -/
def name : Kind → Text
  | .plus => "PLUS".toList
  | .minus => "MINUS".toList
  | .star => "STAR".toList
  | .slash => "SLASH".toList
  | .less => "LT".toList
  | .greater => "GT".toList
  | .equal => "EQ".toList
  | .assign => "ASSIGN".toList
  | .notEqual => "NOTEQ".toList
  | .comma => "COMMA".toList
  | .semicolon => "SEMICOLON".toList
  | .openParen => "LBRACE".toList
  | .closeParen => "RBRACE".toList
  | .number => "NUMBER".toList
  | .string => "LITERAL_STR".toList
  | .identifier => "IDENTIFIER".toList
  | .localWord => "LOCAL".toList
  | .ifWord => "IF".toList
  | .thenWord => "THEN".toList
  | .elseWord => "ELSE".toList
  | .endWord => "END".toList
  | .andWord => "AND".toList
  | .orWord => "OR".toList
  | .notWord => "NOT".toList
  | .nilWord => "NIL".toList
  | .falseWord => "FALSE".toList
  | .trueWord => "TRUE".toList
  | .endOfInput => "EOF".toList

/-- The kind with the given name. -/
def ofName? (name : Text) : Option Kind :=
  all.find? fun kind => kind.name = name

/-! ## Lexeme tables -/

/-- The characters that are a lexeme by themselves. -/
def signs : List (Char × Kind) :=
  [('+', .plus), ('-', .minus), ('*', .star), ('/', .slash), ('<', .less), ('>', .greater),
   (',', .comma), (';', .semicolon), ('(', .openParen), (')', .closeParen)]

/-- The words that are not identifiers. -/
def reservedWords : List (Text × Kind) :=
  [("local".toList, .localWord), ("if".toList, .ifWord), ("then".toList, .thenWord),
   ("else".toList, .elseWord), ("end".toList, .endWord), ("and".toList, .andWord),
   ("or".toList, .orWord), ("not".toList, .notWord), ("nil".toList, .nilWord),
   ("false".toList, .falseWord), ("true".toList, .trueWord)]

/-- The kind of a character that is a lexeme by itself. -/
def ofSign? (c : Char) : Option Kind :=
  signs.lookup c

/-- The kind of a word: its own if it is reserved, an identifier otherwise. -/
def ofWord (word : Text) : Kind :=
  (reservedWords.lookup word).getD .identifier

theorem ofSign?_ne_string {c : Char} {kind : Kind} (signEq : ofSign? c = some kind) :
    kind ≠ .string := by
  unfold ofSign? at signEq
  obtain ⟨before, after, split, -⟩ := List.lookup_eq_some_iff.mp signEq
  have member : (c, kind) ∈ signs := by simp [split]
  have noString : ∀ entry ∈ signs, entry.2 ≠ .string := by decide
  exact noString _ member

theorem ofWord_ne_string (word : Text) : ofWord word ≠ .string := by
  unfold ofWord
  cases found : reservedWords.lookup word with
  | none => decide
  | some kind =>
      obtain ⟨before, after, split, -⟩ := List.lookup_eq_some_iff.mp found
      have member : (word, kind) ∈ reservedWords := by simp [split]
      have noString : ∀ entry ∈ reservedWords, entry.2 ≠ .string := by decide
      exact noString _ member

/-! ## Grammatical classes -/

/-- The kinds that stand between two operands. -/
def isBinaryOperator : Kind → Bool
  | .plus | .minus | .star | .slash | .less | .greater | .equal | .notEqual
  | .andWord | .orWord => true
  | _ => false

/-- The kinds that stand in front of an operand. -/
def isUnaryOperator : Kind → Bool
  | .minus | .notWord => true
  | _ => false

/-- The reserved words that are values. -/
def isLiteralWord : Kind → Bool
  | .nilWord | .falseWord | .trueWord => true
  | _ => false

/-- The kinds of tokens that are a value by themselves. -/
def isLiteral (kind : Kind) : Bool :=
  kind.isLiteralWord || kind = .number || kind = .string

end Kind

end Lunette
