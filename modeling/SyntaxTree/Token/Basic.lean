import SyntaxTree.Number.Binary32

/-!
# Tokens

The tokens of C--: literals, identifiers, the two type names, keywords,
relational operators and the remaining operator and punctuation marks.  Each
has a label, under which it appears in a tree, and all but the floating-point
literals have a canonical spelling.
-/

namespace SyntaxTree

open Number

/-- The two built-in types. -/
inductive BasicType where
  | int
  | float
deriving DecidableEq, Repr

/-- The reserved words other than the type names. -/
inductive Keyword where
  | structWord
  | returnWord
  | ifWord
  | elseWord
  | whileWord
deriving DecidableEq, Repr

/-- The relational operators. -/
inductive Relation where
  | greater
  | less
  | greaterEqual
  | lessEqual
  | equal
  | notEqual
deriving DecidableEq, Repr

/-- Operator and punctuation marks that carry no value. -/
inductive Mark where
  | assign
  | plus
  | minus
  | star
  | slash
  | conjunction
  | disjunction
  | dot
  | negation
  | semicolon
  | comma
  | leftParenthesis
  | rightParenthesis
  | leftBracket
  | rightBracket
  | leftBrace
  | rightBrace
deriving DecidableEq, Repr

/-- A token of C--. -/
inductive Token where
  | integer (value : Int32)
  | real (value : Binary32)
  | identifier (name : String)
  | typeName (type : BasicType)
  | keyword (word : Keyword)
  | relation (operator : Relation)
  | mark (symbol : Mark)
deriving DecidableEq

/-- Source text of a type name. -/
def BasicType.spelling : BasicType → String
  | .int => "int"
  | .float => "float"

/-- Source text of a keyword. -/
def Keyword.spelling : Keyword → String
  | .structWord => "struct"
  | .returnWord => "return"
  | .ifWord => "if"
  | .elseWord => "else"
  | .whileWord => "while"

/-- Source text of a relational operator. -/
def Relation.spelling : Relation → String
  | .greater => ">"
  | .less => "<"
  | .greaterEqual => ">="
  | .lessEqual => "<="
  | .equal => "=="
  | .notEqual => "!="

/-- Source text of a mark. -/
def Mark.spelling : Mark → String
  | .assign => "="
  | .plus => "+"
  | .minus => "-"
  | .star => "*"
  | .slash => "/"
  | .conjunction => "&&"
  | .disjunction => "||"
  | .dot => "."
  | .negation => "!"
  | .semicolon => ";"
  | .comma => ","
  | .leftParenthesis => "("
  | .rightParenthesis => ")"
  | .leftBracket => "["
  | .rightBracket => "]"
  | .leftBrace => "\x7b"
  | .rightBrace => "\x7d"

/-- Name of a keyword in a tree. -/
def Keyword.label : Keyword → String
  | .structWord => "STRUCT"
  | .returnWord => "RETURN"
  | .ifWord => "IF"
  | .elseWord => "ELSE"
  | .whileWord => "WHILE"

/-- Name of a mark in a tree. -/
def Mark.label : Mark → String
  | .assign => "ASSIGNOP"
  | .plus => "PLUS"
  | .minus => "MINUS"
  | .star => "STAR"
  | .slash => "DIV"
  | .conjunction => "AND"
  | .disjunction => "OR"
  | .dot => "DOT"
  | .negation => "NOT"
  | .semicolon => "SEMI"
  | .comma => "COMMA"
  | .leftParenthesis => "LP"
  | .rightParenthesis => "RP"
  | .leftBracket => "LB"
  | .rightBracket => "RB"
  | .leftBrace => "LC"
  | .rightBrace => "RC"

namespace Token

/-- Name of a token in a tree. -/
def label : Token → String
  | .integer _ => "INT"
  | .real _ => "FLOAT"
  | .identifier _ => "ID"
  | .typeName _ => "TYPE"
  | .keyword word => word.label
  | .relation _ => "RELOP"
  | .mark symbol => symbol.label

/-- Token that a word stands for: a type name, a keyword or an identifier. -/
def ofWord (word : String) : Token :=
  match word with
  | "int" => .typeName .int
  | "float" => .typeName .float
  | "struct" => .keyword .structWord
  | "return" => .keyword .returnWord
  | "if" => .keyword .ifWord
  | "else" => .keyword .elseWord
  | "while" => .keyword .whileWord
  | name => .identifier name

end Token
end SyntaxTree
