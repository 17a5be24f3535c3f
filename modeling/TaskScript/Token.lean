import TaskScript.Keyword

/-!
# Tokens

The words, numbers and signs of a program. A token is of some kind and keeps the text it was read
from, since statements copy that text as it stands. The two need not go together: a lexer gives only
tokens whose text is one of their kind, and nothing else asks for that.
-/

namespace TaskScript

/-- What a token is. -/
inductive TokenKind where
  | keyword (k : Keyword)
  | identifier
  | number
  | operator
  | punctuation
deriving DecidableEq

/-- A unit of the language. -/
structure Token where
  kind : TokenKind
  text : String
deriving DecidableEq

namespace Token

/-- A keyword as it is spelled. -/
def keyword (k : Keyword) : Token := ⟨.keyword k, k.text⟩

/-- A word that is no keyword. -/
def identifier (text : String) : Token := ⟨.identifier, text⟩

/-- A number as it is written. -/
def number (text : String) : Token := ⟨.number, text⟩

/-- A sign between operands. -/
def operator (sign : Char) : Token := ⟨.operator, String.singleton sign⟩

/-- A bracket or a separator. -/
def punctuation (sign : Char) : Token := ⟨.punctuation, String.singleton sign⟩

/-- Is the token this keyword? -/
def is (token : Token) (k : Keyword) : Bool := token.kind = .keyword k

theorem is_iff {token : Token} {k : Keyword} : token.is k = true ↔ token.kind = .keyword k :=
  decide_eq_true_iff

/-- How messages name the token. -/
def describe (token : Token) : String :=
  match token.kind with
  | .keyword _ => "keyword `" ++ token.text ++ "`"
  | .identifier => "identifier `" ++ token.text ++ "`"
  | .number => "literal `" ++ token.text ++ "`"
  | .operator | .punctuation => "`" ++ token.text ++ "`"

/-- The token of a word: a keyword if it is spelled like one, and an identifier otherwise. -/
def ofWord (word : String) : Token :=
  ⟨(Keyword.ofText? word).elim .identifier .keyword, word⟩

end Token

end TaskScript
