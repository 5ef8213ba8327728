/-
Grammars.

A grammar defines phrases by rules. A rule says which tokens and phrases follow
one another, which of them fill a field, and under which name they are shown.
Where a text can be read in two ways, levels and sides decide: the higher level
binds more tightly, and of equal levels the side tells which of two readings
comes first.
-/
import Deadwood.Parsing.Pattern

namespace Deadwood.Parsing

/-- A token that is recognised by its characters alone. -/
structure Lexeme where
  pattern : Pattern
  /-- The text of a token that has only one spelling. -/
  literal : Option String
  /-- Of two lexemes that match, the one with the higher level is taken. -/
  level : Int
  /-- Whether the token follows the one before without blanks. -/
  glued : Bool
  deriving DecidableEq, Inhabited

namespace Lexeme

/-- A token with one spelling. -/
def word (s : String) : Lexeme :=
  ⟨Pattern.text s, some s, 0, false⟩

/-- A token with the spellings of a pattern. -/
def like (pattern : Pattern) : Lexeme :=
  ⟨pattern, none, 0, false⟩

/-- Among lexemes of the same level, those with one spelling come first, and glued ones before others. -/
def rank (lexeme : Lexeme) : Nat :=
  (if lexeme.literal.isSome then 2 else 0) + (if lexeme.glued then 1 else 0)

end Lexeme

/-- On which side phrases of equal level are nested. -/
inductive Side where
  | left | right
  deriving DecidableEq, Hashable, Inhabited

/-- The name under which a node is shown. A named node is part of the grammar's vocabulary. -/
structure Label where
  name : String
  named : Bool
  deriving DecidableEq, Hashable, Inhabited

/-- What a phrase is made of. -/
inductive Rule where
  | blank
  | token (lexeme : Lexeme)
  | phrase (name : String)
  | seq (first second : Rule)
  | alt (first second : Rule)
  /-- One or more times. -/
  | several (body : Rule)
  /-- Binds with a level, and maybe nests on a side. -/
  | binds (level : Int) (side : Option Side) (body : Rule)
  | field (name : String) (body : Rule)
  | shown (label : Label) (body : Rule)
  deriving DecidableEq, Inhabited

namespace Rule

/-- A keyword or a mark. -/
def word (s : String) : Rule :=
  token (Lexeme.word s)

instance : Coe String Rule := ⟨word⟩

/-- A token with the spellings of a pattern. -/
def like (pattern : Pattern) : Rule :=
  token (Lexeme.like pattern)

/-- The rules one after the other. -/
def inOrder : List Rule → Rule
  | [] => blank
  | [rule] => rule
  | rule :: rest => seq rule (inOrder rest)

/-- One of the rules. -/
def oneOf : List Rule → Rule
  | [] => blank
  | [rule] => rule
  | rule :: rest => alt rule (oneOf rest)

/-- One of several keywords or marks. -/
def words (spellings : List String) : Rule :=
  oneOf (spellings.map word)

/-- The rule or nothing. -/
def maybe (body : Rule) : Rule :=
  alt body blank

/-- The rule any number of times. -/
def many (body : Rule) : Rule :=
  maybe (several body)

/-- One or more items with a separator between them. -/
def separated1 (separator item : Rule) : Rule :=
  seq item (many (seq separator item))

/-- Items with a separator between them. -/
def separated (separator item : Rule) : Rule :=
  maybe (separated1 separator item)

/-- Items with commas between them; a comma may stand at the end, and also alone. -/
def commaList (item : Rule) : Rule :=
  seq (separated "," item) (maybe ",")

/-- A rule between two marks. -/
def between (opening closing : String) (content : Rule) : Rule :=
  inOrder [opening, content, closing]

/-- What binds with a level. -/
def level (n : Int) (body : Rule) : Rule :=
  binds n none body

/-- What binds with a level and nests on the left. -/
def left (n : Int) (body : Rule) : Rule :=
  binds n (some .left) body

/-- What binds with a level and nests on the right. -/
def right (n : Int) (body : Rule) : Rule :=
  binds n (some .right) body

/-- What is shown as a node of another name. -/
def named (name : String) (body : Rule) : Rule :=
  shown ⟨name, true⟩ body

/-- The lexemes of a rule, in order. -/
def lexemes : Rule → List Lexeme
  | blank | phrase _ => []
  | token lexeme => [lexeme]
  | seq first second | alt first second => first.lexemes ++ second.lexemes
  | several body | binds _ _ body | field _ body | shown _ body => body.lexemes

/-- The bodies of the repetitions in a rule, inner ones first. -/
def repeated : Rule → List Rule
  | blank | phrase _ | token _ => []
  | seq first second | alt first second => first.repeated ++ second.repeated
  | several body => body.repeated ++ [body]
  | binds _ _ body | field _ body | shown _ body => body.repeated

end Rule

/-- How a phrase appears in a tree. -/
inductive Role where
  /-- As a node of its own. -/
  | shown
  /-- Its parts appear in its place. -/
  | hidden
  /-- Hidden, and one of many phrases that may stand in the same place. -/
  | family
  /-- Hidden, and replaced by its rule wherever it is used. -/
  | inlined
  deriving DecidableEq, Inhabited

/-- A phrase and its rule. -/
structure Definition where
  name : String
  role : Role
  rule : Rule
  deriving Inhabited

/-- A grammar. The first definition is that of a whole text. -/
structure Grammar where
  definitions : List Definition
  /-- Tokens that depend on more than their characters, with whether they are shown. -/
  contextual : List (String × Bool)
  /-- Phrases that may stand anywhere. -/
  extras : List String
  /-- The token that keywords are spellings of. -/
  word : String

end Deadwood.Parsing
