/-
Tokens in company.

Which tokens may be looked for at the same time depends on how their spellings
overlap, and on whether they ever stand in the same place. Keywords are spellings
of another token, the word; they are looked up once a word has been read, so that
they need not be looked for at all.
-/
import Deadwood.Parsing.Overlap
import Deadwood.Parsing.Outline

namespace Deadwood.Parsing

/-- Which tokens stand in the same place. -/
structure Company where
  /-- For each token, those that may stand in one of its places. -/
  together : Array BitSet
  /-- The same for places where the word may not stand. -/
  withoutWord : Array BitSet

namespace Company

/-- Adds a place with its tokens. -/
def addPlace (company : Array BitSet) (tokens : BitSet) : Array BitSet :=
  tokens.toList.foldl (fun company token => company.modify token (·.union tokens)) company

/-- The company of tokens, given the tokens of all places. -/
def ofPlaces (count word : Nat) (places : List BitSet) : Company where
  together := places.foldl addPlace (Array.replicate count .empty)
  withoutWord := (places.filter fun tokens => !tokens.contains word).foldl addPlace (Array.replicate count .empty)

end Company

/-- What is known of the tokens of a grammar. -/
structure Vocabulary where
  lexicon : Lexicon
  overlaps : Overlaps
  company : Company
  /-- The token that keywords are spellings of. -/
  word : Nat
  keywords : BitSet

namespace Vocabulary

/-- The characters of which a keyword may consist. -/
def letters : Charset :=
  Charset.identifierStart

/-- Whether a token is always a spelling of the word. -/
def isSpelling (lexicon : Lexicon) (overlaps : Overlaps) (word token : Nat) : Bool :=
  let (chars, isEmpty) := lexicon.beginning token
  let overlap := overlaps.get token word
  !isEmpty && (chars.diff letters).isEmpty && overlap.wins && !overlap.differs

/-- The keywords: spellings of the word that behave like it beside the other tokens, wherever the word itself may
not stand. -/
def findKeywords (lexicon : Lexicon) (overlaps : Overlaps) (company : Company) (word : Nat) : BitSet :=
  let tokens := List.range lexicon.lexemes.size
  let spellings := tokens.filter (isSpelling lexicon overlaps word)
  let others := tokens.filter fun token => !spellings.contains token
  BitSet.ofList (spellings.filter fun token =>
    (spellings.all fun other => other == token || !(overlaps.get other token).wins)
      && others.all fun other =>
        !(company.withoutWord.getD token .empty).contains other || overlaps.get token other == overlaps.get word other)

/-- The vocabulary of a grammar, given the tokens of all places. -/
def ofPlaces (outline : Outline) (places : List BitSet) : Vocabulary :=
  let grammar := outline.grammar
  let lexicon := Lexicon.ofLexemes grammar.lexemes
  let follows := grammar.follows outline.first outline.last
  let overlaps := Overlaps.ofLexicon lexicon fun token =>
    (follows.getD token .empty).toList.filter (· < grammar.lexemes.size)
  let company := Company.ofPlaces grammar.lexemes.size grammar.word places
  { lexicon, overlaps, company
    word := grammar.word
    keywords := findKeywords lexicon overlaps company grammar.word }

/-- How many tokens are recognised by their characters. -/
def size (vocabulary : Vocabulary) : Nat :=
  vocabulary.lexicon.lexemes.size

/-- Whether two tokens may stand in the same place. -/
def together (vocabulary : Vocabulary) (first second : Nat) : Bool :=
  (vocabulary.company.together.getD first .empty).contains second

/-- Whether a token must not be looked for beside another one. -/
def hides (vocabulary : Vocabulary) (first second : Nat) : Bool :=
  (vocabulary.overlaps.get first second).conflicts
    && !(first == vocabulary.word && vocabulary.keywords.contains second)
    && !(second == vocabulary.word && vocabulary.keywords.contains first)

/-- For each token, those that must not be looked for beside it. -/
def rivals (vocabulary : Vocabulary) : Array BitSet :=
  (Array.range vocabulary.size).map fun second =>
    BitSet.ofList ((List.range vocabulary.size).filter fun first => vocabulary.hides first second)

/-- Whether one of two tokens goes on where the other one is complete. -/
def extendsOther (vocabulary : Vocabulary) (first second : Nat) : Bool :=
  let forth := vocabulary.overlaps.get first second
  let back := vocabulary.overlaps.get second first
  (forth.goesOnValidly || back.goesOnValidly) && !back.spansBlanks

/-- Whether a token could be cut short by, or swallow, a token that stands only in other places. -/
def isAmbiguous (vocabulary : Vocabulary) (token : Nat) : Bool :=
  (List.range vocabulary.size).any fun other =>
    other != token && !vocabulary.together token other && vocabulary.extendsOther token other

/-- The tokens that are looked for where a reading has gone astray: all but those that would hide one of the others
there. -/
def stray (vocabulary : Vocabulary) : List Nat :=
  let tokens := List.range vocabulary.size
  let clear := tokens.filter fun token => !vocabulary.isAmbiguous token
  tokens.filter fun token =>
    clear.contains token || vocabulary.keywords.contains token || token == vocabulary.word
      || clear.all fun other =>
        vocabulary.together token other || !(vocabulary.overlaps.get token other).conflicts

/-- The tokens that are looked for by their characters when the given tokens may come: the word stands for its
keywords. -/
def soughtFor (vocabulary : Vocabulary) (tokens : BitSet) : BitSet :=
  let lexemes := tokens.inter (.below vocabulary.size)
  let keywords := lexemes.inter vocabulary.keywords
  if keywords.isEmpty then lexemes else (lexemes.diff keywords).insert vocabulary.word

end Vocabulary

end Deadwood.Parsing
