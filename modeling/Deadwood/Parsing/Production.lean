/-
Productions.

The rules of a grammar come down to productions: rows of tokens and phrases. A
choice becomes several productions, and a repetition a phrase of its own, which
is either two of itself or one of what is repeated.

`Grammar.normalise` does this and numbers the tokens in the order in which the
rules mention them, contextual tokens last.
-/
import Deadwood.Parsing.Grammar

namespace Deadwood.Parsing

/-- A token or a phrase, by its number. -/
inductive Symbol where
  | token (index : Nat)
  | phrase (index : Nat)
  deriving DecidableEq, Hashable, Inhabited

/-- One place of a production. -/
structure Step where
  symbol : Symbol
  /-- How tightly the production binds up to this place. -/
  level : Option Int
  side : Option Side
  /-- The name under which the part is shown here. -/
  label : Option Label
  field : Option String
  deriving DecidableEq, Hashable, Inhabited

/-- The parts of a phrase, in order. -/
abbrev Production := List Step

/-- A phrase with its productions. -/
structure Phrase where
  name : String
  role : Role
  /-- Whether it stands for a repetition. -/
  repeats : Bool
  productions : List Production
  deriving Inhabited

/-- A grammar by productions. -/
structure NormalGrammar where
  /-- The tokens that are recognised by their characters; they are the first ones. -/
  lexemes : Array Lexeme
  /-- The names under which tokens are shown, unless they are hidden. -/
  tokenLabels : Array (Option Label)
  /-- The phrases. The first one is the whole text. -/
  phrases : Array Phrase
  /-- The names that replace those of tokens and phrases wherever these are shown. -/
  usualLabels : List (Symbol × Label)
  /-- The phrases that may stand anywhere. -/
  extras : List Nat
  /-- The token that keywords are spellings of. -/
  word : Nat

namespace Rule

/-- Whether a rule is a single token, and which. -/
def lexeme? : Rule → Option Lexeme
  | token lexeme => some lexeme
  | _ => none

end Rule

/-- Numbers for what rules refer to. -/
structure Naming where
  lexemes : List Lexeme
  phrases : List String
  symbols : List (String × Symbol)
  repeated : List Rule

namespace Naming

/-- What a name stands for. -/
def symbolOf (naming : Naming) (name : String) : Symbol :=
  ((naming.symbols.find? fun entry => entry.1 == name).map (·.2)).getD (.token 0)

/-- The token of a lexeme. -/
def tokenOf (naming : Naming) (lexeme : Lexeme) : Symbol :=
  .token (naming.lexemes.idxOf lexeme)

/-- The phrase of a repetition. -/
def repetitionOf (naming : Naming) (body : Rule) : Symbol :=
  .phrase (naming.phrases.length + naming.repeated.idxOf body)

end Naming

/-- What the surroundings of a rule say about its parts. -/
structure Setting where
  level : Option Int
  side : Option Side
  label : Option Label
  field : Option String

/-- Changes the last step of a production. -/
def amendLast (change : Step → Step) : Production → Production
  | [] => []
  | [step] => [change step]
  | step :: rest => step :: amendLast change rest

/-- The productions of a rule. A level holds up to the end of its rule, but the last step takes the level from
outside again if more is to come (`ends` is false). -/
def Rule.productions (naming : Naming) (setting : Setting) (ends : Bool) : Rule → List Production
  | .blank => [[]]
  | .token lexeme => [[⟨naming.tokenOf lexeme, setting.level, setting.side, setting.label, setting.field⟩]]
  | .phrase name => [[⟨naming.symbolOf name, setting.level, setting.side, setting.label, setting.field⟩]]
  | .several body => [[⟨naming.repetitionOf body, setting.level, setting.side, setting.label, setting.field⟩]]
  | .seq first second =>
    let starts := first.productions naming setting false
    let rests := second.productions naming setting ends
    starts.flatMap fun start => rests.map fun rest => start ++ rest
  | .alt first second => first.productions naming setting ends ++ second.productions naming setting ends
  | .field name body => body.productions naming { setting with field := some name } ends
  | .shown label body => body.productions naming { setting with label := some label } ends
  | .binds level side body =>
    let inner := { setting with level := some level, side := side.or setting.side }
    let back (step : Step) : Step :=
      { step with level := setting.level, side := if side.isSome then setting.side else step.side }
    (body.productions naming inner ends).map fun production =>
      if ends then production else amendLast back production

/-- The productions of a rule that stands alone. -/
def Rule.allProductions (naming : Naming) (rule : Rule) : List Production :=
  (rule.productions naming ⟨none, none, none, none⟩ true).eraseDups

/-- The productions of a repetition. -/
def repetitionProductions (naming : Naming) (body : Rule) : List Production :=
  let itself : Step := ⟨naming.repetitionOf body, none, none, none, none⟩
  [itself, itself] :: body.allProductions naming

/-! ### Usual names -/

/-- How often a symbol is shown under each name, and whether it is used under its own. -/
structure Appearance where
  plain : Bool
  labels : List (Label × Nat)

namespace Appearance

/-- Counts one more use. -/
def count (appearance : Appearance) : Option Label → Appearance
  | none => { appearance with plain := true }
  | some label =>
    if appearance.labels.any fun entry => entry.1 == label then
      { appearance with
        labels := appearance.labels.map fun entry => if entry.1 == label then (label, entry.2 + 1) else entry }
    else { appearance with labels := appearance.labels ++ [(label, 1)] }

/-- The name that is used most, if the symbol is never shown under its own. -/
def usual? (appearance : Appearance) : Option Label :=
  if appearance.plain then none
  else
    let best := appearance.labels.foldl (fun best entry => if best.2 < entry.2 then entry else best)
    appearance.labels.head?.map fun first => (best first).1

end Appearance

/-- Adds one use of a symbol to the list of appearances. -/
def countUse (uses : List (Symbol × Appearance)) (symbol : Symbol) (label : Option Label) :
    List (Symbol × Appearance) :=
  if uses.any fun entry => entry.1 == symbol then
    uses.map fun entry => if entry.1 == symbol then (symbol, entry.2.count label) else entry
  else uses ++ [(symbol, Appearance.count ⟨false, []⟩ label)]

/-- The usual names of all symbols. Inlined phrases have none. -/
def usualLabels (phrases : List Phrase) (extras : List Nat) : List (Symbol × Label) :=
  let inlined : List Symbol := phrases.zipIdx.filterMap fun (phrase, index) =>
    if phrase.role == .inlined then some (.phrase index) else none
  let steps := (phrases.flatMap (·.productions)).flatten.filter fun step => !inlined.contains step.symbol
  let uses := steps.foldl (fun uses step => countUse uses step.symbol step.label) []
  let uses := extras.foldl (fun uses extra => countUse uses (.phrase extra) none) uses
  uses.filterMap fun entry => entry.2.usual?.map fun label => (entry.1, label)

/-- The usual name of a symbol. -/
def usualLabel? (usual : List (Symbol × Label)) (symbol : Symbol) : Option Label :=
  (usual.find? fun entry => entry.1 == symbol).map (·.2)

/-- A name need not be written in a production if it is the usual one, unless another production has it in the
same place for a symbol that is usually shown differently. -/
def dropUsual (usual : List (Symbol × Label)) (productions : List Production) : List Production :=
  productions.zipIdx.map fun (production, index) =>
    production.zipIdx.map fun (step, place) =>
      let shared := productions.zipIdx.any fun (other, otherIndex) =>
        otherIndex != index && match other[place]? with
          | some rival => rival.label == step.label && usualLabel? usual rival.symbol != step.label
          | none => false
      if step.label.isSome && usualLabel? usual step.symbol == step.label && !shared then
        { step with label := none }
      else step

/-! ### Normal form -/

namespace Grammar

/-- A phrase that is nothing but one token, mentioned nowhere else, is that token. A hidden phrase with one spelling
stays a phrase. -/
def isToken (lexemes : List Lexeme) (definition : Definition) : Bool :=
  match definition.rule.lexeme? with
  | some lexeme => lexemes.count lexeme == 1 && (lexeme.literal.isNone || definition.role == .shown)
  | none => false

/-- The numbers of tokens and phrases. -/
def naming (grammar : Grammar) : Naming :=
  let mentioned := grammar.definitions.flatMap (·.rule.lexemes)
  let lexemes := mentioned.eraseDups
  let (tokens, phrases) := grammar.definitions.partition (isToken mentioned)
  { lexemes
    phrases := phrases.map (·.name)
    repeated := (phrases.flatMap (·.rule.repeated)).eraseDups
    symbols :=
      tokens.filterMap (fun token => token.rule.lexeme?.map fun lexeme => (token.name, .token (lexemes.idxOf lexeme)))
        ++ phrases.zipIdx.map (fun (phrase, index) => (phrase.name, .phrase index))
        ++ grammar.contextual.zipIdx.map fun (token, index) => (token.1, .token (lexemes.length + index)) }

/-- The names under which tokens are shown. -/
def tokenLabels (grammar : Grammar) (naming : Naming) : List (Option Label) :=
  let own := naming.lexemes.zipIdx.map fun (lexeme, index) =>
    match grammar.definitions.find? fun definition => naming.symbolOf definition.name == .token index
        && definition.rule.lexeme?.isSome && (naming.symbols.any fun entry => entry.1 == definition.name
          && entry.2 == .token index) with
    | some definition => if definition.role == .shown then some ⟨definition.name, true⟩ else none
    | none => lexeme.literal.map fun spelling => ⟨spelling, false⟩
  own ++ grammar.contextual.map fun (name, shown) => if shown then some ⟨name, true⟩ else none

/-- The grammar by productions. -/
def normalise (grammar : Grammar) : NormalGrammar :=
  let naming := grammar.naming
  let isPhrase (definition : Definition) : Bool := naming.phrases.contains definition.name
  let defined := (grammar.definitions.filter isPhrase).map fun definition : Definition =>
    (⟨definition.name, definition.role, false, definition.rule.allProductions naming⟩ : Phrase)
  let repetitions := naming.repeated.map fun body : Rule =>
    (⟨"", .hidden, true, repetitionProductions naming body⟩ : Phrase)
  let phrases := defined ++ repetitions
  let extras := grammar.extras.map fun name => naming.phrases.idxOf name
  let usual := usualLabels phrases extras
  { lexemes := naming.lexemes.toArray
    tokenLabels := (grammar.tokenLabels naming).toArray
    phrases := (phrases.map fun phrase =>
      { phrase with productions := dropUsual usual phrase.productions }).toArray
    usualLabels := usual
    extras
    word := match naming.symbolOf grammar.word with
      | .token index => index
      | .phrase _ => 0 }

end Grammar

end Deadwood.Parsing
