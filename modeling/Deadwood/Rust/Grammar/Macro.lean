/-
Macros by example.

The text of a macro is not read any further than into its tokens, but brackets
have to match.
-/
import Deadwood.Parsing.Grammar

namespace Deadwood.Rust

open Parsing
open Parsing.Rule

/-- The types that are keywords, numbers first. -/
def numericTypes : List String := [
  "u8", "i8", "u16", "i16", "u32", "i32", "u64", "i64", "u128", "i128", "isize", "usize", "f32", "f64"]

/-- The types that are keywords. -/
def primitiveTypes : List String :=
  numericTypes ++ ["bool", "str", "char"]

/-- What a fragment of a macro pattern may stand for. -/
def fragmentKinds : List String := [
  "block", "expr", "expr_2021", "ident", "item", "lifetime", "literal", "meta", "pat", "pat_param", "path", "stmt",
  "tt", "ty", "vis"]

/-- The marks that are no brackets. -/
def marks : List String := [
  "+", "-", "*", "/", "%", "^", "!", "&", "|", "&&", "||", "<<", ">>", "+=", "-=", "*=", "/=", "%=", "^=", "&=", "|=",
  "<<=", ">>=", "=", "==", "!=", ">", "<", ">=", "<=", "@", "_", ".", "..", "...", "..=", ",", ";", ":", "::", "->",
  "=>", "#", "?"]

/-- The keywords that are single tokens of a macro. -/
def tokenWords : List String := [
  "'", "as", "async", "await", "break", "const", "continue", "default", "enum", "fn", "for", "gen", "if", "impl", "let",
  "loop", "match", "mod", "pub", "return", "static", "struct", "trait", "type", "union", "unsafe", "use", "where",
  "while"]

/-- A rule between brackets of each kind. -/
def bracketed (content : Rule) : Rule :=
  oneOf [between "(" ")" content, between "[" "]" content, between "\x7b" "\x7d" content]

/-- What stands between the items of a repetition, and how often it is repeated. -/
def repetitionEnd : Rule :=
  inOrder [
    maybe (like (.plus (.char (Charset.except (Charset.ofText "+*?"))))),
    words ["+", "*", "?"]]

/-- The rules of a macro. -/
def macroRules : Rule :=
  inOrder [many (inOrder [phrase "macro_rule", ";"]), maybe (phrase "macro_rule")]

/-- Definitions of macros, and the tokens in them. -/
def macros : List Definition := [
  ⟨"macro_definition", .shown, inOrder [
    "macro_rules!",
    field "name" (oneOf [phrase "identifier", phrase "soft_keyword"]),
    oneOf [
      inOrder ["(", macroRules, ")", ";"],
      inOrder ["[", macroRules, "]", ";"],
      inOrder ["\x7b", macroRules, "\x7d"]]]⟩,
  ⟨"macro_rule", .shown, inOrder [
    field "left" (phrase "token_tree_pattern"), "=>", field "right" (phrase "token_tree")]⟩,
  ⟨"pattern_token", .hidden, oneOf [
    phrase "token_tree_pattern", phrase "token_repetition_pattern", phrase "token_binding_pattern",
    phrase "metavariable", phrase "plain_token"]⟩,
  ⟨"token_tree_pattern", .shown, bracketed (many (phrase "pattern_token"))⟩,
  ⟨"token_binding_pattern", .shown, level 1 (inOrder [
    field "name" (phrase "metavariable"), ":", field "type" (phrase "fragment_specifier")])⟩,
  ⟨"token_repetition_pattern", .shown, inOrder [
    "$", "(", many (phrase "pattern_token"), ")", repetitionEnd]⟩,
  ⟨"fragment_specifier", .shown, words fragmentKinds⟩,
  ⟨"body_token", .inlined, oneOf [
    phrase "token_tree", phrase "token_repetition", phrase "metavariable", phrase "plain_token"]⟩,
  ⟨"token_tree", .shown, bracketed (many (phrase "body_token"))⟩,
  ⟨"token_repetition", .shown, inOrder [
    "$", "(", many (phrase "body_token"), ")", repetitionEnd]⟩,
  ⟨"plain_token", .inlined, oneOf ([
    phrase "literal", phrase "identifier", phrase "mutable_specifier", phrase "self", phrase "super", phrase "crate",
    named "primitive_type" (words primitiveTypes),
    right 0 (several (words marks))] ++ tokenWords.map word)⟩]

end Deadwood.Rust
