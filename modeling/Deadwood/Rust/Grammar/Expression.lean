/-
Expressions.
-/
import Deadwood.Rust.Grammar.Item

namespace Deadwood.Rust

open Parsing
open Parsing.Rule

/-- The operators between two operands, from those that bind least, with their levels. -/
def binaryOperators : List (Int × List String) := [
  (3, ["&&"]), (2, ["||"]), (7, ["&"]), (5, ["|"]), (6, ["^"]), (4, ["==", "!=", "<", "<=", ">", ">="]),
  (8, ["<<", ">>"]), (9, ["+", "-"]), (10, ["*", "/", "%"])]

/-- The operators that change what is on their left. -/
def assignmentOperators : List String := ["+=", "-=", "*=", "/=", "%=", "&=", "|=", "^=", "<<=", ">>="]

/-- Two operands with an operator between them. -/
def binary (operator : Rule) : Rule :=
  inOrder [field "left" (phrase "expression"), operator, field "right" (phrase "expression")]

/-- A loop may be labelled. -/
def labelled (parts : List Rule) : Rule :=
  inOrder (maybe (inOrder [phrase "label", ":"]) :: parts)

/-- The kinds of expressions, and paths with their arguments. -/
def expressionKinds : List Definition := [
  ⟨"expression_but_range", .hidden, oneOf [
    phrase "unary_expression", phrase "reference_expression", phrase "try_expression", phrase "binary_expression",
    phrase "assignment_expression", phrase "compound_assignment_expr", phrase "type_cast_expression",
    phrase "call_expression", phrase "return_expression", phrase "yield_expression", phrase "literal",
    left 0 (phrase "identifier"), named "identifier" (words primitiveTypes), left 0 (phrase "soft_keyword"),
    phrase "self", phrase "scoped_identifier", phrase "generic_function", phrase "await_expression",
    phrase "field_expression", phrase "array_expression", phrase "tuple_expression",
    level 1 (phrase "macro_invocation"), phrase "unit_expression", phrase "break_expression",
    phrase "continue_expression", phrase "index_expression", phrase "metavariable", phrase "closure_expression",
    phrase "parenthesized_expression", phrase "struct_expression", phrase "blocklike_expression"]⟩,
  ⟨"expression", .family, oneOf [phrase "expression_but_range", phrase "range_expression"]⟩,
  ⟨"blocklike_expression", .inlined, oneOf [
    phrase "unsafe_block", phrase "async_block", phrase "gen_block", phrase "try_block", phrase "block",
    phrase "if_expression", phrase "match_expression", phrase "while_expression", phrase "loop_expression",
    phrase "for_expression", phrase "const_block"]⟩,
  ⟨"macro_invocation", .shown, inOrder [
    field "macro" (oneOf [phrase "scoped_identifier", phrase "identifier", phrase "soft_keyword"]), "!",
    named "token_tree" (phrase "delimited_tokens")]⟩,
  ⟨"delimited_tokens", .shown, bracketed (many (phrase "delimited_token"))⟩,
  ⟨"delimited_token", .hidden, oneOf [phrase "loose_token", named "token_tree" (phrase "delimited_tokens")]⟩,
  ⟨"loose_token", .hidden, oneOf [phrase "plain_token", "$"]⟩,
  ⟨"scoped_identifier", .shown, inOrder [
    field "path" (maybe (oneOf [
      phrase "path", phrase "bracketed_type", named "generic_type" (phrase "generic_type_with_turbofish")])),
    "::",
    field "name" (oneOf [phrase "identifier", phrase "super"])]⟩,
  ⟨"struct_path", .shown, level (-2) (inOrder [
    field "path" (maybe (oneOf [phrase "path", named "generic_type" (phrase "generic_type_with_turbofish")])), "::",
    field "name" (phrase "type_name")])⟩,
  ⟨"scoped_type_identifier", .shown, inOrder [
    field "path" (maybe (oneOf [
      phrase "path", named "generic_type" (phrase "generic_type_with_turbofish"), phrase "bracketed_type",
      phrase "generic_type"])),
    "::",
    field "name" (phrase "type_name")]⟩]

/-- Operators, calls and brackets. -/
def operations : List Definition := [
  ⟨"range_expression", .shown, left 1 (oneOf [
    inOrder [phrase "expression", words ["..", "...", "..="], phrase "expression"],
    inOrder [phrase "expression", ".."],
    inOrder ["..", phrase "expression"],
    ".."])⟩,
  ⟨"unary_expression", .shown, level 12 (inOrder [words ["-", "*", "!"], phrase "expression"])⟩,
  ⟨"try_expression", .shown, level 13 (inOrder [phrase "expression", "?"])⟩,
  ⟨"reference_expression", .shown, level 12 (inOrder [
    "&",
    oneOf [inOrder ["raw", oneOf ["const", phrase "mutable_specifier"]], maybe (phrase "mutable_specifier")],
    field "value" (phrase "expression")])⟩,
  ⟨"binary_expression", .shown, oneOf (binaryOperators.map fun (rank, operators) =>
    left rank (binary (field "operator" (words operators))))⟩,
  ⟨"assignment_expression", .shown, left 0 (binary "=")⟩,
  ⟨"compound_assignment_expr", .shown, left 0 (binary (field "operator" (words assignmentOperators)))⟩,
  ⟨"type_cast_expression", .shown, left 11 (inOrder [
    field "value" (phrase "expression"), "as", field "type" (phrase "type")])⟩,
  ⟨"return_expression", .shown, oneOf [left 0 (inOrder ["return", phrase "expression"]), level (-1) "return"]⟩,
  ⟨"yield_expression", .shown, oneOf [left 0 (inOrder ["yield", phrase "expression"]), level (-1) "yield"]⟩,
  ⟨"call_expression", .shown, level 15 (inOrder [
    field "function" (phrase "expression_but_range"), field "arguments" (phrase "arguments")])⟩,
  ⟨"arguments", .shown, between "(" ")" (commaList (attributed (phrase "expression")))⟩,
  ⟨"array_expression", .shown, inOrder [
    "[",
    many (phrase "attribute_item"),
    oneOf [
      inOrder [phrase "expression", ";", field "length" (phrase "expression")],
      commaList (attributed (phrase "expression"))],
    "]"]⟩,
  ⟨"parenthesized_expression", .shown, between "(" ")" (phrase "expression")⟩,
  ⟨"tuple_expression", .shown, inOrder [
    "(", many (phrase "attribute_item"), phrase "expression", ",", many (inOrder [phrase "expression", ","]),
    maybe (phrase "expression"), ")"]⟩,
  ⟨"unit_expression", .shown, inOrder ["(", ")"]⟩,
  ⟨"struct_expression", .shown, inOrder [
    field "name" (oneOf [
      phrase "type_name", named "scoped_type_identifier" (phrase "struct_path"),
      phrase "generic_type_with_turbofish"]),
    field "body" (phrase "field_initializer_list")]⟩,
  ⟨"field_initializer_list", .shown, between "\x7b" "\x7d" (commaList (oneOf [
    phrase "shorthand_field_initializer", phrase "field_initializer", phrase "base_field_initializer"]))⟩,
  ⟨"shorthand_field_initializer", .shown, attributed (phrase "identifier")⟩,
  ⟨"field_initializer", .shown, attributed (inOrder [
    field "field" (oneOf [phrase "field_name", phrase "integer_literal"]), ":",
    field "value" (phrase "expression")])⟩,
  ⟨"base_field_initializer", .shown, inOrder ["..", phrase "expression"]⟩]

/-- Branches, loops and blocks. -/
def controlFlow : List Definition := [
  ⟨"if_expression", .shown, right 0 (inOrder [
    "if", field "condition" (phrase "condition"), field "consequence" (phrase "block"),
    maybe (field "alternative" (phrase "else_clause"))])⟩,
  ⟨"let_condition", .shown, inOrder [
    "let", field "pattern" (phrase "pattern"), "=", field "value" (left 3 (phrase "expression"))]⟩,
  ⟨"condition_chain", .hidden, left 3 (oneOf [
    inOrder [phrase "condition_chain", "&&", phrase "let_condition"],
    inOrder [phrase "condition_chain", "&&", phrase "expression"],
    inOrder [phrase "let_condition", "&&", phrase "expression"],
    inOrder [phrase "let_condition", "&&", phrase "let_condition"],
    inOrder [phrase "expression", "&&", phrase "let_condition"]])⟩,
  ⟨"condition", .hidden, oneOf [
    phrase "expression", phrase "let_condition", named "let_chain" (phrase "condition_chain")]⟩,
  ⟨"else_clause", .shown, inOrder ["else", oneOf [phrase "block", phrase "if_expression"]]⟩,
  ⟨"match_expression", .shown, inOrder [
    "match", field "value" (phrase "expression"), field "body" (phrase "match_block")]⟩,
  ⟨"match_block", .shown, between "\x7b" "\x7d" (maybe (inOrder [
    many (phrase "match_arm"), named "match_arm" (phrase "last_match_arm")]))⟩,
  ⟨"match_arm", .shown, right 0 (inOrder [
    many (oneOf [phrase "attribute_item", phrase "inner_attribute_item"]),
    field "pattern" (phrase "match_pattern"), "=>",
    oneOf [
      inOrder [field "value" (phrase "expression"), ","],
      field "value" (level 1 (phrase "blocklike_expression"))]])⟩,
  ⟨"last_match_arm", .shown, inOrder [
    many (oneOf [phrase "attribute_item", phrase "inner_attribute_item"]),
    field "pattern" (phrase "match_pattern"), "=>", field "value" (phrase "expression"), maybe ","]⟩,
  ⟨"match_pattern", .shown, inOrder [
    phrase "pattern", maybe (inOrder ["if", field "condition" (phrase "condition")])]⟩,
  ⟨"while_expression", .shown, labelled [
    "while", field "condition" (phrase "condition"), field "body" (phrase "block")]⟩,
  ⟨"loop_expression", .shown, labelled ["loop", field "body" (phrase "block")]⟩,
  ⟨"for_expression", .shown, labelled [
    "for", field "pattern" (phrase "pattern"), "in", field "value" (phrase "expression"),
    field "body" (phrase "block")]⟩,
  ⟨"const_block", .shown, inOrder ["const", field "body" (phrase "block")]⟩,
  ⟨"closure_expression", .shown, level (-1) (inOrder [
    maybe "static", maybe "async", maybe "move",
    field "parameters" (phrase "closure_parameters"),
    oneOf [
      inOrder [maybe (inOrder ["->", field "return_type" (phrase "type")]), field "body" (phrase "block")],
      field "body" (oneOf [phrase "expression", "_"])]])⟩,
  ⟨"closure_parameters", .shown, between "|" "|" (separated "," (oneOf [phrase "pattern", phrase "parameter"]))⟩,
  ⟨"label", .shown, inOrder ["'", phrase "identifier"]⟩,
  ⟨"break_expression", .shown, left 0 (inOrder ["break", maybe (phrase "label"), maybe (phrase "expression")])⟩,
  ⟨"continue_expression", .shown, left 0 (inOrder ["continue", maybe (phrase "label")])⟩,
  ⟨"index_expression", .shown, level 15 (inOrder [phrase "expression", "[", phrase "expression", "]"])⟩,
  ⟨"await_expression", .shown, level 14 (inOrder [phrase "expression", ".", "await"])⟩,
  ⟨"field_expression", .shown, level 14 (inOrder [
    field "value" (phrase "expression"), ".",
    field "field" (oneOf [phrase "field_name", phrase "integer_literal"])])⟩,
  ⟨"unsafe_block", .shown, inOrder ["unsafe", phrase "block"]⟩,
  ⟨"async_block", .shown, inOrder ["async", maybe "move", phrase "block"]⟩,
  ⟨"gen_block", .shown, inOrder ["gen", maybe "move", phrase "block"]⟩,
  ⟨"try_block", .shown, inOrder ["try", phrase "block"]⟩,
  ⟨"block", .shown, labelled ["\x7b", many (phrase "statement"), maybe (phrase "expression"), "\x7d"]⟩]

/-- Expressions, and what they are made of. -/
def expressions : List Definition :=
  expressionKinds ++ operations ++ controlFlow

end Deadwood.Rust
