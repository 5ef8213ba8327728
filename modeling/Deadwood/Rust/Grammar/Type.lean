/-
Types.
-/
import Deadwood.Rust.Grammar.Macro

namespace Deadwood.Rust

open Parsing
open Parsing.Rule

/-- The mark that opens arguments of a type. Where it may stand, it comes before the comparison. -/
def openingAngle : Rule :=
  token { Lexeme.word "<" with level := 1 }

/-- Types, and what they are made of. -/
def types : List Definition := [
  ⟨"type", .family, oneOf [
    phrase "abstract_type", phrase "reference_type", phrase "metavariable", phrase "pointer_type",
    phrase "generic_type", phrase "scoped_type_identifier", phrase "tuple_type", phrase "unit_type",
    phrase "array_type", phrase "function_type", phrase "type_name", phrase "macro_invocation", phrase "never_type",
    phrase "dynamic_type", phrase "bounded_type", phrase "removed_trait_bound",
    named "primitive_type" (words primitiveTypes)]⟩,
  ⟨"bracketed_type", .shown, between "<" ">" (oneOf [phrase "type", phrase "qualified_type"])⟩,
  ⟨"qualified_type", .shown, inOrder [field "type" (phrase "type"), "as", field "alias" (phrase "type")]⟩,
  ⟨"lifetime", .shown, level 1 (inOrder ["'", phrase "identifier"])⟩,
  ⟨"array_type", .shown, between "[" "]" (inOrder [
    field "element" (phrase "type"), maybe (inOrder [";", field "length" (phrase "expression")])])⟩,
  ⟨"for_lifetimes", .shown, inOrder ["for", "<", separated1 "," (phrase "lifetime"), maybe ",", ">"]⟩,
  ⟨"function_type", .shown, inOrder [
    maybe (phrase "for_lifetimes"),
    level 15 (inOrder [
      oneOf [
        field "trait" (oneOf [phrase "type_name", phrase "scoped_type_identifier"]),
        inOrder [maybe (phrase "function_modifiers"), "fn"]],
      field "parameters" (phrase "parameters")]),
    maybe (inOrder ["->", field "return_type" (phrase "type")])]⟩,
  ⟨"tuple_type", .shown, inOrder ["(", separated1 "," (phrase "type"), maybe ",", ")"]⟩,
  ⟨"unit_type", .shown, inOrder ["(", ")"]⟩,
  ⟨"generic_function", .shown, level 1 (inOrder [
    field "function" (oneOf [phrase "identifier", phrase "scoped_identifier", phrase "field_expression"]), "::",
    field "type_arguments" (phrase "type_arguments")])⟩,
  ⟨"generic_type", .shown, level 1 (inOrder [
    field "type" (oneOf [phrase "type_name", phrase "soft_keyword", phrase "scoped_type_identifier"]),
    field "type_arguments" (phrase "type_arguments")])⟩,
  ⟨"generic_type_with_turbofish", .shown, inOrder [
    field "type" (oneOf [phrase "type_name", phrase "scoped_identifier"]), "::",
    field "type_arguments" (phrase "type_arguments")]⟩,
  ⟨"bounded_type", .shown, left (-1) (inOrder [
    oneOf [phrase "lifetime", phrase "type", phrase "use_bounds"], "+",
    oneOf [phrase "lifetime", phrase "type", phrase "use_bounds"]])⟩,
  ⟨"use_bounds", .shown, inOrder [
    "use", openingAngle, separated "," (oneOf [phrase "lifetime", phrase "type_name"]), maybe ",", ">"]⟩,
  ⟨"type_arguments", .shown, inOrder [
    openingAngle,
    separated1 "," (inOrder [
      oneOf [phrase "type", phrase "type_binding", phrase "lifetime", phrase "literal", phrase "block"],
      maybe (phrase "trait_bounds")]),
    maybe ",",
    ">"]⟩,
  ⟨"type_binding", .shown, inOrder [
    field "name" (phrase "type_name"), field "type_arguments" (maybe (phrase "type_arguments")), "=",
    field "type" (phrase "type")]⟩,
  ⟨"reference_type", .shown, inOrder [
    "&", maybe (phrase "lifetime"), maybe (phrase "mutable_specifier"), field "type" (phrase "type")]⟩,
  ⟨"pointer_type", .shown, inOrder [
    "*", oneOf ["const", phrase "mutable_specifier"], field "type" (phrase "type")]⟩,
  ⟨"never_type", .shown, "!"⟩,
  ⟨"abstract_type", .shown, inOrder [
    "impl", maybe (inOrder ["for", phrase "type_parameters"]),
    field "trait" (level 1 (oneOf [
      phrase "type_name", phrase "scoped_type_identifier", phrase "removed_trait_bound", phrase "generic_type",
      phrase "function_type", phrase "tuple_type", phrase "bounded_type"]))]⟩,
  ⟨"dynamic_type", .shown, inOrder [
    "dyn",
    field "trait" (level 1 (oneOf [
      phrase "higher_ranked_trait_bound", phrase "type_name", phrase "scoped_type_identifier", phrase "generic_type",
      phrase "function_type", phrase "tuple_type"]))]⟩,
  ⟨"mutable_specifier", .shown, "mut"⟩]

end Deadwood.Rust
