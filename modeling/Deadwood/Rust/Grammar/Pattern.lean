/-
Patterns of values.
-/
import Deadwood.Rust.Grammar.Macro

namespace Deadwood.Rust

open Parsing
open Parsing.Rule

/-- One end of a range of values. -/
def rangeEnd : Rule :=
  oneOf [phrase "literal_pattern", phrase "path"]

/-- Patterns, and what they are made of. -/
def patterns : List Definition := [
  ⟨"pattern", .family, oneOf [
    phrase "literal_pattern", named "identifier" (words primitiveTypes), phrase "identifier",
    phrase "scoped_identifier", phrase "generic_pattern", phrase "tuple_pattern", phrase "tuple_struct_pattern",
    phrase "struct_pattern", phrase "soft_keyword", phrase "ref_pattern", phrase "slice_pattern",
    phrase "captured_pattern", phrase "reference_pattern", phrase "remaining_field_pattern", phrase "mut_pattern",
    phrase "range_pattern", phrase "or_pattern", phrase "const_block", phrase "macro_invocation", "_"]⟩,
  ⟨"generic_pattern", .shown, inOrder [
    oneOf [phrase "identifier", phrase "scoped_identifier"], "::",
    field "type_arguments" (phrase "type_arguments")]⟩,
  ⟨"tuple_pattern", .shown, between "(" ")" (commaList (oneOf [phrase "pattern", phrase "closure_expression"]))⟩,
  ⟨"slice_pattern", .shown, between "[" "]" (commaList (phrase "pattern"))⟩,
  ⟨"tuple_struct_pattern", .shown, inOrder [
    field "type" (oneOf [
      phrase "identifier", phrase "scoped_identifier",
      named "generic_type" (phrase "generic_type_with_turbofish")]),
    "(", commaList (phrase "pattern"), ")"]⟩,
  ⟨"struct_pattern", .shown, inOrder [
    field "type" (oneOf [phrase "type_name", phrase "scoped_type_identifier"]),
    "\x7b", commaList (oneOf [phrase "field_pattern", phrase "remaining_field_pattern"]), "\x7d"]⟩,
  ⟨"field_pattern", .shown, inOrder [
    maybe "ref", maybe (phrase "mutable_specifier"),
    oneOf [
      field "name" (named "shorthand_field_identifier" (phrase "identifier")),
      inOrder [field "name" (phrase "field_name"), ":", field "pattern" (phrase "pattern")]]]⟩,
  ⟨"remaining_field_pattern", .shown, ".."⟩,
  ⟨"mut_pattern", .shown, level (-1) (inOrder [phrase "mutable_specifier", phrase "pattern"])⟩,
  ⟨"range_pattern", .shown, oneOf [
    inOrder [
      field "left" rangeEnd,
      oneOf [inOrder [words ["...", "..=", ".."], field "right" rangeEnd], ".."]],
    inOrder [words ["..=", ".."], field "right" rangeEnd]]⟩,
  ⟨"ref_pattern", .shown, inOrder ["ref", phrase "pattern"]⟩,
  ⟨"captured_pattern", .shown, inOrder [phrase "identifier", "@", phrase "pattern"]⟩,
  ⟨"reference_pattern", .shown, inOrder ["&", maybe (phrase "mutable_specifier"), phrase "pattern"]⟩,
  ⟨"or_pattern", .shown, left (-2) (oneOf [
    inOrder [phrase "pattern", "|", phrase "pattern"], inOrder ["|", phrase "pattern"]])⟩]

end Deadwood.Rust
