/-
Source files and their statements.
-/
import Deadwood.Parsing.Grammar

namespace Deadwood.Rust

open Parsing
open Parsing.Rule

/-- The items that may stand in a block or in a list of declarations. -/
def declarationKinds : List String := [
  "const_item", "macro_invocation", "macro_definition", "empty_statement", "attribute_item", "inner_attribute_item",
  "mod_item", "foreign_mod_item", "struct_item", "union_item", "enum_item", "type_item", "function_item",
  "function_signature_item", "impl_item", "trait_item", "associated_type", "let_declaration", "use_declaration",
  "extern_crate_declaration", "static_item"]

/-- A file, and what it is made of. -/
def statements : List Definition := [
  ⟨"source_file", .shown, inOrder [maybe (phrase "shebang"), many (phrase "statement")]⟩,
  ⟨"statement", .hidden, oneOf [phrase "expression_statement", phrase "declaration"]⟩,
  ⟨"empty_statement", .shown, ";"⟩,
  ⟨"expression_statement", .shown, oneOf [
    inOrder [phrase "expression", ";"],
    level 1 (phrase "blocklike_expression")]⟩,
  ⟨"declaration", .inlined, oneOf (declarationKinds.map phrase)⟩]

end Deadwood.Rust
