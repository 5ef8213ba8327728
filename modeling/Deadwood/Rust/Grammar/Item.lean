/-
Items: functions, types, traits, modules and imports.
-/
import Deadwood.Rust.Grammar.Macro

namespace Deadwood.Rust

open Parsing
open Parsing.Rule

/-- Items that may be attributed, in a list with commas. -/
def attributed (item : Rule) : Rule :=
  seq (many (phrase "attribute_item")) item

/-- The head of an item: its visibility and what follows. -/
def item (parts : List Rule) : Rule :=
  inOrder (maybe (phrase "visibility_modifier") :: parts)

/-- The name and the type parameters of an item that defines a type. -/
def typeHead : Rule :=
  inOrder [field "name" (phrase "type_name"), field "type_parameters" (maybe (phrase "type_parameters"))]

/-- A function up to its body. -/
def functionHead : Rule :=
  inOrder [
    maybe (phrase "function_modifiers"),
    "fn",
    field "name" (oneOf [phrase "identifier", phrase "metavariable"]),
    field "type_parameters" (maybe (phrase "type_parameters")),
    field "parameters" (phrase "parameters"),
    maybe (inOrder ["->", field "return_type" (phrase "type")]),
    maybe (phrase "where_clause")]

/-- A value that may be given. -/
def initialValue : Rule :=
  maybe (inOrder ["=", field "value" (phrase "expression")])

/-- Attributes and items that stand alone. -/
def attributesAndModules : List Definition := [
  ⟨"attribute_item", .shown, inOrder ["#", "[", phrase "attribute", "]"]⟩,
  ⟨"inner_attribute_item", .shown, inOrder ["#", "!", "[", phrase "attribute", "]"]⟩,
  ⟨"attribute", .shown, inOrder [
    phrase "path",
    maybe (oneOf [
      inOrder ["=", field "value" (phrase "expression")],
      field "arguments" (named "token_tree" (phrase "delimited_tokens"))])]⟩,
  ⟨"mod_item", .shown, item ["mod", field "name" (phrase "identifier"),
    oneOf [";", field "body" (phrase "declaration_list")]]⟩,
  ⟨"foreign_mod_item", .shown, inOrder [maybe "unsafe", phrase "extern_modifier",
    oneOf [";", field "body" (phrase "declaration_list")]]⟩,
  ⟨"declaration_list", .shown, between "\x7b" "\x7d" (many (phrase "declaration"))⟩]

/-- Structures, unions and enumerations. -/
def dataItems : List Definition := [
  ⟨"struct_item", .shown, item ["struct", typeHead, oneOf [
    inOrder [maybe (phrase "where_clause"), field "body" (phrase "field_declaration_list")],
    inOrder [field "body" (phrase "ordered_field_declaration_list"), maybe (phrase "where_clause"), ";"],
    ";"]]⟩,
  ⟨"union_item", .shown, item ["union", typeHead,
    maybe (phrase "where_clause"), field "body" (phrase "field_declaration_list")]⟩,
  ⟨"enum_item", .shown, item ["enum", typeHead,
    maybe (phrase "where_clause"), field "body" (phrase "enum_variant_list")]⟩,
  ⟨"enum_variant_list", .shown, between "\x7b" "\x7d" (commaList (attributed (phrase "enum_variant")))⟩,
  ⟨"enum_variant", .shown, item [
    field "name" (phrase "identifier"),
    field "body" (maybe (oneOf [phrase "field_declaration_list", phrase "ordered_field_declaration_list"])),
    initialValue]⟩,
  ⟨"field_declaration_list", .shown, between "\x7b" "\x7d" (commaList (attributed (phrase "field_declaration")))⟩,
  ⟨"field_declaration", .shown, item [field "name" (phrase "field_name"), ":", field "type" (phrase "type")]⟩,
  ⟨"ordered_field_declaration_list", .shown, between "(" ")"
    (commaList (attributed (item [field "type" (phrase "type")])))⟩,
  ⟨"extern_crate_declaration", .shown, item ["extern", phrase "crate", field "name" (phrase "identifier"),
    maybe (inOrder ["as", field "alias" (phrase "identifier")]), ";"]⟩,
  ⟨"const_item", .shown, item ["const", field "name" (phrase "identifier"), ":", field "type" (phrase "type"),
    initialValue, ";"]⟩,
  ⟨"static_item", .shown, item ["static", maybe "ref", maybe (phrase "mutable_specifier"),
    field "name" (phrase "identifier"), ":", field "type" (phrase "type"), initialValue, ";"]⟩,
  ⟨"type_item", .shown, item ["type", typeHead,
    maybe (phrase "where_clause"), "=", field "type" (phrase "type"), maybe (phrase "where_clause"), ";"]⟩]

/-- Functions, implementations, traits and their parameters. -/
def functionItems : List Definition := [
  ⟨"function_item", .shown, item [functionHead, field "body" (phrase "block")]⟩,
  ⟨"function_signature_item", .shown, item [functionHead, ";"]⟩,
  ⟨"function_modifiers", .shown, several (oneOf [
    "async", "default", "const", "unsafe", phrase "extern_modifier"])⟩,
  ⟨"where_clause", .shown, right 0 (inOrder ["where",
    maybe (inOrder [separated1 "," (phrase "where_predicate"), maybe ","])])⟩,
  ⟨"where_predicate", .shown, inOrder [
    field "left" (oneOf [
      phrase "lifetime", phrase "type_name", phrase "scoped_type_identifier", phrase "generic_type",
      phrase "reference_type", phrase "pointer_type", phrase "tuple_type", phrase "array_type",
      phrase "higher_ranked_trait_bound", named "primitive_type" (words primitiveTypes)]),
    field "bounds" (phrase "trait_bounds")]⟩,
  ⟨"impl_item", .shown, inOrder [
    maybe "unsafe", "impl",
    field "type_parameters" (maybe (phrase "type_parameters")),
    maybe (inOrder [
      maybe "!",
      field "trait" (oneOf [phrase "type_name", phrase "scoped_type_identifier", phrase "generic_type"]),
      "for"]),
    field "type" (phrase "type"),
    maybe (phrase "where_clause"),
    oneOf [field "body" (phrase "declaration_list"), ";"]]⟩,
  ⟨"trait_item", .shown, item [maybe "unsafe", "trait", typeHead,
    field "bounds" (maybe (phrase "trait_bounds")), maybe (phrase "where_clause"),
    field "body" (phrase "declaration_list")]⟩,
  ⟨"associated_type", .shown, inOrder ["type", typeHead,
    field "bounds" (maybe (phrase "trait_bounds")), maybe (phrase "where_clause"), ";"]⟩,
  ⟨"trait_bounds", .shown, inOrder [":", separated1 "+" (oneOf [
    phrase "type", phrase "lifetime", phrase "higher_ranked_trait_bound"])]⟩,
  ⟨"higher_ranked_trait_bound", .shown, inOrder [
    "for", field "type_parameters" (phrase "type_parameters"), field "type" (phrase "type")]⟩,
  ⟨"removed_trait_bound", .shown, inOrder ["?", phrase "type"]⟩,
  ⟨"type_parameters", .shown, level 1 (inOrder [
    "<",
    separated1 "," (attributed (oneOf [
      phrase "metavariable", phrase "type_parameter", phrase "lifetime_parameter", phrase "const_parameter"])),
    maybe ",",
    ">"])⟩,
  ⟨"const_parameter", .shown, inOrder [
    "const", field "name" (phrase "identifier"), ":", field "type" (phrase "type"),
    maybe (inOrder ["=", field "value" (oneOf [
      phrase "block", phrase "identifier", phrase "literal", phrase "negative_literal"])])]⟩,
  ⟨"type_parameter", .shown, level 1 (inOrder [
    field "name" (phrase "type_name"), maybe (field "bounds" (phrase "trait_bounds")),
    maybe (inOrder ["=", field "default_type" (phrase "type")])])⟩,
  ⟨"lifetime_parameter", .shown, level 1 (inOrder [
    field "name" (phrase "lifetime"), maybe (field "bounds" (phrase "trait_bounds"))])⟩,
  ⟨"let_declaration", .shown, inOrder [
    "let", maybe (phrase "mutable_specifier"), field "pattern" (phrase "pattern"),
    maybe (inOrder [":", field "type" (phrase "type")]), initialValue,
    maybe (inOrder ["else", field "alternative" (phrase "block")]), ";"]⟩]

/-- Imports, parameters and modifiers. -/
def importsAndParameters : List Definition := [
  ⟨"use_declaration", .shown, item ["use", field "argument" (phrase "use_clause"), ";"]⟩,
  ⟨"use_clause", .hidden, oneOf [
    phrase "path", phrase "use_as_clause", phrase "use_list", phrase "scoped_use_list", phrase "use_wildcard"]⟩,
  ⟨"scoped_use_list", .shown, inOrder [
    field "path" (maybe (phrase "path")), "::", field "list" (phrase "use_list")]⟩,
  ⟨"use_list", .shown, between "\x7b" "\x7d" (commaList (phrase "use_clause"))⟩,
  ⟨"use_as_clause", .shown, inOrder [field "path" (phrase "path"), "as", field "alias" (phrase "identifier")]⟩,
  ⟨"use_wildcard", .shown, inOrder [maybe (inOrder [maybe (phrase "path"), "::"]), "*"]⟩,
  ⟨"parameters", .shown, between "(" ")" (commaList (inOrder [
    maybe (phrase "attribute_item"),
    oneOf [phrase "parameter", phrase "self_parameter", phrase "variadic_parameter", "_", phrase "type"]]))⟩,
  ⟨"self_parameter", .shown, inOrder [
    maybe "&", maybe (phrase "lifetime"), maybe (phrase "mutable_specifier"), phrase "self"]⟩,
  ⟨"variadic_parameter", .shown, inOrder [
    maybe (phrase "mutable_specifier"), maybe (inOrder [field "pattern" (phrase "pattern"), ":"]), "..."]⟩,
  ⟨"parameter", .shown, inOrder [
    maybe (phrase "mutable_specifier"), field "pattern" (oneOf [phrase "pattern", phrase "self"]), ":",
    field "type" (phrase "type")]⟩,
  ⟨"extern_modifier", .shown, inOrder ["extern", maybe (phrase "string_literal")]⟩,
  ⟨"visibility_modifier", .shown, oneOf [
    phrase "crate",
    inOrder ["pub", maybe (between "(" ")" (oneOf [
      phrase "self", phrase "super", phrase "crate", inOrder ["in", phrase "path"]]))]]⟩]

/-- All items, and what they are made of. -/
def items : List Definition :=
  attributesAndModules ++ dataItems ++ functionItems ++ importsAndParameters

end Deadwood.Rust
