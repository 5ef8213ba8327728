/-
Paths and names.
-/
import Deadwood.Rust.Grammar.Macro

namespace Deadwood.Rust

open Parsing
open Parsing.Rule

/-- The spellings of identifiers. -/
def identifierPattern : Pattern :=
  .inOrder [
    .maybe (.text "r#"), .char Charset.identifierStart, .star (.char Charset.identifierPart)]

/-- A first line for the system that runs the file. A bracket after the mark would begin an attribute. -/
def shebangPattern : Pattern :=
  let rest : Pattern := .star (.char (Charset.except (Charset.ofText "\n")))
  .inOrder [
    .text "#!", .star (.char (Charset.ofText "\r\x0c\t\x0b ")),
    .maybe (.seq (.char (Charset.except (Charset.ofText "[\n"))) rest), .text "\n"]

/-- Paths and names. Keywords that are also names are only words of their own where the grammar asks for them. -/
def names : List Definition := [
  ⟨"path", .inlined, oneOf [
    phrase "self", named "identifier" (words primitiveTypes), phrase "metavariable", phrase "super", phrase "crate",
    phrase "identifier", phrase "scoped_identifier", phrase "soft_keyword"]⟩,
  ⟨"identifier", .shown, like identifierPattern⟩,
  ⟨"shebang", .shown, like shebangPattern⟩,
  ⟨"soft_keyword", .inlined, named "identifier" (words ["default", "union", "gen", "raw"])⟩,
  ⟨"type_name", .inlined, named "type_identifier" (phrase "identifier")⟩,
  ⟨"field_name", .inlined, named "field_identifier" (phrase "identifier")⟩,
  ⟨"self", .shown, "self"⟩,
  ⟨"super", .shown, "super"⟩,
  ⟨"crate", .shown, "crate"⟩,
  ⟨"metavariable", .shown, like (.inOrder [
    .text "$", .char (Charset.range 'a' 'z' |>.union (Charset.range 'A' 'Z') |>.union (Charset.ofText "_")),
    .star (.char Charset.word)])⟩]

end Deadwood.Rust
