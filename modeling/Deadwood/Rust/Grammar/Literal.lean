/-
Literals and comments.
-/
import Deadwood.Rust.Grammar.Macro

namespace Deadwood.Rust

open Parsing
open Parsing.Rule

/-- The characters of hexadecimal numbers. -/
def hexDigit : Charset :=
  Charset.digit |>.union (Charset.range 'a' 'f') |>.union (Charset.range 'A' 'F')

/-- A character of a set. -/
def oneChar (set : Charset) : Pattern := .char set

/-- A number in a base that is given by a mark. -/
def basedNumber (mark : String) (digits : Charset) : Pattern :=
  .seq (.text mark) (.plus (oneChar (digits.union (Charset.ofText "_"))))

/-- The spellings of integers. -/
def integerPattern : Pattern :=
  .seq
    (.oneOf [
      .seq (oneChar Charset.digit) (.star (oneChar (Charset.digit.union (Charset.ofText "_")))),
      basedNumber "0x" hexDigit, basedNumber "0b" (Charset.ofText "01"), basedNumber "0o" (Charset.range '0' '7')])
    (.maybe (.oneOf (numericTypes.map Pattern.text)))

/-- A backslash with what it stands for. -/
def escapePattern : Pattern :=
  .seq (.text "\\") (.oneOf [
    oneChar (Charset.except (Charset.ofText "xu")),
    .seq (.text "u") (.times 4 (oneChar hexDigit)),
    .inOrder [.text "u\x7b", .plus (oneChar hexDigit), .text "\x7d"],
    .seq (.text "x") (.times 2 (oneChar hexDigit))])

/-- The spellings of characters. -/
def charPattern : Pattern :=
  .inOrder [
    .maybe (.text "b"), .text "'",
    .maybe (.oneOf [escapePattern, oneChar (Charset.except (Charset.ofText "\\'"))]),
    .text "'"]

/-- A token that follows without blanks. -/
def glued (lexeme : Lexeme) (level : Int) : Rule :=
  token { lexeme with glued := true, level }

/-- The rest of a line. -/
def restOfLine : Pattern :=
  .star (oneChar (Charset.except (Charset.ofText "\n")))

/-- Literals. -/
def literals : List Definition := [
  ⟨"literal", .family, oneOf [
    phrase "string_literal", phrase "raw_string_literal", phrase "char_literal", phrase "boolean_literal",
    phrase "integer_literal", phrase "float_literal"]⟩,
  ⟨"literal_pattern", .family, oneOf [
    phrase "string_literal", phrase "raw_string_literal", phrase "char_literal", phrase "boolean_literal",
    phrase "integer_literal", phrase "float_literal", phrase "negative_literal"]⟩,
  ⟨"negative_literal", .shown, inOrder ["-", oneOf [phrase "integer_literal", phrase "float_literal"]]⟩,
  ⟨"integer_literal", .shown, like integerPattern⟩,
  ⟨"string_literal", .shown, inOrder [
    shown ⟨"\"", false⟩ (like (.seq (.maybe (oneChar (Charset.ofText "bc"))) (.text "\""))),
    many (oneOf [phrase "escape_sequence", phrase "string_content"]),
    glued (Lexeme.word "\"") 0]⟩,
  ⟨"raw_string_literal", .shown, inOrder [
    phrase "raw_string_start", named "string_content" (phrase "raw_string_literal_content"),
    phrase "raw_string_end"]⟩,
  ⟨"char_literal", .shown, like charPattern⟩,
  ⟨"escape_sequence", .shown, glued (Lexeme.like escapePattern) 0⟩,
  ⟨"boolean_literal", .shown, words ["true", "false"]⟩]

/-- Comments. The first characters of a comment tell whether it documents what follows or what it stands in. -/
def comments : List Definition := [
  ⟨"line_comment", .shown, inOrder ["//", oneOf [
    inOrder [glued (Lexeme.like (.text "//")) 2, like restOfLine],
    inOrder [phrase "line_doc_mark", field "doc" (named "doc_comment" (phrase "line_doc_content"))],
    glued (Lexeme.like restOfLine) 1]]⟩,
  ⟨"line_doc_mark", .hidden, oneOf [
    field "outer" (named "outer_doc_comment_marker" (phrase "outer_line_doc_mark")),
    field "inner" (named "inner_doc_comment_marker" (phrase "inner_line_doc_mark"))]⟩,
  ⟨"inner_line_doc_mark", .hidden, glued (Lexeme.word "!") 2⟩,
  ⟨"outer_line_doc_mark", .hidden, glued (Lexeme.word "/") 2⟩,
  ⟨"block_comment", .shown, inOrder [
    "/*",
    maybe (oneOf [
      inOrder [phrase "block_doc_mark", maybe (field "doc" (named "doc_comment" (phrase "block_comment_content")))],
      phrase "block_comment_content"]),
    "*/"]⟩,
  ⟨"block_doc_mark", .hidden, oneOf [
    field "outer" (named "outer_doc_comment_marker" (phrase "outer_block_doc_mark")),
    field "inner" (named "inner_doc_comment_marker" (phrase "inner_block_doc_mark"))]⟩]

end Deadwood.Rust
