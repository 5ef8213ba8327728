/-
The grammar of Rust.

It takes a text apart down to its tokens and is lenient: much of what it accepts
a compiler refuses.
-/
import Deadwood.Rust.Contextual
import Deadwood.Rust.Grammar.Expression
import Deadwood.Rust.Grammar.Literal
import Deadwood.Rust.Grammar.Name
import Deadwood.Rust.Grammar.Pattern
import Deadwood.Rust.Grammar.Statement
import Deadwood.Rust.Grammar.Type

namespace Deadwood.Rust

open Parsing

/-- The grammar of Rust sources. -/
def grammar : Grammar where
  definitions :=
    statements ++ macros ++ items ++ types ++ expressions ++ patterns ++ literals ++ comments ++ names
  contextual := ContextualToken.table.map (·.2)
  extras := ["line_comment", "block_comment"]
  word := "identifier"

end Deadwood.Rust
