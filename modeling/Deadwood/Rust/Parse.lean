/-
From the bytes of a file to its syntax tree.
-/
import Deadwood.Parsing.Reader
import Deadwood.Rust.Grammar
import Deadwood.Syntax.Source

namespace Deadwood.Rust

open Syntax (Node Kind Source)

/-- The table of the grammar. It is made when it is first needed. -/
def table : Thunk Parsing.Table :=
  Thunk.mk fun _ => Parsing.Table.build grammar

/-- A node of a syntax tree. -/
def makeNode (label : Parsing.Label) (start stop : Nat) (field : Option String) (missing : Bool)
    (children : List Node) : Node :=
  .mk (Kind.ofName label.name) start stop field label.named missing children

/-- The syntax tree of a file. -/
def parse (source : Source) : Node :=
  let text := Parsing.Letters.ofBytes source.bytes
  let job : Parsing.Job := ⟨⟨table.get, contextual?⟩, text⟩
  match job.read with
  | some tree => ((tree.render makeNode job.table text).head?).getD default
  | none => default

end Deadwood.Rust
