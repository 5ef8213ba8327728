/-
Attributes in front of a function.

`#[test]`, `#[tokio::test(flavor = "x")]` and the like: an attribute is known by
its path alone, and the last part of the path tells tests and functions that are
called from outside of Rust.
-/
import Deadwood.Syntax.Source
import Deadwood.ModulePath

namespace Deadwood.Attribute

open Syntax

/-- Attributes that make a function a test. -/
def testNames : List String := ["test", "bench", "rstest", "test_case", "quickcheck", "proptest"]

/-- Attributes that make a function callable from outside of Rust. -/
def foreignNames : List String := ["no_mangle", "export_name"]

/-- Whether one of the attributes makes a function a test. -/
def marksTest (paths : List String) : Bool :=
  paths.any fun path => testNames.contains (ModulePath.lastPart path)

/-- Whether one of the attributes makes a function callable from outside of Rust. -/
def marksForeign (paths : List String) : Bool :=
  paths.any fun path => foreignNames.contains (ModulePath.lastPart path)

/-- The path of an attribute; of `#[unsafe(no_mangle)]` it is the identifier inside. -/
def path? (source : Source) (item : Node) : Option String :=
  match item.namedChildren.find? (·.kind == .attributeContent) with
  | none => none
  | some content => match content.namedChildren with
    | [] => none
    | head :: rest =>
      let path := Text.dropBlanks (source.text head)
      let wrapped : Option Node := match rest with
        | [] => none
        | inner :: _ => inner.namedChildren.find? fun node => node.kind == .identifier
      if path == "unsafe" then wrapped.elim (some path) (some ∘ source.text) else some path

/-- Whether a node may stand in the row of attributes in front of an item. -/
def isInRow (node : Node) : Bool :=
  node.kind == .attributeItem || node.kind == .lineComment || node.kind == .blockComment

/-- The attributes in front of a node, given the siblings before it from the nearest one on. -/
def preceding (source : Source) (before : List Node) : List String :=
  (((before.takeWhile isInRow).filter (·.kind == .attributeItem)).filterMap fun item =>
    (path? source item).filter (· != "")).reverse

end Deadwood.Attribute
