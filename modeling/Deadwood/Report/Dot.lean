/-
The call graph in the DOT language.

Dead functions are red, roots green and all others grey; calls out of dead
functions are dashed. The short form keeps the dead functions with their direct
callers and callees.

An identifier is written as it is if it is a name, a number or an HTML string,
and in quotes otherwise. The end of an edge is read as `node:field:compass`, so
an end with colons is written in these three parts.
-/
import Deadwood.Report.Outcome

namespace Deadwood.Dot

/-- A letter, digit or underscore of ASCII. -/
def isNameChar (c : Char) : Bool :=
  c.isAlphanum || c == '_'

/-- A name: letters, digits and underscores that do not begin with a digit. -/
def isName : List Char → Bool
  | [] => false
  | c :: cs => isNameChar c && !c.isDigit && cs.all isNameChar

/-- A number without its sign. -/
def isUnsigned (cs : List Char) : Bool :=
  match cs.span Char.isDigit with
  | ([], '.' :: fraction) => !fraction.isEmpty && fraction.all Char.isDigit
  | (_ :: _, []) => true
  | (_ :: _, '.' :: fraction) => fraction.all Char.isDigit
  | _ => false

/-- A number. -/
def isNumber : List Char → Bool
  | '-' :: cs => isUnsigned cs
  | cs => isUnsigned cs

/-- The words of the language, in lower case. -/
def keywords : List String := ["node", "edge", "graph", "digraph", "subgraph", "strict"]

/-- Characters without one line break at their end. -/
def dropFinalBreak (cs : List Char) : List Char :=
  if cs.getLast? == some '\n' then cs.dropLast else cs

/-- Whether a text is a name or number that is no keyword. A line break at the end does not count for the
form. -/
def isPlain (s : String) : Bool :=
  let cs := dropFinalBreak s.toList
  (isName cs || isNumber cs) && !keywords.contains s.toLower

/-- Whether a text is an HTML string. -/
def isHtml (s : String) : Bool :=
  let ends := fun cs : List Char => 2 ≤ cs.length && cs.getLast? == some '>'
  s.toList.head? == some '<' && (ends s.toList || ends (dropFinalBreak s.toList))

/-- Puts a backslash before each quote that has none of its own. `run` counts the backslashes just before. -/
def escapeQuotes (run : Nat) : List Char → List Char
  | [] => List.replicate run '\\'
  | '\\' :: rest => escapeQuotes (run + 1) rest
  | '"' :: rest => List.replicate (run - run % 2) '\\' ++ '\\' :: '"' :: escapeQuotes 0 rest
  | c :: rest => List.replicate run '\\' ++ c :: escapeQuotes 0 rest

/-- A text as an identifier. -/
def identifier (s : String) : String :=
  if isHtml s || isPlain s then s else "\"" ++ String.ofList (escapeQuotes 0 s.toList) ++ "\""

/-- The characters before the first colon, and those after it. -/
def cutColon (cs : List Char) : List Char × List Char :=
  (cs.takeWhile (· != ':'), (cs.dropWhile (· != ':')).drop 1)

/-- A text as an end of an edge. -/
def endpoint (s : String) : String :=
  let (node, rest) := cutColon s.toList
  let head := identifier (String.ofList node)
  if rest.isEmpty then head
  else
    let (field, compass) := cutColon rest
    let head := head ++ ":" ++ identifier (String.ofList field)
    if compass.isEmpty then head else head ++ ":" ++ String.ofList compass

/-- Attributes in brackets. -/
def attributes (pairs : List (String × String)) : String :=
  "[" ++ " ".intercalate (pairs.map fun pair => identifier pair.1 ++ "=" ++ identifier pair.2) ++ "]"

/-- A statement of a graph. -/
inductive Statement where
  | defaults (what : String) (attributes : List (String × String))
  | node (name : String) (attributes : List (String × String))
  | edge (source target : String) (attributes : List (String × String))

/-- The line of a statement. -/
def Statement.line : Statement → String
  | defaults what pairs => s!"\t{what} {Dot.attributes pairs}\n"
  | node name pairs => s!"\t{identifier name} {Dot.attributes pairs}\n"
  | edge source target pairs => s!"\t{endpoint source} -> {endpoint target} {Dot.attributes pairs}\n"

/-- The lines of a graph. -/
def render (name : String) (statements : List Statement) : List String :=
  s!"digraph {identifier name} \x7b\n" :: statements.map (·.line) ++ ["\x7d\n"]

/-- The defaults of all graphs. -/
def defaults : List Statement :=
  [.defaults "graph" [("rankdir", "LR"), ("splines", "spline")],
    .defaults "node" [("fontname", "Helvetica"), ("shape", "box"), ("style", "rounded,filled")],
    .defaults "edge" [("arrowhead", "vee")]]

/-- The name of a function in a graph. -/
def nodeName (key : Key) : String :=
  s!"{key.file}#{key.path}"

/-- The colour of a function. -/
def colour (verdict : Verdict) (key : Key) : String :=
  if verdict.dead.any (·.key == key) then "#F44336"
  else if verdict.roots.contains key then "#4CAF50"
  else "#E0E0E0"

/-- The statement of a function. -/
def nodeStatement (verdict : Verdict) (symbol : Symbol) : Statement :=
  .node (nodeName symbol.key)
    [("label", s!"{ModulePath.shortName symbol.fullPath}\n{symbol.file}:{symbol.span.startLine}"),
      ("fillcolor", colour verdict symbol.key), ("tooltip", symbol.fullPath)]

/-- The statement of a call. -/
def edgeStatement (verdict : Verdict) (edge : Key × Key) : Statement :=
  let style := if verdict.dead.any (·.key == edge.1) then "dashed" else "solid"
  .edge (nodeName edge.1) (nodeName edge.2) [("color", "black"), ("style", style)]

/-- The keys that a graph keeps: all functions, or the dead ones with their callers and callees. -/
def kept (graph : CallGraph) (verdict : Verdict) (onlyDead : Bool) : List Key :=
  if onlyDead then
    let dead := verdict.dead.map (·.key)
    let near := graph.edges.flatMap fun edge =>
      (if dead.contains edge.1 then [edge.2] else []) ++ (if dead.contains edge.2 then [edge.1] else [])
    (dead ++ near).eraseDups
  else graph.catalog.keys

/-- The statements of a call graph; an error names a key that is no function. -/
def statements (graph : CallGraph) (verdict : Verdict) (onlyDead : Bool) : Except Key (List Statement) := do
  let keys := kept graph verdict onlyDead
  let nodes ← (Key.sort keys).mapM fun key => match graph.catalog.symbol? key with
    | some symbol => .ok (nodeStatement verdict symbol)
    | none => .error key
  let edges := graph.sortedEdges.filter fun edge => keys.contains edge.1 && keys.contains edge.2
  return nodes ++ edges.map (edgeStatement verdict)

/-- The lines of the graph of an outcome; without a call graph it has no functions. -/
def ofOutcome (outcome : Outcome) (onlyDead : Bool) : Except Key (List String) := do
  let body ← match outcome.graph with
    | none => .ok []
    | some graph => statements graph outcome.verdict onlyDead
  return render "deadfn" (defaults ++ body)

end Deadwood.Dot
