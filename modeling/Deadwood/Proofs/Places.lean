/-
The places of a file that matter to calls, and what the two walks do at them.

A file is walked twice, for its imports and for its calls.  Both walks come by the same places:
use declarations, call expressions, the token trees of macros and broken functions.  The main
statements are

* **`visit_eq`** — a walk does at each of these places, in the order of the text, what it is told
  to do there (`Place.note`), and nothing else;
* **`pass_true`** — so the walk for imports enters what the use declarations declare, and leaves
  calls and diagnostics alone;
* **`pass_false`** — and the walk for calls leaves the imports alone and qualifies every call by
  them;
* **`FileCalls.extract_eq`** — hence all calls are qualified by the imports of the whole file.

The induction is that of the tree, for both walks at once.
-/
import Deadwood.CallSite.Extract

namespace Deadwood

open Syntax

/-! ### The places of a file -/

mutual

/-- The places in a node. -/
def placesIn (source : Source) (scope : Scope) : Node → List Place
  | node@(.mk kind _ _ _ _ _ children) => match kind with
    | .functionItem => match enterable? source node with
      | none => [.broken node]
      | some name => placesInFunction source (scope.enter .function name) children
    | .modItem => match moduleName? source node with
      | none => []
      | some name => placesInBody source (scope.enter .module name) children
    | .implItem | .traitItem =>
      placesInBody source (scope.enter .owner (Owner.ofItem source node).name) children
    | .useDeclaration => [.use scope node]
    | .macroInvocation =>
      (children.filter fun child => child.named && child.kind == .tokenTree).map (.tokens scope)
    | .foreignModItem | .macroDefinition | .attributeItem => []
    | .callExpression => .call scope node :: placesAmong source scope children
    | _ => placesAmong source scope children

/-- The places in the named ones of several nodes. -/
def placesAmong (source : Source) (scope : Scope) : List Node → List Place
  | [] => []
  | node :: rest =>
    (if node.named then placesIn source scope node else []) ++ placesAmong source scope rest

/-- The places in the body of a function, which is the first of several nodes that fills that field. -/
def placesInFunction (source : Source) (scope : Scope) : List Node → List Place
  | [] => []
  | node :: rest =>
    if node.field == some "body" then placesIn source scope node else placesInFunction source scope rest

/-- The places among the parts of a body, which is the first of several nodes that fills that field. -/
def placesInBody (source : Source) (scope : Scope) : List Node → List Place
  | [] => []
  | node@(.mk _ _ _ _ _ _ children) :: rest =>
    if node.field == some "body" then placesAmong source scope children else placesInBody source scope rest

end

/-- All places of a file. -/
def places (file : String) (source : Source) (root : Node) : List Place :=
  placesAmong source (Scope.ofFile file) root.children

/-! ### What is done at a place -/

/-- The imports after a place. -/
def Place.declare (source : Source) (imports : Imports) : Place → Imports
  | .use scope item => imports.declare source scope item
  | .call .. | .tokens .. | .broken _ => imports

/-- The imports that a list of places declares. -/
def importsOf (source : Source) (places : List Place) : Imports :=
  places.foldl (Place.declare source) {}

/-- The diagnostics of the broken functions among some places. -/
def FileCalls.brokenDiagnostics (file : String) (source : Source) (places : List Place) : List Diagnostic :=
  places.filterMap fun place => match place with
    | .broken node => some (.skipped file source node (source.fieldText? node "name"))
    | _ => none

/-- What one of the walks does at a place. -/
def Place.note (file : String) (source : Source) (usesOnly : Bool) (findings : Findings) : Place → Findings
  | .use scope item => if usesOnly then findings.declare source scope item else findings
  | .call scope expression => if usesOnly then findings else findings.record file source (.call scope expression)
  | .tokens scope tree => if usesOnly then findings else findings.record file source (.tokens scope tree)
  | .broken function => if usesOnly then findings else findings.report file source function

section

variable {file : String} {source : Source} {usesOnly : Bool}

theorem foldl_note_tokens (scope : Scope) (findings : Findings) (trees : List Node) :
    (trees.map (Place.tokens scope)).foldl (Place.note file source usesOnly) findings =
      if usesOnly then findings
      else trees.foldl (fun findings tree => findings.record file source (.tokens scope tree)) findings := by
  cases usesOnly with
  | true =>
    rw [if_pos rfl]
    induction trees with
    | nil => rfl
    | cons tree rest ih => exact ih
  | false => rw [List.foldl_map]; rfl

mutual

/-- A walk does at each place what it is told to do there. -/
theorem visit_eq : ∀ (node : Node) (scope : Scope) (findings : Findings),
    visit file source usesOnly scope findings node =
      (placesIn source scope node).foldl (Place.note file source usesOnly) findings
  | .mk kind start stop field named missing children, scope, findings => by
    cases kind with
    | functionItem =>
      rw [visit, placesIn]
      cases enterable? source (.mk .functionItem start stop field named missing children) with
      | none => rfl
      | some name => exact visitFunction_eq children _ findings
    | modItem =>
      rw [visit, placesIn]
      cases moduleName? source (.mk .modItem start stop field named missing children) with
      | none => rfl
      | some name => exact visitBody_eq children _ findings
    | implItem =>
      rw [visit, placesIn]
      exact visitBody_eq children _ findings
    | traitItem =>
      rw [visit, placesIn]
      exact visitBody_eq children _ findings
    | useDeclaration =>
      rw [visit, placesIn]
      rfl
    | macroInvocation =>
      rw [visit, placesIn]
      exact (foldl_note_tokens scope findings _).symm
    | foreignModItem | macroDefinition | attributeItem =>
      rw [visit, placesIn]
      rfl
    | callExpression =>
      rw [visit, placesIn]
      exact visitAmong_eq children scope _
    | _ =>
      simp only [visit, placesIn]
      exact visitAmong_eq children scope findings

theorem visitAmong_eq : ∀ (nodes : List Node) (scope : Scope) (findings : Findings),
    visitAmong file source usesOnly scope findings nodes =
      (placesAmong source scope nodes).foldl (Place.note file source usesOnly) findings
  | [], _, _ => by
    rw [visitAmong, placesAmong]
    rfl
  | node :: rest, scope, findings => by
    rw [visitAmong, placesAmong, List.foldl_append, ← visitAmong_eq rest scope]
    by_cases hnamed : node.named = true
    · rw [if_pos hnamed, if_pos hnamed, visit_eq node scope findings]
    · rw [if_neg hnamed, if_neg hnamed]
      rfl

theorem visitFunction_eq : ∀ (nodes : List Node) (scope : Scope) (findings : Findings),
    visitFunction file source usesOnly scope findings nodes =
      (placesInFunction source scope nodes).foldl (Place.note file source usesOnly) findings
  | [], _, _ => by
    rw [visitFunction, placesInFunction]
    rfl
  | node :: rest, scope, findings => by
    rw [visitFunction, placesInFunction]
    by_cases hbody : (node.field == some "body") = true
    · rw [if_pos hbody, if_pos hbody, visit_eq node scope findings]
    · rw [if_neg hbody, if_neg hbody, visitFunction_eq rest scope findings]

theorem visitBody_eq : ∀ (nodes : List Node) (scope : Scope) (findings : Findings),
    visitBody file source usesOnly scope findings nodes =
      (placesInBody source scope nodes).foldl (Place.note file source usesOnly) findings
  | [], _, _ => by
    rw [visitBody, placesInBody]
    rfl
  | .mk kind start stop field named missing children :: rest, scope, findings => by
    rw [visitBody, placesInBody]
    by_cases hbody : ((Node.mk kind start stop field named missing children).field == some "body") = true
    · rw [if_pos hbody, if_pos hbody, visitAmong_eq children scope findings]
    · rw [if_neg hbody, if_neg hbody, visitBody_eq rest scope findings]

end

end

/-! ### The two walks -/

namespace FileCalls

variable {file : String} {source : Source} {root : Node}

/-- The walk for imports enters what the use declarations declare, and does nothing else. -/
theorem pass_true (findings : Findings) :
    pass file source root true findings =
      { findings with imports := (places file source root).foldl (Place.declare source) findings.imports } := by
  rw [pass, visitAmong_eq]
  show (places file source root).foldl _ findings = _
  generalize places file source root = found
  induction found generalizing findings with
  | nil => rfl
  | cons place rest ih =>
    rw [List.foldl_cons, ih]
    cases place <;> rfl

/-- The walk for calls qualifies every call by the imports that are there, and reports the broken functions. -/
theorem pass_false (findings : Findings) :
    pass file source root false findings =
      { calls := findings.calls ++ (places file source root).flatMap (callsAt file source findings.imports)
        imports := findings.imports
        diagnostics := findings.diagnostics ++ brokenDiagnostics file source (places file source root)
        reported := findings.reported || !(brokenDiagnostics file source (places file source root)).isEmpty } := by
  rw [pass, visitAmong_eq]
  show (places file source root).foldl _ findings = _
  generalize places file source root = found
  induction found generalizing findings with
  | nil => simp [brokenDiagnostics]
  | cons place rest ih =>
    rw [List.foldl_cons, ih]
    cases place with
    | use scope item => rfl
    | call scope expression =>
      simp [Place.note, Findings.record, brokenDiagnostics, List.append_assoc]
    | tokens scope tree =>
      simp [Place.note, Findings.record, brokenDiagnostics, List.append_assoc]
    | broken function =>
      simp [Place.note, Findings.report, brokenDiagnostics, callsAt]

/-- All calls of a file are qualified by the imports of the whole file. -/
theorem extract_eq (file : String) (source : Source) (root : Node) :
    extract file source root =
      { calls := (places file source root).flatMap (callsAt file source (importsOf source (places file source root)))
        imports := importsOf source (places file source root)
        diagnostics :=
          if root.hasError && (brokenDiagnostics file source (places file source root)).isEmpty then
            [.outsideFunctions file source root]
          else brokenDiagnostics file source (places file source root) } := by
  rw [extract, pass_true, pass_false]
  simp only [List.nil_append, Bool.false_or, Bool.not_not]
  split
  · rename_i hlast
    rw [List.isEmpty_iff.mp (Bool.and_eq_true_iff.mp hlast).2]
    rfl
  · rfl

theorem calls_eq (file : String) (source : Source) (root : Node) :
    (extract file source root).calls =
      (places file source root).flatMap (callsAt file source (extract file source root).imports) := by
  rw [extract_eq]

theorem imports_eq (file : String) (source : Source) (root : Node) :
    (extract file source root).imports = importsOf source (places file source root) := by
  rw [extract_eq]

end FileCalls

end Deadwood
