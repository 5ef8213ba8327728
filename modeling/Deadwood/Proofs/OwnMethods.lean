/-
Calls of a type on itself.

In an `impl` or `trait` item, `self.m()` and `Self::m()` mean the method `m` of the type.
The walk over calls finds the type in the frames that are open, and the walk over
declarations puts the same frames into the path of the method.

* **`Scope.framesTo_of_last`** — the frames down to the innermost owner end with it;
* **`Callee.resolved_of_isOwn`** — hence both ways of writing a call are recorded with the
  path that a method of that owner has;
* **`own_method_reached`** — and a call with such a path reaches that method only, whatever
  else the project holds;
* **`comment_hides_self`** — among the tokens of a macro, a comment before the dot hides
  `self`, and the call reaches methods of other types.
-/
import Deadwood.Proofs.Callees
import Deadwood.Proofs.FunctionItems
import Deadwood.Proofs.OwnPaths

namespace Deadwood

open Syntax
open ModulePath (join)

/-- What is called is a method of the type itself: `self.m` or `Self::m`. -/
def Callee.IsOwn (name : String) (callee : Callee) : Prop :=
  callee = .method name true ∨ callee = .path ["Self"] name

/-! ### The innermost owner -/

/-- The frames down to the innermost one of a kind end with it. -/
theorem Scope.framesTo_of_last (base : List String) {outer inner : List Frame} {frame : Frame}
    (hinner : ∀ other ∈ inner, other.kind ≠ frame.kind) :
    Scope.framesTo ⟨base, outer ++ frame :: inner⟩ frame.kind = outer ++ [frame] := by
  have hskip : ∀ other ∈ inner.reverse, (other.kind != frame.kind) = true :=
    fun other hother => bne_iff_ne.mpr (hinner other (List.mem_reverse.mp hother))
  rw [framesTo, List.reverse_append, List.reverse_cons, List.append_assoc, List.dropWhile_append_of_pos hskip,
    List.singleton_append, List.dropWhile_cons_of_neg (by simp), List.reverse_cons, List.reverse_reverse]

/-- The path of a method called on `self` is that of a declaration in the innermost owner. -/
theorem ownMethodPath?_of_last (base : List String) {outer inner : List Frame} {owner : String}
    (hinner : ∀ frame ∈ inner, frame.kind ≠ .owner) (name : String) :
    ownMethodPath? ⟨base, outer ++ ⟨.owner, owner⟩ :: inner⟩ name =
      some (Scope.fullPath ⟨base, outer ++ [⟨.owner, owner⟩]⟩ name) := by
  have hframes : Scope.framesTo ⟨base, outer ++ ⟨.owner, owner⟩ :: inner⟩ .owner = outer ++ [⟨.owner, owner⟩] :=
    Scope.framesTo_of_last base hinner
  have hsegments : Scope.ownerSegments? ⟨base, outer ++ ⟨.owner, owner⟩ :: inner⟩ =
      some (Scope.segments ⟨base, outer ++ [⟨.owner, owner⟩]⟩) := by
    rw [Scope.ownerSegments?, hframes]
    split
    · rename_i hnil
      exact absurd hnil (by simp)
    · rfl
  rw [ownMethodPath?, hsegments]
  rfl

/-! ### How the calls are recorded -/

section

variable {file : String} {source : Source} {imports : Imports} {scope : Scope} {node : Node} {fromMacro : Bool}
  {name : String} {callee : Callee}

theorem qualify_Self (imports : Imports) (scope : Scope) (name : String) :
    qualify imports scope ["Self", name] = (some (join ["Self", name]), ownMethodPath? scope name) := by
  simp [qualify, relativeHeads, Scope.normalize?, ownMethodPath?, Function.comp_def]

theorem Callee.resolved_of_isOwn (h : callee.IsOwn name) :
    (callee.site file source imports scope node fromMacro).resolved = ownMethodPath? scope name := by
  rcases h with rfl | rfl
  · rfl
  · rw [site, List.singleton_append, qualify_Self]

/-- The scopes around the call are not searched for it: it is a method call, or written with a path. -/
theorem Catalog.lexical?_of_isOwn (catalog : Catalog) (h : callee.IsOwn name) :
    catalog.lexical? (callee.site file source imports scope node fromMacro) = none := by
  rcases h with rfl | rfl
  · simp [lexical?, Callee.site, methodCall]
  · have hpath : (Callee.site file source imports scope node fromMacro (.path ["Self"] name)).path =
        some (join ["Self", name]) := by
      rw [Callee.site, List.singleton_append, qualify_Self]
    exact lexical?_of_path hpath

end

/-- Among tokens, an identifier after a dot is a method, and one of `self` only if that is the very token before. -/
theorem CalleeBefore.of_dot {source : Source} {token dot receiver : Node} {rest : List Node}
    (kind : token.kind = .identifier) (hdot : source.text dot = ".") :
    CalleeBefore source (token :: dot :: receiver :: rest) token
      (.method (source.text token) (receiver.kind == .selfKeyword)) := by
  have hrun : pathBefore source [source.text token] (dot :: receiver :: rest) =
      ([] ++ [source.text token], dot :: receiver :: rest) := by
    have hseparator : ("." == ModulePath.separator) = false := by decide
    rw [pathBefore, hdot, hseparator, Bool.false_and, if_neg Bool.false_ne_true, List.nil_append]
  exact .method kind hrun (congrArg some hdot)

/-- A group among tokens comes after those before it. -/
theorem GroupAfter.append {source : Source} {before rest : List Node} {group : Node} (skipped : List Node)
    (kind : group.kind = .tokenTree) (opens : isParenthesised source group = true) :
    GroupAfter source before (skipped ++ group :: rest) (skipped.reverse ++ before) := by
  induction skipped generalizing before with
  | nil => exact .here kind opens
  | cons token skipped ih =>
    rw [List.reverse_cons, List.append_assoc]
    exact .later ih

/-! ### Where the calls lead -/

/-- A function that is recorded has a path. -/
theorem FileSymbols.fullPath_ne_empty {file : String} {source : Source} {root : Node} {s : Symbol}
    (h : s ∈ (extract file source root).symbols) : s.fullPath ≠ "" := by
  rw [symbols_extract] at h
  obtain ⟨symbol, hmem, heq⟩ := sound_of_mem_foldl h
  obtain ⟨declaration, -, hsound⟩ := List.mem_map.mp hmem
  rw [Declaration.outcome] at hsound
  split at hsound
  · exact absurd hsound (by simp)
  · rename_i name hname
    rw [heq, ← Declaration.Outcome.sound.inj hsound]
    exact ModulePath.join_concat_ne_empty _ (enterable?_eq_some_iff.mp hname).2.2

/-- **A call on the type itself reaches its own method only.**  Let `self.m()` or `Self::m()` be written in a file of a
project, in an expression or in a macro with nothing between its tokens, and let the innermost `impl` or `trait` item
around it be `owner`.  If the file has a function with the path of `m` in there, the call is linked to it and to
nothing else, whatever other files, functions and imports there are.  A function item `m` in that place, or in another
item of the same owner in the same scope, has that path. -/
theorem own_method_reached {files : List (String × Source × Node)} {graph : CallGraph}
    (hgraph : FileFacts.graph (FileFacts.ofTrees files) = .ok graph) {file : String} {source : Source} {root : Node}
    (hfile : (file, source, root) ∈ files) {w : WrittenCall} (hw : Written source root w) {name : String}
    (hown : w.callee.IsOwn name) {outer inner : List Frame} {owner : String}
    (hframes : w.frames = outer ++ ⟨.owner, owner⟩ :: inner) (hinner : ∀ frame ∈ inner, frame.kind ≠ .owner)
    {call : CallSite} (hcall : w.site file source (FileCalls.extract file source root).imports = call) {path : String}
    (hpath : path = Scope.fullPath ⟨ModulePath.ofFile file, outer ++ [⟨.owner, owner⟩]⟩ name) :
    ((∃ s ∈ (FileSymbols.extract file source root).symbols, s.fullPath = path) →
      graph.catalog.resolve call = .ok (.linked .exact [⟨file, path⟩]) ∧
        (call, [⟨file, path⟩]) ∈ graph.resolutions) ∧
    ∀ item, Reached declarationStops source root item → item.node.kind = .functionItem →
      item.frames = outer ++ [⟨.owner, owner⟩] → enterable? source item.node = some name →
      ∃ s ∈ (FileSymbols.extract file source root).symbols, s.fullPath = path := by
  have hrecords := CallGraph.records_build hgraph
  have hwritten : call ∈ (FileCalls.extract file source root).calls := hcall ▸ hw.mem_calls
  have hmem : call ∈ (FileFacts.ofTrees files).flatMap fun facts => facts.calls.calls :=
    List.mem_flatMap.mpr ⟨_, List.mem_map_of_mem hfile, hwritten⟩
  have hresolved : call.resolved = some path := by
    rw [← hcall, WrittenCall.site, Callee.resolved_of_isOwn hown, WrittenCall.scope, hframes,
      ownMethodPath?_of_last _ hinner, hpath]
  have houter : graph.catalog.lexical? call = none := hcall ▸ graph.catalog.lexical?_of_isOwn hown
  constructor
  · rintro ⟨s, hs, hdeclared⟩
    have hkey : (⟨call.file, path⟩ : Key) ∈ graph.catalog.keys := by
      rw [hrecords.catalog_eq, Catalog.mem_keys_ofProject]
      refine List.mem_map.mpr ⟨s, List.mem_flatMap.mpr ⟨_, List.mem_map_of_mem hfile, hs⟩, ?_⟩
      rw [Symbol.key, hdeclared, file_of_mem_calls hwritten, FileSymbols.file_of_mem_symbols hs]
    have hnonempty : path ≠ "" := hdeclared ▸ FileSymbols.fullPath_ne_empty hs
    obtain ⟨r, hr⟩ := hrecords.resolved call hmem
    rw [← hrecords.catalog_eq] at hr
    -- The path is known in the caller's file, so the rule for such paths decides before any other.
    obtain rfl := (Catalog.resolves_of_resolve hr).eq_of_declared houter
      ⟨hresolved, hnonempty⟩ hkey
    rw [file_of_mem_calls hwritten] at hr
    exact ⟨hr, (CallGraph.mem_resolutions_of_build hgraph).mpr ⟨hmem, _, hr⟩⟩
  · intro item hitem hkind hplace hname
    rw [hpath, ← hplace]
    exact hitem.exists_symbol hkind hname file

/-! ### A call in a macro -/

/-- The text of two types with a method `m` each, where the first has `x!(self    .m())` in a method `r`; the blanks
may be a comment. -/
def ownMethodText (commented : Bool) : Source :=
  .ofText ("impl A\x7bfn m()\x7b\x7dfn r()\x7bx!(self" ++ (if commented then "/**/" else "    ") ++
    ".m())\x7d\x7dimpl B\x7bfn m()\x7b\x7d\x7d")

def ownMethodName : Node := .mk .identifier 34 35 none true false []

def ownMethodDot : Node := .mk (.other ".") 33 34 none false false []

/-- The tokens of the macro before the group `()`, nearest first. -/
def ownMethodFront (commented : Bool) : List Node :=
  [ownMethodName, ownMethodDot] ++
    (if commented then [.mk .blockComment 29 33 none true false []] else []) ++
    [.mk .selfKeyword 25 29 none true false [], .mk (.other "(") 24 25 none false false []]

def ownMethodGroup : Node :=
  .mk .tokenTree 35 37 none true false [
    .mk (.other "(") 35 36 none false false [], .mk (.other ")") 36 37 none false false []]

def ownMethodTokens (commented : Bool) : Node :=
  .mk .tokenTree 24 38 none true false
    ((ownMethodFront commented).reverse ++ [ownMethodGroup, .mk (.other ")") 37 38 none false false []])

def ownMethodMacro (commented : Bool) : Node :=
  .mk .macroInvocation 22 38 none true false [
    .mk .identifier 22 23 (some "macro") true false [], ownMethodTokens commented]

def ownMethodCaller (commented : Bool) : Node :=
  .mk .functionItem 15 39 none true false [
    .mk .identifier 18 19 (some "name") true false [],
    .mk (.other "block") 21 39 (some "body") true false [ownMethodMacro commented]]

/-- A method `m` that does nothing. -/
def ownMethodItem (start : Nat) : Node :=
  .mk .functionItem start (start + 8) none true false [
    .mk .identifier (start + 3) (start + 4) (some "name") true false [],
    .mk (.other "block") (start + 6) (start + 8) (some "body") true false []]

def ownMethodList (commented : Bool) : Node :=
  .mk (.other "declaration_list") 6 40 (some "body") true false [ownMethodItem 7, ownMethodCaller commented]

def ownMethodType (commented : Bool) : Node :=
  .mk .implItem 0 40 none true false [.mk .typeIdentifier 5 6 (some "type") true false [], ownMethodList commented]

/-- The tree of the text. -/
def ownMethodTree (commented : Bool) : Node :=
  .mk (.other "source_file") 0 56 none true false [
    ownMethodType commented,
    .mk .implItem 40 56 none true false [
      .mk .typeIdentifier 45 46 (some "type") true false [],
      .mk (.other "declaration_list") 46 56 (some "body") true false [ownMethodItem 47]]]

/-- The call as it is written, if a comment before the dot counts as the receiver. -/
def ownMethodCall (commented : Bool) : WrittenCall :=
  ⟨[⟨.owner, "A"⟩, ⟨.function, "r"⟩], .method "m" (!commented), ownMethodName, true⟩

theorem ownMethod_texts (commented : Bool) :
    (Owner.ofItem (ownMethodText commented) (ownMethodType commented)).name = "A" ∧
      enterable? (ownMethodText commented) (ownMethodCaller commented) = some "r" ∧
      (ownMethodText commented).text ownMethodName = "m" ∧ (ownMethodText commented).text ownMethodDot = "." ∧
      isParenthesised (ownMethodText commented) ownMethodGroup = true := by
  cases commented <;> decide +kernel

theorem groupAfter_ownMethod (commented : Bool) :
    GroupAfter (ownMethodText commented) [] (ownMethodTokens commented).children (ownMethodFront commented) := by
  obtain ⟨-, -, -, -, hopens⟩ := ownMethod_texts commented
  have hgroup : GroupAfter (ownMethodText commented) [] (ownMethodTokens commented).children
      ((ownMethodFront commented).reverse.reverse ++ []) := .append _ rfl hopens
  rwa [List.reverse_reverse, List.append_nil] at hgroup

theorem written_ownMethodCall (commented : Bool) :
    Written (ownMethodText commented) (ownMethodTree commented) (ownMethodCall commented) := by
  obtain ⟨howner, hname, hcalled, hdot, -⟩ := ownMethod_texts commented
  have htype : BodyAt (ownMethodType commented).children 1 (ownMethodList commented) := .second [] (by decide) rfl
  have hbody : BodyAt (ownMethodCaller commented).children 1
      (.mk (.other "block") 21 39 (some "body") true false [ownMethodMacro commented]) :=
    .second [] (by decide) rfl
  have hmember : Passes callStops (ownMethodText commented)
      (.toPart [] [] none (ownMethodTree commented).children 0 (ownMethodType commented))
      (.toPart [0, 1] [⟨.owner, "A"⟩] (some (Owner.ofItem (ownMethodText commented) (ownMethodType commented)))
        (ownMethodList commented).children 1 (ownMethodCaller commented)) := by
    have hkind : (ownMethodType commented).kind ∈ [Kind.implItem, .traitItem] := List.mem_cons_self
    rw [← howner]
    exact .member hkind htype rfl rfl
  have hreached : Reached callStops (ownMethodText commented) (ownMethodTree commented)
      ⟨[0, 1, 1, 1, 0], [⟨.owner, "A"⟩, ⟨.function, "r"⟩], none, [], ownMethodMacro commented⟩ := by
    have hplain : Kind.other "block" ∉ itemKinds ∧ Kind.other "block" ∉ callStops := by decide
    refine ⟨0, ownMethodType commented, rfl, rfl, .tail (.tail (.single hmember) (.function rfl hname hbody)) ?_⟩
    exact .through hplain.1 hplain.2 rfl rfl
  have hcallee : CalleeBefore (ownMethodText commented) (ownMethodFront commented) ownMethodName
      (.method "m" (!commented)) := by
    rw [← hcalled]
    cases commented with
    | false => exact .of_dot rfl hdot
    | true => exact .of_dot rfl hdot
  exact .tokens hreached rfl (List.mem_cons_of_mem _ (List.mem_singleton_self _)) rfl
    (groupAfter_ownMethod commented) hcallee

/-- The call as it is recorded. -/
def ownMethodSite (commented : Bool) : CallSite :=
  (ownMethodCall commented).site "src/lib.rs" (ownMethodText commented)
    (FileCalls.extract "src/lib.rs" (ownMethodText commented) (ownMethodTree commented)).imports

/-- The project with that file only. -/
def ownMethodFiles (commented : Bool) : List (String × Source × Node) :=
  [("src/lib.rs", ownMethodText commented, ownMethodTree commented)]

theorem own_method_reached_sample :
    ∃ graph, FileFacts.graph (FileFacts.ofTrees (ownMethodFiles false)) = .ok graph ∧
      (∃ s ∈ graph.catalog.symbols, s.fullPath = "B::m") ∧
      graph.catalog.resolve (ownMethodSite false) = .ok (.linked .exact [⟨"src/lib.rs", "A::m"⟩]) := by
  obtain ⟨graph, hgraph⟩ : ∃ graph, FileFacts.graph (FileFacts.ofTrees (ownMethodFiles false)) = .ok graph := ⟨_, rfl⟩
  have hother : ∃ s ∈ graph.catalog.symbols, s.fullPath = "B::m" := by
    rw [(CallGraph.records_build hgraph).catalog_eq]
    decide +kernel
  have hframes : (ownMethodCall false).frames = [] ++ ⟨.owner, "A"⟩ :: [⟨.function, "r"⟩] := rfl
  have hpath : "A::m" = Scope.fullPath ⟨ModulePath.ofFile "src/lib.rs", [] ++ [⟨.owner, "A"⟩]⟩ "m" := by decide +kernel
  obtain ⟨hreaches, -⟩ := own_method_reached hgraph List.mem_cons_self (written_ownMethodCall false) (.inl rfl) hframes
    (by decide) rfl hpath
  exact ⟨graph, hgraph, hother, (hreaches (by decide +kernel)).1⟩

/-- Tokens without the comments among them. -/
def withoutComments (tokens : List Node) : List Node :=
  tokens.filter fun token => token.kind != .lineComment && token.kind != .blockComment

/-- A comment is a token like any other: where one stands before the dot, `self` is not seen.  Without it this is a call
of `m` on `self` in the type `A`, which has that method; with it the call reaches the method of the type `B` too. -/
theorem comment_hides_self :
    ∃ graph, FileFacts.graph (FileFacts.ofTrees (ownMethodFiles true)) = .ok graph ∧
      Written (ownMethodText true) (ownMethodTree true) (ownMethodCall true) ∧
      (ownMethodCall true).frames = [⟨.owner, "A"⟩, ⟨.function, "r"⟩] ∧
      GroupAfter (ownMethodText true) [] (ownMethodTokens true).children (ownMethodFront true) ∧
      CalleeBefore (ownMethodText true) (withoutComments (ownMethodFront true)) ownMethodName (.method "m" true) ∧
      (∃ s ∈ (FileSymbols.extract "src/lib.rs" (ownMethodText true) (ownMethodTree true)).symbols,
        s.fullPath = "A::m") ∧
      graph.catalog.resolve (ownMethodSite true) =
        .ok (.linked .byName [⟨"src/lib.rs", "A::m"⟩, ⟨"src/lib.rs", "B::m"⟩]) := by
  obtain ⟨graph, hgraph⟩ : ∃ graph, FileFacts.graph (FileFacts.ofTrees (ownMethodFiles true)) = .ok graph := ⟨_, rfl⟩
  obtain ⟨-, -, hcalled, hdot, -⟩ := ownMethod_texts true
  have hcallee : CalleeBefore (ownMethodText true) (withoutComments (ownMethodFront true)) ownMethodName
      (.method "m" true) := by
    rw [← hcalled]
    exact .of_dot rfl hdot
  refine ⟨graph, hgraph, written_ownMethodCall true, rfl, groupAfter_ownMethod true, hcallee, by decide +kernel, ?_⟩
  rw [(CallGraph.records_build hgraph).catalog_eq]
  decide +kernel

end Deadwood
