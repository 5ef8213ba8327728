/-
A tracker that is led along a walk.

Where a function stands is a matter of the frames around it, so a walk may also keep
one tracker and open and close frames on its way.  `script` is that walk as a
script: at a function item it asks for the full path, and what lies below a node is
put inside the frame that the node opens.

* **`runScript_walk`** — nothing in it is refused or interrupted, and the answers are
  the full paths of the function items, as the frames of each visit give them.

The induction is on the walk.  It carries `Clean`: the steps leave the tracker as they
found it, so that whatever comes after a subtree starts with the frames it needs.
-/
import Deadwood.Proofs.TrackerStates
import Deadwood.Proofs.Walk

namespace Deadwood

open Syntax

/-! ### Scripts that leave the tracker as it was -/

namespace Scope

mutual

/-- The answers in a note; none if something was refused or interrupted. -/
def Entry.answers? : Entry → Option (List Answer)
  | .answered _ _ answer => some [answer]
  | .context _ _ none body => answersIn? body
  | .context _ _ (some _) _ | .refused .. | .interrupted => none

/-- The answers in several notes. -/
def answersIn? : List Entry → Option (List Answer)
  | [] => some []
  | entry :: rest => entry.answers?.bind fun first => (answersIn? rest).map (first ++ ·)

end

theorem answersIn?_append (entries entries' : List Entry) :
    answersIn? (entries ++ entries') =
      (answersIn? entries).bind fun first => (answersIn? entries').map (first ++ ·) := by
  induction entries with
  | nil => simp [answersIn?]
  | cons entry rest ih =>
    rw [List.cons_append, answersIn?, answersIn?, ih]
    cases entry.answers? with
    | none => rfl
    | some first =>
      cases answersIn? rest with
      | none => rfl
      | some second =>
        cases answersIn? entries' with
        | none => rfl
        | some third => simp

/-- Some steps give some answers, and leave the tracker as it was. -/
structure Clean (tracker : Tracker) (steps : List Step) (answers : List Answer) : Prop where
  tracker_eq : (runSteps tracker steps).tracker = tracker
  completed : (runSteps tracker steps).interrupted = false
  answered : answersIn? (runSteps tracker steps).entries = some answers

theorem clean_of_run {tracker : Tracker} {steps : List Step} {entries : List Entry} {answers : List Answer}
    (hrun : runSteps tracker steps = ⟨tracker, entries, false⟩) (hanswers : answersIn? entries = some answers) :
    Clean tracker steps answers :=
  ⟨by rw [hrun], by rw [hrun], by rw [hrun, hanswers]⟩

theorem runSteps_append {tracker : Tracker} {steps : List Step} (h : (runSteps tracker steps).interrupted = false)
    (rest : List Step) :
    runSteps tracker (steps ++ rest) =
      let after := runSteps (runSteps tracker steps).tracker rest
      { after with entries := (runSteps tracker steps).entries ++ after.entries } := by
  induction steps generalizing tracker with
  | nil => simp [runSteps]
  | cons step steps ih =>
    rw [runSteps] at h
    rw [List.cons_append, runSteps, runSteps]
    dsimp only at h ⊢
    split at h
    · exact absurd h (by simp)
    · rename_i hstep
      rw [if_neg hstep, if_neg hstep, ih h]
      simp

theorem clean_nil (tracker : Tracker) : Clean tracker [] [] :=
  clean_of_run (by rw [runSteps]) rfl

theorem Clean.append {tracker : Tracker} {steps rest : List Step} {answers answers' : List Answer}
    (h : Clean tracker steps answers) (h' : Clean tracker rest answers') :
    Clean tracker (steps ++ rest) (answers ++ answers') := by
  have hrun := runSteps_append h.completed rest
  rw [h.tracker_eq] at hrun
  refine ⟨?_, ?_, ?_⟩
  · rw [hrun]
    exact h'.tracker_eq
  · rw [hrun]
    exact h'.completed
  · rw [hrun]
    dsimp only
    rw [answersIn?_append, h.answered, h'.answered]
    rfl

theorem clean_flatMap {α : Type} {tracker : Tracker} {items : List α} {steps : α → List Step}
    {answers : α → List Answer} (h : ∀ item ∈ items, Clean tracker (steps item) (answers item)) :
    Clean tracker (items.flatMap steps) (items.flatMap answers) := by
  induction items with
  | nil => exact clean_nil tracker
  | cons item rest ih =>
    rw [List.flatMap_cons, List.flatMap_cons]
    exact (h item List.mem_cons_self).append (ih fun other hother => h other (List.mem_cons_of_mem _ hother))

/-- A tracker on a walk tells the full path of a name. -/
theorem clean_fullPath (scope : Scope) (name : String) :
    Clean ⟨scope, true⟩ [.action (.ask (.fullPath name))] [.text (scope.fullPath name)] := by
  have hrun : runSteps ⟨scope, true⟩ [.action (.ask (.fullPath name))] =
      ⟨⟨scope, true⟩, [.answered scope.frames true (.text (scope.fullPath name))], false⟩ := by
    rfl
  exact clean_of_run hrun rfl

/-- What is clean inside a frame is clean with the frame opened and closed around it. -/
theorem Clean.within {scope : Scope} {kind : FrameKind} {name : String} {body : List Step} {answers : List Answer}
    (h : Clean ⟨scope.enter kind name, true⟩ body answers) :
    Clean ⟨scope, true⟩ [.within kind name body] answers := by
  have hstep : runStep ⟨scope, true⟩ (.within kind name body) =
      (⟨scope, true⟩,
        some (.context scope.frames true none (runSteps ⟨scope.enter kind name, true⟩ body).entries), false) := by
    rw [runStep_within h.tracker_eq, h.completed]
    rfl
  have hrun : runSteps ⟨scope, true⟩ [.within kind name body] =
      ⟨⟨scope, true⟩,
        [.context scope.frames true none (runSteps ⟨scope.enter kind name, true⟩ body).entries], false⟩ := by
    rw [runSteps, hstep]
    rfl
  refine clean_of_run hrun ?_
  rw [answersIn?, Entry.answers?, h.answered]
  simp [answersIn?]

/-- A walk with a clean body is a script with these answers. -/
theorem Clean.runScript {tracker : Tracker} {body : List Step} {answers : List Answer}
    (h : Clean tracker.start body answers) :
    ∃ entry, Scope.runScript tracker [.walk body] = [entry] ∧ entry.answers? = some answers := by
  have hstep : (runStep tracker (.walk body)).2.1 =
      some (.context [] false none (runSteps tracker.start body).entries) := by
    rw [runStep, h.completed]
    rfl
  refine ⟨.context [] false none (runSteps tracker.start body).entries, ?_, ?_⟩
  · simp [Scope.runScript, hstep]
  · rw [Entry.answers?, h.answered]

end Scope

/-! ### The walk as a script -/

namespace Visit

/-- The full path of a function that stands at a visit: the module of the file, the names of all frames from the
outermost on, and its own name.  There is none if the function holds an error or has no name. -/
def path? (base : List String) (source : Source) (v : Visit) : Option String :=
  (enterable? source v.node).map fun name => ModulePath.join (base ++ v.frames.map (·.name) ++ [name])

/-- The frame that a node with a body opens around it. -/
def opens? (source : Source) (v : Visit) : Option Frame :=
  if (v.node.child? "body").isSome then
    match v.node.kind with
    | .functionItem => (enterable? source v.node).map (⟨.function, ·⟩)
    | .modItem => (moduleName? source v.node).map (⟨.module, ·⟩)
    | .implItem | .traitItem => some ⟨.owner, (Owner.ofItem source v.node).name⟩
    | _ => none
  else none

/-- The question at a visit: the full path of a function item that has one. -/
def asks (source : Source) (v : Visit) : List Scope.Step :=
  if v.node.kind = .functionItem then
    ((enterable? source v.node).map fun name => .action (.ask (.fullPath name))).toList
  else []

/-- The answer to that question. -/
def answers (base : List String) (source : Source) (v : Visit) : List Scope.Answer :=
  if v.node.kind = .functionItem then ((v.path? base source).map .text).toList else []

/-- Puts steps inside a frame, if there is one. -/
def inFrame (frame : Option Frame) (steps : List Scope.Step) : List Scope.Step :=
  match frame with
  | none => steps
  | some frame => [.within frame.kind frame.name steps]

end Visit

/-- The script of a visit and all visits below it. -/
def script (closed : List Kind) (source : Source) (v : Visit) : List Scope.Step :=
  v.asks source ++
    Visit.inFrame (v.opens? source)
      ((partVisits closed source v).attach.flatMap fun u => script closed source u.1)
termination_by sizeOf v.node
decreasing_by exact (mem_partVisits.mp u.2).sizeOf_lt

theorem script_eq (closed : List Kind) (source : Source) (v : Visit) :
    script closed source v =
      v.asks source ++
        Visit.inFrame (v.opens? source) ((partVisits closed source v).flatMap (script closed source)) := by
  rw [script, List.flatMap_subtype fun _ _ => rfl, List.unattach_attach]

/-- The script of a walk from a root. -/
def walkScript (closed : List Kind) (source : Source) (root : Node) : List Scope.Step :=
  [.walk ((amongVisits [] [] none [] root.children).flatMap (script closed source))]

section

variable {closed : List Kind} {source : Source}

theorem child?_body_of_bodyAt {node body : Node} {i : Nat} (h : BodyAt node.children i body) :
    (node.child? "body").isSome = true :=
  List.find?_isSome.mpr ⟨body, List.mem_of_getElem? h.1, beq_iff_eq.mpr h.2.1⟩

/-- One step further, the frames are those before and the one that the node opens. -/
theorem Passes.frames_eq {v u : Visit} (h : Passes closed source v u) :
    u.frames = v.frames ++ (v.opens? source).toList := by
  cases h with
  | function kind sound bodyAt =>
    rw [Visit.opens?, if_pos (child?_body_of_bodyAt bodyAt)]
    simp [kind, sound, Visit.toPart]
  | module kind sound bodyAt part named =>
    rw [Visit.opens?, if_pos (child?_body_of_bodyAt bodyAt)]
    simp [kind, sound, Visit.toPart]
  | member kind bodyAt part named =>
    rw [Visit.opens?, if_pos (child?_body_of_bodyAt bodyAt)]
    rcases List.mem_pair.mp kind with kind | kind
    · simp [kind, Visit.toPart]
    · simp [kind, Visit.toPart]
  | through plain looked part named =>
    simp only [itemKinds, List.mem_cons, List.not_mem_nil, or_false, not_or] at plain
    have hnone : v.opens? source = none := by
      rw [Visit.opens?]
      split
      · split <;> simp_all
      · rfl
    rw [hnone]
    simp [Visit.toPart]

theorem clean_asks (base : List String) (v : Visit) :
    Scope.Clean ⟨⟨base, v.frames⟩, true⟩ (v.asks source) (v.answers base source) := by
  rw [Visit.asks, Visit.answers, Visit.path?]
  split
  · cases enterable? source v.node with
    | none => exact Scope.clean_nil _
    | some name => exact Scope.clean_fullPath ⟨base, v.frames⟩ name
  · exact Scope.clean_nil _

theorem clean_inFrame {base : List String} {frames : List Frame} {frame : Option Frame} {steps : List Scope.Step}
    {answers : List Scope.Answer} (h : Scope.Clean ⟨⟨base, frames ++ frame.toList⟩, true⟩ steps answers) :
    Scope.Clean ⟨⟨base, frames⟩, true⟩ (Visit.inFrame frame steps) answers := by
  cases frame with
  | none => rwa [Option.toList_none, List.append_nil] at h
  | some frame => exact Scope.Clean.within h

/-- The script of a subtree answers with the full paths in it, and leaves the frames as they were. -/
theorem clean_script (base : List String) (v : Visit) :
    Scope.Clean ⟨⟨base, v.frames⟩, true⟩ (script closed source v)
      ((visits closed source v).flatMap (·.answers base source)) := by
  induction v using visit_induction closed source with
  | step v ih =>
    rw [script_eq, visits_eq, List.flatMap_cons, List.flatMap_assoc]
    -- Every part starts with the same frames, since the part before it has closed what it opened.
    refine (clean_asks base v).append (clean_inFrame (Scope.clean_flatMap fun u hu => ?_))
    rw [← (mem_partVisits.mp hu).frames_eq]
    exact ih u hu

/-- A tracker for a file, led along the walk, refuses nothing and tells the full paths of the function items. -/
theorem runScript_walk (closed : List Kind) (file : String) (source : Source) (root : Node) :
    ∃ entry, Scope.runScript (.ofFile file) (walkScript closed source root) = [entry] ∧
      entry.answers? =
        some ((walk closed source root).flatMap (·.answers (ModulePath.ofFile file) source)) := by
  refine Scope.Clean.runScript ?_
  rw [walk, List.flatMap_assoc]
  refine Scope.clean_flatMap fun u hu => ?_
  obtain ⟨i, node, -, -, rfl⟩ := mem_amongVisits_nil.mp hu
  exact clean_script (ModulePath.ofFile file) (.toPart [] [] none root.children i node)

end

end Deadwood
