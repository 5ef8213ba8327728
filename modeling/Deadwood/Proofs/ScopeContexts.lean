/-
Contexts that close what they opened.

A context opens a frame, runs a body and closes the frame, also when an interruption
leaves the body.  If the body itself uses contexts only, the frame to close is always the
innermost one, so closing is never refused and the interruption goes on.

* **`Bracketed.restores`** — such a body leaves the tracker as it was, and refuses nothing;
* **`PointIn.eq_of_bracketed`** — at every point of its run, the open frames are those from
  before and the contexts around the point;
* **`base_runStep`** — whatever a script does, the tracker stays one of the same module;
* **`contexts_restore`** — hence contexts with bracketed bodies, and walks with any bodies.

The induction for the first is on the body, for all scopes at once: the body of a context
runs in a scope with one more frame.
-/
import Deadwood.Proofs.TrackerStates

namespace Deadwood.Scope

/-! ### Bodies, and what is noted of them -/

/-- A body of questions, contexts and interruptions. -/
inductive Bracketed : List Step → Prop where
  | nil : Bracketed []
  | ask {steps : List Step} (question : Question) (rest : Bracketed steps) :
      Bracketed (.action (.ask question) :: steps)
  | within {steps body : List Step} (kind : FrameKind) (name : String) (inner : Bracketed body)
      (rest : Bracketed steps) : Bracketed (.within kind name body :: steps)
  | interrupt {steps : List Step} (rest : Bracketed steps) : Bracketed (.interrupt :: steps)

/-- There is an interruption in a body, at any depth of contexts. -/
inductive Interrupts : List Step → Prop where
  | here (steps : List Step) : Interrupts (.interrupt :: steps)
  | inside {body : List Step} (kind : FrameKind) (name : String) (steps : List Step) (inner : Interrupts body) :
      Interrupts (.within kind name body :: steps)
  | later {steps : List Step} (step : Step) (rest : Interrupts steps) : Interrupts (step :: steps)

/-- The refusal that made something fail. -/
def Failure.refusal? : Failure → Option Refusal
  | .refused refusal => some refusal
  | .interrupted => none

mutual

/-- The refusals in a note, of actions and questions and of opening and closing contexts. -/
def Entry.refusals : Entry → List Refusal
  | .answered .. | .interrupted => []
  | .refused _ _ refusal => [refusal]
  | .context _ _ failure body => (failure.bind Failure.refusal?).toList ++ refusalsIn body

/-- The refusals in several notes. -/
def refusalsIn : List Entry → List Refusal
  | [] => []
  | entry :: rest => entry.refusals ++ refusalsIn rest

end

/-! ### Bodies that leave the tracker as it was -/

/-- A body leaves a tracker as it was, is interrupted only if it says so, and refuses nothing. -/
structure Restores (scope : Scope) (body : List Step) : Prop where
  tracker_eq : (runSteps ⟨scope, true⟩ body).tracker = ⟨scope, true⟩
  interrupted_iff : (runSteps ⟨scope, true⟩ body).interrupted = true ↔ Interrupts body
  unrefused : refusalsIn (runSteps ⟨scope, true⟩ body).entries = []

theorem restores_nil (scope : Scope) : Restores scope [] := by
  have hquiet : ¬ Interrupts [] := by
    intro h
    cases h
  refine ⟨by rw [runSteps], ?_, by rw [runSteps, refusalsIn]⟩
  rw [runSteps]
  exact iff_of_false Bool.false_ne_true hquiet

/-- After a step that is not interrupted, the rest of the body decides. -/
theorem Restores.cons {scope : Scope} {step : Step} {entry : Entry} {rest : List Step}
    (hstep : runStep ⟨scope, true⟩ step = (⟨scope, true⟩, some entry, false)) (hentry : entry.refusals = [])
    (hquiet : Interrupts (step :: rest) → Interrupts rest) (h : Restores scope rest) :
    Restores scope (step :: rest) := by
  have hrun : runSteps ⟨scope, true⟩ (step :: rest) =
      ⟨(runSteps ⟨scope, true⟩ rest).tracker, entry :: (runSteps ⟨scope, true⟩ rest).entries,
        (runSteps ⟨scope, true⟩ rest).interrupted⟩ := by
    rw [runSteps, hstep]
    rfl
  refine ⟨?_, ?_, ?_⟩
  · rw [hrun]
    exact h.tracker_eq
  · rw [hrun]
    exact h.interrupted_iff.trans ⟨.later step, hquiet⟩
  · rw [hrun, refusalsIn, hentry]
    exact h.unrefused

/-- A step that is interrupted is the last one. -/
theorem restores_of_interrupted {scope : Scope} {step : Step} {entry : Option Entry} {rest : List Step}
    (hstep : runStep ⟨scope, true⟩ step = (⟨scope, true⟩, entry, true)) (hentry : refusalsIn entry.toList = [])
    (hinterrupts : Interrupts (step :: rest)) : Restores scope (step :: rest) := by
  have hrun : runSteps ⟨scope, true⟩ (step :: rest) = ⟨⟨scope, true⟩, entry.toList, true⟩ := by
    rw [runSteps, hstep]
    rfl
  refine ⟨?_, ?_, ?_⟩
  · rw [hrun]
  · rw [hrun]
    exact iff_of_true rfl hinterrupts
  · rw [hrun]
    exact hentry

/-- A body of questions, contexts and interruptions leaves the tracker as it was. -/
theorem Bracketed.restores {body : List Step} (h : Bracketed body) (scope : Scope) : Restores scope body := by
  induction h generalizing scope with
  | nil => exact restores_nil scope
  | @ask steps question rest ih =>
    have hwalking : question.NeedsWalk → (⟨scope, true⟩ : Tracker).active = true := fun _ => rfl
    obtain ⟨answer, hanswer⟩ := (reads_answer question).answers _ hwalking
    have hstep : runStep ⟨scope, true⟩ (.action (.ask question)) = _ := runStep_of_accepted hanswer
    refine (ih scope).cons hstep rfl fun hinterrupts => ?_
    cases hinterrupts with
    | later _ rest => exact rest
  | @within steps body kind name inner rest ihInner ihRest =>
    -- The body has left the frame of the context innermost, so closing it is not refused.
    have hinner := ihInner (scope.enter kind name)
    have hstep := runStep_within hinner.tracker_eq
    cases hinterrupted : (runSteps ⟨scope.enter kind name, true⟩ body).interrupted with
    | true =>
      rw [hinterrupted] at hstep
      refine restores_of_interrupted hstep ?_ (.inside kind name steps (hinner.interrupted_iff.mp hinterrupted))
      rw [Option.toList_some, refusalsIn, Entry.refusals, hinner.unrefused]
      rfl
    | false =>
      rw [hinterrupted] at hstep
      refine (ihRest scope).cons hstep ?_ fun hinterrupts => ?_
      · rw [Entry.refusals, hinner.unrefused]
        rfl
      · cases hinterrupts with
        | inside _ _ _ inside =>
          exact absurd (hinner.interrupted_iff.mpr inside) (Bool.eq_false_iff.mp hinterrupted)
        | later _ rest => exact rest
  | @interrupt steps rest ih =>
    have hstep : runStep ⟨scope, true⟩ .interrupt = (⟨scope, true⟩, none, true) := by
      rw [runStep]
    exact restores_of_interrupted hstep rfl (.here steps)

/-! ### Points of a run -/

/-- A body that runs from a tracker comes to a point where some contexts of the body are open, outermost first, and the
tracker is in some state. -/
inductive PointIn : Tracker → List Step → List Frame → Tracker → Prop where
  | here (tracker : Tracker) (steps : List Step) : PointIn tracker steps [] tracker
  | after {tracker next point : Tracker} {step : Step} {entry : Option Entry} {steps : List Step} {opened : List Frame}
      (done : runStep tracker step = (next, entry, false)) (rest : PointIn next steps opened point) :
      PointIn tracker (step :: steps) opened point
  | inside {tracker entered point : Tracker} {kind : FrameKind} {name : String} {body : List Step}
      {opened : List Frame} (enters : Tracker.enter kind name tracker = .ok () entered) (steps : List Step)
      (inner : PointIn entered body opened point) :
      PointIn tracker (.within kind name body :: steps) (⟨kind, name⟩ :: opened) point

/-- A step of a bracketed body leaves the tracker as it was. -/
theorem Bracketed.runStep_eq {step : Step} {steps : List Step} (h : Bracketed (step :: steps)) (scope : Scope) :
    (runStep ⟨scope, true⟩ step).1 = ⟨scope, true⟩ := by
  cases h with
  | ask question _ => exact runStep_ask _ question
  | within kind name inner _ => rw [runStep_within (inner.restores (scope.enter kind name)).tracker_eq]
  | interrupt _ => rw [runStep]

theorem Bracketed.tail {step : Step} {steps : List Step} (h : Bracketed (step :: steps)) : Bracketed steps := by
  cases h with
  | ask _ rest => exact rest
  | within _ _ _ rest => exact rest
  | interrupt rest => exact rest

/-- At every point of a bracketed body, the open frames are those from before and the contexts around the point. -/
theorem PointIn.eq_of_bracketed {base : List String} {frames opened : List Frame} {body : List Step} {point : Tracker}
    (h : PointIn ⟨⟨base, frames⟩, true⟩ body opened point) (hbody : Bracketed body) :
    point = ⟨⟨base, frames ++ opened⟩, true⟩ := by
  generalize htracker : (⟨⟨base, frames⟩, true⟩ : Tracker) = tracker at h
  induction h generalizing frames with
  | here => rw [List.append_nil, htracker]
  | @after _ next _ _ _ _ _ done _ ih =>
    subst htracker
    have hnext := hbody.runStep_eq ⟨base, frames⟩
    rw [done] at hnext
    exact ih hbody.tail hnext.symm
  | @inside _ entered _ kind name _ opened enters _ _ ih =>
    subst htracker
    have hentered : (⟨⟨base, frames ++ [⟨kind, name⟩]⟩, true⟩ : Tracker) = entered :=
      (EStateM.Result.ok.inj enters).2
    cases hbody with
    | within _ _ inner _ =>
      rw [ih inner hentered, List.append_assoc]
      rfl

/-! ### Walks with any body -/

theorem base_closeContext (kind : FrameKind) (progress : Progress) :
    (closeContext kind progress).1.scope.base = progress.tracker.scope.base := by
  rw [closeContext]
  cases hleave : Tracker.leave kind progress.tracker with
  | error refusal tracker =>
    obtain rfl := atomic_leave kind _ _ _ hleave
    rfl
  | ok _ tracker => exact (leave_eq_ok_iff.mp hleave).base_eq

mutual

/-- Whatever a step does, the tracker stays one of the same module. -/
theorem base_runStep : ∀ (step : Step) (tracker : Tracker), (runStep tracker step).1.scope.base = tracker.scope.base
  | .action action, tracker => by
    cases hact : Tracker.act action tracker with
    | error refusal next => rw [runStep_of_refused hact]
    | ok answer next =>
      rw [runStep_of_accepted hact]
      exact (exists_act_iff.mp ⟨answer, hact⟩).base_eq
  | .walk body, tracker => by
    rw [runStep]
    exact base_runSteps body tracker.start
  | .within kind name body, tracker => by
    rw [runStep]
    cases henter : Tracker.enter kind name tracker with
    | error refusal next =>
      obtain rfl := atomic_enter kind name _ _ _ henter
      rfl
    | ok _ inner =>
      have hinner : inner.scope.base = tracker.scope.base := (enter_eq_ok_iff.mp henter).base_eq
      exact (base_closeContext kind _).trans ((base_runSteps body inner).trans hinner)
  | .interrupt, tracker => by rw [runStep]

theorem base_runSteps : ∀ (steps : List Step) (tracker : Tracker),
    (runSteps tracker steps).tracker.scope.base = tracker.scope.base
  | [], tracker => by rw [runSteps]
  | step :: rest, tracker => by
    rw [runSteps]
    dsimp only
    split
    · exact base_runStep step tracker
    · exact (base_runSteps rest _).trans (base_runStep step tracker)

end

/-- A walk ends with a tracker like a new one, and an interruption of its body goes on. -/
theorem runStep_walk (tracker : Tracker) (body : List Step) :
    runStep tracker (.walk body) =
      (.ofBase tracker.scope.base,
        some (.context [] false (if (runSteps tracker.start body).interrupted then some .interrupted else none)
          (runSteps tracker.start body).entries),
        (runSteps tracker.start body).interrupted) := by
  have hrest : (runSteps tracker.start body).tracker.rest = .ofBase tracker.scope.base := by
    rw [Tracker.rest, base_runSteps]
    rfl
  rw [runStep, hrest]
  rfl

/-- **Contexts close what they opened, also when they are left by an interruption.**  Let a tracker be on a walk with
some frames open, and let a body of questions, contexts and interruptions run, nested in any way.  Afterwards the
tracker is as before; an interruption is under way if there is one in the body, and nothing was refused on the way.
At every point of the run, the full path of a name is made of the module, the frames from before, the contexts that
are open there and the name.  A walk with any body whatsoever leaves a tracker like a new one, and does not stop an
interruption. -/
theorem contexts_restore {base : List String} {frames : List Frame} {body : List Step} (hbody : Bracketed body) :
    (runSteps ⟨⟨base, frames⟩, true⟩ body).tracker = ⟨⟨base, frames⟩, true⟩ ∧
    ((runSteps ⟨⟨base, frames⟩, true⟩ body).interrupted = true ↔ Interrupts body) ∧
    refusalsIn (runSteps ⟨⟨base, frames⟩, true⟩ body).entries = [] ∧
    (∀ opened point, PointIn ⟨⟨base, frames⟩, true⟩ body opened point →
      point.frames = frames ++ opened ∧ point.active = true ∧
        ∀ name, Tracker.answer (.fullPath name) point =
          .ok (.text (ModulePath.join (base ++ frames.map (·.name) ++ opened.map (·.name) ++ [name]))) point) ∧
    ∀ (tracker : Tracker) (anyBody : List Step),
      (runStep tracker (.walk anyBody)).1 = .ofBase tracker.scope.base ∧
        (runStep tracker (.walk anyBody)).2.2 = (runSteps tracker.start anyBody).interrupted := by
  have hrestores := hbody.restores ⟨base, frames⟩
  refine ⟨hrestores.tracker_eq, hrestores.interrupted_iff, hrestores.unrefused, fun opened point hpoint => ?_,
    fun tracker anyBody => ?_⟩
  · obtain rfl := hpoint.eq_of_bracketed hbody
    refine ⟨rfl, rfl, fun name => ?_⟩
    have hsegments : Scope.segments ⟨base, frames ++ opened⟩ =
        base ++ frames.map (·.name) ++ opened.map (·.name) := by
      rw [Scope.segments, List.map_append, List.append_assoc]
    rw [← hsegments]
    exact Tracker.asking_of_active rfl fun scope => Answer.text (scope.fullPath name)
  · rw [runStep_walk]
    exact ⟨rfl, rfl⟩

/-- A body that is interrupted two contexts deep: the last question is not asked. -/
def interruptedBody : List Step :=
  [.within .owner "T" [.within .function "f" [.action (.ask .enclosing), .interrupt]], .action (.ask .modulePath)]

theorem contexts_restore_interrupted :
    (runSteps ⟨⟨["net"], [⟨.module, "a"⟩]⟩, true⟩ interruptedBody).tracker = ⟨⟨["net"], [⟨.module, "a"⟩]⟩, true⟩ ∧
      (runSteps ⟨⟨["net"], [⟨.module, "a"⟩]⟩, true⟩ interruptedBody).interrupted = true ∧
      ∃ point, PointIn ⟨⟨["net"], [⟨.module, "a"⟩]⟩, true⟩ interruptedBody [⟨.owner, "T"⟩, ⟨.function, "f"⟩] point ∧
        Tracker.answer (.fullPath "g") point = .ok (.text "net::a::T::f::g") point := by
  have hbody : Bracketed interruptedBody :=
    .within _ _ (.within _ _ (.ask _ (.interrupt .nil)) .nil) (.ask _ .nil)
  obtain ⟨htracker, hinterrupted, -, hpoints, -⟩ := contexts_restore hbody
  have hpoint : PointIn ⟨⟨["net"], [⟨.module, "a"⟩]⟩, true⟩ interruptedBody [⟨.owner, "T"⟩, ⟨.function, "f"⟩]
      ⟨⟨["net"], [⟨.module, "a"⟩, ⟨.owner, "T"⟩, ⟨.function, "f"⟩]⟩, true⟩ :=
    .inside rfl _ (.inside rfl _ (.here _ _))
  refine ⟨htracker, hinterrupted.mpr (.inside _ _ _ (.inside _ _ _ (.later _ (.here _)))), _, hpoint, ?_⟩
  exact (hpoints _ _ hpoint).2.2 "g"

end Deadwood.Scope
