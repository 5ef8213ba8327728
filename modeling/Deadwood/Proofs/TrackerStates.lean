/-
What a tracker accepts, and what it refuses.

Actions may come in any order, and those that make no sense are refused.  `Accepts` says
what an action makes of a tracker, and when it does so at all: a frame is left if it is
the innermost one, a walk is finished if no frame is open, and all but a few questions
need a walk.

* **`exists_act_iff`** — an action succeeds exactly as `Accepts` says;
* **`atomic_act`** — an action that is refused has changed nothing when it is;
* **`reads_answer`** — a question changes nothing either, and is refused only because there is
  no walk;
* **`exists_acceptsAll`** — after any actions the tracker is where those that were accepted
  lead, as if the others had not been tried;
* **`tracker_consistent`** — hence what holds of every tracker that actions lead to from a
  new one;
* **`runStep_within`** — a context is closed if its body leaves its frame innermost.

The operations are programs, and what they leave behind when they are refused is read off
their results (`finish_eq`, `enter_eq`, `leave_eq`, `asking_eq`).  The induction is on the
accepted actions only.  Its invariant is `Orderly`: a resting tracker has no open frames.
-/
import Deadwood.Scope.Script

namespace Deadwood.Scope

/-! ### What the operations do -/

namespace Tracker

variable {tracker : Tracker}

theorem bind_ok {α β : Type} {program : Tracking α} {answer : α} {next : Tracker}
    (h : program tracker = .ok answer next) (rest : α → Tracking β) :
    (program >>= rest) tracker = rest answer next := by
  show EStateM.bind program rest tracker = _
  rw [EStateM.bind, h]

theorem bind_error {α β : Type} {program : Tracking α} {refusal : Refusal} {next : Tracker}
    (h : program tracker = .error refusal next) (rest : α → Tracking β) :
    (program >>= rest) tracker = .error refusal next := by
  show EStateM.bind program rest tracker = _
  rw [EStateM.bind, h]

theorem asking_eq {α : Type} (question : Scope → α) (tracker : Tracker) :
    asking question tracker =
      if tracker.active then .ok (question tracker.scope) tracker else .error .resting tracker := by
  obtain ⟨scope, active⟩ := tracker
  cases active <;> rfl

theorem asking_of_active {α : Type} (hactive : tracker.active = true) (question : Scope → α) :
    asking question tracker = .ok (question tracker.scope) tracker := by
  rw [asking_eq, if_pos hactive]

/-- A check before the rest of a program. -/
theorem refusing_eq {α : Type} (accepted : Bool) (refusal : Refusal) (rest : Tracking α) (tracker : Tracker) :
    (do
      if !accepted then throw refusal
      rest : Tracking α) tracker =
      if accepted then rest tracker else .error refusal tracker := by
  cases accepted <;> rfl

theorem finish_eq (tracker : Tracker) :
    finish tracker =
      if tracker.active then
        if tracker.frames.isEmpty then .ok () { tracker with active := false }
        else .error (.openFrames tracker.frames) tracker
      else .error .resting tracker := by
  obtain ⟨scope, active⟩ := tracker
  cases active with
  | false => rfl
  | true => exact refusing_eq scope.frames.isEmpty _ _ _

theorem enter_eq (kind : FrameKind) (name : String) (tracker : Tracker) :
    enter kind name tracker =
      if tracker.active then .ok () { tracker with scope := tracker.scope.enter kind name }
      else .error .resting tracker := by
  obtain ⟨scope, active⟩ := tracker
  cases active <;> rfl

theorem leave_eq (kind : FrameKind) (tracker : Tracker) :
    leave kind tracker =
      if tracker.active then
        if tracker.frames.getLast?.any (·.kind == kind) then .ok () (tracker.withFrames tracker.frames.dropLast)
        else .error (.notInnermost kind tracker.frames) tracker
      else .error .resting tracker := by
  obtain ⟨scope, active⟩ := tracker
  cases active with
  | false => rfl
  | true => exact refusing_eq (scope.frames.getLast?.any (·.kind == kind)) _ _ _

end Tracker

/-! ### Questions -/

/-- Only a tracker on a walk can answer the question. -/
def Question.NeedsWalk : Question → Prop
  | .active => False
  | .normalize segments => segments.head? ∈ [some "self", some "super", some "Self"]
  | .moduleSegments | .modulePath | .currentOwner | .inFunction | .enclosing | .ownerSegments | .fullPath _ => True

/-- A program that changes nothing and is refused if and only if it needs a walk and there is none. -/
structure Reads {α : Type} (program : Tracking α) (needsWalk : Prop) : Prop where
  answers : ∀ tracker, (needsWalk → tracker.active = true) → ∃ answer, program tracker = .ok answer tracker
  refuses : ∀ tracker : Tracker, needsWalk → tracker.active = false → program tracker = .error .resting tracker

namespace Reads

variable {α β : Type} {needsWalk : Prop}

theorem asking (question : Scope → α) : Reads (Tracker.asking question) True := by
  refine ⟨fun tracker hactive => ⟨_, Tracker.asking_of_active (hactive trivial) question⟩, fun tracker _ hresting => ?_⟩
  rw [Tracker.asking_eq, hresting]
  rfl

theorem pure (reading : Tracker → α) : Reads (do return reading (← get) : Tracking α) False :=
  ⟨fun tracker _ => ⟨reading tracker, rfl⟩, fun _ h => h.elim⟩

theorem map {program : Tracking α} (h : Reads program needsWalk) (f : α → β) :
    Reads (do return f (← program) : Tracking β) needsWalk := by
  constructor
  · intro tracker hactive
    obtain ⟨answer, hanswer⟩ := h.answers tracker hactive
    exact ⟨f answer, Tracker.bind_ok hanswer _⟩
  · intro tracker hneeds hresting
    exact Tracker.bind_error (h.refuses tracker hneeds hresting) _

variable {program : Tracking α} {tracker next : Tracker}

theorem eq_of_ok (h : Reads program needsWalk) {answer : α} (hrun : program tracker = .ok answer next) :
    next = tracker ∧ (needsWalk → tracker.active = true) := by
  have hactive : needsWalk → tracker.active = true := by
    intro hneeds
    refine Bool.of_not_eq_false fun hresting => ?_
    exact absurd (hrun.symm.trans (h.refuses tracker hneeds hresting)) (by simp)
  obtain ⟨other, hother⟩ := h.answers tracker hactive
  exact ⟨(EStateM.Result.ok.inj (hrun.symm.trans hother)).2, hactive⟩

theorem eq_of_error (h : Reads program needsWalk) {refusal : Refusal} (hrun : program tracker = .error refusal next) :
    next = tracker ∧ tracker.active = false ∧ needsWalk := by
  by_cases hanswers : needsWalk → tracker.active = true
  · obtain ⟨answer, hanswer⟩ := h.answers tracker hanswers
    exact absurd (hrun.symm.trans hanswer) (by simp)
  · obtain ⟨hneeds, hresting⟩ := Classical.not_imp.mp hanswers
    have hresting := Bool.eq_false_iff.mpr hresting
    have hrefused := hrun.symm.trans (h.refuses tracker hneeds hresting)
    exact ⟨(EStateM.Result.error.inj hrefused).2, hresting, hneeds⟩

end Reads

theorem reads_normalize (segments : List String) :
    Reads (Tracker.normalize segments) (Question.normalize segments).NeedsWalk := by
  fun_cases Tracker.normalize segments with
  | case1 rest => simpa [Question.NeedsWalk] using Reads.asking fun scope => scope.normalize? ("self" :: rest)
  | case2 rest => simpa [Question.NeedsWalk] using Reads.asking fun scope => scope.normalize? ("super" :: rest)
  | case3 rest => simpa [Question.NeedsWalk] using Reads.asking fun scope => scope.normalize? ("Self" :: rest)
  | case4 _ hself hsuper hSelf =>
    have hfree : ¬ (Question.normalize segments).NeedsWalk := by
      intro hneeds
      simp only [Question.NeedsWalk, List.mem_cons, List.not_mem_nil, or_false] at hneeds
      rcases hneeds with hhead | hhead | hhead
      · exact (List.head?_eq_some_iff.mp hhead).elim hself
      · exact (List.head?_eq_some_iff.mp hhead).elim hsuper
      · exact (List.head?_eq_some_iff.mp hhead).elim hSelf
    rw [eq_false hfree]
    exact Reads.pure fun tracker => tracker.scope.normalize? segments

/-- Every question reads only. -/
theorem reads_answer (question : Question) : Reads (Tracker.answer question) question.NeedsWalk := by
  cases question with
  | active => exact Reads.pure fun tracker => Answer.flag tracker.active
  | normalize segments =>
    exact (reads_normalize segments).map fun answer => (answer.map Answer.segments).getD .nothing
  | _ =>
    simp only [Tracker.answer, Question.NeedsWalk]
    exact Reads.asking _

/-! ### One action -/

/-- What an action makes of a tracker, and when the tracker accepts it. -/
inductive Accepts (tracker : Tracker) : Action → Tracker → Prop where
  | start : Accepts tracker .start ⟨⟨tracker.scope.base, []⟩, true⟩
  | finish (walking : tracker.active = true) (closed : tracker.frames = []) :
      Accepts tracker .finish ⟨⟨tracker.scope.base, []⟩, false⟩
  | enter {kind : FrameKind} {name : String} (walking : tracker.active = true) :
      Accepts tracker (.enter kind name) ⟨⟨tracker.scope.base, tracker.frames ++ [⟨kind, name⟩]⟩, true⟩
  | leave {kind : FrameKind} {name : String} {outer : List Frame} (walking : tracker.active = true)
      (innermost : tracker.frames = outer ++ [⟨kind, name⟩]) :
      Accepts tracker (.leave kind) ⟨⟨tracker.scope.base, outer⟩, true⟩
  | ask {question : Question} (answerable : question.NeedsWalk → tracker.active = true) :
      Accepts tracker (.ask question) tracker

section

variable {tracker next : Tracker}

theorem finish_eq_ok_iff : Tracker.finish tracker = .ok () next ↔ Accepts tracker .finish next := by
  rw [Tracker.finish_eq]
  obtain ⟨⟨base, frames⟩, active⟩ := tracker
  constructor
  · intro h
    cases active with
    | false => exact absurd h (by simp)
    | true =>
      cases frames with
      | nil =>
        obtain rfl := (EStateM.Result.ok.inj h).2
        exact .finish rfl rfl
      | cons frame frames => exact absurd h (by simp [Tracker.frames])
  · intro h
    cases h with
    | finish walking closed =>
      obtain rfl : active = true := walking
      obtain rfl : frames = [] := closed
      rfl

theorem enter_eq_ok_iff {kind : FrameKind} {name : String} :
    Tracker.enter kind name tracker = .ok () next ↔ Accepts tracker (.enter kind name) next := by
  rw [Tracker.enter_eq]
  obtain ⟨⟨base, frames⟩, active⟩ := tracker
  constructor
  · intro h
    cases active with
    | false => exact absurd h (by simp)
    | true =>
      obtain rfl := (EStateM.Result.ok.inj h).2
      exact .enter rfl
  · intro h
    cases h with
    | enter walking =>
      obtain rfl : active = true := walking
      rfl

/-- The innermost frame can be closed, as a frame of its own kind only. -/
theorem leave_concat (base : List String) (outer : List Frame) (frame : Frame) (kind : FrameKind) :
    Tracker.leave kind ⟨⟨base, outer ++ [frame]⟩, true⟩ =
      if frame.kind = kind then .ok () ⟨⟨base, outer⟩, true⟩
      else .error (.notInnermost kind (outer ++ [frame])) ⟨⟨base, outer ++ [frame]⟩, true⟩ := by
  simp [Tracker.leave_eq, Tracker.frames, Tracker.withFrames]

theorem leave_eq_ok_iff {kind : FrameKind} :
    Tracker.leave kind tracker = .ok () next ↔ Accepts tracker (.leave kind) next := by
  obtain ⟨⟨base, frames⟩, active⟩ := tracker
  constructor
  · intro h
    cases active with
    | false => exact absurd h (by simp [Tracker.leave_eq])
    | true =>
      rcases List.eq_nil_or_concat frames with rfl | ⟨outer, frame, rfl⟩
      · exact absurd h (by simp [Tracker.leave_eq, Tracker.frames])
      · rw [List.concat_eq_append, leave_concat] at h
        rw [List.concat_eq_append]
        split at h
        · rename_i hkind
          obtain rfl := (EStateM.Result.ok.inj h).2
          exact hkind ▸ .leave rfl rfl
        · exact absurd h (by simp)
  · intro h
    cases h with
    | leave walking innermost =>
      obtain rfl : active = true := walking
      obtain rfl : frames = _ := innermost
      rw [leave_concat, if_pos rfl]

/-- A program that answers nothing is done if its one step is. -/
theorem exists_done_iff {program : Tracking Unit} :
    (∃ answer, (do program; return Answer.nothing : Tracking Answer) tracker = .ok answer next) ↔
      program tracker = .ok () next := by
  cases hrun : program tracker with
  | ok _ after =>
    rw [Tracker.bind_ok hrun]
    exact ⟨fun ⟨_, h⟩ => by rw [(EStateM.Result.ok.inj h).2],
      fun h => ⟨.nothing, by rw [(EStateM.Result.ok.inj h).2]; rfl⟩⟩
  | error _ after =>
    rw [Tracker.bind_error hrun]
    simp

/-- An action succeeds exactly if it is accepted. -/
theorem exists_act_iff {action : Action} :
    (∃ answer, Tracker.act action tracker = .ok answer next) ↔ Accepts tracker action next := by
  cases action with
  | start =>
    constructor
    · rintro ⟨answer, h⟩
      obtain rfl := (EStateM.Result.ok.inj h).2
      exact .start
    · rintro ⟨⟩
      exact ⟨.nothing, rfl⟩
  | finish => exact exists_done_iff.trans finish_eq_ok_iff
  | enter kind name => exact exists_done_iff.trans enter_eq_ok_iff
  | leave kind => exact exists_done_iff.trans leave_eq_ok_iff
  | ask question =>
    constructor
    · rintro ⟨answer, h⟩
      obtain ⟨rfl, hactive⟩ := (reads_answer question).eq_of_ok h
      exact .ask hactive
    · intro h
      cases h with
      | ask answerable => exact (reads_answer question).answers tracker answerable

end

/-! ### Refusals -/

/-- A program that has changed nothing when it is refused. -/
def Atomic {α : Type} (program : Tracking α) : Prop :=
  ∀ tracker refusal next, program tracker = .error refusal next → next = tracker

theorem atomic_finish : Atomic Tracker.finish := by
  intro tracker refusal next h
  rw [Tracker.finish_eq] at h
  split at h
  · split at h
    · cases h
    · exact (EStateM.Result.error.inj h).2.symm
  · exact (EStateM.Result.error.inj h).2.symm

theorem atomic_enter (kind : FrameKind) (name : String) : Atomic (Tracker.enter kind name) := by
  intro tracker refusal next h
  rw [Tracker.enter_eq] at h
  split at h
  · cases h
  · exact (EStateM.Result.error.inj h).2.symm

theorem atomic_leave (kind : FrameKind) : Atomic (Tracker.leave kind) := by
  intro tracker refusal next h
  rw [Tracker.leave_eq] at h
  split at h
  · split at h
    · cases h
    · exact (EStateM.Result.error.inj h).2.symm
  · exact (EStateM.Result.error.inj h).2.symm

theorem Atomic.done {program : Tracking Unit} (h : Atomic program) :
    Atomic (do program; return Answer.nothing : Tracking Answer) := by
  intro tracker refusal next hrun
  cases hstep : program tracker with
  | ok _ after =>
    rw [Tracker.bind_ok hstep] at hrun
    cases hrun
  | error _ after =>
    rw [Tracker.bind_error hstep] at hrun
    rw [← (EStateM.Result.error.inj hrun).2]
    exact h _ _ _ hstep

/-- Every action that is refused has changed nothing. -/
theorem atomic_act (action : Action) : Atomic (Tracker.act action) := by
  cases action with
  | start =>
    intro tracker refusal next h
    cases h
  | finish => exact atomic_finish.done
  | enter kind name => exact (atomic_enter kind name).done
  | leave kind => exact (atomic_leave kind).done
  | ask question => exact fun tracker refusal next h => ((reads_answer question).eq_of_error h).1

/-! ### Any number of actions -/

/-- Accepted actions lead from one tracker to another. -/
inductive AcceptsAll : Tracker → List Action → Tracker → Prop where
  | nil (tracker : Tracker) : AcceptsAll tracker [] tracker
  | cons {tracker next last : Tracker} {action : Action} {actions : List Action} (first : Accepts tracker action next)
      (rest : AcceptsAll next actions last) : AcceptsAll tracker (action :: actions) last

theorem runStep_of_refused {tracker next : Tracker} {action : Action} {refusal : Refusal}
    (h : Tracker.act action tracker = .error refusal next) :
    runStep tracker (.action action) =
      (tracker, some (.refused tracker.frames tracker.active refusal), false) := by
  rw [runStep, h, atomic_act action tracker refusal next h]

theorem runStep_of_accepted {tracker next : Tracker} {action : Action} {answer : Answer}
    (h : Tracker.act action tracker = .ok answer next) :
    runStep tracker (.action action) = (next, some (.answered next.frames next.active answer), false) := by
  rw [runStep, h]

theorem runStep_ask (tracker : Tracker) (question : Question) :
    (runStep tracker (.action (.ask question))).1 = tracker := by
  cases hact : Tracker.act (.ask question) tracker with
  | error refusal next => rw [runStep_of_refused hact]
  | ok answer next =>
    rw [runStep_of_accepted hact]
    exact ((reads_answer question).eq_of_ok hact).1

/-- The actions that were refused have left no trace. -/
theorem exists_acceptsAll (tracker : Tracker) (actions : List Action) :
    ∃ accepted, accepted.Sublist actions ∧
      AcceptsAll tracker accepted (runSteps tracker (actions.map .action)).tracker := by
  induction actions generalizing tracker with
  | nil =>
    rw [List.map_nil, runSteps]
    exact ⟨[], List.Sublist.slnil, .nil tracker⟩
  | cons action actions ih =>
    rw [List.map_cons, runSteps]
    cases hact : Tracker.act action tracker with
    | error refusal next =>
      rw [runStep_of_refused hact]
      obtain ⟨accepted, hsublist, hall⟩ := ih tracker
      exact ⟨accepted, hsublist.cons action, hall⟩
    | ok answer next =>
      rw [runStep_of_accepted hact]
      obtain ⟨accepted, hsublist, hall⟩ := ih next
      exact ⟨action :: accepted, hsublist.cons_cons action, .cons (exists_act_iff.mp ⟨answer, hact⟩) hall⟩

/-! ### Contexts -/

/-- The innermost frame can be closed. -/
theorem leave_enter (scope : Scope) (kind : FrameKind) (name : String) :
    Tracker.leave kind ⟨scope.enter kind name, true⟩ = .ok () ⟨scope, true⟩ := by
  rw [Scope.enter, leave_concat, if_pos rfl]

/-- A context closes its frame if the body leaves it innermost, also if the body is interrupted. -/
theorem runStep_within {scope : Scope} {kind : FrameKind} {name : String} {body : List Step}
    (h : (runSteps ⟨scope.enter kind name, true⟩ body).tracker = ⟨scope.enter kind name, true⟩) :
    runStep ⟨scope, true⟩ (.within kind name body) =
      (⟨scope, true⟩,
        some (.context scope.frames true
          (if (runSteps ⟨scope.enter kind name, true⟩ body).interrupted then some .interrupted else none)
          (runSteps ⟨scope.enter kind name, true⟩ body).entries),
        (runSteps ⟨scope.enter kind name, true⟩ body).interrupted) := by
  rw [runStep, Tracker.enter_eq, if_pos rfl]
  dsimp only
  rw [closeContext, h, leave_enter]
  rfl

/-! ### Every tracker -/

/-- A tracker of a module that has no open frames unless it is on a walk. -/
structure Orderly (base : List String) (tracker : Tracker) : Prop where
  base_eq : tracker.scope.base = base
  closed : tracker.active = false → tracker.frames = []

theorem orderly_ofBase (base : List String) : Orderly base (.ofBase base) :=
  ⟨rfl, fun _ => rfl⟩

theorem Accepts.base_eq {tracker next : Tracker} {action : Action} (h : Accepts tracker action next) :
    next.scope.base = tracker.scope.base := by
  cases h <;> rfl

theorem Orderly.accepts {base : List String} {tracker next : Tracker} {action : Action} (h : Orderly base tracker)
    (haccepts : Accepts tracker action next) : Orderly base next := by
  refine ⟨haccepts.base_eq.trans h.base_eq, fun hresting => ?_⟩
  cases haccepts with
  | start => rfl
  | finish => rfl
  | enter => exact absurd hresting (by simp)
  | leave => exact absurd hresting (by simp)
  | ask => exact h.closed hresting

theorem Orderly.acceptsAll {base : List String} {tracker last : Tracker} {actions : List Action}
    (h : Orderly base tracker) (hall : AcceptsAll tracker actions last) : Orderly base last := by
  induction hall with
  | nil => exact h
  | cons first _ ih => exact ih (h.accepts first)

/-- **A tracker stays consistent, and what it refuses changes nothing.**  Let any actions be tried on a new tracker, in
any order.  Afterwards it has no open frames unless it is on a walk, and it is where the accepted ones among these
actions lead.  Whatever is tried next: if it is refused, the tracker that it leaves behind is the one that was there; a
frame is left if it is the innermost one, and a walk is finished if no frame is open; a question leaves the tracker
behind that was there, whether it is answered or refused, and is refused only if it needs a walk and there is none. -/
theorem tracker_consistent (base : List String) (actions : List Action) {tracker : Tracker}
    (hreached : (runSteps (.ofBase base) (actions.map .action)).tracker = tracker) :
    (tracker.active = false → tracker.frames = []) ∧
    (∃ accepted, accepted.Sublist actions ∧ AcceptsAll (.ofBase base) accepted tracker) ∧
    (∀ action refusal next, Tracker.act action tracker = .error refusal next → next = tracker ∧
      runStep tracker (.action action) = (tracker, some (.refused tracker.frames tracker.active refusal), false)) ∧
    (∀ action next answer, Tracker.act action tracker = .ok answer next →
      runStep tracker (.action action) = (next, some (.answered next.frames next.active answer), false)) ∧
    (∀ action next, (∃ answer, Tracker.act action tracker = .ok answer next) ↔ Accepts tracker action next) ∧
    (∀ kind, (∃ next, Tracker.leave kind tracker = .ok () next) ↔
      tracker.active = true ∧ ∃ outer name, tracker.frames = outer ++ [⟨kind, name⟩]) ∧
    ((∃ next, Tracker.finish tracker = .ok () next) ↔ tracker.active = true ∧ tracker.frames = []) ∧
    ∀ question,
      (∀ answer next, Tracker.answer question tracker = .ok answer next → next = tracker) ∧
      (∀ refusal next, Tracker.answer question tracker = .error refusal next → next = tracker) ∧
      ((∃ refusal next, Tracker.answer question tracker = .error refusal next) ↔
        tracker.active = false ∧ question.NeedsWalk) := by
  obtain ⟨accepted, hsublist, hall⟩ := exists_acceptsAll (.ofBase base) actions
  rw [hreached] at hall
  refine ⟨((orderly_ofBase base).acceptsAll hall).closed, ⟨accepted, hsublist, hall⟩,
    fun action refusal next h => ⟨atomic_act action _ _ _ h, runStep_of_refused h⟩,
    fun action next answer => runStep_of_accepted, fun action next => exists_act_iff, fun kind => ?_, ?_,
    fun question => ⟨fun answer next h => ((reads_answer question).eq_of_ok h).1,
      fun refusal next h => ((reads_answer question).eq_of_error h).1, ?_⟩⟩
  · constructor
    · rintro ⟨next, hleave⟩
      cases leave_eq_ok_iff.mp hleave with
      | leave walking innermost => exact ⟨walking, _, _, innermost⟩
    · rintro ⟨walking, outer, name, innermost⟩
      exact ⟨_, leave_eq_ok_iff.mpr (.leave walking innermost)⟩
  · constructor
    · rintro ⟨next, hfinish⟩
      cases finish_eq_ok_iff.mp hfinish with
      | finish walking closed => exact ⟨walking, closed⟩
    · rintro ⟨walking, closed⟩
      exact ⟨_, finish_eq_ok_iff.mpr (.finish walking closed)⟩
  · constructor
    · rintro ⟨refusal, next, h⟩
      exact ((reads_answer question).eq_of_error h).2
    · rintro ⟨hresting, hneeds⟩
      exact ⟨_, _, (reads_answer question).refuses tracker hneeds hresting⟩

/-- The module body with a type `T` open, after two actions that make no sense there. -/
def unbalancedActions : List Action :=
  [.start, .enter .owner "T", .leave .function, .finish]

theorem tracker_consistent_unbalanced :
    (runSteps (.ofBase []) (unbalancedActions.map .action)).tracker = ⟨⟨[], [⟨.owner, "T"⟩]⟩, true⟩ ∧
      (∃ next, Tracker.leave .owner ⟨⟨[], [⟨.owner, "T"⟩]⟩, true⟩ = .ok () next) ∧
      ¬ (∃ next, Tracker.leave .function ⟨⟨[], [⟨.owner, "T"⟩]⟩, true⟩ = .ok () next) ∧
      ¬ (∃ next, Tracker.finish ⟨⟨[], [⟨.owner, "T"⟩]⟩, true⟩ = .ok () next) := by
  have hreached : (runSteps (.ofBase []) (unbalancedActions.map .action)).tracker = ⟨⟨[], [⟨.owner, "T"⟩]⟩, true⟩ := rfl
  obtain ⟨-, -, -, -, -, hleave, hfinish, -⟩ := tracker_consistent [] unbalancedActions hreached
  refine ⟨hreached, (hleave .owner).mpr ⟨rfl, [], "T", rfl⟩, fun h => ?_, fun h => ?_⟩
  · obtain ⟨-, outer, name, hframes⟩ := (hleave .function).mp h
    have hlast := congrArg List.getLast? hframes
    rw [List.getLast?_concat] at hlast
    exact absurd hlast (by simp [Tracker.frames])
  · exact absurd (hfinish.mp h).2 (List.cons_ne_nil _ _)

end Deadwood.Scope
