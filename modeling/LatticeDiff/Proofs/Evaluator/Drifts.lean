import LatticeDiff.Proofs.Cursor.Displacement
import LatticeDiff.Proofs.Evaluator.Run
import LatticeDiff.Proofs.Region.Expansion

/-!
# Relative motions

Motions relative to where an evaluator stands are checked against its dimensions alone, and
each that is accepted adds a vector to its position. So they can be made in any order, with
evaluations anywhere between them: every one of them ends as it would have ended by itself,
and the evaluator arrives at the same position, from where it evaluates in the same way.
-/

namespace LatticeDiff

namespace Position

theorem plus_plus (position first second : List Int) :
    (plus position first).plus second = plus position (plus first second) :=
  zipWith_zipWith Int.add_assoc position first second

theorem plus_right_comm (position first second : List Int) :
    (plus position first).plus second = (plus position second).plus first := by
  have exchanged : plus first second = plus second first :=
    List.zipWith_comm_of_comm Int.add_comm
  rw [plus_plus, plus_plus, exchanged]

theorem foldl_plus (position sum : Position) (strides : List (List Int)) :
    strides.foldl plus (position.plus sum) = position.plus (strides.foldl plus sum) := by
  induction strides generalizing sum with
  | nil => rfl
  | cons steps strides ih => rw [List.foldl_cons, List.foldl_cons, plus_plus, ih]

end Position

namespace Evaluator

/-- A motion relative to where an evaluator stands. -/
inductive Drift where
  | move (distance axis : Arg)
  | moveBy (distances : Arg)
  | forward (axis : Arg)
  | back (axis : Arg)

namespace Drift

/-- A relative motion as one of the ways to reposition an evaluator. -/
def motion : Drift → Motion
  | .move distance axis => .move distance axis
  | .moveBy distances => .moveBy distances
  | .forward axis => .forward axis
  | .back axis => .back axis

/-- How far a distance along one axis leads along each of them. -/
def strideAlong (ndim : Nat) (distance axis : Arg) : Except Fault (List Int) := do
  let distance ← distance.integral "distance"
  let axis ← axis.axis ndim
  return (List.replicate ndim 0).set axis distance

/-- How far a relative motion leads along each axis, or why it is refused. -/
def stride (ndim : Nat) : Drift → Except Fault (List Int)
  | .move distance axis => strideAlong ndim distance axis
  | .moveBy distances => distances.coordinates ndim
  | .forward axis => strideAlong ndim (.int 1) axis
  | .back axis => strideAlong ndim (.int (-1)) axis

/-- The strides of the motions that are accepted. -/
def strides (ndim : Nat) (drifts : List Drift) : List (List Int) :=
  drifts.filterMap fun drift => (drift.stride ndim).toOption

/-- How far the motions that are accepted lead together. -/
def total (ndim : Nat) (drifts : List Drift) : List Int :=
  (strides ndim drifts).foldl Position.plus (List.replicate ndim 0)

theorem length_strideAlong {ndim : Nat} {distance axis : Arg} {steps : List Int}
    (accepted : strideAlong ndim distance axis = .ok steps) : steps.length = ndim := by
  rw [strideAlong, Outcome.bind_eq_ok] at accepted
  obtain ⟨whole, _, accepted⟩ := accepted
  obtain ⟨along, _, accepted⟩ := Outcome.bind_eq_ok.1 accepted
  cases accepted
  rw [List.length_set, List.length_replicate]

theorem length_stride {ndim : Nat} {drift : Drift} {steps : List Int}
    (accepted : drift.stride ndim = .ok steps) : steps.length = ndim := by
  cases drift with
  | moveBy distances => exact Arg.length_of_coordinates accepted
  | move | forward | back => exact length_strideAlong accepted

theorem foldl_plus_strides (start : Position) (drifts : List Drift) :
    (strides start.length drifts).foldl Position.plus start =
      start.plus (total start.length drifts) := by
  have fromStart := Position.foldl_plus start (List.replicate start.length 0)
    (strides start.length drifts)
  rwa [start.plus_zeros] at fromStart

theorem total_of_perm {drifts others : List Drift} (same : others.Perm drifts) (ndim : Nat) :
    total ndim others = total ndim drifts := by
  unfold total
  apply List.Perm.foldl_eq' (same.filterMap _)
  intro first _ second _ position
  exact Position.plus_right_comm position first second

end Drift

theorem move_eq_map_strideAlong (evaluator : Evaluator) (distance axis : Arg) :
    evaluator.move distance axis =
      (Drift.strideAlong evaluator.ndim distance axis).map fun steps =>
        { evaluator with position := evaluator.position.plus steps } := by
  rw [move, Drift.strideAlong]
  cases distance.integral "distance" with
  | error fault => rfl
  | ok whole =>
      rw [Outcome.ok_bind, Outcome.ok_bind]
      cases axis.axis evaluator.ndim with
      | error fault => rfl
      | ok along =>
          have shifted := evaluator.position.plus_set along whole
          exact congrArg (fun position => Except.ok { evaluator with position }) shifted.symm

/-- A relative motion adds its stride to the position, wherever the evaluator stands. -/
theorem perform_eq_map_stride (evaluator : Evaluator) (drift : Drift) :
    evaluator.perform drift.motion = (drift.stride evaluator.ndim).map fun steps =>
      { evaluator with position := evaluator.position.plus steps } := by
  cases drift with
  | move distance axis => exact evaluator.move_eq_map_strideAlong distance axis
  | moveBy distances =>
      rw [Drift.motion, perform, moveBy, Drift.stride]
      cases distances.coordinates evaluator.ndim <;> rfl
  | forward axis => exact evaluator.move_eq_map_strideAlong (.int 1) axis
  | back axis => exact evaluator.move_eq_map_strideAlong (.int (-1)) axis

namespace Session

/-- The motions among some commands, each with what it answers. -/
def answers (session : Session) : List Command → List (Motion × Except Fault Reply)
  | [] => []
  | .reposition motion :: commands =>
      let step := session.step (.reposition motion)
      (motion, step.result) :: step.session.answers commands
  | command :: commands => (session.step command).session.answers commands

/-- Commands that are relative motions, in order, with evaluations anywhere between them. -/
inductive Carries : List Command → List Drift → Prop where
  | nil : Carries [] []
  | drift {commands : List Command} {drifts : List Drift} (drift : Drift) :
      Carries commands drifts → Carries (.reposition drift.motion :: commands) (drift :: drifts)
  | evaluate {commands : List Command} {drifts : List Drift} :
      Carries commands drifts → Carries (.evaluate :: commands) drifts

/-- How a relative motion ends, and where it leads, is said by its stride. -/
theorem step_drift (session : Session) (drift : Drift) :
    let step := session.step (.reposition drift.motion)
    let ndim := session.current.ndim
    step.result = ((drift.stride ndim).map fun _ => .done) ∧
      step.session.source = session.source ∧ step.session.current.ndim = ndim ∧
      step.session.current.position =
        (Drift.strides ndim [drift]).foldl Position.plus session.current.position := by
  have performed := session.current.perform_eq_map_stride drift
  cases accepted : drift.stride session.current.ndim with
  | error fault =>
      have none : Drift.strides session.current.ndim [drift] = [] := by
        rw [Drift.strides, List.filterMap_cons, accepted]
        rfl
      rw [accepted] at performed
      rw [step_reposition_of_error performed]
      dsimp only
      rw [accepted, none]
      exact ⟨rfl, rfl, rfl, rfl⟩
  | ok steps =>
      have one : Drift.strides session.current.ndim [drift] = [steps] := by
        rw [Drift.strides, List.filterMap_cons, accepted]
        rfl
      rw [accepted] at performed
      have put : (session.pool.put { session.current with
          position := session.current.position.plus steps }).get.position =
          session.current.position.plus steps := by
        rw [Pool.get_put]
      rw [step_reposition_of_ok performed]
      dsimp only
      rw [accepted, one]
      refine ⟨rfl, rfl, ?_, put⟩
      exact (congrArg List.length put).trans (Position.length_plus (Drift.length_stride accepted))

theorem current_step_evaluate (session : Session) :
    (session.step .evaluate).session.current =
      (session.current.evaluate session.source.field).evaluator :=
  Pool.get_put _ _

theorem position_step_evaluate (session : Session) :
    (session.step .evaluate).session.current.position = session.current.position := by
  rw [current_step_evaluate]
  exact position_evaluate _ _

theorem ndim_step_evaluate (session : Session) :
    (session.step .evaluate).session.current.ndim = session.current.ndim :=
  congrArg List.length session.position_step_evaluate

variable {commands : List Command} {drifts : List Drift}

/-- Each relative motion of a run answers what it would answer by itself. -/
theorem Carries.answers_eq (carries : Carries commands drifts) (session : Session) :
    session.answers commands = drifts.map fun drift =>
      (drift.motion, (drift.stride session.current.ndim).map fun _ => .done) := by
  induction carries generalizing session with
  | nil => rfl
  | drift drift _ ih =>
      obtain ⟨result, _, sameNdim, _⟩ := session.step_drift drift
      rw [answers, result, ih, sameNdim, List.map_cons]
  | evaluate _ ih =>
      rw [answers, ih, ndim_step_evaluate]
      intro motion impossible
      cases impossible

/-- The strides of a run are added one after the other, and the samples stay as they are. -/
theorem Carries.run_eq (carries : Carries commands drifts) (session : Session) :
    (session.run commands).source = session.source ∧
      (session.run commands).current.position =
        (Drift.strides session.current.ndim drifts).foldl Position.plus
          session.current.position := by
  induction carries generalizing session with
  | nil => exact ⟨rfl, rfl⟩
  | @drift _ drifts drift _ ih =>
      obtain ⟨_, sameSource, sameNdim, moved⟩ := session.step_drift drift
      obtain ⟨source, position⟩ := ih (session.step (.reposition drift.motion)).session
      -- The first motion puts its stride, if it has one, in front of the others.
      have split : Drift.strides session.current.ndim (drift :: drifts) =
          Drift.strides session.current.ndim [drift] ++
            Drift.strides session.current.ndim drifts := by
        rw [← List.singleton_append, Drift.strides, List.filterMap_append]
        rfl
      refine ⟨source.trans sameSource, ?_⟩
      rw [split, List.foldl_append, ← moved, ← sameNdim]
      exact position
  | evaluate _ ih =>
      obtain ⟨source, position⟩ := ih (session.step .evaluate).session
      rw [ndim_step_evaluate, position_step_evaluate] at position
      exact ⟨source, position⟩

theorem Carries.position_run (carries : Carries commands drifts) (session : Session) :
    (session.run commands).current.position =
      session.current.position.plus (Drift.total session.current.ndim drifts) :=
  (carries.run_eq session).2.trans (Drift.foldl_plus_strides _ drifts)

theorem result_step_evaluate_eq_ok_iff {session : Session} :
    (session.step .evaluate).result = .ok .done ↔
      (session.current.evaluate session.source.field).result = .ok () := by
  rw [result_step_evaluate]
  cases (session.current.evaluate session.source.field).result <;> simp [Except.map]

end Session

/-- The ways to get an evaluator over a source, for derivatives or without any. -/
inductive Opens (source : Source) : Evaluator → Prop where
  | derivatives {region? : Option Region} {evaluator : Evaluator} :
      Builds source region? evaluator → Opens source evaluator
  | positioned {region padded : Region} {evaluator : Evaluator} :
      positioned source region padded = .ok evaluator → Opens source evaluator

theorem Opens.blank_or_wellFormed {source : Source} {evaluator : Evaluator}
    (opened : Opens source evaluator) :
    evaluator.scheme = .blank ∨ evaluator.scheme ≠ .blank ∧ evaluator.WellFormed := by
  cases opened with
  | derivatives built =>
      obtain ⟨scheme, derives, success⟩ := built.exists_scheme
      obtain ⟨formed, sameScheme, _⟩ := wellFormed_of_ofScheme success
      exact .inr ⟨sameScheme ▸ derives, formed⟩
  | positioned success =>
      rw [Evaluator.positioned, withPadding, Outcome.bind_eq_ok] at success
      obtain ⟨cursor, _, success⟩ := success
      cases success
      exact .inl rfl

theorem Opens.persistent_alike {source : Source} {original : Evaluator}
    (opened : Opens source original) : Persistent (Alike original) := by
  rcases opened.blank_or_wellFormed with blank | ⟨_, formed⟩
  · refine ⟨fun alike performed => alike.trans (Moved.of_perform performed).alike,
      fun field alike => alike.trans (alike_evaluate _ field), ?_⟩
    intro evaluator duplicate source alike copied
    rw [copy, rebuild, alike.scheme, blank] at copied
    cases copied
  · exact Evaluator.persistent_alike formed

theorem evaluate_of_blank {evaluator : Evaluator} (blank : evaluator.scheme = .blank)
    (field : Field) : evaluator.evaluate field = ⟨.error .notImplemented, [], evaluator⟩ := by
  rw [evaluate, blank]

/-- Evaluators that are like one original evaluate alike where they stand at one position. -/
theorem Opens.evaluate_eq {source : Source} {original first second : Evaluator}
    (opened : Opens source original) (alike : Alike original first)
    (otherAlike : Alike original second) (samePosition : second.position = first.position)
    (field : Field) :
    (second.evaluate field).result = (first.evaluate field).result ∧
      ((first.evaluate field).result = .ok () →
        (second.evaluate field).evaluator.matrix = (first.evaluate field).evaluator.matrix) := by
  rcases opened.blank_or_wellFormed with blank | ⟨derives, formed⟩
  · rw [evaluate_of_blank (alike.scheme.trans blank),
      evaluate_of_blank (otherAlike.scheme.trans blank)]
    refine ⟨rfl, ?_⟩
    intro success
    cases success
  · have related := alike.symm.trans otherAlike
    exact evaluate_eq_of_position_eq (alike.scheme ▸ derives) (alike.wellFormed formed).shape
      related.scheme related.padded related.shape samePosition field

namespace Session

/-- What two runs have in common in which the same relative motions are made in different
orders, and evaluations anywhere between them. -/
structure SameDrifts (first second : Session) (commands others : List Command)
    (drifts : List Drift) : Prop where
  /-- A motion answers what its stride says, whatever has been done before it. -/
  answers : first.answers commands = drifts.map fun drift =>
    (drift.motion, (drift.stride first.current.ndim).map fun _ => .done)
  /-- So each motion answers the same in both runs. -/
  sameAnswers : (second.answers others).Perm (first.answers commands)
  /-- The strides that are accepted add up. -/
  position : (first.run commands).current.position =
    first.current.position.plus (Drift.total first.current.ndim drifts)
  samePosition : (second.run others).current.position = (first.run commands).current.position
  /-- An evaluation at the end has the same outcome. -/
  sameResult : ((second.run others).step .evaluate).result =
    ((first.run commands).step .evaluate).result
  sameMatrix : ((first.run commands).step .evaluate).result = .ok .done →
    ((second.run others).step .evaluate).session.current.matrix =
      ((first.run commands).step .evaluate).session.current.matrix

/-- Relative motions commute, and evaluations between them do not matter: two runs that make
the same motions in any order, from wherever an evaluator stands after any history, end at
one position and evaluate alike there. The matrices they start with may differ. -/
theorem sameDrifts_run {source : Source} {evaluator : Evaluator}
    (opened : Opens source evaluator) {history otherHistory commands others : List Command}
    {drifts otherDrifts : List Drift} (carries : Carries commands drifts)
    (otherCarries : Carries others otherDrifts) (reordered : otherDrifts.Perm drifts)
    (sameField : ((start source evaluator).run otherHistory).source.field =
      ((start source evaluator).run history).source.field)
    (samePosition : ((start source evaluator).run otherHistory).current.position =
      ((start source evaluator).run history).current.position) :
    SameDrifts ((start source evaluator).run history)
      ((start source evaluator).run otherHistory) commands others drifts := by
  have alikeAfter : ∀ before after,
      Alike evaluator (((start source evaluator).run before).run after).current := by
    intro before after
    rw [run, run, ← List.foldl_append]
    exact opened.persistent_alike.run (.refl evaluator) (before ++ after) _ (current_mem _)
  have alike := alikeAfter history commands
  have otherAlike := alikeAfter otherHistory others
  clear alikeAfter
  generalize (start source evaluator).run history = first at *
  generalize (start source evaluator).run otherHistory = second at *
  have sameNdim : second.current.ndim = first.current.ndim := congrArg List.length samePosition
  have arrived : (second.run others).current.position = (first.run commands).current.position := by
    rw [otherCarries.position_run, carries.position_run, samePosition, sameNdim,
      Drift.total_of_perm reordered]
  have fields : (second.run others).source.field = (first.run commands).source.field := by
    rw [(otherCarries.run_eq second).1, (carries.run_eq first).1, sameField]
  obtain ⟨sameResult, sameMatrix⟩ := opened.evaluate_eq alike otherAlike arrived
    (first.run commands).source.field
  constructor
  case answers => exact carries.answers_eq first
  case sameAnswers =>
    rw [carries.answers_eq, otherCarries.answers_eq, sameNdim]
    exact reordered.map _
  case position => exact carries.position_run first
  case samePosition => exact arrived
  case sameResult => rw [result_step_evaluate, result_step_evaluate, fields, sameResult]
  case sameMatrix =>
    intro success
    rw [current_step_evaluate, current_step_evaluate, fields]
    exact sameMatrix (result_step_evaluate_eq_ok_iff.1 success)

/-- Three motions over a square, of which one is refused, in two orders: either way the
evaluator goes from outside the square to its middle. -/
theorem sameDrifts_square :
    let stencil : Stencil := ⟨.central, 2, 1, [⟨-1, -1⟩, ⟨1, 1⟩], 2, by decide⟩
    let away : Drift := .moveBy (.ofPosition [1, 2])
    let refused : Drift := .back (.int 7)
    let on : Drift := .forward (.int 0)
    let commands : List Command := [.reposition away.motion, .evaluate,
      .reposition refused.motion, .reposition on.motion]
    let others : List Command := [.reposition on.motion, .evaluate, .evaluate,
      .reposition refused.motion, .reposition away.motion]
    ∃ built, gradient (Source.square 3) stencil none = .ok built ∧
      let first := start (Source.square 3) built
      let second := first.run [.evaluate]
      SameDrifts first second commands others [away, refused, on] ∧
        first.current.position = [-1, -1] ∧ (first.run commands).current.position = [1, 1] := by
  intro stencil away refused on commands others
  let region : Region := ⟨[⟨0, 2, by decide⟩, ⟨0, 2, by decide⟩], by decide⟩
  let built := fresh (Source.square 3) (.gradient stencil) region 1 1
  have success : gradient (Source.square 3) stencil none = .ok built := rfl
  have carries : Carries commands [away, refused, on] :=
    .drift away (.evaluate (.drift refused (.drift on .nil)))
  have otherCarries : Carries others [on, refused, away] :=
    .drift on (.evaluate (.evaluate (.drift refused (.drift away .nil))))
  have reordered : [on, refused, away].Perm [away, refused, on] :=
    List.reverse_perm [away, refused, on]
  have same : SameDrifts (start (Source.square 3) built)
      ((start (Source.square 3) built).run [.evaluate]) commands others [away, refused, on] :=
    @sameDrifts_run _ _ (.derivatives (.gradient success)) [] [.evaluate] _ _ _ _ carries
      otherCarries reordered rfl (position_step_evaluate _)
  refine ⟨built, success, same, rfl, ?_⟩
  rw [same.position]
  rfl

end Session

end Evaluator

end LatticeDiff
