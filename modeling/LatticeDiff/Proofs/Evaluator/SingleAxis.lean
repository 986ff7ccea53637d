import LatticeDiff.Proofs.Arg.Elementwise
import LatticeDiff.Proofs.Evaluator.InPlace
import LatticeDiff.Proofs.Evaluator.Repositioning

/-!
# Motions along one axis

A motion along one axis needs a distance that is an integer, and an axis that is a number in
range. It changes a single coordinate, by that distance. Unlike the distance, the axis need
not be an integer: a fractional number in range is rounded down, and its integer part says
which coordinate changes.
-/

namespace LatticeDiff

namespace Arg

variable {argument : Arg}

/-- An argument that is equal to an integer, and is no boolean. -/
def Integral (argument : Arg) : Prop :=
  argument.isBool = false ∧ ∃ whole : Int, argument.rational? = some (whole : ℚ)

/-- An argument that is equal to a number between zero, included, and a bound, excluded. -/
def InRange (argument : Arg) (bound : Nat) : Prop :=
  ∃ number : ℚ, argument.rational? = some number ∧ 0 ≤ number ∧ number < bound

/-- An argument that is equal to a number, but to no integer. -/
def Fractional (argument : Arg) : Prop :=
  ∃ number : ℚ, argument.rational? = some number ∧ ∀ whole : Int, number ≠ whole

theorem exists_integral_iff (name : String) :
    (∃ whole, argument.integral name = .ok whole) ↔ argument.Integral := by
  simp only [integral_eq_ok_iff, equalInt?_eq_some_iff, Integral]
  rw [exists_and_right, and_comm]

theorem exists_axis_iff {ndim : Nat} :
    (∃ axis, argument.axis ndim = .ok axis) ↔ argument.InRange ndim := by
  simp only [axis_eq_ok_iff, InRange]
  constructor
  · rintro ⟨axis, number, same, nonneg, below, _⟩
    exact ⟨number, same, nonneg, by exact_mod_cast below⟩
  · rintro ⟨number, same, nonneg, below⟩
    have part : ((⌊number⌋.toNat : Nat) : Int) = ⌊number⌋ :=
      Int.toNat_of_nonneg (Int.floor_nonneg.2 nonneg)
    exact ⟨⌊number⌋.toNat, number, same, nonneg, by exact_mod_cast below, part.symm⟩

theorem fault_of_axis {ndim : Int} {fault : Fault} (refused : argument.axis ndim = .error fault) :
    fault = if argument.isNumeric then .axisOutOfBounds argument ndim else .wrongType := by
  cases same : argument.rational? with
  | none =>
      rw [axis_of_not_rational same] at refused
      exact (Except.error.inj refused).symm
  | some number =>
      have numeric : argument.isNumeric = true := by
        cases argument with
        | bool | int | real => rfl
        | nothing | text | kind | list => cases same
      rw [axis_of_rational same] at refused
      split at refused
      · cases refused
      · rw [if_pos numeric]
        exact (Except.error.inj refused).symm

theorem rational?_eq_floor_iff {number : ℚ} (same : argument.rational? = some number) :
    argument.rational? = some (⌊number⌋ : ℚ) ↔ ¬argument.Fractional := by
  rw [same, Option.some.injEq]
  constructor
  · rintro whole ⟨other, found, fractional⟩
    rw [same] at found
    cases found
    exact fractional _ whole
  · intro integral
    by_contra apart
    refine integral ⟨number, same, fun whole equal => apart ?_⟩
    rw [equal, Int.floor_intCast]

end Arg

namespace Position

theorem changed_shift {position : Position} {axis : Nat} (bound : axis < position.length)
    (distance : Int) :
    position.Changed axis (position[axis] + distance) (position.shift axis distance) where
  along := by simp [shift, bound]
  others := by
    intro other elsewhere
    simp [shift, elsewhere.symm]

end Position

/-- The distance and the axis of a motion along one axis. -/
def Motion.along? : Motion → Option (Arg × Arg)
  | .move distance axis => some (distance, axis)
  | .forward axis => some (.int 1, axis)
  | .back axis => some (.int (-1), axis)
  | .setPosition _ | .setAxisPosition _ _ | .moveBy _ => none

namespace Evaluator

variable {evaluator moved : Evaluator} {motion : Motion} {distance axis : Arg}

theorem perform_of_along (single : motion.along? = some (distance, axis)) :
    evaluator.perform motion = evaluator.move distance axis := by
  cases motion with
  | move | forward | back =>
      cases single
      rfl
  | setPosition | setAxisPosition | moveBy => cases single

theorem move_eq_ok_iff :
    evaluator.move distance axis = .ok moved ↔
      ∃ steps along, distance.integral "distance" = .ok steps ∧
        axis.axis evaluator.ndim = .ok along ∧
        moved = { evaluator with position := evaluator.position.shift along steps } := by
  simp only [move, Outcome.bind_eq_ok, pure, Except.pure, Except.ok.injEq]
  constructor
  · rintro ⟨steps, integral, along, accepted, rfl⟩
    exact ⟨steps, along, integral, accepted, rfl⟩
  · rintro ⟨steps, along, integral, accepted, rfl⟩
    exact ⟨steps, integral, along, accepted, rfl⟩

theorem exists_move_iff :
    (∃ moved, evaluator.move distance axis = .ok moved) ↔
      distance.Integral ∧ axis.InRange evaluator.ndim := by
  rw [← Arg.exists_integral_iff "distance", ← Arg.exists_axis_iff]
  simp only [move_eq_ok_iff]
  constructor
  · rintro ⟨_, steps, along, integral, accepted, _⟩
    exact ⟨⟨steps, integral⟩, along, accepted⟩
  · rintro ⟨⟨steps, integral⟩, along, accepted⟩
    exact ⟨_, steps, along, integral, accepted, rfl⟩

/-- A motion is refused for its distance, or else for its axis. -/
theorem fault_of_move {fault : Fault} (refused : evaluator.move distance axis = .error fault) :
    fault = .notIntegral "distance" distance ∧ ¬distance.Integral ∨
      distance.Integral ∧
        fault = if axis.isNumeric then .axisOutOfBounds axis evaluator.ndim else .wrongType := by
  rw [← Arg.exists_integral_iff "distance"]
  rw [move, Outcome.bind_eq_error] at refused
  rcases refused with noInteger | ⟨steps, integral, refused⟩
  · exact .inl ⟨Arg.fault_of_integral noInteger, by simp [noInteger]⟩
  · rw [Outcome.bind_eq_error] at refused
    rcases refused with noAxis | ⟨along, _, impossible⟩
    · exact .inr ⟨⟨steps, integral⟩, Arg.fault_of_axis noAxis⟩
    · cases impossible

namespace Session

/-- How a session answers a motion along one axis. -/
structure MovesAlong (session : Session) (motion : Motion) (distance axis : Arg) : Prop where
  /-- The distance has to be an integer, and the axis a number in range. -/
  accepted : (session.step (.reposition motion)).result = .ok .done ↔
    distance.Integral ∧ axis.InRange session.current.ndim
  /-- The coordinate along the integer part of the axis changes by the distance, and nothing else
  does. The axis is that integer unless it is fractional. -/
  moved : ∀ reply, (session.step (.reposition motion)).result = .ok reply →
    ∃ (steps : Int) (number : ℚ) (along : Nat) (coordinate : Int) (position : Position),
      distance.rational? = some (steps : ℚ) ∧
      axis.rational? = some number ∧ ⌊number⌋ = along ∧ along < session.current.ndim ∧
      (axis.rational? = some (along : ℚ) ↔ ¬axis.Fractional) ∧
      session.current.position[along]? = some coordinate ∧
      session.current.position.Changed along (coordinate + steps) position ∧
      (session.step (.reposition motion)).session =
        { session with pool := session.pool.put { session.current with position } }
  /-- A refusal names the distance if that is no integer, and else the axis. It changes nothing,
  and it comes before the cursor has moved. -/
  refused : ∀ fault, (session.step (.reposition motion)).result = .error fault →
    (fault = .notIntegral "distance" distance ∧ ¬distance.Integral ∨
      distance.Integral ∧ fault =
        if axis.isNumeric then .axisOutOfBounds axis session.current.ndim else .wrongType) ∧
    (session.step (.reposition motion)).session = session ∧
    ∀ notes : Unit,
      (motion.walk session.current.padded).outcome ⟨session.current.position, notes⟩ =
        (.error fault, ⟨session.current.position, notes⟩)

/-- In every state, a motion along one axis is accepted exactly if its distance is an integer and
its axis is a number in range. It then changes the coordinate along the integer part of the axis
by the distance, and no other one, and otherwise nothing. -/
theorem movesAlong_step (session : Session) {motion : Motion} {distance axis : Arg}
    (single : motion.along? = some (distance, axis)) :
    session.MovesAlong motion distance axis := by
  have same : session.current.perform motion = session.current.move distance axis :=
    perform_of_along single
  constructor
  case accepted =>
    rw [← exists_move_iff, ← same]
    cases performed : session.current.perform motion with
    | ok moved => simp [step_reposition_of_ok performed]
    | error fault => simp [step_reposition_of_error performed]
  case moved =>
    intro reply success
    cases performed : session.current.perform motion with
    | error fault =>
        rw [step_reposition_of_error performed] at success
        cases success
    | ok moved =>
        obtain ⟨steps, along, integral, accepted, rfl⟩ :=
          move_eq_ok_iff.1 (same.symm.trans performed)
        have bound : along < session.current.position.length := Arg.axis_lt accepted
        obtain ⟨number, found, _, _, part⟩ := Arg.axis_eq_ok_iff.1 accepted
        have whole := Arg.rational?_eq_floor_iff found
        rw [part, Int.cast_natCast] at whole
        have distanceIs := Arg.equalInt?_eq_some_iff.1 (Arg.integral_eq_ok_iff.1 integral).1
        rw [step_reposition_of_ok performed]
        exact ⟨steps, number, along, _, _, distanceIs, found, part, bound, whole,
          List.getElem?_eq_getElem bound, Position.changed_shift bound steps, rfl⟩
  case refused =>
    intro fault failed
    cases performed : session.current.perform motion with
    | ok moved =>
        rw [step_reposition_of_ok performed] at failed
        cases failed
    | error other =>
        rw [step_reposition_of_error performed] at failed ⊢
        cases failed
        refine ⟨fault_of_move (same.symm.trans performed), rfl, fun notes => ?_⟩
        rw [outcome_walk, performed]
        rfl

/-- Over a square, a distance may be a float, and an axis a boolean. -/
theorem movesAlong_square :
    let motion : Motion := .move (.real 2.0) (.bool true)
    motion.along? = some (.real 2.0, .bool true) ∧
    ∃ built, hessian (Source.square 3) (.int 2) none = .ok built ∧
      let session := start (Source.square 3) built
      session.MovesAlong motion (.real 2.0) (.bool true) ∧
      session.current.position = [-1, -1] ∧
      (session.step (.reposition motion)).session.current.position = [-1, 1] := by
  intro motion
  have single : motion.along? = some (.real 2.0, .bool true) := rfl
  exact ⟨single, _, rfl, movesAlong_step _ single, rfl, rfl⟩

/-- Over a square, half an axis is taken for the first one, while half a step is refused. -/
theorem fractional_axis_accepted :
    Arg.Fractional (.real 0.5) ∧
    ∃ built, hessian (Source.square 3) (.int 2) none = .ok built ∧
      let session := start (Source.square 3) built
      session.current.position = [-1, -1] ∧
      (∀ motion ∈ [Motion.move (.int 1) (.real 0.5), .forward (.real 0.5)],
        (session.step (.reposition motion)).result = .ok .done ∧
        (session.step (.reposition motion)).session.current.position = [0, -1]) ∧
      (session.step (.reposition (.move (.real 0.5) (.int 0)))).result =
        .error (.notIntegral "distance" (.real 0.5)) := by
  refine ⟨⟨_, rfl, fun whole equal => ?_⟩, _, rfl, rfl, ?_, rfl⟩
  · have found : (Arg.real 0.5).rational? = some (whole : ℚ) := congrArg some equal
    cases Arg.equalInt?_eq_some_iff.2 found
  · intro motion member
    simp only [List.mem_cons, List.not_mem_nil, or_false] at member
    rcases member with rfl | rfl
    · exact ⟨rfl, rfl⟩
    · exact ⟨rfl, rfl⟩

end Session

end Evaluator

end LatticeDiff
