import LatticeDiff.Proofs.Arg.Elementwise
import LatticeDiff.Proofs.Evaluator.InPlace

/-!
# Displacements

A displacement is undone by a move of the cursor with the opposite distance along the same
axis, both as they were given. The opposite of an integral distance is integral, so this
move is not refused, however the block has ended. It cancels the first one unless the distance
is of fixed width and its opposite wraps around: `FixedInt.value_add_opposite` says by how much.
-/

namespace LatticeDiff

namespace Arg

/-- What is taken for an integer other than zero has an opposite that is taken for the
opposite integer. -/
theorem integral_opposite {name : String} {argument : Arg} {whole : Int}
    (taken : argument.integral name = .ok whole) (nonzero : whole ≠ 0) :
    ∃ opposite, argument.opposite = .ok opposite ∧ opposite.integral name = .ok (-whole) := by
  obtain ⟨equal, proper⟩ := integral_eq_ok_iff.1 taken
  cases argument with
  | int value =>
      cases equal
      exact ⟨_, rfl, rfl⟩
  | real value =>
      exact ⟨_, rfl, integral_eq_ok_iff.2 ⟨Binary64.integer?_neg equal nonzero, rfl⟩⟩
  | bool => cases proper
  | nothing | text | kind | list => cases equal

theorem ne_zero_of_integral {name : String} {argument : Arg} {whole : Int}
    (taken : argument.integral name = .ok whole) (nonzero : argument.isZero = false) :
    whole ≠ 0 := by
  rintro rfl
  have equal := (integral_eq_ok_iff.1 taken).1
  simp [isZero, equal] at nonzero

/-- An index counts from the start, or, if it is negative, from the end. -/
theorem index_eq_ok_iff {argument : Arg} {length place : Nat} :
    argument.index length = .ok place ↔
      ∃ offset : Int, (argument = .int offset ∨ ∃ bit, argument = .bool bit ∧ ofBit bit = offset) ∧
        place < length ∧ (offset = place ∨ offset + length = place) := by
  have inRange : ∀ fromStart : Int,
      (if 0 ≤ fromStart ∧ fromStart < length then Except.ok fromStart.toNat
        else .error .indexOutOfRange) = (.ok place : Except Fault Nat) ↔
          place < length ∧ fromStart = place := by
    intro fromStart
    split
    · rw [Except.ok.injEq]
      omega
    · simp only [reduceCtorEq, false_iff]
      omega
  have resolve : ∀ offset : Int,
      place < length ∧ (if offset < 0 then offset + length else offset) = place ↔
        place < length ∧ (offset = place ∨ offset + length = place) := by
    intro offset
    split <;> omega
  cases argument with
  | int offset => simp [index, inRange, resolve]
  | bool bit => simp [index, inRange, resolve]
  | nothing | real | text | kind | list => simp [index]

end Arg

namespace Position

/-- The position some steps away along every axis. -/
def plus (position : Position) (steps : List Int) : Position :=
  position.zipWith (· + ·) steps

theorem length_plus {position : Position} {steps : List Int}
    (same : steps.length = position.length) : (position.plus steps).length = position.length := by
  rw [plus, List.length_zipWith, same, Nat.min_self]

theorem plus_zeros (position : Position) :
    position.plus (List.replicate position.length 0) = position := by
  induction position with
  | nil => rfl
  | cons coordinate rest ih =>
      rw [List.length_cons, List.replicate_succ, plus, List.zipWith_cons_cons, Int.add_zero]
      exact congrArg _ ih

theorem plus_set (position : Position) (axis : Nat) (distance : Int) :
    position.plus ((List.replicate position.length 0).set axis distance) =
      position.shift axis distance := by
  apply List.ext_getElem
  · simp [plus]
  · intro along bound _
    simp only [plus, shift, List.getElem_zipWith, List.getElem_set, List.getElem_modify,
      List.getElem_replicate]
    split
    · rfl
    · exact Int.add_zero _

end Position

namespace FixedInt

end FixedInt

namespace Distance

/-- Distances whose opposites cancel them. -/
def Exact : Distance → Prop
  | .plain _ => True
  | .fixed number => number.value + number.opposite.value = 0

/-- How far the opposite of a distance leads, if the distance itself leads so far. -/
def back : Distance → Int → Int
  | .plain _, whole => -whole
  | .fixed number, _ => number.opposite.value

/-- What is taken for an integer other than zero has an opposite that is taken for one. -/
theorem integral_opposite {name : String} {distance : Distance} {whole : Int}
    (taken : distance.argument.integral name = .ok whole) (nonzero : whole ≠ 0) :
    ∃ opposite, distance.opposite = .ok opposite ∧
      opposite.argument.integral name = .ok (distance.back whole) := by
  cases distance with
  | plain argument =>
      have takenPlain : argument.integral name = .ok whole := taken
      obtain ⟨negated, isOpposite, takenBack⟩ := Arg.integral_opposite takenPlain nonzero
      refine ⟨.plain negated, ?_, takenBack⟩
      rw [opposite, isOpposite]
      rfl
  | fixed number => exact ⟨.fixed number.opposite, rfl, rfl⟩

theorem Exact.back_eq {name : String} {distance : Distance} (cancels : distance.Exact)
    {whole : Int} (taken : distance.argument.integral name = .ok whole) :
    distance.back whole = -whole := by
  cases distance with
  | plain argument => rfl
  | fixed number =>
      obtain rfl : number.value = whole := Except.ok.inj taken
      have cancelled : number.value + number.opposite.value = 0 := cancels
      rw [back]
      omega

end Distance

/-- How far a displacement leads along each axis, and how far the way back from it does. -/
structure Stride where
  away : List Int
  back : List Int

namespace Walk

variable {Notes α : Type}

/-- The stride of a displacement among so many axes. It leads nowhere if the distance is zero,
whatever the axis is. -/
def stride (ndim : Nat) : Distance × Arg → Except Fault Stride
  | (distance, axis) =>
      let still := List.replicate ndim 0
      if distance.argument.isZero then .ok ⟨still, still⟩
      else do
        let axis ← axis.index ndim
        let whole ← distance.argument.integral "distance"
        return ⟨still.set axis whole, still.set axis (distance.back whole)⟩

variable {ndim : Nat} {distance : Distance} {axis : Arg} {stride : Stride}

/-- A distance other than zero leads along one axis, which is an index that may count from
the last one. -/
theorem stride_eq_ok_iff :
    Walk.stride ndim (distance, axis) = .ok stride ↔
      distance.argument.isZero = true ∧
        stride = ⟨List.replicate ndim 0, List.replicate ndim 0⟩ ∨
      distance.argument.isZero = false ∧ ∃ (offset : Int) (along : Nat) (whole : Int),
        (axis = .int offset ∨ ∃ bit, axis = .bool bit ∧ Arg.ofBit bit = offset) ∧
        along < ndim ∧ (offset = along ∨ offset + ndim = along) ∧
        distance.argument.equalInt? = some whole ∧ distance.argument.isBool = false ∧
        stride = ⟨(List.replicate ndim 0).set along whole,
          (List.replicate ndim 0).set along (distance.back whole)⟩ := by
  rw [Walk.stride]
  cases distance.argument.isZero with
  | true =>
      simp only [if_true, Except.ok.injEq, true_and, reduceCtorEq, false_and, or_false]
      exact eq_comm
  | false =>
      simp only [Bool.false_eq_true, if_false, Outcome.bind_eq_ok, Arg.index_eq_ok_iff,
        Arg.integral_eq_ok_iff, false_and, false_or, true_and]
      constructor
      · rintro ⟨along, ⟨offset, given, bound, place⟩, whole, ⟨equal, proper⟩, same⟩
        exact ⟨offset, along, whole, given, bound, place, equal, proper, (Except.ok.inj same).symm⟩
      · rintro ⟨offset, along, whole, given, bound, place, equal, proper, rfl⟩
        exact ⟨along, ⟨offset, given, bound, place⟩, whole, ⟨equal, proper⟩, rfl⟩

theorem length_stride (accepted : Walk.stride ndim (distance, axis) = .ok stride) :
    stride.away.length = ndim ∧ stride.back.length = ndim := by
  rcases stride_eq_ok_iff.1 accepted with ⟨_, rfl⟩ | ⟨_, _, _, _, _, _, _, _, _, rfl⟩
  · exact ⟨List.length_replicate, List.length_replicate⟩
  · simp

theorem back_eq_map_neg (cancels : distance.Exact)
    (accepted : Walk.stride ndim (distance, axis) = .ok stride) :
    stride.back = stride.away.map (- ·) := by
  rcases stride_eq_ok_iff.1 accepted with ⟨_, rfl⟩ | ⟨_, _, _, _, _, _, _, equal, proper, rfl⟩
  · simp
  · have taken : distance.argument.integral "distance" = .ok _ :=
      Arg.integral_eq_ok_iff.2 ⟨equal, proper⟩
    rw [cancels.back_eq taken]
    simp [List.map_set]

/-- A displacement by other distances than zero is a move of the cursor, and refused like
it. -/
theorem move_eq_map_stride (cursor : Cursor) (axis : Arg)
    (nonzero : distance.argument.isZero = false) :
    cursor.move distance.argument axis =
      (Walk.stride cursor.ndim (distance, axis)).map fun stride =>
        { cursor with position := cursor.position.plus stride.away } := by
  rw [Cursor.move, Walk.stride, nonzero]
  cases axis.index cursor.ndim with
  | error fault => rfl
  | ok along =>
      cases distance.argument.integral "distance" with
      | error fault => rfl
      | ok whole =>
          have shifted := cursor.position.plus_set along whole
          exact congrArg (fun position => Except.ok { cursor with position }) shifted.symm

/-- The move back is not refused, wherever the cursor has got to. -/
theorem move_opposite (cursor : Cursor) (nonzero : distance.argument.isZero = false)
    (accepted : Walk.stride cursor.ndim (distance, axis) = .ok stride) :
    (do cursor.move (← distance.opposite).argument axis) =
      .ok { cursor with position := cursor.position.plus stride.back } := by
  rw [Walk.stride, nonzero, if_neg Bool.false_ne_true, Outcome.bind_eq_ok] at accepted
  obtain ⟨along, found, accepted⟩ := accepted
  rw [Outcome.bind_eq_ok] at accepted
  obtain ⟨whole, taken, accepted⟩ := accepted
  cases accepted
  obtain ⟨opposite, isOpposite, takenBack⟩ :=
    Distance.integral_opposite taken (Arg.ne_zero_of_integral taken nonzero)
  have shifted := cursor.position.plus_set along (distance.back whole)
  rw [isOpposite, Outcome.ok_bind, Cursor.move, found, Outcome.ok_bind, takenBack]
  exact congrArg (fun position => Except.ok { cursor with position }) shifted.symm

/-- A walk that keeps the number of coordinates. -/
def KeepsNdim (walk : Walk Notes α) : Prop :=
  ∀ start, (walk.outcome start).2.position.length = start.position.length

/-- What is left to do is done however a block ends. -/
theorem outcome_tryFinally (block : Walk Notes α) (cleanup : Walk Notes Unit)
    (start : Walker Notes) :
    (tryFinally block cleanup).outcome start =
      match cleanup.outcome (block.outcome start).2 with
      | (.ok _, after) => ((block.outcome start).1, after)
      | (.error fault, after) => (.error fault, after) := by
  simp only [outcome, tryFinally, tryFinally', Functor.map, ExceptT.map, ExceptT.mk, bind,
    StateT.bind, pure]
  rcases block start with ⟨_ | _, after⟩
  · dsimp only
    rcases cleanup after with ⟨_ | _, _⟩ <;> rfl
  · dsimp only
    rcases cleanup after with ⟨_ | _, _⟩ <;> rfl

/-- Where a block is carried out by a displacement, and how the cursor comes back. -/
theorem outcome_displaced (region : Region) {block : Walk Notes α} (keeps : block.KeepsNdim)
    (distance : Distance) (axis : Arg) (start : Walker Notes) :
    (displaced region distance axis block).outcome start =
      match Walk.stride start.position.length (distance, axis) with
      | .error fault => (.error fault, start)
      | .ok stride =>
          let inner := block.outcome ⟨start.position.plus stride.away, start.notes⟩
          (inner.1, ⟨inner.2.position.plus stride.back, inner.2.notes⟩) := by
  cases zero : distance.argument.isZero with
  | true =>
      have same := (block.outcome start).2.position.plus_zeros
      rw [keeps start] at same
      simp only [displaced, Walk.stride, zero, if_true, start.position.plus_zeros, same]
  | false =>
      have isMove := move_eq_map_stride ⟨region, start.position⟩ axis zero
      rw [displaced, if_neg (by simp [zero]), outcome_bind]
      cases accepted : Walk.stride start.position.length (distance, axis) with
      | error fault =>
          have refused : Cursor.move ⟨region, start.position⟩ distance.argument axis =
              .error fault := by
            rw [isMove, Cursor.ndim, accepted]
            rfl
          rw [outcome_act_of_error refused]
      | ok stride =>
          let away : Walker Notes := ⟨start.position.plus stride.away, start.notes⟩
          have moved : Cursor.move ⟨region, start.position⟩ distance.argument axis =
              .ok ⟨region, away.position⟩ := by
            rw [isMove, Cursor.ndim, accepted]
            rfl
          have length : (block.outcome away).2.position.length = start.position.length :=
            (keeps away).trans (Position.length_plus (length_stride accepted).1)
          -- The axis is looked up again, among as many coordinates as before.
          have undone : (act region fun cursor => do
              cursor.move (← distance.opposite).argument axis).outcome (block.outcome away).2 =
                (.ok (), ⟨(block.outcome away).2.position.plus stride.back,
                  (block.outcome away).2.notes⟩) := by
            apply outcome_act_of_ok
            apply move_opposite ⟨region, (block.outcome away).2.position⟩ zero
            rw [Cursor.ndim, length, accepted]
          rw [outcome_act_of_ok moved]
          refine (outcome_tryFinally block _ away).trans ?_
          rw [undone]

/-- A displacement along an axis that there is, as evaluators make it at one stroke, is one by
moves of the cursor. -/
theorem outcome_displaced_int (region : Region) {block : Walk Notes α} (keeps : block.KeepsNdim)
    (distance : Int) {axis : Nat} {start : Walker Notes} (bound : axis < start.position.length) :
    (displaced region (.plain (.int distance)) (.int axis) block).outcome start =
      (displacedBy axis distance block).outcome start := by
  have shift : ∀ (position : Position) (steps : Int),
      position.length = start.position.length →
      position.plus ((List.replicate start.position.length 0).set axis steps) =
        position.shift axis steps :=
    fun position steps same => same ▸ position.plus_set axis steps
  have accepted : Walk.stride start.position.length (.plain (.int distance), .int axis) =
      .ok ⟨(List.replicate start.position.length 0).set axis distance,
        (List.replicate start.position.length 0).set axis (-distance)⟩ := by
    have found := Arg.index_ofNat bound
    by_cases zero : distance = 0
    · subst zero
      simp [Walk.stride, Distance.argument, Arg.isZero, Arg.equalInt?]
    · have nonzero : (Arg.int distance).isZero = false := by
        simp [Arg.isZero, Arg.equalInt?, zero]
      simp only [Walk.stride, Distance.argument, nonzero, Bool.false_eq_true, if_false, found]
      rfl
  rw [outcome_displaced region keeps, outcome_displacedBy, accepted]
  simp only [shift start.position distance rfl]
  rw [shift]
  rw [keeps, Position.length_shift]

theorem KeepsNdim.displaced {block : Walk Notes α} (keeps : block.KeepsNdim) (region : Region)
    (distance : Distance) (axis : Arg) : (displaced region distance axis block).KeepsNdim := by
  intro start
  rw [outcome_displaced region keeps]
  cases accepted : Walk.stride start.position.length (distance, axis) with
  | error fault => rfl
  | ok stride =>
      have length := (keeps ⟨start.position.plus stride.away, start.notes⟩).trans
        (Position.length_plus (length_stride accepted).1)
      have sameBack := (length_stride accepted).2.trans length.symm
      exact (Position.length_plus sameBack).trans length

end Walk

end LatticeDiff
