import LatticeDiff.Cursor.Basic
import LatticeDiff.Cursor.Distance

/-!
# Walks

A walk is a computation that moves one cursor about and takes notes. It may fail,
and then what it has noted up to there remains, and so does its position. A
displacement moves the cursor for the length of a block and moves it back
afterwards, whether or not the block failed.
-/

namespace LatticeDiff

/-- A walker's position, and its notes. -/
structure Walker (Notes : Type) where
  position : Position
  notes : Notes

/-- A computation of a walker, which may fail. -/
abbrev Walk (Notes α : Type) := ExceptT Fault (StateM (Walker Notes)) α

namespace Walk

variable {Notes α : Type}

/-- The outcome of a walk from a starting state, and the state after it. -/
def outcome (walk : Walk Notes α) (start : Walker Notes) :
    Except Fault α × Walker Notes :=
  walk start

/-- Where the walker stands. -/
def position : Walk Notes Position := do
  return (← get).position

/-- Change the notes. -/
def note (change : Notes → Notes) : Walk Notes Unit :=
  modify fun walker => { walker with notes := change walker.notes }

/-- Go on with the value of a result, or fail as it did. -/
def ofResult (result : Except Fault α) : Walk Notes α :=
  fun walker => (result, walker)

/-- Act on the cursor by one of its operations. A failed operation leaves it alone. -/
def act (region : Region) (operation : Cursor → Except Fault Cursor) : Walk Notes Unit :=
  fun walker =>
    match operation ⟨region, walker.position⟩ with
    | .ok moved => (.ok (), { walker with position := moved.position })
    | .error fault => (.error fault, walker)

/-- Carry out a block some steps away along an axis, and come back. -/
def displacedBy (axis : Nat) (distance : Int) (block : Walk Notes α) : Walk Notes α :=
  if distance = 0 then block
  else fun walker =>
    let away := { walker with position := walker.position.shift axis distance }
    let (result, after) := block.outcome away
    (result, { after with position := after.position.shift axis (-distance) })

@[simp] theorem outcome_pure (value : α) (start : Walker Notes) :
    (pure value : Walk Notes α).outcome start = (.ok value, start) := rfl

/-- A walk followed by another starts the second where the first ends, unless the
first fails. -/
theorem outcome_bind {β : Type} (walk : Walk Notes α) (next : α → Walk Notes β)
    (start : Walker Notes) :
    (walk >>= next).outcome start =
      match walk.outcome start with
      | (.ok value, after) => (next value).outcome after
      | (.error fault, after) => (.error fault, after) := by
  simp only [outcome, bind, ExceptT.bind, ExceptT.mk, ExceptT.bindCont, StateT.bind]
  rcases walk start with ⟨_ | _, _⟩ <;> rfl

@[simp] theorem outcome_ofResult (result : Except Fault α) (start : Walker Notes) :
    (ofResult result : Walk Notes α).outcome start = (result, start) := rfl

@[simp] theorem outcome_position (start : Walker Notes) :
    (position : Walk Notes Position).outcome start = (.ok start.position, start) := rfl

@[simp] theorem outcome_note (change : Notes → Notes) (start : Walker Notes) :
    (note change).outcome start =
      (.ok (), { start with notes := change start.notes }) := rfl

theorem outcome_act_of_ok {region : Region} {operation : Cursor → Except Fault Cursor}
    {start : Walker Notes} {position : Position}
    (success : operation ⟨region, start.position⟩ = .ok ⟨region, position⟩) :
    (act region operation).outcome start = (.ok (), { start with position }) := by
  rw [outcome, act, success]

theorem outcome_act_of_error {region : Region} {operation : Cursor → Except Fault Cursor}
    {start : Walker Notes} {fault : Fault}
    (failed : operation ⟨region, start.position⟩ = .error fault) :
    (act region operation).outcome start = (.error fault, start) := by
  rw [outcome, act, failed]

/-- A displaced block that leaves the position alone leaves it alone as seen from
outside, and has the outcome that it has at the displaced position. -/
theorem outcome_displacedBy (axis : Nat) (distance : Int) (block : Walk Notes α)
    (start : Walker Notes) :
    (displacedBy axis distance block).outcome start =
      let away := { start with position := start.position.shift axis distance }
      let (result, after) := block.outcome away
      (result, { after with position := after.position.shift axis (-distance) }) := by
  unfold displacedBy
  split
  · next zero => simp [zero]
  · rfl

/-- Carry out a block displaced by a distance along an axis. The cursor is moved back on
every way out of the block, by the opposite of the distance as it has been given. Nothing is
looked at if the distance is zero. -/
def displaced (region : Region) (distance : Distance) (axis : Arg) (block : Walk Notes α) :
    Walk Notes α :=
  if distance.argument.isZero then block
  else do
    act region fun cursor => cursor.move distance.argument axis
    try block
    finally act region fun cursor => do cursor.move (← distance.opposite).argument axis

end Walk

/-- What a traced walk notes. -/
inductive Mark where
  | stand (position : Position)
  | sample (value : Float)

namespace Walk

/-- Note where the walker stands. -/
def markPosition : Walk (List Mark) Unit := do
  let position ← position
  note (· ++ [.stand position])

/-- Note a value. -/
def markSample (value : Float) : Walk (List Mark) Unit :=
  note (· ++ [.sample value])

/-- Carry out a block inside displacements, one within the other. The walker's
position is noted on entering each and on leaving each without failure. -/
def nested (region : Region) (block : Walk (List Mark) Unit) :
    List (Distance × Arg) → Walk (List Mark) Unit
  | [] => block
  | (distance, axis) :: moves => do
      displaced region distance axis do
        markPosition
        nested region block moves
      markPosition

end Walk

/-- What is done at the innermost position of nested displacements. -/
inductive Visit where
  | nothing
  | read
  | interrupt
  deriving DecidableEq, Repr

namespace Visit

/-- The block of a visit to a field by a cursor. -/
def block (visit : Visit) (field : Field) (region : Region) : Walk (List Mark) Unit :=
  match visit with
  | .nothing => pure ()
  | .interrupt => throw .interrupted
  | .read => do
      let position ← Walk.position
      Walk.markSample (← Walk.ofResult (field.read region position))

end Visit

/-- Visit a position through nested displacements of a cursor. -/
def Cursor.visit (cursor : Cursor) (field : Field) (moves : List (Distance × Arg))
    (visit : Visit) : Except Fault Unit × Walker (List Mark) :=
  (Walk.nested cursor.region (visit.block field cursor.region) moves).outcome
    ⟨cursor.position, []⟩

end LatticeDiff
