import LatticeDiff.Cursor.Basic
import LatticeDiff.Proofs.Binary64.Value
import LatticeDiff.Proofs.Grid.Nesting
import LatticeDiff.Proofs.Grid.Sampling
import LatticeDiff.Proofs.Region.Expansion

/-!
# Sampling and reading back

A cursor that is placed anywhere on a field reads the sample there. So a function that is
computed point by point is read back at the coordinates, and an array that a function returns
is read back at the coordinates that count from its last axis. Sampling depends on nothing
else, except that there has to be room for the coordinates of all positions.
-/

namespace LatticeDiff

theorem Shape.Holds.exists_length {shape : Shape} {position : Position}
    (holds : shape.Holds position) :
    ∀ coordinate ∈ position, ∃ length ∈ shape, 0 ≤ coordinate ∧ coordinate < length := by
  intro coordinate member
  obtain ⟨axis, inPosition, rfl⟩ := List.mem_iff_getElem.1 member
  have inShape : axis < shape.length := by rwa [holds.length_eq]
  exact ⟨shape[axis], List.getElem_mem inShape, holds.bounds inShape inPosition⟩

namespace Field

/-- A new cursor reads the entries of an array, wherever on the array it is placed. -/
structure Shows (field : Field) (shape : Shape) (shown? : Position → Option Float) : Prop where
  shape_eq : field.shape = shape
  reads : ∃ cursor, field.cursor none = .ok cursor ∧ ∀ position, shape.Holds position →
    ∃ placed sample, cursor.setPosition (.ofPosition position) = .ok placed ∧
      placed.position = position ∧ shown? position = some sample ∧
      placed.read field = .ok sample

/-- What sampling functions over a shape on a machine, and reading the samples back, comes
to. -/
structure SampledOver (machine : Machine) (shape : Shape) (lengths : Arg) : Prop where
  /-- The double of a coordinate is the coordinate itself, as long as the axes are not so long
  that integers are rounded. -/
  exact : (∀ length ∈ shape, length ≤ 2 ^ 53) → ∀ position, shape.Holds position →
    ∀ coordinate ∈ position,
      (Binary64.ofFloat (Float.ofInt coordinate)).rational? = some (coordinate : ℚ)
  /-- What is computed point by point is read at the doubles of the coordinates. -/
  pointwise : ∀ function value, function.Pointwise shape value →
    ∃ field, ofFunction machine function lengths = .ok field ∧
      field.Shows shape fun position => some (value (position.map Float.ofInt))
  /-- A function that fails is not sampled. -/
  failed : ∀ function fault, function (Grid.coordinateGrids shape) = .error fault →
    ofFunction machine function lengths = .error fault
  /-- An array is accepted exactly if it stretches to the shape. -/
  accepted : ∀ function values, function (Grid.coordinateGrids shape) = .ok values →
    ((∃ field, ofFunction machine function lengths = .ok field) ↔
      values.shape.StretchesTo shape)
  /-- Other arrays are refused. -/
  refused : ∀ function values, function (Grid.coordinateGrids shape) = .ok values →
    ¬values.shape.StretchesTo shape →
    ofFunction machine function lengths = .error .notBroadcastable
  /-- Arrays are read at the coordinates that count from their last axis. -/
  stretched : ∀ function values field, function (Grid.coordinateGrids shape) = .ok values →
    ofFunction machine function lengths = .ok field →
    field.Shows shape fun position => values.at? (position.pinnedTo values.shape)
  /-- An array that is always the same may be given as a nested list. -/
  nested : ∀ values grid field, Grid.ofArg values = .ok grid →
    ofFunction machine (.constant values) lengths = .ok field →
    field.Shows shape fun position => values.doubleAt? (position.pinnedTo grid.shape)

section Reading

variable {field : Field}

theorem exists_bounds (positive : ∀ length ∈ field.shape, 0 < length) :
    ∃ region, field.bounds = .ok region ∧ region.ndim = field.ndim ∧
      ∀ position, field.shape.Holds position → region.Holds position := by
  have ordered : List.Forall₂ (· ≤ ·) ((field.shape.map Int.ofNat).map fun _ => 0)
      ((field.shape.map Int.ofNat).map (· - 1)) := by
    rw [List.map_map, List.map_map, List.forall₂_map_left_iff, List.forall₂_map_right_iff,
      List.forall₂_same]
    intro length member
    exact Int.le_sub_one_of_lt (Int.natCast_pos.2 (positive length member))
  have axes : field.shape ≠ [] := field.shape_ne_nil
  have nonempty : ((field.shape.map Int.ofNat).map fun _ => (0 : Int)) ≠ [] := by
    simpa using axes
  obtain ⟨region, success⟩ := Region.exists_ofCorners_iff.2 ⟨nonempty, ordered⟩
  obtain ⟨lows, highs⟩ := Region.ofCorners_eq_ok_iff.1 success
  refine ⟨region, success, ?_, fun position holds => ?_⟩
  · rw [← Region.length_low, lows, List.length_map, List.length_map, ndim]
  · rw [Region.holds_iff_corners, lows, highs, List.map_map, List.map_map,
      List.forall₂_map_left_iff, List.forall₂_map_right_iff]
    refine ⟨holds.imp fun _ _ within => within.1, List.Forall₂.flip ?_⟩
    exact holds.imp fun _ _ within => Int.le_sub_one_of_lt within.2

theorem shows_grid {shape : Shape} (shaped : field.shape = shape)
    (positive : ∀ length ∈ shape, 0 < length)
    (small : ∀ length ∈ shape, length < Word.signedLimit) :
    field.Shows shape field.grid.at? := by
  subst shaped
  obtain ⟨region, bounded, same, inside⟩ := exists_bounds positive
  have made : field.cursor none = .ok ⟨region, region.low⟩ := by
    rw [cursor, bounded, Outcome.ok_bind]
    exact if_pos same
  refine ⟨rfl, ⟨region, region.low⟩, made, fun position holds => ?_⟩
  -- Signed words are not rounded when the position is gathered into an array.
  have words : ∀ coordinate ∈ position, Word.fitsSigned coordinate = true := by
    intro coordinate member
    obtain ⟨length, inShape, nonneg, below⟩ := holds.exists_length coordinate member
    have limit := small length inShape
    simp only [Word.fitsSigned, Bool.and_eq_true, decide_eq_true_eq]
    omega
  have count : Cursor.ndim ⟨region, region.low⟩ = position.length := by
    rw [Cursor.ndim, Region.length_low, same, ndim, holds.length_eq]
  have placed : Cursor.setPosition ⟨region, region.low⟩ (.ofPosition position) =
      .ok ⟨region, position⟩ := by
    rw [Cursor.setPosition, count, Arg.coordinates_ofPosition words, Outcome.ok_bind]
    rfl
  obtain ⟨sample, stored⟩ := Option.isSome_iff_exists.1 (Grid.at?_isSome_iff.2 holds)
  refine ⟨⟨region, position⟩, sample, placed, rfl, stored, ?_⟩
  rw [Cursor.read, read_of_readable ⟨inside position holds, holds⟩, sampleAt, stored,
    Option.getD_some]

/-- What is shown only depends on the entries at positions of the array. -/
theorem Shows.congr {shape : Shape} {shown? other? : Position → Option Float}
    (shows : field.Shows shape shown?)
    (same : ∀ position, shape.Holds position → shown? position = other? position) :
    field.Shows shape other? := by
  obtain ⟨shaped, cursor, made, reads⟩ := shows
  refine ⟨shaped, cursor, made, fun position holds => ?_⟩
  rw [← same position holds]
  exact reads position holds

end Reading

section Sampling

variable {machine : Machine} {function : LatticeFunction} {shape : Shape} {lengths : Arg}
  {field : Field}

theorem ofGrid_eq_ok_iff {grid : Grid} : ofGrid grid = .ok field ↔ field.grid = grid := by
  constructor
  · intro success
    rw [ofGrid] at success
    split at success
    · cases success
      rfl
    · cases success
  · rintro rfl
    exact dif_pos field.shape_ne_nil

section Room

variable (taken : lengths.truncatedItems machine = .ok (shape.map Int.ofNat))

include taken

/-- Lengths that there is no room for are refused before the function is looked at. -/
theorem ofFunction_of_not_samplable (nonempty : shape ≠ [])
    (positive : ∀ length ∈ shape, 0 < length) (crowded : ¬shape.Samplable machine) :
    ofFunction machine function lengths =
      .error (if shape.length < Shape.axisLimit ∧
        Word.byteLength * (shape.length * shape.volume) < Shape.layoutLimit
          then .outOfMemory else .badShape) := by
  rw [ofFunction, taken, Outcome.ok_bind,
    Grid.sampledShape_of_not_samplable nonempty positive crowded]
  rfl

variable (room : Grid.sampledShape machine (shape.map Int.ofNat) = .ok shape)

include room

theorem ofFunction_eq_ok_iff :
    ofFunction machine function lengths = .ok field ↔
      Grid.sample function shape = .ok field.grid := by
  rw [ofFunction, taken, Outcome.ok_bind, room, Outcome.ok_bind, Outcome.bind_eq_ok]
  simp only [ofGrid_eq_ok_iff]
  constructor
  · rintro ⟨grid, sampled, rfl⟩
    exact sampled
  · intro sampled
    exact ⟨field.grid, sampled, rfl⟩

theorem ofFunction_of_sample_error {fault : Fault}
    (failed : Grid.sample function shape = .error fault) :
    ofFunction machine function lengths = .error fault := by
  rw [ofFunction, taken, Outcome.ok_bind, room, Outcome.ok_bind, failed]
  rfl

theorem exists_ofFunction (nonempty : shape ≠ []) {grid : Grid}
    (sampled : Grid.sample function shape = .ok grid) (shaped : grid.shape = shape) :
    ∃ field, ofFunction machine function lengths = .ok field ∧ field.grid = grid :=
  ⟨⟨grid, shaped ▸ nonempty⟩, (ofFunction_eq_ok_iff taken room).2 sampled, rfl⟩

end Room

end Sampling

/-- Over a shape without empty axes, everything that can be sampled is read back, unless there is
no room for the coordinates of all positions. Then nothing is sampled. -/
theorem sampledOver_of_samplable {machine : Machine} {shape : Shape} {lengths : Arg}
    (nonempty : shape ≠ []) (positive : ∀ length ∈ shape, 0 < length)
    (taken : lengths.truncatedItems machine = .ok (shape.map Int.ofNat)) :
    (shape.Samplable machine → SampledOver machine shape lengths) ∧
    (¬shape.Samplable machine → ∀ function, ofFunction machine function lengths =
      .error (if shape.length < Shape.axisLimit ∧
        Word.byteLength * (shape.length * shape.volume) < Shape.layoutLimit
          then .outOfMemory else .badShape)) := by
  refine ⟨fun samplable => ?_, fun crowded function =>
    ofFunction_of_not_samplable taken nonempty positive crowded⟩
  have room := Grid.sampledShape_of_samplable nonempty positive samplable
  have small := samplable.length_lt positive
  have stretched : ∀ function values field, function (Grid.coordinateGrids shape) = .ok values →
      ofFunction machine function lengths = .ok field →
      field.Shows shape fun position => values.at? (position.pinnedTo values.shape) := by
    intro function values field given made
    have sampled := (ofFunction_eq_ok_iff taken room).1 made
    have stretches := (Grid.sample_eq_ok_iff given).1 sampled
    have shaped : field.shape = shape := Grid.shape_broadcast stretches
    exact (shows_grid shaped positive small).congr fun position holds =>
      Grid.at?_broadcast stretches holds
  constructor
  case exact =>
    intro short position holds coordinate member
    obtain ⟨length, inShape, nonneg, below⟩ := holds.exists_length coordinate member
    have limit := short length inShape
    exact Binary64.rational?_ofInt (by omega)
  case pointwise =>
    intro function value pointwise
    obtain ⟨samples, sampled, shaped, shown⟩ := Grid.exists_sample_of_pointwise pointwise
    obtain ⟨field, made, rfl⟩ := exists_ofFunction taken room nonempty sampled shaped
    exact ⟨field, made, (shows_grid shaped positive small).congr shown⟩
  case failed =>
    intro function fault failed
    apply ofFunction_of_sample_error taken room
    rw [Grid.sample, failed]
    rfl
  case accepted =>
    intro function values given
    rw [← Grid.exists_broadcast_iff]
    constructor
    · rintro ⟨field, made⟩
      exact ⟨_, (Grid.sample_eq_ok_iff given).1 ((ofFunction_eq_ok_iff taken room).1 made)⟩
    · rintro ⟨whole, stretches⟩
      obtain ⟨field, made, _⟩ := exists_ofFunction taken room nonempty
        ((Grid.sample_eq_ok_iff given).2 stretches) (Grid.shape_broadcast stretches)
      exact ⟨field, made⟩
  case refused =>
    intro function values given apart
    exact ofFunction_of_sample_error taken room (Grid.sample_of_not_stretchesTo given apart)
  case stretched => exact stretched
  case nested =>
    intro values grid field given made
    have sampled := (ofFunction_eq_ok_iff taken room).1 made
    have stretches : grid.shape.StretchesTo shape :=
      Grid.exists_broadcast_iff.1 ⟨_, (Grid.sample_eq_ok_iff given).1 sampled⟩
    refine (stretched (.constant values) grid field given made).congr fun position holds => ?_
    exact Grid.at?_ofArg given (Position.holds_pinnedTo stretches holds)

/-- Two rows of three columns, with a polynomial, with a negated square, and with a row that is
repeated. -/
theorem sampled_rectangle :
    let machine := Machine.small
    let shape : Shape := [2, 3]
    let lengths : Arg := .list [.int 2, .int 3]
    let sum : List (Monomial Arg) := [⟨.real 10.0, [1, 0]⟩, ⟨.real 0.5, [0, 2]⟩]
    let converted : List (Monomial Float) := [⟨10.0, [1, 0]⟩, ⟨0.5, [0, 2]⟩]
    let negated : List Float → Float := fun point => -point.getD 1 0.0 * point.getD 1 0.0
    let row : Arg := .list [.real 5.0, .real 6.0, .real 7.0]
    shape ≠ [] ∧ (∀ length ∈ shape, 0 < length) ∧
    lengths.truncatedItems machine = .ok (shape.map Int.ofNat) ∧ shape.Samplable machine ∧
    (∃ field, ofFunction machine (.polynomial sum) lengths = .ok field ∧
      field.Shows shape fun position =>
        some (evalTerms converted (position.map Float.ofInt))) ∧
    (∃ field, ofFunction machine (fun grids => .ok (Grid.combine negated grids)) lengths =
        .ok field ∧
      field.Shows shape fun position => some (negated (position.map Float.ofInt))) ∧
    ∃ field, ofFunction machine (.constant row) lengths = .ok field ∧
      field.Shows shape (fun position => row.doubleAt? (position.pinnedTo [3])) ∧
      row.doubleAt? (Position.pinnedTo [3] [1, 2]) = some 7.0 := by
  intro machine shape lengths sum converted negated row
  have nonempty : shape ≠ [] := by decide
  have positive : ∀ length ∈ shape, 0 < length := by decide
  have taken : lengths.truncatedItems machine = .ok (shape.map Int.ofNat) := rfl
  have samplable : shape.Samplable machine := ⟨by decide, by decide, by decide⟩
  have sampled := (sampledOver_of_samplable nonempty positive taken).1 samplable
  have given : Grid.ofArg row = .ok ⟨[3], #[5.0, 6.0, 7.0], rfl⟩ := rfl
  have stretches : Shape.StretchesTo [3] shape :=
    Shape.stretchesTo_iff.2 ⟨by decide, .cons (by decide) .nil⟩
  obtain ⟨field, made⟩ := (sampled.accepted (.constant row) _ given).2 stretches
  exact ⟨nonempty, positive, taken, samplable,
    sampled.pointwise _ _ (LatticeFunction.pointwise_polynomial nonempty rfl),
    sampled.pointwise _ _ (LatticeFunction.pointwise_of_combine nonempty fun _ => rfl),
    field, made, sampled.nested row _ field given made, rfl⟩

/-- Arrays can have as many axes as this shape, but not one more: no function is sampled over it
on any machine. -/
theorem unsampled_ones :
    let shape : Shape := List.replicate 64 1
    let lengths : Arg := .ofPosition (shape.map Int.ofNat)
    let first : List (Monomial Arg) := [⟨.real 1.0, 1 :: List.replicate 63 0⟩]
    shape ≠ [] ∧ (∀ length ∈ shape, 0 < length) ∧
    shape.Holds (List.replicate 64 0) ∧
    (∃ value, LatticeFunction.Pointwise (.polynomial first) shape value) ∧
    (∃ grid, Grid.ofArg (.real 7.0) = .ok grid ∧ grid.shape.StretchesTo shape) ∧
    ∀ machine function, lengths.truncatedItems machine = .ok (shape.map Int.ofNat) ∧
      ofFunction machine function lengths = .error .badShape := by
  intro shape lengths first
  have nonempty : shape ≠ [] := by decide
  have positive : ∀ length ∈ shape, 0 < length := fun length member =>
    Nat.lt_of_lt_of_eq Nat.one_pos (List.eq_of_mem_replicate member).symm
  have held : shape.Holds (List.replicate 64 0) := Shape.index?_isSome_iff.1 rfl
  have stretches : Shape.StretchesTo [] shape := ⟨by decide, by simp⟩
  refine ⟨nonempty, positive, held, ⟨_, LatticeFunction.pointwise_polynomial nonempty rfl⟩,
    ⟨_, rfl, stretches⟩, fun machine function => ?_⟩
  have taken : lengths.truncatedItems machine = .ok (shape.map Int.ofNat) :=
    Arg.truncatedItems_ofPosition machine _
  have crowded : Shape.canLayOut (shape.length :: shape) = false := rfl
  refine ⟨taken, ?_⟩
  rw [ofFunction, taken, Outcome.ok_bind, Grid.sampledShape_ofNat, crowded]
  rfl

end Field

end LatticeDiff
