import LatticeDiff.Grid.Sampling
import LatticeDiff.Proofs.Grid.Broadcast
import LatticeDiff.Proofs.Outcome
import Mathlib.Data.List.GetD

/-!
# What sampled grids hold

A function that is computed point by point gets the double coordinates of every index, so the
sampled grid has its values at every position. Before the function is looked at, the
coordinates of all indices are laid out in one array. This array has one axis more than the
shape, and there has to be room for it.
-/

namespace LatticeDiff

namespace Shape

variable {machine : Machine} {shape : Shape}

/-- There is room for the coordinates of all indices, in one array with an axis more than the
shape has. -/
structure Samplable (machine : Machine) (shape : Shape) : Prop where
  axes : shape.length < axisLimit
  bytes : Word.byteLength * (shape.length * shape.volume) < layoutLimit
  memory : machine.fits (Word.byteLength * (shape.length * shape.volume)) = true

theorem volume_pos (positive : ∀ length ∈ shape, 0 < length) : 0 < volume shape := by
  induction shape with
  | nil => exact Nat.one_pos
  | cons length shape ih =>
      exact Nat.mul_pos (positive length List.mem_cons_self)
        (ih fun other member => positive other (List.mem_cons_of_mem length member))

theorem le_volume (positive : ∀ length ∈ shape, 0 < length) :
    ∀ length ∈ shape, length ≤ volume shape := by
  induction shape with
  | nil => simp
  | cons first shape ih =>
      have others : ∀ length ∈ shape, 0 < length := fun length member =>
        positive length (List.mem_cons_of_mem first member)
      intro length member
      rcases List.mem_cons.1 member with rfl | later
      · exact Nat.le_mul_of_pos_right _ (volume_pos others)
      · exact Nat.le_trans (ih others length later)
          (Nat.le_mul_of_pos_left _ (positive first List.mem_cons_self))

/-- Without empty axes, the bytes decide whether an array can be laid out. -/
theorem canLayOut_iff (positive : ∀ length ∈ shape, 0 < length) :
    shape.canLayOut = true ↔
      shape.length ≤ axisLimit ∧ Word.byteLength * volume shape < layoutLimit := by
  have kept : shape.filter (· ≠ 0) = shape :=
    List.filter_eq_self.2 fun length member => by
      simpa using Nat.ne_of_gt (positive length member)
  simp only [canLayOut, kept, Bool.and_eq_true, decide_eq_true_eq, List.all_eq_true]
  constructor
  · rintro ⟨⟨axes, _⟩, bytes⟩
    exact ⟨axes, bytes⟩
  · rintro ⟨axes, bytes⟩
    refine ⟨⟨axes, fun length member => ?_⟩, bytes⟩
    have entries := le_volume positive length member
    have more : volume shape ≤ Word.byteLength * volume shape :=
      Nat.le_mul_of_pos_left _ (by decide)
    omega

section Indices

variable (nonempty : shape ≠ []) (positive : ∀ length ∈ shape, 0 < length)

include nonempty positive

theorem canLayOut_indices_iff :
    canLayOut (shape.length :: shape) = true ↔
      shape.length < axisLimit ∧
        Word.byteLength * (shape.length * shape.volume) < layoutLimit :=
  canLayOut_iff (List.forall_mem_cons.2 ⟨List.length_pos_iff.2 nonempty, positive⟩)

theorem samplable_iff :
    shape.Samplable machine ↔ canLayOut (shape.length :: shape) = true ∧
      fitsMemory machine (shape.length :: shape) = true := by
  rw [canLayOut_indices_iff nonempty positive]
  constructor
  · rintro ⟨axes, bytes, memory⟩
    exact ⟨⟨axes, bytes⟩, memory⟩
  · rintro ⟨⟨axes, bytes⟩, memory⟩
    exact ⟨axes, bytes, memory⟩

end Indices

/-- The array of all coordinates has no fewer entries than one of those along an axis. -/
theorem length_le_indices (positive : ∀ length ∈ shape, 0 < length) :
    ∀ length ∈ shape, length ≤ shape.length * volume shape := by
  intro length member
  have axis : 0 < shape.length := List.length_pos_of_mem member
  exact Nat.le_trans (le_volume positive length member) (Nat.le_mul_of_pos_left _ axis)

theorem Samplable.length_lt (samplable : shape.Samplable machine)
    (positive : ∀ length ∈ shape, 0 < length) : ∀ length ∈ shape, length < layoutLimit := by
  intro length member
  have entries := length_le_indices positive length member
  have more : shape.length * volume shape ≤
      Word.byteLength * (shape.length * volume shape) :=
    Nat.le_mul_of_pos_left _ (by decide)
  exact Nat.lt_of_le_of_lt (Nat.le_trans entries more) samplable.bytes

end Shape

namespace Grid

variable {grid : Grid} {index : List Nat}

theorem stretches_self (shape : Shape) : stretches shape shape = true := by
  induction shape with
  | nil => rfl
  | cons length shape ih => simp [stretches, ih]

/-- An index within the shape is not changed by pinning: on an axis of length one, it is zero
already. -/
theorem pinned_of_contains {shape : Shape} (inside : shape.contains index = true) :
    pinned shape index = index := by
  induction shape generalizing index with
  | nil => rw [Shape.contains_nil_iff.1 inside]; rfl
  | cons length shape ih =>
      obtain ⟨coordinate, rest, rfl, bound, others⟩ := Shape.contains_cons_iff.1 inside
      rw [pinned, List.zipWith_cons_cons, ← pinned, ih others]
      split
      · next one =>
          congr 1
          omega
      · rfl

theorem broadcast?_self (grid : Grid) :
    ∃ stretched, grid.broadcast? grid.shape = some stretched ∧
      ∀ index, grid.shape.contains index = true → stretched.cell? index = some (grid.entry index) := by
  refine ⟨_, if_pos (by simp [stretches_self]), fun index inside => ?_⟩
  rw [cell?_tabulate inside, Nat.sub_self, List.drop_zero, pinned_of_contains inside]

theorem cell?_eq_entry (inside : grid.shape.contains index = true) :
    grid.cell? index = some (grid.entry index) := by
  obtain ⟨value, found⟩ := Option.isSome_iff_exists.1 (cell?_isSome inside)
  rw [found, entry_of_cell? found]

theorem combine_eq {shape : Shape} {grids : List Grid} (nonempty : grids ≠ [])
    (shaped : ∀ grid ∈ grids, grid.shape = shape) (value : List Float → Float) :
    combine value grids = tabulate shape fun index => value (grids.map (·.entry index)) := by
  obtain ⟨first, rest, rfl⟩ := List.exists_cons_of_ne_nil nonempty
  rw [combine, List.head?_cons, Option.map_some, Option.getD_some,
    shaped first List.mem_cons_self]

end Grid

namespace LatticeFunction

variable {function : LatticeFunction} {shape : Shape} {value : List Float → Float}

/-- A function has a value for every point: from arrays of the shape, one for each axis, it makes
an array that stretches to the shape and then holds the value for what the arrays hold at each
index. -/
def Pointwise (function : LatticeFunction) (shape : Shape) (value : List Float → Float) : Prop :=
  ∀ grids : List Grid, grids.length = shape.length → (∀ grid ∈ grids, grid.shape = shape) →
    ∃ made stretched, function grids = .ok made ∧ made.broadcast? shape = some stretched ∧
      ∀ index, shape.contains index = true →
        stretched.cell? index = some (value (grids.map (·.entry index)))

/-- Whatever is combined entry by entry is computed point by point. -/
theorem pointwise_of_combine (nonempty : shape ≠ [])
    (combined : ∀ grids, function grids = .ok (Grid.combine value grids)) :
    function.Pointwise shape value := by
  intro grids count shaped
  have some : grids ≠ [] :=
    List.ne_nil_of_length_pos (count ▸ List.length_pos_iff.2 nonempty)
  have made := Grid.combine_eq some shaped value
  obtain ⟨stretched, stretches, same⟩ := Grid.broadcast?_self (Grid.combine value grids)
  rw [made, Grid.shape_tabulate, ← made] at stretches same
  refine ⟨_, stretched, combined grids, stretches, fun index inside => ?_⟩
  rw [same index inside, made, Grid.entry_of_cell? (Grid.cell?_tabulate inside)]

theorem pointwise_polynomial (nonempty : shape ≠ []) {terms : List (Monomial Arg)}
    {converted : List (Monomial Float)} (resolved : terms.mapM Monomial.resolve = .ok converted) :
    (polynomial terms).Pointwise shape (evalTerms converted) := by
  apply pointwise_of_combine nonempty
  intro grids
  rw [polynomial, resolved, Outcome.ok_bind]
  rfl

theorem pointwise_quotient (nonempty : shape ≠ []) {above below : List (Monomial Arg)}
    {numerator denominator : List (Monomial Float)}
    (aboveResolved : above.mapM Monomial.resolve = .ok numerator)
    (belowResolved : below.mapM Monomial.resolve = .ok denominator) :
    (quotient above below).Pointwise shape fun point =>
      evalTerms numerator point / evalTerms denominator point := by
  apply pointwise_of_combine nonempty
  intro grids
  rw [quotient, aboveResolved, Outcome.ok_bind, belowResolved, Outcome.ok_bind]
  rfl

theorem pointwise_coordinate {axis : Int} {place : Nat}
    (found : (Arg.int axis).index shape.length = .ok place) (bound : place < shape.length) :
    (coordinate axis).Pointwise shape fun point => point.getD place 0.0 := by
  intro grids count shaped
  have inGrids : place < grids.length := count ▸ bound
  have shape_eq := shaped grids[place] (List.getElem_mem inGrids)
  obtain ⟨stretched, stretches, same⟩ := Grid.broadcast?_self grids[place]
  rw [shape_eq] at stretches same
  refine ⟨grids[place], stretched, ?_, stretches, fun index inside => ?_⟩
  · rw [coordinate, count, found, Outcome.ok_bind, List.getElem?_eq_getElem inGrids]
    rfl
  · simp only [same index inside]
    rw [List.getD_eq_getElem _ _ (by simpa using inGrids), List.getElem_map]

end LatticeFunction

namespace Grid

variable {machine : Machine} {shape : Shape} {position : Position}

theorem sampledShape_ofNat (machine : Machine) (shape : Shape) :
    sampledShape machine (shape.map Int.ofNat) =
      if Shape.canLayOut (shape.length :: shape) then
        if Shape.fitsMemory machine (shape.length :: shape)
            && shape.all (Shape.fitsMemory machine [·]) then
          .ok shape
        else .error .outOfMemory
      else .error .badShape := by
  have natural : (shape.map Int.ofNat).map Int.toNat = shape := by
    rw [List.map_map]
    exact List.map_id shape
  have noneNegative : (shape.map Int.ofNat).any (· < 0) = false := by
    simp
  unfold sampledShape
  simp only [natural, noneNegative, Bool.false_or, Bool.not_eq_true']
  cases Shape.canLayOut (shape.length :: shape) <;> rfl

theorem sampledShape_of_samplable (nonempty : shape ≠ [])
    (positive : ∀ length ∈ shape, 0 < length) (samplable : shape.Samplable machine) :
    sampledShape machine (shape.map Int.ofNat) = .ok shape := by
  obtain ⟨layout, memory⟩ := (Shape.samplable_iff nonempty positive).1 samplable
  have each : shape.all (Shape.fitsMemory machine [·]) = true := by
    rw [List.all_eq_true]
    intro length member
    have fewer := Nat.mul_le_mul_left Word.byteLength
      (Shape.length_le_indices positive length member)
    simpa [Shape.fitsMemory] using Machine.fits_of_le fewer samplable.memory
  rw [sampledShape_ofNat, if_pos layout, if_pos (by rw [memory, each]; rfl)]

/-- Without room, either the array of all coordinates cannot be laid out, or memory is
exhausted. -/
theorem sampledShape_of_not_samplable (nonempty : shape ≠ [])
    (positive : ∀ length ∈ shape, 0 < length) (crowded : ¬shape.Samplable machine) :
    sampledShape machine (shape.map Int.ofNat) =
      .error (if shape.length < Shape.axisLimit ∧
        Word.byteLength * (shape.length * shape.volume) < Shape.layoutLimit
          then .outOfMemory else .badShape) := by
  rw [Shape.samplable_iff nonempty positive] at crowded
  rw [sampledShape_ofNat]
  by_cases layout : Shape.canLayOut (shape.length :: shape) = true
  · have exhausted : Shape.fitsMemory machine (shape.length :: shape) = false :=
      Bool.eq_false_iff.2 fun memory => crowded ⟨layout, memory⟩
    rw [if_pos layout, exhausted, if_pos ((Shape.canLayOut_indices_iff nonempty positive).1 layout)]
    rfl
  · rw [if_neg layout, if_neg fun room =>
      layout ((Shape.canLayOut_indices_iff nonempty positive).2 room)]

theorem map_entry_coordinateGrids {index : List Nat} (inside : shape.contains index = true) :
    (coordinateGrids shape).map (·.entry index) = index.map Float.ofNat := by
  have length : index.length = shape.length := Shape.length_of_contains inside
  rw [coordinateGrids, List.map_map]
  apply List.ext_getElem
  · simp [length]
  · intro axis _ bound
    rw [List.length_map] at bound
    simp only [List.getElem_map, List.getElem_range, Function.comp_apply]
    rw [entry_of_cell? (cell?_tabulate inside), List.getD_eq_getElem _ _ bound]

theorem map_ofNat_toNat (holds : shape.Holds position) :
    (position.map Int.toNat).map Float.ofNat = position.map Float.ofInt := by
  unfold Shape.Holds at holds
  induction holds with
  | nil => rfl
  | @cons length coordinate shape position within _ ih =>
      obtain ⟨place, rfl⟩ := Int.eq_ofNat_of_zero_le within.1
      rw [List.map_cons, List.map_cons, List.map_cons, ih]
      rfl

section Sample

variable {function : LatticeFunction} {values : Grid}
  (given : function (coordinateGrids shape) = .ok values)

include given

theorem sample_eq_ok_iff {stretched : Grid} :
    sample function shape = .ok stretched ↔ values.broadcast? shape = some stretched := by
  rw [sample, given, Outcome.ok_bind]
  cases values.broadcast? shape with
  | none => exact ⟨nofun, nofun⟩
  | some made =>
      rw [Option.some.injEq]
      exact ⟨Except.ok.inj, congrArg Except.ok⟩

theorem sample_of_not_stretchesTo (apart : ¬values.shape.StretchesTo shape) :
    sample function shape = .error .notBroadcastable := by
  have missing : values.broadcast? shape = none := by
    rw [← exists_broadcast_iff, ← Option.isSome_iff_exists, Option.not_isSome_iff_eq_none] at apart
    exact apart
  rw [sample, given, Outcome.ok_bind, missing]
  rfl

end Sample

/-- A function that is computed point by point is sampled at the coordinates of every
position. -/
theorem exists_sample_of_pointwise {function : LatticeFunction} {value : List Float → Float}
    (pointwise : function.Pointwise shape value) :
    ∃ samples, sample function shape = .ok samples ∧ samples.shape = shape ∧
      ∀ position, shape.Holds position →
        samples.at? position = some (value (position.map Float.ofInt)) := by
  obtain ⟨made, stretched, given, stretches, cells⟩ := pointwise (coordinateGrids shape)
    (by simp [coordinateGrids]) (by simp [coordinateGrids])
  have shaped := shape_broadcast stretches
  refine ⟨stretched, (sample_eq_ok_iff given).2 stretches, shaped, fun position holds => ?_⟩
  have found := Shape.index?_of_holds holds
  have inside := Shape.contains_of_index? found
  rw [at?, shaped, found, Option.bind_some, cells _ inside, map_entry_coordinateGrids inside,
    map_ofNat_toNat holds]

end Grid

end LatticeDiff
