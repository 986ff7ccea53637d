import LatticeDiff.Proofs.Region.Enumeration
import LatticeDiff.Proofs.Survey.Sweep

/-!
# Derivative fields

When a sweep over a region succeeds, and what it gives. It succeeds exactly if the
padded region lies on the array, and then holds at every position of the region what a
new evaluator gives there.
-/

namespace LatticeDiff

namespace Survey

open Evaluator

/-- How a sweep ends that new evaluators could have done. The entries of a position have
a shape of their own, and `cellOf` says which cells of the matrix they are. -/
structure SweptBy (survey : Survey) (new : Evaluator) (entryShape : Shape)
    (cellOf : List Nat → List Nat) (result : Except Fault Grid) : Prop where
  /-- The padded region has to lie on the array. -/
  success : (∃ grid, result = .ok grid) ↔ new.padded.Fits survey.source.field.shape
  /-- Otherwise, a reading is refused. -/
  failure : ∀ fault, result = .error fault →
    ∃ place, survey.source.field.Refuses new.padded place fault
  shape : ∀ grid, result = .ok grid → grid.shape = survey.region.shape ++ entryShape
  /-- Every cell belongs to a position of the region. -/
  covered : ∀ index, (survey.region.shape ++ entryShape).contains index = true →
    ∃ position entry, survey.region.Holds position ∧ entryShape.contains entry = true ∧
      index = survey.region.indexOf position ++ entry
  /-- Every position has the matrix that the new evaluator gives there. -/
  cell : ∀ grid, result = .ok grid → ∀ position, survey.region.Holds position →
    ∃ placed, new.setPosition (.ofPosition position) = .ok placed ∧
      placed.position = position ∧ (placed.evaluate survey.source.field).result = .ok () ∧
      ∀ entry, entryShape.contains entry = true → ∃ value,
        grid.cell? (survey.region.indexOf position ++ entry) = some value ∧
        (placed.evaluate survey.source.field).evaluator.matrix.cell? (cellOf entry) =
          some value

/-- There is room for a sweep: its array can be laid out and fits into memory, and so do the
coordinates that the positions are put together from. -/
structure RoomFor (machine : Machine) (survey : Survey) (entryShape : Shape) : Prop where
  layout : (survey.region.shape ++ entryShape).canLayOut = true
  memory : (survey.region.shape ++ entryShape).fitsMemory machine = true
  lists : machine.fits (machine.listBytes survey.region.shape.sum) = true

section Room

variable {machine : Machine} {survey : Survey} {entryShape : Shape} {evaluator : Evaluator}

/-- Along each axis of a region, there are as many entries of the array as coordinates. -/
theorem le_enumerationLimit (layout : (survey.region.shape ++ entryShape).canLayOut = true)
    {length : Nat} (member : length ∈ survey.region.shape) : length ≤ Region.enumerationLimit := by
  simp only [Shape.canLayOut, Bool.and_eq_true, decide_eq_true_eq, List.all_eq_true] at layout
  have below : length < Word.signedLimit := layout.1.2 length (List.mem_append_left _ member)
  exact Nat.le_sub_one_of_lt below

theorem listable_iff (layout : (survey.region.shape ++ entryShape).canLayOut = true) :
    survey.region.Listable machine ↔
      machine.fits (machine.listBytes survey.region.shape.sum) = true :=
  ⟨fun listable => listable.memory, fun lists =>
    ⟨fun _ member => le_enumerationLimit layout member, lists⟩⟩

theorem sweep_of_not_roomFor (crowded : ¬survey.RoomFor machine entryShape) :
    survey.sweep machine evaluator entryShape = .error .badShape ∨
      survey.sweep machine evaluator entryShape = .error .outOfMemory := by
  simp only [sweep]
  cases layout : (survey.region.shape ++ entryShape).canLayOut with
  | false => exact .inl rfl
  | true =>
      cases memory : (survey.region.shape ++ entryShape).fitsMemory machine with
      | false => exact .inr rfl
      | true =>
          have unlisted : ¬survey.region.Listable machine :=
            fun listable => crowded ⟨layout, memory, (listable_iff layout).1 listable⟩
          cases listed : Region.listingFault? machine 0 survey.region.shape with
          | none => exact absurd (Region.listingFault?_shape_eq_none_iff.1 listed) unlisted
          | some fault =>
              cases Region.stops_of_listingFault? listed with
              | @uncountable before after length parts front long =>
                  have member : length ∈ survey.region.shape := by simp [parts]
                  exact absurd (le_enumerationLimit layout member) (Nat.not_le.2 long)
              | exhausted => exact .inr rfl

/-- A sweep that there is room for is the collection of the matrices at all positions. -/
theorem sweep_eq (room : survey.RoomFor machine entryShape) (formed : evaluator.WellFormed)
    (derives : evaluator.scheme ≠ .blank) (same : survey.region.ndim = evaluator.ndim) :
    survey.sweep machine evaluator entryShape =
      ((List.range survey.region.size).mapM fun number =>
        evaluator.matrixAt survey.source.field (survey.region.positionAt number)).map
          (storeFrom survey.region entryShape 0
            (Grid.allocate machine (survey.region.shape ++ entryShape))) := by
  have listed := Region.listingFault?_shape_eq_none_iff.2 ((listable_iff room.layout).2 room.lists)
  unfold sweep
  simp only [room.layout, room.memory, listed, Bool.not_true, Bool.false_eq_true, if_false]
  rw [sweepFrom_eq formed derives survey.source.field same entryShape (.refl evaluator),
    List.range_eq_range']

end Room

/-- A position of the region and an entry determine a cell of the collected matrices. -/
theorem cell?_storeFrom_indexOf {region : Region} {entryShape : Shape} {grid : Grid}
    {matrices : List Grid} (shaped : grid.shape = region.shape ++ entryShape)
    (each : ∀ matrix ∈ matrices, matrix.cells.size = entryShape.volume)
    (count : matrices.length = region.size) {position : Position}
    (holds : region.Holds position) {entry : List Nat}
    (inside : entryShape.contains entry = true)
    (bound : region.shape.rank (region.indexOf position) < matrices.length) :
    (storeFrom region entryShape 0 grid matrices).cell? (region.indexOf position ++ entry) =
      matrices[region.shape.rank (region.indexOf position)].cells[entryShape.rank entry]? := by
  have enough : 0 + matrices.length ≤ region.size := by omega
  have found := cell?_storeFrom shaped enough bound inside
  rw [Nat.zero_add, Region.positionAt_rank holds] at found
  rw [found, Grid.cell?_reshape (each _ (List.getElem_mem bound)) inside]

/-- A new evaluator for sweeping the region of a survey, with the margins that its samples
reach. -/
structure Suits (survey : Survey) (new : Evaluator) (low high : Nat) : Prop where
  formed : new.WellFormed
  derives : new.scheme ≠ .blank
  convertible : new.scheme.Convertible
  reaches : new.scheme.Reaches low high
  region : new.region = survey.region
  source : survey.region.ndim = survey.source.ndim
  small : ∀ length ∈ survey.source.field.shape, length < Word.signedLimit

namespace Suits

variable {survey : Survey} {new : Evaluator} {low high : Nat}

theorem ndim (suits : survey.Suits new low high) : new.ndim = survey.region.ndim := by
  rw [suits.formed.ndim, suits.region]

theorem padded (suits : survey.Suits new low high) :
    new.padded = survey.region.pad low high := by
  obtain ⟨otherLow, otherHigh, reach, padded⟩ := suits.formed.padded
  rw [suits.reaches.reach] at reach
  cases reach
  rw [padded, suits.region]

/-- There is a matrix at every position of the region exactly if the padded region lies
on the array. -/
theorem fits_iff (suits : survey.Suits new low high) :
    new.padded.Fits survey.source.field.shape ↔
      ∀ position, survey.region.Holds position →
        ∃ matrix, new.matrixAt survey.source.field position = .ok matrix := by
  have given : ∀ position, survey.region.Holds position →
      ((∃ matrix, new.matrixAt survey.source.field position = .ok matrix) ↔
        ∀ place ∈ new.scheme.samplesAt survey.region.ndim position,
          survey.source.field.Readable (survey.region.pad low high) place) := by
    intro position holds
    have length := holds.length_eq.trans suits.ndim.symm
    rw [← suits.ndim, ← suits.padded]
    exact exists_matrixAt_iff suits.reaches suits.derives suits.convertible suits.small length
  rw [suits.padded]
  constructor
  · intro fits position holds
    apply (given position holds).2
    intro place member
    exact suits.reaches.readable fits holds member
  · intro every
    apply suits.reaches.fits suits.source.symm
    intro position holds
    exact (given position holds).1 (every position holds)

theorem exists_mapM_iff (suits : survey.Suits new low high) :
    (∃ matrices, ((List.range survey.region.size).mapM fun number =>
      new.matrixAt survey.source.field (survey.region.positionAt number)) = .ok matrices) ↔
      new.padded.Fits survey.source.field.shape := by
  rw [Outcome.exists_mapM_eq_ok_iff, suits.fits_iff]
  constructor
  · intro every position holds
    have bound := Region.rank_indexOf_lt holds
    have found := every _ (List.mem_range.2 bound)
    rwa [Region.positionAt_rank holds] at found
  · intro every number member
    exact every _ (Region.holds_positionAt (List.mem_range.1 member))

/-- Where there is a matrix, the new evaluator has been placed at the position and its
evaluation has succeeded. -/
theorem placed_of_matrixAt (suits : survey.Suits new low high) {position : Position}
    (holds : survey.region.Holds position) {matrix : Grid}
    (given : new.matrixAt survey.source.field position = .ok matrix) :
    ∃ placed, new.setPosition (.ofPosition position) = .ok placed ∧
      placed.position = position ∧ (placed.evaluate survey.source.field).result = .ok () ∧
      (placed.evaluate survey.source.field).evaluator.matrix = matrix := by
  have length := holds.length_eq.trans suits.ndim.symm
  obtain ⟨taken, _, kept, placed⟩ := exists_setPosition position
  have accepted := placed new length
  obtain rfl : taken = position := by
    rcases kept with same | ⟨far, _⟩
    · exact same
    · have readable := (exists_matrixAt_iff suits.reaches suits.derives suits.convertible
        suits.small length).1 ⟨matrix, given⟩
      obtain ⟨place, member, unreadable⟩ :=
        suits.reaches.exists_unreadable_of_far suits.small length far new.padded
      exact absurd (readable place member) unreadable
  exact ⟨_, accepted, rfl, (matrixAt_eq_ok_iff accepted).1 given⟩

theorem shape_of_gathered (suits : survey.Suits new low high) {matrices : List Grid}
    (gathered : ((List.range survey.region.size).mapM fun number =>
      new.matrixAt survey.source.field (survey.region.positionAt number)) = .ok matrices)
    {matrix : Grid} (member : matrix ∈ matrices) :
    matrix.shape = new.scheme.matrixShape new.ndim := by
  obtain ⟨number, bound, rfl⟩ := List.mem_iff_getElem.1 member
  have given := (Outcome.mapM_range_eq_ok gathered).2 number bound
  have length := (survey.region.length_positionAt number).trans suits.ndim.symm
  rw [shape_of_matrixAt length given, suits.formed.shape]

/-- The cells of a position in the collected matrices are those that the new evaluator
gives there. -/
theorem cell_of_gathered (suits : survey.Suits new low high) {entryShape : Shape}
    {cellOf : List Nat → List Nat}
    (volume : entryShape.volume = (new.scheme.matrixShape new.ndim).volume)
    (cells : ∀ entry, entryShape.contains entry = true →
      (new.scheme.matrixShape new.ndim).contains (cellOf entry) = true ∧
        (new.scheme.matrixShape new.ndim).rank (cellOf entry) = entryShape.rank entry)
    {matrices : List Grid}
    (gathered : ((List.range survey.region.size).mapM fun number =>
      new.matrixAt survey.source.field (survey.region.positionAt number)) = .ok matrices)
    {grid : Grid} (shaped : grid.shape = survey.region.shape ++ entryShape)
    {position : Position} (holds : survey.region.Holds position) :
    ∃ placed, new.setPosition (.ofPosition position) = .ok placed ∧
      placed.position = position ∧ (placed.evaluate survey.source.field).result = .ok () ∧
      ∀ entry, entryShape.contains entry = true → ∃ value,
        (storeFrom survey.region entryShape 0 grid matrices).cell?
          (survey.region.indexOf position ++ entry) = some value ∧
        (placed.evaluate survey.source.field).evaluator.matrix.cell? (cellOf entry) =
          some value := by
  obtain ⟨count, given⟩ := Outcome.mapM_range_eq_ok gathered
  have sizes : ∀ matrix ∈ matrices, matrix.cells.size = entryShape.volume := by
    intro matrix member
    rw [matrix.size_cells, suits.shape_of_gathered gathered member, volume]
  have bound : survey.region.shape.rank (survey.region.indexOf position) < matrices.length := by
    rw [count]
    exact Region.rank_indexOf_lt holds
  have here := given _ bound
  rw [Region.positionAt_rank holds] at here
  obtain ⟨placed, accepted, stands, result, matrix⟩ := suits.placed_of_matrixAt holds here
  refine ⟨placed, accepted, stands, result, ?_⟩
  intro entry inside
  have member := List.getElem_mem bound
  have inCells : entryShape.rank entry <
      matrices[survey.region.shape.rank (survey.region.indexOf position)].cells.size := by
    rw [sizes _ member]
    exact Shape.rank_lt inside
  obtain ⟨inMatrix, sameRank⟩ := cells entry inside
  have found := Array.getElem?_eq_getElem inCells
  refine ⟨_, (cell?_storeFrom_indexOf shaped sizes count holds inside bound).trans found, ?_⟩
  rw [matrix, Grid.cell?, suits.shape_of_gathered gathered member, if_pos inMatrix, sameRank]
  exact found

end Suits

/-- A sweep by a new evaluator ends as separate new evaluators would. -/
theorem sweptBy_sweep {machine : Machine} {survey : Survey} {new : Evaluator} {low high : Nat}
    (suits : survey.Suits new low high) {entryShape : Shape} {cellOf : List Nat → List Nat}
    (volume : entryShape.volume = (new.scheme.matrixShape new.ndim).volume)
    (cells : ∀ entry, entryShape.contains entry = true →
      (new.scheme.matrixShape new.ndim).contains (cellOf entry) = true ∧
        (new.scheme.matrixShape new.ndim).rank (cellOf entry) = entryShape.rank entry)
    (room : survey.RoomFor machine entryShape) :
    SweptBy survey new entryShape cellOf (survey.sweep machine new entryShape) := by
  have swept := sweep_eq room suits.formed suits.derives suits.ndim.symm
  have fits := suits.exists_mapM_iff
  generalize gathered : ((List.range survey.region.size).mapM fun number =>
    new.matrixAt survey.source.field (survey.region.positionAt number)) = outcome at swept fits
  have covered : ∀ index, (survey.region.shape ++ entryShape).contains index = true →
      ∃ position entry, survey.region.Holds position ∧ entryShape.contains entry = true ∧
        index = survey.region.indexOf position ++ entry :=
    fun index inside => Region.exists_indexOf_append inside
  cases outcome with
  | error fault =>
      have failed : survey.sweep machine new entryShape = .error fault := swept
      rw [failed]
      refine ⟨?_, ?_, ?_, covered, ?_⟩
      · rw [← fits]
        simp
      · intro other same
        cases same
        obtain ⟨number, _, unreadable⟩ := Outcome.exists_of_mapM_eq_error gathered
        have length := (survey.region.length_positionAt number).trans suits.ndim.symm
        exact refuses_of_matrixAt suits.derives suits.convertible length unreadable
      · intro grid impossible
        cases impossible
      · intro grid impossible
        cases impossible
  | ok matrices =>
      have given : survey.sweep machine new entryShape =
        .ok (storeFrom survey.region entryShape 0
          (Grid.allocate machine (survey.region.shape ++ entryShape)) matrices) := swept
      rw [given]
      refine ⟨?_, ?_, ?_, covered, ?_⟩
      · rw [← fits]
        simp
      · intro fault impossible
        cases impossible
      · intro grid same
        cases same
        exact shape_storeFrom 0
      · intro grid same position holds
        cases same
        exact suits.cell_of_gathered volume cells gathered rfl holds

theorem contains_gradient_entry {ndim : Nat} {stencil : Stencil} {entry : List Nat}
    (inside : Shape.contains [ndim] entry = true) :
    ((Scheme.gradient stencil).matrixShape ndim).contains (entry ++ [0]) = true ∧
      ((Scheme.gradient stencil).matrixShape ndim).rank (entry ++ [0]) =
        Shape.rank [ndim] entry := by
  obtain ⟨axis, rest, rfl, bound, others⟩ := Shape.contains_cons_iff.1 inside
  obtain rfl := Shape.contains_nil_iff.1 others
  simp [Scheme.matrixShape, Shape.contains, Shape.rank, bound]

theorem suits_fresh {survey : Survey} {scheme : Scheme} {low high : Nat}
    (same : survey.region.ndim = survey.source.ndim)
    (small : ∀ length ∈ survey.source.field.shape, length < Word.signedLimit)
    (reaches : scheme.Reaches low high) (derives : scheme ≠ .blank)
    (convertible : scheme.Convertible) :
    survey.Suits (fresh survey.source scheme survey.region low high) low high where
  formed := wellFormed_fresh reaches.reach same
  derives := derives
  convertible := convertible
  reaches := reaches
  region := rfl
  source := same
  small := small

theorem ofScheme_region {survey : Survey} {scheme : Scheme} {low high : Nat}
    (same : survey.region.ndim = survey.source.ndim) (reach : scheme.reach = .ok (low, high)) :
    ofScheme survey.source scheme (some survey.region) =
      .ok (fresh survey.source scheme survey.region low high) := by
  apply ofScheme_eq_ok_iff.2
  exact ⟨survey.region, low, high,
    Source.regionOfInterest_some_eq_ok_iff.2 ⟨rfl, same⟩, reach, rfl⟩

/-- A survey hands out a new gradient evaluator for every supported kind and order. -/
theorem gradient_of_lookup {survey : Survey} {kind order : Arg} {stencil : Stencil}
    (same : survey.region.ndim = survey.source.ndim)
    (found : Stencil.lookup kind order (.int 1) = .ok stencil) :
    ∃ record, survey.gradient kind order =
      .ok (fresh survey.source (.gradient stencil) survey.region stencil.lowReach
        stencil.highReach, record) := by
  obtain ⟨known, named, _, _, derivative⟩ := Stencil.lookup_eq_ok found
  have first : stencil.derivative = 1 := (Option.some.inj derivative).symm
  have reaches := Scheme.reaches_gradient (Stencil.mem_all_of_lookup found)
  have built := gradient_eq_ok_iff.2 ⟨first, ofScheme_region same reaches.reach⟩
  have foundKnown : Stencil.lookup (.kind known) order (.int 1) = .ok stencil := by
    rw [Stencil.lookup, named] at found
    exact found
  refine ⟨.gradientBuilt stencil.kind stencil.order survey.region
    (survey.region.pad stencil.lowReach stencil.highReach), ?_⟩
  rw [gradient, named, Outcome.ok_bind, buildGradient, foundKnown, Outcome.ok_bind, built]
  rfl

theorem hessian_of_formulas {survey : Survey} {order : Arg} {second first : Stencil}
    (same : survey.region.ndim = survey.source.ndim)
    (found : Scheme.hessianFormulas order = .ok (second, first)) :
    ∃ record, survey.hessian order =
      .ok (fresh survey.source (.hessian second first) survey.region second.lowReach
        second.highReach, record) := by
  have built := ofScheme_region same (Scheme.reaches_hessian found).reach
  refine ⟨.hessianBuilt second.order survey.region
    (survey.region.pad second.lowReach second.highReach), ?_⟩
  rw [hessian, buildHessian, found, Outcome.ok_bind]
  simp only [built]
  rfl

section Fields

variable {machine : Machine}

theorem fst_recordedSweep (survey : Survey) (new : Evaluator) (record : Record)
    (entryShape : Shape) :
    (survey.recordedSweep machine (.ok (new, record)) entryShape).1 =
      survey.sweep machine new entryShape := by
  rw [recordedSweep]
  cases survey.sweep machine new entryShape with
  | error fault => rfl
  | ok grid => rfl

theorem fst_gradientField (survey : Survey) (same : survey.region.ndim = survey.source.ndim)
    {kind order : Arg} {stencil : Stencil}
    (found : Stencil.lookup kind order (.int 1) = .ok stencil) :
    (survey.gradientField machine kind order).1 =
      survey.sweep machine (fresh survey.source (.gradient stencil) survey.region
        stencil.lowReach stencil.highReach) [survey.source.ndim] := by
  obtain ⟨record, built⟩ := gradient_of_lookup same found
  rw [gradientField, built, fst_recordedSweep]

theorem fst_hessianField (survey : Survey) (same : survey.region.ndim = survey.source.ndim)
    {order : Arg} {second first : Stencil}
    (found : Scheme.hessianFormulas order = .ok (second, first)) :
    (survey.hessianField machine order).1 =
      survey.sweep machine (fresh survey.source (.hessian second first) survey.region
        second.lowReach second.highReach) [survey.source.ndim, survey.source.ndim] := by
  obtain ⟨record, built⟩ := hessian_of_formulas same found
  rw [hessianField, built, fst_recordedSweep]

/-- For every supported kind and order, the gradients and the Hessians of a region are
those of new evaluators, and are given exactly if the padded region lies on the array. The
machine only has to have room for them. -/
theorem fields_sweptBy {survey : Survey} (same : survey.region.ndim = survey.source.ndim)
    (small : ∀ length ∈ survey.source.field.shape, length < Word.signedLimit) :
    (∀ kind order stencil, Stencil.lookup kind order (.int 1) = .ok stencil →
      let entryShape := [survey.source.ndim]
      survey.RoomFor machine entryShape →
      ∃ new record, survey.gradient kind order = .ok (new, record) ∧
        new.padded = survey.region.pad stencil.lowReach stencil.highReach ∧
        SweptBy survey new entryShape (· ++ [0]) (survey.gradientField machine kind order).1) ∧
    (∀ order second first, Scheme.hessianFormulas order = .ok (second, first) →
      let entryShape := [survey.source.ndim, survey.source.ndim]
      survey.RoomFor machine entryShape →
      ∃ new record, survey.hessian order = .ok (new, record) ∧
        new.padded = survey.region.pad second.lowReach second.highReach ∧
        SweptBy survey new entryShape id (survey.hessianField machine order).1) := by
  constructor
  · intro kind order stencil found entryShape room
    obtain ⟨record, built⟩ := gradient_of_lookup same found
    have tabulated := Stencil.mem_all_of_lookup found
    have suits := suits_fresh same small (Scheme.reaches_gradient tabulated) (by simp)
      (Stencil.convertible_of_mem_all tabulated)
    have ndim : _ = survey.source.ndim := suits.ndim.trans same
    refine ⟨_, record, built, rfl, ?_⟩
    rw [gradientField, built, fst_recordedSweep]
    apply sweptBy_sweep suits _ _ room
    · rw [ndim]
      rfl
    · intro entry inside
      rw [ndim]
      exact contains_gradient_entry inside
  · intro order second first found entryShape room
    obtain ⟨record, built⟩ := hessian_of_formulas same found
    have suits := suits_fresh same small (Scheme.reaches_hessian found) (by simp)
      (Scheme.convertible_hessian found)
    have ndim : _ = survey.source.ndim := suits.ndim.trans same
    refine ⟨_, record, built, rfl, ?_⟩
    rw [hessianField, built, fst_recordedSweep]
    apply sweptBy_sweep suits _ _ room
    · rw [ndim]
      rfl
    · intro entry inside
      rw [ndim]
      exact ⟨inside, rfl⟩

end Fields

/-- Forward differences in the low quarter of a square, which reach its high sides. -/
theorem fields_sweptBy_square :
    let survey : Survey :=
      ⟨Source.square 3, ⟨[⟨0, 1, by decide⟩, ⟨0, 1, by decide⟩], by decide⟩⟩
    let swept := (survey.gradientField .small (.kind .forward) (.int 1)).1
    survey.RoomFor .small [2] ∧
    ∃ new record, survey.gradient (.kind .forward) (.int 1) = .ok (new, record) ∧
      SweptBy survey new [2] (· ++ [0]) swept ∧ ∃ grid, swept = .ok grid := by
  intro survey swept
  let stencil : Stencil := ⟨.forward, 1, 1, [⟨0, -1⟩, ⟨1, 1⟩], 1, by decide⟩
  have found : Stencil.lookup (.kind .forward) (.int 1) (.int 1) = .ok stencil := rfl
  have small : ∀ length ∈ survey.source.field.shape, length < Word.signedLimit := by
    decide
  have room : survey.RoomFor .small [2] := ⟨by decide, by decide, by decide⟩
  obtain ⟨new, record, built, padded, ended⟩ :=
    (fields_sweptBy rfl small).1 _ _ _ found room
  have fits : new.padded.Fits survey.source.field.shape := by
    rw [padded]
    exact .cons (by decide) (.cons (by decide) .nil)
  exact ⟨room, new, record, built, ended, ended.success.2 fits⟩

end Survey

end LatticeDiff
