import LatticeDiff.Proofs.Evaluator.Run
import LatticeDiff.Proofs.Field.Transposition
import Mathlib.Logic.Equiv.Basic

/-!
# Derivatives of transposed fields

An evaluator over a transposed field estimates along each place what an evaluator over the
field itself estimates along the axis that has come there, from the same samples in the same
order. A mixed derivative nests its axes as they stand in the matrix. Its samples are the same
in any order, but it sums them in another one if its two axes have changed sides.
-/

namespace LatticeDiff

/-- Where the coordinates are put into another order, the second reader finds what the first
one finds, as far as it finds anything. -/
def Reader.Turned {ndim : Nat} (axes : Axes ndim) (first second : Reader) : Prop :=
  ∀ (position : Position) (value : Float), position.length = ndim →
    (second (axes.arrange position) = .ok value ↔ first position = .ok value)

section Turned

variable {ndim : Nat} {axes : Axes ndim} {first second : Reader} {position : Position}

theorem Reader.Turned.shift_iff (turned : Turned axes first second)
    (same : position.length = ndim) (place : Nat) (distance : Int) (value : Float) :
    second (Position.shift (axes.arrange position) place distance) = .ok value ↔
      first (position.shift (axes.axisAt place) distance) = .ok value := by
  rw [axes.shift_arrange same]
  exact turned _ value ((position.length_shift ..).trans same)

theorem Reader.Turned.shift_shift_iff (turned : Turned axes first second)
    (same : position.length = ndim) (outer : Nat) (far : Int) (inner : Nat) (near : Int)
    (value : Float) :
    second (Position.shift (Position.shift (axes.arrange position) outer far) inner near) =
        .ok value ↔
      first ((position.shift (axes.axisAt outer) far).shift (axes.axisAt inner) near) =
        .ok value := by
  rw [axes.shift_arrange same]
  exact turned.shift_iff ((position.length_shift ..).trans same) inner near value

namespace Derivative

theorem estimateAt_along_arrange_iff (turned : Reader.Turned axes first second)
    (same : position.length = ndim) {stencil : Stencil} {place : Nat} {value : Float} :
    (along stencil place).estimateAt second (axes.arrange position) = .ok value ↔
      (along stencil (axes.axisAt place)).estimateAt first position = .ok value := by
  constructor
  · apply estimateAt_along_of_ok
    intro offset _ sample
    exact (turned.shift_iff same place offset sample).1
  · apply estimateAt_along_of_ok
    intro offset _ sample
    exact (turned.shift_iff same place offset sample).2

theorem estimateAt_mixed_arrange_iff (turned : Reader.Turned axes first second)
    (same : position.length = ndim) {stencil : Stencil} {outer inner : Nat} {value : Float} :
    (mixed stencil outer inner).estimateAt second (axes.arrange position) = .ok value ↔
      (mixed stencil (axes.axisAt outer) (axes.axisAt inner)).estimateAt first position =
        .ok value := by
  constructor
  · apply estimateAt_mixed_of_ok
    intro far _ near _ sample
    exact (turned.shift_shift_iff same outer far inner near sample).1
  · apply estimateAt_mixed_of_ok
    intro far _ near _ sample
    exact (turned.shift_shift_iff same outer far inner near sample).2

end Derivative

end Turned

namespace Scheme

/-- Mixed derivatives have the same samples in either order of their axes. -/
theorem forall_mem_hessian_samplesAt_ne {second first : Stencil} {ndim : Nat}
    {position : Position} {property : Position → Prop} :
    (∀ place ∈ (hessian second first).samplesAt ndim position, property place) ↔
      (∀ axis < ndim, ∀ offset ∈ second.offsets, property (position.shift axis offset)) ∧
      ∀ outer < ndim, ∀ inner < ndim, outer ≠ inner →
        ∀ far ∈ first.offsets, ∀ near ∈ first.offsets,
          property ((position.shift outer far).shift inner near) := by
  rw [forall_mem_hessian_samplesAt]
  refine and_congr_right fun _ => ?_
  constructor
  · intro every outer outerBound inner innerBound different far farMember near nearMember
    rcases Nat.lt_or_gt_of_ne different with ordered | ordered
    · exact every outer inner ordered innerBound far farMember near nearMember
    · rw [Position.shift_comm]
      exact every inner outer ordered outerBound near nearMember far farMember
  · intro every outer inner ordered bound
    exact every outer (Nat.lt_trans ordered bound) inner bound (Nat.ne_of_lt ordered)

/-- A Hessian of a transposed field can be sampled exactly where the Hessian of the field can. -/
theorem serves_hessian_arrange_iff {ndim : Nat} {axes : Axes ndim} {read other : Reader}
    (turned : Reader.Turned axes read other) {second first : Stencil} {position : Position}
    (same : position.length = ndim) :
    (∀ place ∈ (hessian second first).samplesAt ndim (axes.arrange position),
        Reader.Serves other place) ↔
      ∀ place ∈ (hessian second first).samplesAt ndim position, Reader.Serves read place := by
  have once : ∀ place distance,
      Reader.Serves other (Position.shift (axes.arrange position) place distance) ↔
        Reader.Serves read (position.shift (axes.axisAt place) distance) :=
    fun place distance => exists_congr (turned.shift_iff same place distance)
  have twice : ∀ outer far inner near,
      Reader.Serves other (Position.shift (Position.shift (axes.arrange position) outer far)
          inner near) ↔
        Reader.Serves read
          ((position.shift (axes.axisAt outer) far).shift (axes.axisAt inner) near) :=
    fun outer far inner near => exists_congr (turned.shift_shift_iff same outer far inner near)
  rw [forall_mem_hessian_samplesAt_ne, forall_mem_hessian_samplesAt_ne]
  simp only [once, twice]
  exact and_congr
    (axes.forall_axisAt_iff fun axis => ∀ offset ∈ second.offsets,
      Reader.Serves read (position.shift axis offset))
    (axes.forall_ne_axisAt_iff fun outer inner => ∀ far ∈ first.offsets, ∀ near ∈ first.offsets,
      Reader.Serves read ((position.shift outer far).shift inner near))

end Scheme

theorem Entry.result_fillAllAt_of_estimates {read : Reader} {position : Position}
    {entries : List Entry}
    (estimated : ∀ entry ∈ entries, ∃ value,
      entry.derivative.estimateAt read position = .ok value) (matrix : Grid) :
    (fillAllAt read position entries matrix).1 = .ok () := by
  induction entries generalizing matrix with
  | nil => rfl
  | cons entry entries ih =>
      obtain ⟨⟨value, found⟩, others⟩ := List.forall_mem_cons.1 estimated
      rw [fillAllAt, found]
      exact ih others (entry.store value matrix)

namespace Evaluator

/-- A gradient is found exactly if it is along every axis, whatever the formula is. -/
theorem result_evaluate_gradient_iff {evaluator : Evaluator} {stencil : Stencil}
    (scheme : evaluator.scheme = .gradient stencil) (field : Field) :
    (evaluator.evaluate field).result = .ok () ↔
      ∀ axis < evaluator.ndim, ∃ value, (Derivative.along stencil axis).estimateAt
        (field.read evaluator.padded) evaluator.position = .ok value := by
  have derives : evaluator.scheme ≠ .blank := by simp [scheme]
  rw [evaluate_eq derives, scheme]
  constructor
  · intro success axis bound
    exact Entry.exists_of_fillAllAt_eq_ok success _ (Scheme.mem_gradientEntries bound)
  · intro every
    apply Entry.result_fillAllAt_of_estimates
    intro entry member
    obtain ⟨axis, bound, rfl⟩ := List.mem_map.1 member
    exact every axis (List.mem_range.1 bound)

theorem result_evaluate_hessian_iff {evaluator : Evaluator} {second first : Stencil}
    (scheme : evaluator.scheme = .hessian second first)
    (convertible : (Scheme.hessian second first).Convertible) (field : Field) :
    (evaluator.evaluate field).result = .ok () ↔
      ∀ place ∈ (Scheme.hessian second first).samplesAt evaluator.ndim evaluator.position,
        Reader.Serves (field.read evaluator.padded) place := by
  have derives : evaluator.scheme ≠ .blank := by simp [scheme]
  rw [result_evaluate_eq_each derives (by rwa [scheme]), scheme]
  exact Reader.each_eq_ok_iff

/-- The cells of a matrix whose values another order of the axes keeps, and where they come
to: the rows of a gradient, the diagonal of a Hessian, and the mixed derivatives whose axes
stay on the same side of each other. -/
inductive Carried {ndim : Nat} (axes : Axes ndim) : Recipe → List Nat → List Nat → Prop where
  | row (stencil : Stencil) {place : Nat} :
      place < ndim → Carried axes (.gradient stencil) [axes.axisAt place, 0] [place, 0]
  | diagonal (order : Arg) {place : Nat} :
      place < ndim →
      Carried axes (.hessian order) [axes.axisAt place, axes.axisAt place] [place, place]
  | mixed (order : Arg) {row column : Nat} :
      row < ndim → column < ndim → row ≠ column →
      (axes.axisAt row < axes.axisAt column ↔ row < column) →
      Carried axes (.hessian order) [axes.axisAt row, axes.axisAt column] [row, column]

/-- How an evaluation over a transposed field compares with the one over the field itself. -/
structure Transposes {ndim : Nat} (axes : Axes ndim) (recipe : Recipe)
    (original transposed : Evaluation) : Prop where
  success : transposed.result = .ok () ↔ original.result = .ok ()
  cells {cell place : List Nat} : original.result = .ok () → Carried axes recipe cell place →
    ∃ value, original.evaluator.matrix.cell? cell = some value ∧
      transposed.evaluator.matrix.cell? place = some value

section Carried

variable {ndim : Nat} {axes : Axes ndim} {recipe : Recipe} {scheme : Scheme}

theorem Carried.inside {cell place : List Nat} (carried : Carried axes recipe cell place)
    (settled : recipe.scheme = .ok scheme) :
    (scheme.matrixShape ndim).contains cell = true ∧
      (scheme.matrixShape ndim).contains place = true := by
  have permuted : ∀ {place}, place < ndim → axes.axisAt place < ndim := axes.axisAt_lt_iff.2
  cases carried with
  | row stencil bound =>
      obtain ⟨_, rfl⟩ := Recipe.scheme_gradient_eq_ok_iff.1 settled
      simp [Scheme.matrixShape, Shape.contains, bound, permuted bound]
  | diagonal order bound =>
      obtain ⟨_, _, _, rfl⟩ := Recipe.scheme_hessian_eq_ok_iff.1 settled
      simp [Scheme.matrixShape, Shape.contains, bound, permuted bound]
  | mixed order rowBound columnBound =>
      obtain ⟨_, _, _, rfl⟩ := Recipe.scheme_hessian_eq_ok_iff.1 settled
      simp [Scheme.matrixShape, Shape.contains, rowBound, columnBound, permuted rowBound,
        permuted columnBound]

theorem Carried.estimates {cell place : List Nat} (carried : Carried axes recipe cell place)
    (settled : recipe.scheme = .ok scheme) :
    ∃ derivative other, scheme.derivativeAt? cell = some derivative ∧
      scheme.derivativeAt? place = some other ∧
      ∀ {read otherRead : Reader} {position : Position}, Reader.Turned axes read otherRead →
        position.length = ndim → ∀ value,
          (other.estimateAt otherRead (axes.arrange position) = .ok value ↔
            derivative.estimateAt read position = .ok value) := by
  cases carried with
  | row stencil bound =>
      obtain ⟨_, rfl⟩ := Recipe.scheme_gradient_eq_ok_iff.1 settled
      refine ⟨_, _, rfl, rfl, ?_⟩
      intro _ _ _ turned same value
      exact Derivative.estimateAt_along_arrange_iff turned same
  | diagonal order bound =>
      obtain ⟨_, _, _, rfl⟩ := Recipe.scheme_hessian_eq_ok_iff.1 settled
      refine ⟨_, _, if_pos rfl, if_pos rfl, ?_⟩
      intro _ _ _ turned same value
      exact Derivative.estimateAt_along_arrange_iff turned same
  | @mixed _ row column _ _ different ordered =>
      obtain ⟨_, first, _, rfl⟩ := Recipe.scheme_hessian_eq_ok_iff.1 settled
      refine ⟨_, _, if_neg (axes.axisAt_inj.not.2 different), if_neg different, ?_⟩
      intro _ _ _ turned same value
      rw [Derivative.estimateAt_mixed_arrange_iff turned same]
      -- The smaller axis comes to the smaller place, and the greater one to the greater.
      rcases Nat.lt_or_gt_of_ne different with before | after
      · have kept := Nat.le_of_lt (ordered.2 before)
        rw [Nat.min_eq_left (Nat.le_of_lt before), Nat.max_eq_right (Nat.le_of_lt before),
          Nat.min_eq_left kept, Nat.max_eq_right kept]
      · have kept : axes.axisAt column ≤ axes.axisAt row := by omega
        rw [Nat.min_eq_right (Nat.le_of_lt after), Nat.max_eq_left (Nat.le_of_lt after),
          Nat.min_eq_right kept, Nat.max_eq_left kept]

/-- Evaluators that read the same samples along other axes evaluate alike along them. -/
theorem transposes_evaluate (settled : recipe.scheme = .ok scheme)
    {evaluator turned : Evaluator} {field other : Field}
    (sameScheme : evaluator.scheme = scheme) (turnedScheme : turned.scheme = scheme)
    (sameNdim : evaluator.ndim = ndim)
    (shaped : evaluator.matrix.shape = scheme.matrixShape ndim)
    (turnedShaped : turned.matrix.shape = scheme.matrixShape ndim)
    (read : Reader.Turned axes (field.read evaluator.padded) (other.read turned.padded))
    (position : turned.position = axes.arrange evaluator.position) :
    Transposes axes recipe (evaluator.evaluate field) (turned.evaluate other) := by
  have turnedNdim : turned.ndim = ndim := by
    rw [Evaluator.ndim, position, Axes.length_arrange]
    exact sameNdim
  have success : (turned.evaluate other).result = .ok () ↔
      (evaluator.evaluate field).result = .ok () := by
    cases recipe with
    | gradient stencil =>
        obtain ⟨_, rfl⟩ := Recipe.scheme_gradient_eq_ok_iff.1 settled
        rw [result_evaluate_gradient_iff turnedScheme, result_evaluate_gradient_iff sameScheme,
          position, turnedNdim, sameNdim]
        simp only [Derivative.estimateAt_along_arrange_iff read sameNdim]
        exact axes.forall_axisAt_iff fun axis => ∃ value,
          (Derivative.along stencil axis).estimateAt _ evaluator.position = .ok value
    | hessian order =>
        obtain ⟨second, first, found, rfl⟩ := Recipe.scheme_hessian_eq_ok_iff.1 settled
        have convertible := Scheme.convertible_hessian found
        rw [result_evaluate_hessian_iff turnedScheme convertible,
          result_evaluate_hessian_iff sameScheme convertible, position, turnedNdim, sameNdim]
        exact Scheme.serves_hessian_arrange_iff read sameNdim
  refine ⟨success, ?_⟩
  intro cell place found carried
  have derives := Recipe.scheme_ne_blank settled
  obtain ⟨inside, turnedInside⟩ := carried.inside settled
  obtain ⟨derivative, turnedDerivative, named, turnedNamed, alike⟩ := carried.estimates settled
  obtain ⟨value, estimated, stored⟩ :=
    cell?_evaluate_of_named derives sameScheme sameNdim shaped found inside named
  obtain ⟨turnedValue, turnedEstimated, turnedStored⟩ := cell?_evaluate_of_named derives
    turnedScheme turnedNdim turnedShaped (success.2 found) turnedInside turnedNamed
  rw [position, alike read sameNdim, estimated, Except.ok.injEq] at turnedEstimated
  exact ⟨value, stored, turnedEstimated ▸ turnedStored⟩

end Carried

theorem ofScheme_transpose {source : Source} (axes : Axes source.ndim) {scheme : Scheme}
    {region? : Option Region} {built : Evaluator}
    (success : ofScheme source scheme region? = .ok built) :
    ∃ turned, ofScheme (source.transpose axes) scheme (some (built.region.transpose axes)) =
        .ok turned ∧
      turned.padded = built.padded.transpose axes ∧ built.padded.ndim = source.ndim := by
  obtain ⟨region, low, high, settled, reach, rfl⟩ := ofScheme_eq_ok_iff.1 success
  have sameNdim := Source.ndim_of_regionOfInterest settled
  have accepted : (source.transpose axes).regionOfInterest (some (region.transpose axes)) =
      .ok (region.transpose axes) := by
    rw [Source.regionOfInterest_some_eq_ok_iff, Region.ndim_transpose, Source.ndim_transpose]
    exact ⟨rfl, sameNdim⟩
  refine ⟨fresh (source.transpose axes) scheme (region.transpose axes) low high, ?_,
    region.pad_transpose axes low high, (region.ndim_pad low high).trans sameNdim⟩
  exact ofScheme_eq_ok_iff.2 ⟨_, low, high, accepted, reach, rfl⟩

namespace Session

/-- Derivatives follow the axes. To every evaluator there is one over the transposed source, by
the same recipe and for the transposed region. Whatever has happened to both of them: at
transposed positions, over samples that are still transposed, they succeed together, and each
value that a permutation of rows and columns moves without exchanging the order of its axes is
the same. -/
theorem transposed_run {source : Source} (axes : Axes source.ndim) {recipe : Recipe}
    {region? : Option Region} {built : Evaluator}
    (success : recipe.build source region? = .ok built) :
    ∃ turned, recipe.build (source.transpose axes) (some (built.region.transpose axes)) =
        .ok turned ∧
      ∀ commands others : List Command,
        let original := (start source built).run commands
        let transposed := (start (source.transpose axes) turned).run others
        transposed.source.field = original.source.field.transpose axes →
        transposed.current.position = axes.arrange original.current.position →
        Transposes axes recipe (original.current.evaluate original.source.field)
          (transposed.current.evaluate transposed.source.field) := by
  obtain ⟨scheme, settled, success⟩ := Recipe.build_eq_ok_iff.1 success
  obtain ⟨turned, turnedSuccess, padded, paddedNdim⟩ := ofScheme_transpose axes success
  refine ⟨turned, Recipe.build_eq_ok_iff.2 ⟨scheme, settled, turnedSuccess⟩, ?_⟩
  intro commands others original transposed sameSamples position
  obtain ⟨sameScheme, samePadded, sameNdim, shaped⟩ := current_run success commands
  obtain ⟨turnedScheme, turnedPadded, turnedNdim, turnedShaped⟩ :=
    current_run turnedSuccess others
  rw [sameScheme, sameNdim] at shaped
  rw [turnedScheme, turnedNdim, Source.ndim_transpose] at turnedShaped
  apply transposes_evaluate settled sameScheme turnedScheme sameNdim shaped turnedShaped _ position
  intro place value sameLength
  rw [sameSamples, turnedPadded, padded, samePadded]
  exact Field.read_transpose_iff (ndim_run _ commands) paddedNdim sameLength

/-- The upper rows of a square, and the left columns of the transposed square. -/
theorem transposed_square :
    let source := Source.square 3
    let region : Region := ⟨[⟨0, 1, by decide⟩, ⟨0, 2, by decide⟩], by decide⟩
    let axes : Axes 2 := Equiv.swap 0 1
    let recipe : Recipe := .gradient ⟨.forward, 1, 1, [⟨0, -1⟩, ⟨1, 1⟩], 1, by decide⟩
    ∃ built turned, recipe.build source (some region) = .ok built ∧
      recipe.build (source.transpose axes) (some (region.transpose axes)) = .ok turned ∧
      let original := (start source built).run [.reposition (.forward (.int 1))]
      let transposed :=
        (start (source.transpose axes) turned).run [.reposition (.forward (.int 0))]
      (original.current.evaluate original.source.field).result = .ok () ∧
        Transposes axes recipe (original.current.evaluate original.source.field)
          (transposed.current.evaluate transposed.source.field) := by
  intro source region axes recipe
  let stencil : Stencil := ⟨.forward, 1, 1, [⟨0, -1⟩, ⟨1, 1⟩], 1, by decide⟩
  let built := fresh source (.gradient stencil) region 0 1
  let moved : Evaluator := { built with position := [0, 1] }
  have derives : moved.scheme ≠ .blank := by simp [moved, built, fresh]
  have convertible : moved.scheme.Convertible := ⟨by decide +kernel, by decide +kernel⟩
  have found : (moved.evaluate source.field).result = .ok () :=
    result_evaluate_eq_each derives convertible source.field
  have success : recipe.build source (some region) = .ok built := rfl
  obtain ⟨turned, turnedSuccess, follows⟩ := @transposed_run source axes _ _ _ success
  have alsoBuilt : turned = fresh (source.transpose axes) (.gradient stencil)
    (region.transpose axes) 0 1 := (Except.ok.inj turnedSuccess).symm
  refine ⟨built, turned, success, turnedSuccess, found, ?_⟩
  subst alsoBuilt
  exact follows [.reposition (.forward (.int 1))] [.reposition (.forward (.int 0))] rfl rfl

end Session

end Evaluator

end LatticeDiff
