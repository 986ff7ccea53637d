import LatticeDiff.Proofs.Arg.Rounding
import LatticeDiff.Proofs.Region.Padding
import LatticeDiff.Proofs.Stencil.Table

/-!
# How far samples reach

The reach of a scheme is exact: no sample lies further away from the position than that,
and along every axis there are samples that lie just as far below and above it. So the
padding of a region is as large as it has to be and no larger.
-/

namespace LatticeDiff

namespace Stencil

theorem le_foldl_max (size : Int → Nat) (offsets : List Int) (start : Nat) :
    start ≤ offsets.foldl (fun reach offset => max reach (size offset)) start ∧
      ∀ offset ∈ offsets,
        size offset ≤ offsets.foldl (fun reach offset => max reach (size offset)) start := by
  induction offsets generalizing start with
  | nil => simp
  | cons first offsets ih =>
      obtain ⟨fromStart, fromRest⟩ := ih (max start (size first))
      rw [List.foldl_cons]
      refine ⟨Nat.le_trans (Nat.le_max_left _ _) fromStart, ?_⟩
      intro offset member
      rcases List.mem_cons.1 member with rfl | later
      · exact Nat.le_trans (Nat.le_max_right _ _) fromStart
      · exact fromRest offset later

theorem within_reach {stencil : Stencil} {offset : Int} (member : offset ∈ stencil.offsets) :
    -(stencil.lowReach : Int) ≤ offset ∧ offset ≤ stencil.highReach := by
  have below : (-offset).toNat ≤ stencil.lowReach :=
    (le_foldl_max (fun offset => (-offset).toNat) stencil.offsets 0).2 offset member
  have above : offset.toNat ≤ stencil.highReach :=
    (le_foldl_max Int.toNat stencil.offsets 0).2 offset member
  omega

theorem reach_of_mem_all {stencil : Stencil} (tabulated : stencil ∈ all) :
    stencil.reach = .ok (stencil.lowReach, stencil.highReach) := by
  have sampled : stencil.terms.isEmpty = false := by
    simpa using (reach_mem_offsets stencil tabulated).1
  rw [reach, sampled]
  rfl

end Stencil

namespace Scheme

/-- The samples of a scheme lie within margins, and along every axis some lie at their
ends. -/
structure Reaches (scheme : Scheme) (low high : Nat) : Prop where
  reach : scheme.reach = .ok (low, high)
  near : ∀ {ndim : Nat} {position place : Position},
    place ∈ scheme.samplesAt ndim position → Position.Near low high position place
  lowest : ∀ {ndim axis : Nat} (position : Position), axis < ndim →
    position.shift axis (-low) ∈ scheme.samplesAt ndim position
  highest : ∀ {ndim axis : Nat} (position : Position), axis < ndim →
    position.shift axis high ∈ scheme.samplesAt ndim position

theorem near_of_mem_gradient_samplesAt {stencil : Stencil} {ndim : Nat}
    {position place : Position} (member : place ∈ (gradient stencil).samplesAt ndim position) :
    Position.Near stencil.lowReach stencil.highReach position place := by
  obtain ⟨axis, _, offset, offsetMember, rfl⟩ := mem_gradient_samplesAt.1 member
  obtain ⟨below, above⟩ := Stencil.within_reach offsetMember
  exact Position.near_shift below above position axis

theorem reaches_gradient {stencil : Stencil} (tabulated : stencil ∈ Stencil.all) :
    (gradient stencil).Reaches stencil.lowReach stencil.highReach := by
  obtain ⟨_, lowMember, highMember⟩ := Stencil.reach_mem_offsets stencil tabulated
  constructor
  · exact Stencil.reach_of_mem_all tabulated
  · exact near_of_mem_gradient_samplesAt
  · intro ndim axis position bound
    exact mem_gradient_samplesAt.2 ⟨axis, bound, _, lowMember, rfl⟩
  · intro ndim axis position bound
    exact mem_gradient_samplesAt.2 ⟨axis, bound, _, highMember, rfl⟩

/-- Central formulas of one order reach as far for second derivatives as for first
ones. -/
theorem central_reach : ∀ second ∈ Stencil.table .central, ∀ first ∈ Stencil.table .central,
    second.derivative = 2 → first.derivative = 1 → first.order = second.order →
      first.lowReach = second.lowReach ∧ first.highReach = second.highReach := by
  decide

theorem sameReach_of_hessianFormulas {order : Arg} {second first : Stencil}
    (found : hessianFormulas order = .ok (second, first)) :
    first.lowReach = second.lowReach ∧ first.highReach = second.highReach := by
  obtain ⟨lookupSecond, lookupFirst⟩ := hessianFormulas_eq_ok found
  obtain ⟨_, secondKind, secondMember, secondOrder, secondDerivative⟩ :=
    Stencil.lookup_eq_ok lookupSecond
  obtain ⟨_, firstKind, firstMember, firstOrder, firstDerivative⟩ :=
    Stencil.lookup_eq_ok lookupFirst
  cases secondKind
  cases firstKind
  have sameOrder : first.order = second.order := by
    rw [secondOrder] at firstOrder
    exact (Arg.int.inj firstOrder).symm
  exact central_reach second secondMember first firstMember
    (Option.some.inj secondDerivative).symm (Option.some.inj firstDerivative).symm sameOrder

theorem reaches_hessian {order : Arg} {second first : Stencil}
    (found : hessianFormulas order = .ok (second, first)) :
    (hessian second first).Reaches second.lowReach second.highReach := by
  obtain ⟨lookupSecond, lookupFirst⟩ := hessianFormulas_eq_ok found
  obtain ⟨sameLow, sameHigh⟩ := sameReach_of_hessianFormulas found
  have secondTabulated := Stencil.mem_all_of_lookup lookupSecond
  have firstTabulated := Stencil.mem_all_of_lookup lookupFirst
  obtain ⟨_, lowMember, highMember⟩ := Stencil.reach_mem_offsets second secondTabulated
  constructor
  · rw [reach, Stencil.reach_of_mem_all secondTabulated, Stencil.reach_of_mem_all firstTabulated,
      sameLow, sameHigh]
    simp [pure, Except.pure]
  · intro ndim position place member
    rcases mem_hessian_samplesAt.1 member with ⟨axis, _, offset, offsetMember, rfl⟩ |
      ⟨outer, inner, ordered, _, far, farMember, near, nearMember, rfl⟩
    · obtain ⟨below, above⟩ := Stencil.within_reach offsetMember
      exact Position.near_shift below above position axis
    · obtain ⟨farBelow, farAbove⟩ := Stencil.within_reach farMember
      obtain ⟨nearBelow, nearAbove⟩ := Stencil.within_reach nearMember
      rw [sameLow] at farBelow nearBelow
      rw [sameHigh] at farAbove nearAbove
      exact Position.near_shift_shift farBelow farAbove nearBelow nearAbove ordered position
  · intro ndim axis position bound
    exact mem_hessian_samplesAt.2 (.inl ⟨axis, bound, _, lowMember, rfl⟩)
  · intro ndim axis position bound
    exact mem_hessian_samplesAt.2 (.inl ⟨axis, bound, _, highMember, rfl⟩)

namespace Reaches

variable {scheme : Scheme} {low high ndim : Nat} {field : Field} {region : Region}

/-- Where the padded region lies on the array, all samples around the region can be
read. -/
theorem readable (reaches : scheme.Reaches low high)
    (fits : (region.pad low high).Fits field.shape) {position place : Position}
    (holds : region.Holds position) (member : place ∈ scheme.samplesAt ndim position) :
    field.Readable (region.pad low high) place := by
  have inPadded := Region.holds_pad holds (reaches.near member)
  exact ⟨inPadded, fits.holds inPadded⟩

/-- If all samples around the corners of a region can be read, the padded region lies on
the array. -/
theorem fits (reaches : scheme.Reaches low high) (same : field.ndim = region.ndim)
    (readable : ∀ position, region.Holds position →
      ∀ place ∈ scheme.samplesAt region.ndim position,
        field.Readable (region.pad low high) place) :
    (region.pad low high).Fits field.shape := by
  apply Region.fits_pad same
  · intro axis bound
    exact (readable _ region.holds_low _ (reaches.lowest region.low bound)).2
  · intro axis bound
    exact (readable _ region.holds_high _ (reaches.highest region.high bound)).2

/-- Around a position beyond the signed words, some sample is off every array. -/
theorem exists_unreadable_of_far (reaches : scheme.Reaches low high)
    (small : ∀ length ∈ field.shape, length < Word.signedLimit) {position : Position}
    (same : position.length = ndim) (far : position.Far) (padded : Region) :
    ∃ place ∈ scheme.samplesAt ndim position, ¬field.Readable padded place := by
  obtain ⟨coordinate, member, beyond⟩ := far
  obtain ⟨axis, bound, rfl⟩ := List.mem_iff_getElem.1 member
  refine ⟨_, reaches.highest position (same ▸ bound), ?_⟩
  rintro ⟨_, holds⟩
  have inShifted : axis < (position.shift axis high).length := by
    rwa [Position.length_shift]
  have inShape : axis < field.shape.length := by
    rwa [holds.length_eq]
  have inside := (holds.bounds inShape inShifted).2
  have limit := small field.shape[axis] (List.getElem_mem inShape)
  rw [Position.getElem_shift bound] at inside
  omega

end Reaches

end Scheme

end LatticeDiff
