import LatticeDiff.Proofs.Evaluator.Reach
import LatticeDiff.Proofs.Evaluator.Run

/-!
# The footprint of an evaluator

The padded region of an evaluator is the least region that holds its region of interest
together with all samples around it. So an evaluation at a position of interest stays
inside, and what breaks it off is the end of the array or an integer that is too large.
-/

namespace LatticeDiff

namespace Stencil

theorem foldl_max_mem (size : Int → Nat) (offsets : List Int) (start : Nat) :
    offsets.foldl (fun reach offset => max reach (size offset)) start = start ∨
      ∃ offset ∈ offsets,
        size offset = offsets.foldl (fun reach offset => max reach (size offset)) start := by
  induction offsets generalizing start with
  | nil => exact .inl rfl
  | cons first offsets ih =>
      rw [List.foldl_cons]
      rcases ih (max start (size first)) with stays | ⟨offset, member, reached⟩
      · rw [stays]
        rcases Nat.le_total start (size first) with larger | smaller
        · exact .inr ⟨first, by simp, (Nat.max_eq_right larger).symm⟩
        · exact .inl (Nat.max_eq_left smaller)
      · exact .inr ⟨offset, by simp [member], reached⟩

/-- A formula samples as far below its point as it reaches, if it reaches below at all. -/
theorem lowReach_mem (stencil : Stencil) :
    stencil.lowReach = 0 ∨ -(stencil.lowReach : Int) ∈ stencil.offsets := by
  rcases foldl_max_mem (fun offset => (-offset).toNat) stencil.offsets 0 with
    none | ⟨offset, member, reached⟩
  · exact .inl none
  · rcases Nat.eq_zero_or_pos stencil.lowReach with none | positive
    · exact .inl none
    · right
      have same : -(stencil.lowReach : Int) = offset := by
        change (-offset).toNat = stencil.lowReach at reached
        omega
      rwa [same]

theorem highReach_mem (stencil : Stencil) :
    stencil.highReach = 0 ∨ (stencil.highReach : Int) ∈ stencil.offsets := by
  rcases foldl_max_mem Int.toNat stencil.offsets 0 with none | ⟨offset, member, reached⟩
  · exact .inl none
  · rcases Nat.eq_zero_or_pos stencil.highReach with none | positive
    · exact .inl none
    · right
      have same : (stencil.highReach : Int) = offset := by
        change offset.toNat = stencil.highReach at reached
        omega
      rwa [same]

end Stencil

namespace Region

/-- A region holds all of a padded region if it does hold the extremes along every axis
that are found from the corners. -/
theorem holds_of_holds_pad {region other : Region} {low high : Nat}
    (lowest : ∀ axis < region.ndim, other.Holds (region.low.shift axis (-low)))
    (highest : ∀ axis < region.ndim, other.Holds (region.high.shift axis high))
    {place : Position} (holds : (region.pad low high).Holds place) : other.Holds place := by
  have same : other.spans.length = region.ndim := by
    have length := (lowest 0 region.ndim_pos).length_eq
    rw [Position.length_shift, length_low] at length
    exact length.symm
  have placeLength : place.length = region.ndim := by
    rw [holds.length_eq, ndim_pad]
  apply List.forall₂_iff_get.2
  refine ⟨same.trans placeLength.symm, ?_⟩
  intro axis inOther inPlace
  have bound : axis < region.ndim := by rwa [← same]
  have inPadded : axis < (region.pad low high).spans.length := by
    have length := ndim_pad region low high
    rw [ndim] at length
    rwa [length]
  have inLow : axis < region.low.length := by rwa [length_low]
  have inHigh : axis < region.high.length := by rwa [length_high]
  have lowBound := ((lowest axis bound).bounds inOther (by rwa [Position.length_shift])).1
  have highBound := ((highest axis bound).bounds inOther (by rwa [Position.length_shift])).2
  have within := holds.bounds inPadded inPlace
  rw [Position.getElem_shift inLow] at lowBound
  rw [Position.getElem_shift inHigh] at highBound
  simp only [Region.low, Region.high, pad, List.getElem_map, Span.pad] at lowBound highBound within
  simp only [List.get_eq_getElem]
  omega

/-- A region holds every position of another one, and all samples of a scheme around it. -/
def Covers (covering : Region) (scheme : Scheme) (region : Region) : Prop :=
  ∀ position, region.Holds position → covering.Holds position ∧
    ∀ place ∈ scheme.samplesAt region.ndim position, covering.Holds place

end Region

namespace Scheme

/-- The samples of a scheme lie within margins, each of which is zero or attained along
every axis. -/
structure Needs (scheme : Scheme) (low high : Nat) : Prop where
  near : ∀ {ndim : Nat} {position place : Position},
    place ∈ scheme.samplesAt ndim position → Position.Near low high position place
  lowest : low = 0 ∨ ∀ {ndim axis : Nat} (position : Position), axis < ndim →
    position.shift axis (-low) ∈ scheme.samplesAt ndim position
  highest : high = 0 ∨ ∀ {ndim axis : Nat} (position : Position), axis < ndim →
    position.shift axis high ∈ scheme.samplesAt ndim position

theorem Reaches.needs {scheme : Scheme} {low high : Nat} (reaches : scheme.Reaches low high) :
    scheme.Needs low high :=
  ⟨reaches.near, .inr reaches.lowest, .inr reaches.highest⟩

theorem needs_gradient (stencil : Stencil) :
    (gradient stencil).Needs stencil.lowReach stencil.highReach where
  near := near_of_mem_gradient_samplesAt
  lowest := by
    rcases stencil.lowReach_mem with none | member
    · exact .inl none
    · right
      intro ndim axis position bound
      exact mem_gradient_samplesAt.2 ⟨axis, bound, _, member, rfl⟩
  highest := by
    rcases stencil.highReach_mem with none | member
    · exact .inl none
    · right
      intro ndim axis position bound
      exact mem_gradient_samplesAt.2 ⟨axis, bound, _, member, rfl⟩

/-- The padded region is the least one that covers a region and the samples around it. -/
structure Footprint (scheme : Scheme) (region padded : Region) : Prop where
  covers : padded.Covers scheme region
  least : ∀ covering : Region, covering.Covers scheme region →
    ∀ place, padded.Holds place → covering.Holds place

theorem footprint_pad {scheme : Scheme} {low high : Nat} (needs : scheme.Needs low high)
    (region : Region) : scheme.Footprint region (region.pad low high) where
  covers := by
    intro position holds
    refine ⟨Region.holds_pad holds (Position.near_refl low high position), ?_⟩
    intro place member
    exact Region.holds_pad holds (needs.near member)
  least := by
    intro covering covers place holds
    obtain ⟨lowHeld, lowSamples⟩ := covers region.low region.holds_low
    obtain ⟨highHeld, highSamples⟩ := covers region.high region.holds_high
    apply Region.holds_of_holds_pad _ _ holds
    · intro axis bound
      rcases needs.lowest with rfl | sampled
      · simpa using lowHeld
      · exact lowSamples _ (sampled region.low bound)
    · intro axis bound
      rcases needs.highest with rfl | sampled
      · simpa using highHeld
      · exact highSamples _ (sampled region.high bound)

end Scheme

namespace Evaluator

/-- With a weight or a divisor that does not become a double, an evaluation of a gradient
fails where all samples can be read. -/
theorem result_evaluate_of_not_convertible {evaluator : Evaluator} {stencil : Stencil}
    (scheme : evaluator.scheme = .gradient stencil) (axes : 0 < evaluator.ndim)
    (tooLarge : ¬stencil.Convertible) {field : Field}
    (readable : ∀ place ∈ evaluator.scheme.samplesAt evaluator.ndim evaluator.position,
      field.Readable evaluator.padded place) :
    (evaluator.evaluate field).result = .error .tooLarge := by
  have derives : evaluator.scheme ≠ .blank := by simp [scheme]
  cases ended : (evaluator.evaluate field).result with
  | ok done =>
      rw [evaluate_eq derives] at ended
      have member : ⟨.along stencil 0, [[0, 0]]⟩ ∈ evaluator.scheme.entries evaluator.ndim := by
        rw [scheme]
        exact List.mem_map.2 ⟨0, List.mem_range.2 axes, rfl⟩
      obtain ⟨value, estimated⟩ := Entry.exists_of_fillAllAt_eq_ok ended _ member
      exact absurd (Derivative.convertible_of_estimateAt_along estimated) tooLarge
  | error fault =>
      rcases (follows_evaluate derives field).fails fault ended with ⟨rfl, _⟩ |
        ⟨before, place, after, split, _, _, failure⟩
      · rfl
      · have sampled : place ∈ evaluator.scheme.samplesAt evaluator.ndim evaluator.position := by
          rw [split]
          simp
        exact absurd (readable place sampled) (Field.not_readable_of_read failure)

theorem Builds.exists_needs {source : Source} {region? : Option Region}
    {evaluator : Evaluator} (built : Builds source region? evaluator) :
    ∃ low high, evaluator.scheme.reach = .ok (low, high) ∧ evaluator.scheme.Needs low high ∧
      evaluator.padded = evaluator.region.pad low high := by
  cases built with
  | @gradient stencil _ success =>
      obtain ⟨_, success⟩ := gradient_eq_ok_iff.1 success
      obtain ⟨region, low, high, _, reach, rfl⟩ := ofScheme_eq_ok_iff.1 success
      refine ⟨low, high, reach, ?_, rfl⟩
      rw [Scheme.reach, Stencil.reach] at reach
      split at reach
      · cases reach
      · cases reach
        exact Scheme.needs_gradient stencil
  | hessian success =>
      obtain ⟨second, first, found, success⟩ := hessian_eq_ok_iff.1 success
      obtain ⟨region, low, high, _, reach, rfl⟩ := ofScheme_eq_ok_iff.1 success
      have reaches := Scheme.reaches_hessian found
      have same := reaches.reach.symm.trans reach
      cases same
      exact ⟨_, _, reach, reaches.needs, rfl⟩

/-- For a tabulated formula, the padding of its reach is the one that its name asks for. -/
theorem paddedFor_of_lookup {kind order derivative : Arg} {stencil : Stencil}
    (found : Stencil.lookup kind order derivative = .ok stencil) (region : Region) :
    region.paddedFor kind order derivative =
      .ok (region.pad stencil.lowReach stencil.highReach) := by
  have reach := Stencil.reach_of_mem_all (Stencil.mem_all_of_lookup found)
  rw [Region.paddedFor, Stencil.padding, found, Outcome.ok_bind, reach]
  rfl

/-- The names of the tabulated formulas that a scheme is made of, each of them a kind, an
order and a derivative. -/
inductive Named : Arg → Arg → Arg → Scheme → Prop where
  | gradient {kind order derivative : Arg} {stencil : Stencil} :
      Stencil.lookup kind order derivative = .ok stencil →
      Named kind order derivative (.gradient stencil)
  | second {order : Arg} {second first : Stencil} :
      Scheme.hessianFormulas order = .ok (second, first) →
      Named (.kind .central) order (.int 2) (.hessian second first)
  | first {order : Arg} {second first : Stencil} :
      Scheme.hessianFormulas order = .ok (second, first) →
      Named (.kind .central) order (.int 1) (.hessian second first)

theorem Named.convertible {kind order derivative : Arg} {scheme : Scheme}
    (named : Named kind order derivative scheme) : scheme.Convertible := by
  cases named with
  | gradient found => exact Stencil.convertible_of_mem_all (Stencil.mem_all_of_lookup found)
  | second found => exact Scheme.convertible_hessian found
  | first found => exact Scheme.convertible_hessian found

/-- The padding of a scheme is the one that each of its formulas asks for. -/
theorem Named.paddedFor {kind order derivative : Arg} {scheme : Scheme}
    (named : Named kind order derivative scheme) {low high : Nat}
    (reach : scheme.reach = .ok (low, high)) (region : Region) :
    region.paddedFor kind order derivative = .ok (region.pad low high) := by
  cases named with
  | gradient found =>
      have own := Stencil.reach_of_mem_all (Stencil.mem_all_of_lookup found)
      cases own.symm.trans reach
      exact paddedFor_of_lookup found region
  | second found =>
      cases (Scheme.reaches_hessian found).reach.symm.trans reach
      exact paddedFor_of_lookup (Scheme.hessianFormulas_eq_ok found).1 region
  | first found =>
      cases (Scheme.reaches_hessian found).reach.symm.trans reach
      obtain ⟨sameLow, sameHigh⟩ := Scheme.sameReach_of_hessianFormulas found
      rw [← sameLow, ← sameHigh]
      exact paddedFor_of_lookup (Scheme.hessianFormulas_eq_ok found).2 region

/-- How an evaluation ends that starts at a position of the region of interest: it has read
in the padded region alone, the samples in their order and all of them unless it fails. If
it fails, the array or the range of doubles has come to an end. -/
structure EndsInside (scheme : Scheme) (padded : Region) (field : Field)
    (position : Position) (evaluation : Evaluation) : Prop where
  reads : ∀ place ∈ evaluation.reads, padded.contains place = true
  begins : evaluation.reads <+: scheme.samplesAt position.length position
  success : evaluation.result = .ok () →
    evaluation.reads = scheme.samplesAt position.length position
  failure : ∀ fault, evaluation.result = .error fault →
    (∃ place ∈ evaluation.reads, ¬field.shape.Holds place ∧
      fault = .outsideArray place field.shape) ∨
    fault = .tooLarge ∧ ¬scheme.Convertible

theorem endsInside_evaluate {evaluator : Evaluator} (derives : evaluator.scheme ≠ .blank)
    (same : evaluator.ndim = evaluator.region.ndim)
    (covers : evaluator.padded.Covers evaluator.scheme evaluator.region)
    (holds : evaluator.region.Holds evaluator.position) (field : Field) :
    EndsInside evaluator.scheme evaluator.padded field evaluator.position
      (evaluator.evaluate field) := by
  have followed := follows_evaluate derives field
  have inside : ∀ place ∈ evaluator.scheme.samplesAt evaluator.ndim evaluator.position,
      evaluator.padded.Holds place := by
    rw [same]
    exact (covers evaluator.position holds).2
  refine ⟨?_, followed.begins, fun succeeded => (followed.complete () succeeded).1, ?_⟩
  · intro place member
    exact Region.contains_iff_holds.2 (inside place (followed.begins.subset member))
  · intro fault failed
    rcases followed.fails fault failed with ⟨rfl, _⟩ |
      ⟨before, place, after, split, reads, _, failure⟩
    · right
      refine ⟨rfl, ?_⟩
      intro convertible
      obtain ⟨_, place, _, _, _, _, _, outOfBounds⟩ :=
        exists_of_result_evaluate_eq_error derives convertible failed
      cases outOfBounds
    · left
      have sampled : place ∈ evaluator.scheme.samplesAt evaluator.ndim evaluator.position := by
        rw [split]
        simp
      exact ⟨place, by simp [reads], Field.outsideArray_of_read (inside place sampled) failure⟩

namespace Session

/-- The padding of an evaluator suffices and is as tight as it can be. Whatever has happened
before, an evaluation at a position of interest ends inside. -/
theorem footprint_run {source : Source} {region? : Option Region} {evaluator : Evaluator}
    (built : Builds source region? evaluator) :
    source.regionOfInterest region? = .ok evaluator.region ∧
    evaluator.scheme.Footprint evaluator.region evaluator.padded ∧
    (∀ kind order derivative, Named kind order derivative evaluator.scheme →
      evaluator.scheme.Convertible ∧
      evaluator.region.paddedFor kind order derivative = .ok evaluator.padded) ∧
    ∀ commands : List Command,
      let session := (start source evaluator).run commands
      let field := session.source.field
      evaluator.region.Holds session.current.position →
        EndsInside evaluator.scheme evaluator.padded field session.current.position
          (session.current.evaluate field) := by
  obtain ⟨low, high, reach, needs, padded⟩ := built.exists_needs
  obtain ⟨scheme, derives, success⟩ := built.exists_scheme
  have footprint : evaluator.scheme.Footprint evaluator.region evaluator.padded := by
    rw [padded]
    exact Scheme.footprint_pad needs evaluator.region
  refine ⟨regionOfInterest_of_ofScheme success, footprint, ?_, ?_⟩
  · intro kind order derivative named
    rw [padded]
    exact ⟨named.convertible, named.paddedFor reach evaluator.region⟩
  · intro commands session field holds
    obtain ⟨formed, sameScheme, _⟩ := wellFormed_of_ofScheme success
    have alike : Alike evaluator session.current := (sound_run success commands).current
    rw [← alike.scheme, ← alike.padded]
    apply endsInside_evaluate
    · rwa [alike.scheme, sameScheme]
    · exact (alike.wellFormed formed).ndim
    · rw [alike.scheme, alike.region, alike.padded]
      exact footprint.covers
    · rwa [alike.region]

/-- A formula that samples above its point alone, over the corner of a square: the padding
reaches over the end of the array, and there the evaluation ends. -/
theorem footprint_corner :
    let stencil : Stencil := ⟨.forward, 1, 1, [⟨2, 1⟩, ⟨1, -1⟩], 1, by decide⟩
    let corner : Region := ⟨[⟨2, 2, by decide⟩, ⟨2, 2, by decide⟩], by decide⟩
    let padded : Region := ⟨[⟨2, 4, by decide⟩, ⟨2, 4, by decide⟩], by decide⟩
    ∃ built, Builds (Source.square 3) (some corner) built ∧
      (gradient (Source.square 3) stencil (some corner)) = .ok built ∧
      (Scheme.gradient stencil).Footprint corner padded ∧
      corner.Holds ((start (Source.square 3) built).run []).current.position ∧
      EndsInside (.gradient stencil) padded (Source.square 3).field [2, 2]
        (built.evaluate (Source.square 3).field) := by
  intro stencil corner padded
  have success : gradient (Source.square 3) stencil (some corner) =
      .ok (fresh (Source.square 3) (.gradient stencil) corner 0 2) := rfl
  have built := Builds.gradient success
  have holds : corner.Holds [2, 2] := Region.contains_iff_holds.1 (by decide)
  obtain ⟨_, footprint, _, inside⟩ := footprint_run built
  exact ⟨_, built, success, footprint, holds, inside [] holds⟩

/-- A weight beyond the doubles breaks an evaluation off although all samples are on the
array. -/
theorem tooLarge_inside_array :
    let terms : List Term := [⟨-1, -1⟩, ⟨1, Binary64.overflowThreshold⟩]
    let stencil : Stencil := ⟨.central, 2, 1, terms, 2, by decide⟩
    let source : Source := ⟨⟨Grid.zeros [3], by decide⟩, true⟩
    let motion : Motion := .setPosition (.ofPosition [1])
    ∃ built, gradient source stencil none = .ok built ∧
      let session := (start source built).run [.reposition motion]
      built.region.Holds session.current.position ∧
      (∀ place ∈ session.current.scheme.samplesAt 1 session.current.position,
        session.source.field.Readable built.padded place) ∧
      (session.current.evaluate session.source.field).result = .error .tooLarge := by
  intro terms stencil source motion
  have success : gradient source stencil none =
      .ok (fresh source (.gradient stencil) ⟨[⟨0, 2, by decide⟩], by decide⟩ 1 1) := rfl
  refine ⟨_, success, ?_⟩
  intro session
  have readable : ∀ place ∈ session.current.scheme.samplesAt 1 session.current.position,
      session.source.field.Readable session.current.padded place := by
    intro place member
    have sampled : place ∈ [[0], [2]] := member
    have inside : session.current.padded.contains place = true ∧
        (session.source.field.shape.index? place).isSome = true := by
      revert place
      decide
    exact ⟨Region.contains_iff_holds.1 inside.1, Shape.index?_isSome_iff.1 inside.2⟩
  have holds : session.current.region.Holds session.current.position :=
    Region.contains_iff_holds.1 (by decide)
  refine ⟨holds, readable, ?_⟩
  have scheme : session.current.scheme = .gradient stencil := rfl
  apply result_evaluate_of_not_convertible scheme (by decide) _ readable
  intro convertible
  have member : Term.mk 1 Binary64.overflowThreshold ∈ stencil.terms := .tail _ (.head _)
  have small := convertible.weights _ member
  rw [Int.natAbs_natCast] at small
  exact Nat.lt_irrefl _ small

end Session

end Evaluator

end LatticeDiff
