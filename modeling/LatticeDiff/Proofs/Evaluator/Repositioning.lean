import LatticeDiff.Proofs.Arg.Axis
import LatticeDiff.Proofs.Arg.Rounding
import LatticeDiff.Proofs.Evaluator.Run

/-!
# Coordinates under repositioning

Changing one coordinate of an evaluator and copying it gather the whole position into an
array, as placing it anew does. All of them leave the evaluator at the position as it is
stored: at the very same one, except that coordinates are rounded where signed and unsigned
words meet.
-/

namespace LatticeDiff

namespace Position

/-- What it is to change the coordinate along one axis and no other. -/
structure Changed (before : Position) (axis : Nat) (coordinate : Int) (after : Position) :
    Prop where
  along : after[axis]? = some coordinate
  others : ∀ other, other ≠ axis → after[other]? = before[other]?

theorem changed_iff_eq_set {before after : Position} {axis : Nat} {coordinate : Int}
    (bound : axis < before.length) :
    before.Changed axis coordinate after ↔ after = before.set axis coordinate := by
  constructor
  · intro changed
    apply List.ext_getElem?
    intro other
    by_cases here : other = axis
    · rw [here, changed.along, List.getElem?_set_self bound]
    · rw [changed.others other here, List.getElem?_set_ne (Ne.symm here)]
  · rintro rfl
    constructor
    · exact List.getElem?_set_self bound
    · intro other elsewhere
      exact List.getElem?_set_ne elsewhere.symm

end Position

namespace Evaluator

theorem place_eq {evaluator : Evaluator} {position : Position}
    (same : position.length = evaluator.ndim) :
    evaluator.place position = .ok { evaluator with position := position.stored } := by
  rw [place, ← same, Arg.coordinates_ofPosition_eq_stored]
  rfl

theorem setPosition_ofPosition {evaluator : Evaluator} {position : Position}
    (same : position.length = evaluator.ndim) :
    evaluator.setPosition (.ofPosition position) =
      .ok { evaluator with position := position.stored } := by
  have sameStored : position.stored.length = evaluator.ndim := by
    rwa [Position.length_stored]
  have accepted := Arg.coordinates_ofPosition_eq_stored position
  rw [same] at accepted
  rw [setPosition, accepted, Outcome.ok_bind, place_eq sameStored, Position.stored_stored]

/-- Changing a coordinate succeeds with every accepted axis and coordinate, and leaves the
evaluator at the changed position as it is stored. -/
theorem setAxisPosition_eq_ok_iff {evaluator moved : Evaluator} {coordinate axis : Arg} :
    evaluator.setAxisPosition coordinate axis = .ok moved ↔
      ∃ along value, axis.axis evaluator.ndim = .ok along ∧
        coordinate.integral "coordinate" = .ok value ∧
        moved = { evaluator with
          position := Position.stored (evaluator.position.set along value) } := by
  have placed : ∀ along value,
      evaluator.place (evaluator.position.set along value) =
        .ok { evaluator with
          position := Position.stored (evaluator.position.set along value) } := by
    intro along value
    exact place_eq List.length_set
  simp only [setAxisPosition, Outcome.bind_eq_ok, placed, Except.ok.injEq]
  constructor
  · rintro ⟨along, accepted, value, integral, rfl⟩
    exact ⟨along, value, accepted, integral, rfl⟩
  · rintro ⟨along, value, accepted, integral, rfl⟩
    exact ⟨along, accepted, value, integral, rfl⟩

/-- An evaluator that has been built can be built over its region again. -/
theorem exists_copy_eq {source : Source} {region? : Option Region} {original : Evaluator}
    (built : Builds source region? original) {evaluator : Evaluator}
    (alike : Alike original evaluator) {current : Source} (same : current.ndim = original.ndim) :
    ∃ low high, evaluator.copy current =
      (fresh current evaluator.scheme evaluator.region low high).setPosition
        (.ofPosition evaluator.position) := by
  obtain ⟨scheme, _, success⟩ := built.exists_scheme
  obtain ⟨formed, _, _⟩ := wellFormed_of_ofScheme success
  obtain ⟨low, high, reach, _⟩ := formed.padded
  have dimensions : evaluator.region.ndim = current.ndim := by
    rw [alike.region, same, formed.ndim]
  rw [← alike.scheme] at reach
  have rebuilt : ofScheme current evaluator.scheme (some evaluator.region) =
      .ok (fresh current evaluator.scheme evaluator.region low high) := by
    rw [ofScheme_eq_ok_iff]
    have settled := Source.regionOfInterest_some_eq_ok_iff.2 ⟨rfl, dimensions⟩
    exact ⟨_, low, high, settled, reach, rfl⟩
  have again : evaluator.rebuild current =
      .ok (fresh current evaluator.scheme evaluator.region low high) := by
    cases built with
    | @gradient stencil _ constructed =>
        obtain ⟨first, constructed⟩ := gradient_eq_ok_iff.1 constructed
        have known : evaluator.scheme = .gradient stencil := by
          rw [alike.scheme, (wellFormed_of_ofScheme constructed).2.1]
        rw [rebuild, known]
        rw [known] at rebuilt
        exact gradient_eq_ok_iff.2 ⟨first, rebuilt⟩
    | hessian constructed =>
        obtain ⟨second, first, _, constructed⟩ := hessian_eq_ok_iff.1 constructed
        have known : evaluator.scheme = .hessian second first := by
          rw [alike.scheme, (wellFormed_of_ofScheme constructed).2.1]
        rw [rebuild, known]
        rwa [known] at rebuilt
  refine ⟨low, high, ?_⟩
  rw [copy, again, Outcome.ok_bind]

namespace Session

/-- Whatever has happened before, copying succeeds and leaves the copy at the position of its
original as it is stored, and changing a coordinate leaves the evaluator at the changed
position as it is stored. So coordinates survive exactly if the position can be stored. -/
theorem repositioned_run {source : Source} {region? : Option Region} {evaluator : Evaluator}
    (built : Builds source region? evaluator) (commands : List Command) :
    let session := (start source evaluator).run commands
    let current := session.current
    (∃ duplicate, current.copy session.source = .ok duplicate ∧
      duplicate.position = current.position.stored ∧
      (duplicate.position = current.position ↔ current.position.Storable)) ∧
    ∀ coordinate axis moved, current.setAxisPosition coordinate axis = .ok moved →
      ∃ along value, axis.axis current.ndim = .ok along ∧
        coordinate.integral "coordinate" = .ok value ∧
        moved = { current with
          position := Position.stored (current.position.set along value) } ∧
        (current.position.Changed along value moved.position ↔
          Position.Storable (current.position.set along value)) := by
  intro session current
  constructor
  · obtain ⟨scheme, _, success⟩ := built.exists_scheme
    have sound := sound_run success commands
    obtain ⟨low, high, copied⟩ := exists_copy_eq built sound.current sound.ndim
    have same : current.position.length = (fresh session.source current.scheme
        current.region low high).ndim := by
      obtain ⟨formed, _, _⟩ := wellFormed_of_ofScheme success
      rw [ndim_fresh]
      exact (sound.current.wellFormed formed).ndim
    rw [setPosition_ofPosition same] at copied
    exact ⟨_, copied, rfl, Position.stored_eq_self_iff⟩
  · intro coordinate axis moved success
    obtain ⟨along, value, accepted, integral, rfl⟩ := setAxisPosition_eq_ok_iff.1 success
    refine ⟨along, value, accepted, integral, rfl, ?_⟩
    rw [Position.changed_iff_eq_set (Arg.axis_lt accepted)]
    exact Position.stored_eq_self_iff

/-- An evaluator far below its square: a copy stands beside it, and changing one coordinate
leaves the other one alone. -/
theorem repositioned_square :
    let stencil : Stencil := ⟨.central, 2, 1, [⟨-1, -1⟩, ⟨1, 1⟩], 2, by decide⟩
    let motion : Motion := .setPosition (.ofPosition [-2 ^ 70 - 1, 2])
    ∃ built, gradient (Source.square 3) stencil none = .ok built ∧
      let session := (start (Source.square 3) built).run [.reposition motion]
      (∃ duplicate, session.current.copy session.source = .ok duplicate ∧
        duplicate.position = [-2 ^ 70 - 1, 2]) ∧
      ∃ moved, session.current.setAxisPosition (.int 5) (.int 1) = .ok moved ∧
        Position.Changed [-2 ^ 70 - 1, 2] 1 5 moved.position := by
  intro stencil motion
  let region : Region := ⟨[⟨0, 2, by decide⟩, ⟨0, 2, by decide⟩], by decide⟩
  let built := fresh (Source.square 3) (.gradient stencil) region 1 1
  have success : gradient (Source.square 3) stencil none = .ok built := rfl
  refine ⟨built, success, ?_⟩
  intro session
  obtain ⟨⟨duplicate, copied, _, kept⟩, changes⟩ :=
    repositioned_run (.gradient success) [.reposition motion]
  have changed : session.current.setAxisPosition (.int 5) (.int 1) =
      .ok { built with position := Position.stored [-2 ^ 70 - 1, 5] } :=
    setAxisPosition_eq_ok_iff.2 ⟨1, 5, rfl, rfl, rfl⟩
  obtain ⟨along, value, accepted, integral, _, survives⟩ := changes _ _ _ changed
  cases accepted
  cases integral
  exact ⟨⟨duplicate, copied, kept.2 (by decide +kernel)⟩, _, changed,
    survives.2 (by decide +kernel)⟩

/-- Where a coordinate beyond the signed words meets one within them, a copy does not stand
where its original does, and changing one coordinate changes the other one. -/
theorem rounded_beside_signed :
    let stencil : Stencil := ⟨.central, 2, 1, [⟨-1, -1⟩, ⟨1, 1⟩], 2, by decide⟩
    let motion : Motion := .move (.int (2 ^ 63 + 2)) (.int 0)
    ∃ built, gradient (Source.square 3) stencil none = .ok built ∧
      let session := (start (Source.square 3) built).run [.reposition motion]
      session.current.position = [2 ^ 63 + 1, -1] ∧
      (∃ duplicate, session.current.copy session.source = .ok duplicate ∧
        duplicate.position = [2 ^ 63, -1]) ∧
      ∃ moved, session.current.setAxisPosition (.int 0) (.int 1) = .ok moved ∧
        moved.position = [2 ^ 63, 0] := by
  intro stencil motion
  let region : Region := ⟨[⟨0, 2, by decide⟩, ⟨0, 2, by decide⟩], by decide⟩
  let built := fresh (Source.square 3) (.gradient stencil) region 1 1
  have success : gradient (Source.square 3) stencil none = .ok built := rfl
  refine ⟨built, success, ?_⟩
  intro session
  let moved : Evaluator := { built with position := [2 ^ 63 + 1, -1] }
  have current : session.current = moved := rfl
  have copied : ∀ position, ({ built with position } : Evaluator).copy (Source.square 3) =
      built.setPosition (.ofPosition position) := fun _ => rfl
  have placed : moved.copy (Source.square 3) =
      .ok { built with position := Position.stored [2 ^ 63 + 1, -1] } :=
    (copied _).trans (setPosition_ofPosition rfl)
  have changed : moved.setAxisPosition (.int 0) (.int 1) =
      .ok { moved with position := Position.stored [2 ^ 63 + 1, 0] } :=
    setAxisPosition_eq_ok_iff.2 ⟨1, 0, rfl, rfl, rfl⟩
  rw [current]
  refine ⟨rfl, ⟨_, placed, ?_⟩, _, changed, ?_⟩
  · decide +kernel
  · decide +kernel

end Session

end Evaluator

end LatticeDiff
