import LatticeDiff.Evaluator.Build
import LatticeDiff.Proofs.Stencil.Table

/-!
# New evaluators

Every way of building an evaluator ends in the same state: `Evaluator.fresh` stands at
the low corner of the padded region and has a matrix of zeros. Construction succeeds
exactly if the region of interest can be settled and the scheme samples at all.
-/

namespace LatticeDiff

namespace Source

theorem ndim_of_regionOfInterest {source : Source} {region? : Option Region}
    {region : Region} (settled : source.regionOfInterest region? = .ok region) :
    region.ndim = source.ndim := by
  have checked : ∀ candidate : Region,
      (if candidate.ndim = source.ndim then Except.ok candidate
        else .error (Fault.sourceDimensions candidate.ndim source.ndim)) = .ok region →
      region.ndim = source.ndim := by
    intro candidate accepted
    split at accepted
    · next same =>
        cases accepted
        exact same
    · cases accepted
  unfold regionOfInterest at settled
  cases region? with
  | some candidate => exact checked candidate settled
  | none =>
      simp only at settled
      split at settled
      · rw [Outcome.bind_eq_ok] at settled
        obtain ⟨candidate, _, settled⟩ := settled
        exact checked candidate settled
      · cases settled

theorem regionOfInterest_some_eq_ok_iff {source : Source} {given region : Region} :
    source.regionOfInterest (some given) = .ok region ↔
      given = region ∧ given.ndim = source.ndim := by
  unfold regionOfInterest
  simp only [pure_bind]
  split
  · next same => simp [same, pure, Except.pure]
  · next other => simp [other, throw, throwThe, MonadExceptOf.throw]

/-- A square of distinct samples that tells its bounds. -/
def square (length : Nat) : Source where
  field :=
    { grid := Grid.tabulate [length, length] fun index =>
        Float.ofNat (Shape.rank [length, length] index)
      shape_ne_nil := by simp }
  tellsBounds := true

end Source

namespace Evaluator

/-- The state of a new evaluator. -/
def fresh (source : Source) (scheme : Scheme) (region : Region) (low high : Nat) :
    Evaluator where
  scheme
  region
  padded := region.pad low high
  position := (region.pad low high).low
  matrix := Grid.zeros (scheme.matrixShape source.ndim)

/-- Construction succeeds exactly if the region can be settled and the scheme samples,
and then gives a fresh evaluator. -/
theorem ofScheme_eq_ok_iff {source : Source} {scheme : Scheme} {region? : Option Region}
    {evaluator : Evaluator} :
    ofScheme source scheme region? = .ok evaluator ↔
      ∃ region low high, source.regionOfInterest region? = .ok region ∧
        scheme.reach = .ok (low, high) ∧
        evaluator = fresh source scheme region low high := by
  rw [ofScheme, Outcome.bind_eq_ok]
  constructor
  · rintro ⟨region, settled, built⟩
    rw [Outcome.bind_eq_ok] at built
    obtain ⟨⟨low, high⟩, reach, built⟩ := built
    refine ⟨region, low, high, settled, reach, ?_⟩
    unfold withPadding at built
    rw [Outcome.bind_eq_ok] at built
    obtain ⟨cursor, opened, built⟩ := built
    cases built
    unfold Field.cursor at opened
    simp only [pure_bind] at opened
    split at opened
    · cases opened
      rfl
    · cases opened
  · rintro ⟨region, low, high, settled, reach, rfl⟩
    have same : region.ndim = source.field.ndim := Source.ndim_of_regionOfInterest settled
    refine ⟨region, settled, ?_⟩
    rw [reach]
    simp [withPadding, Field.cursor, same, pure, Except.pure, fresh]

theorem regionOfInterest_of_ofScheme {source : Source} {scheme : Scheme}
    {region? : Option Region} {built : Evaluator}
    (success : ofScheme source scheme region? = .ok built) :
    source.regionOfInterest region? = .ok built.region := by
  obtain ⟨region, low, high, settled, _, rfl⟩ := ofScheme_eq_ok_iff.1 success
  exact settled

theorem gradient_eq_ok_iff {source : Source} {stencil : Stencil} {region? : Option Region}
    {evaluator : Evaluator} :
    gradient source stencil region? = .ok evaluator ↔
      stencil.derivative = 1 ∧ ofScheme source (.gradient stencil) region? = .ok evaluator := by
  unfold gradient
  split
  · next first => simp [first]
  · next other => simp [other]

theorem hessian_eq_ok_iff {source : Source} {order : Arg} {region? : Option Region}
    {evaluator : Evaluator} :
    hessian source order region? = .ok evaluator ↔
      ∃ second first, Scheme.hessianFormulas order = .ok (second, first) ∧
        ofScheme source (.hessian second first) region? = .ok evaluator := by
  rw [hessian, Outcome.bind_eq_ok]
  simp only [Prod.exists]

/-- What an evaluator of derivatives is built by, whatever its source and its region are. -/
inductive Recipe where
  | gradient (stencil : Stencil)
  | hessian (order : Arg)

namespace Recipe

/-- Build an evaluator by a recipe. -/
def build (recipe : Recipe) (source : Source) (region? : Option Region) :
    Except Fault Evaluator :=
  match recipe with
  | .gradient stencil => Evaluator.gradient source stencil region?
  | .hessian order => Evaluator.hessian source order region?

/-- The scheme of the evaluators that a recipe builds. -/
def scheme : Recipe → Except Fault Scheme
  | .gradient stencil =>
      if stencil.derivative = 1 then .ok (.gradient stencil)
      else .error (.notFirstDerivative stencil.derivative)
  | .hessian order => do
      let (second, first) ← Scheme.hessianFormulas order
      return .hessian second first

/-- A recipe settles its scheme before it looks at a source. -/
theorem build_eq (recipe : Recipe) (source : Source) (region? : Option Region) :
    recipe.build source region? = (do ofScheme source (← recipe.scheme) region?) := by
  cases recipe with
  | gradient stencil =>
      rw [build, Evaluator.gradient, scheme]
      split
      · rfl
      · rfl
  | hessian order =>
      rw [build, Evaluator.hessian, scheme]
      cases Scheme.hessianFormulas order <;> rfl

theorem build_eq_ok_iff {recipe : Recipe} {source : Source} {region? : Option Region}
    {evaluator : Evaluator} :
    recipe.build source region? = .ok evaluator ↔
      ∃ scheme, recipe.scheme = .ok scheme ∧ ofScheme source scheme region? = .ok evaluator := by
  rw [build_eq, Outcome.bind_eq_ok]

theorem scheme_gradient_eq_ok_iff {stencil : Stencil} {scheme : Scheme} :
    (Recipe.gradient stencil).scheme = .ok scheme ↔
      stencil.derivative = 1 ∧ .gradient stencil = scheme := by
  rw [Recipe.scheme]
  split
  · next first => simp [first]
  · next other => simp [other]

theorem scheme_hessian_eq_ok_iff {order : Arg} {scheme : Scheme} :
    (Recipe.hessian order).scheme = .ok scheme ↔
      ∃ second first, Scheme.hessianFormulas order = .ok (second, first) ∧
        .hessian second first = scheme := by
  rw [Recipe.scheme, Outcome.bind_eq_ok]
  simp only [Prod.exists, pure, Except.pure, Except.ok.injEq]

theorem scheme_ne_blank {recipe : Recipe} {scheme : Scheme} (settled : recipe.scheme = .ok scheme) :
    scheme ≠ .blank := by
  cases recipe with
  | gradient stencil =>
      obtain ⟨_, rfl⟩ := scheme_gradient_eq_ok_iff.1 settled
      simp
  | hessian order =>
      obtain ⟨second, first, _, rfl⟩ := scheme_hessian_eq_ok_iff.1 settled
      simp

end Recipe

/-- The evaluators of derivatives that can be built over a source and a region. -/
inductive Builds (source : Source) (region? : Option Region) : Evaluator → Prop where
  | gradient {stencil : Stencil} {evaluator : Evaluator} :
      gradient source stencil region? = .ok evaluator → Builds source region? evaluator
  | hessian {order : Arg} {evaluator : Evaluator} :
      hessian source order region? = .ok evaluator → Builds source region? evaluator

theorem Builds.exists_recipe {source : Source} {region? : Option Region}
    {evaluator : Evaluator} (built : Builds source region? evaluator) :
    ∃ recipe : Recipe, recipe.build source region? = .ok evaluator := by
  cases built with
  | @gradient stencil _ success => exact ⟨.gradient stencil, success⟩
  | @hessian order _ success => exact ⟨.hessian order, success⟩

theorem Builds.exists_scheme {source : Source} {region? : Option Region}
    {evaluator : Evaluator} (built : Builds source region? evaluator) :
    ∃ scheme ≠ .blank, ofScheme source scheme region? = .ok evaluator := by
  obtain ⟨recipe, success⟩ := built.exists_recipe
  obtain ⟨scheme, settled, success⟩ := Recipe.build_eq_ok_iff.1 success
  exact ⟨scheme, Recipe.scheme_ne_blank settled, success⟩

/-- What holds of an evaluator as it is built. -/
structure WellFormed (evaluator : Evaluator) : Prop where
  padded : ∃ low high, evaluator.scheme.reach = .ok (low, high) ∧
    evaluator.padded = evaluator.region.pad low high
  ndim : evaluator.ndim = evaluator.region.ndim
  shape : evaluator.matrix.shape = evaluator.scheme.matrixShape evaluator.ndim

theorem ndim_fresh (source : Source) (scheme : Scheme) (region : Region) (low high : Nat) :
    (fresh source scheme region low high).ndim = region.ndim := by
  rw [ndim, fresh, Region.length_low, Region.ndim_pad]

theorem wellFormed_fresh {source : Source} {scheme : Scheme} {region : Region}
    {low high : Nat} (reach : scheme.reach = .ok (low, high))
    (same : region.ndim = source.ndim) :
    (fresh source scheme region low high).WellFormed where
  padded := ⟨low, high, reach, rfl⟩
  ndim := ndim_fresh source scheme region low high
  shape := by
    rw [ndim_fresh, same]
    rfl

theorem wellFormed_of_ofScheme {source : Source} {scheme : Scheme} {region? : Option Region}
    {built : Evaluator} (success : ofScheme source scheme region? = .ok built) :
    built.WellFormed ∧ built.scheme = scheme ∧ built.ndim = source.ndim := by
  obtain ⟨region, low, high, settled, reach, rfl⟩ := ofScheme_eq_ok_iff.1 success
  have same := Source.ndim_of_regionOfInterest settled
  exact ⟨wellFormed_fresh reach same, rfl, (ndim_fresh _ _ _ _ _).trans same⟩

end Evaluator

end LatticeDiff
