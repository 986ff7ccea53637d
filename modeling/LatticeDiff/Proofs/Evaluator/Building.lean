import LatticeDiff.Proofs.Evaluator.Reach
import LatticeDiff.Proofs.Evaluator.Symmetry
import LatticeDiff.Proofs.Region.Expansion
import LatticeDiff.Proofs.Stencil.Lookup
import LatticeDiff.Survey

/-!
# Why an evaluator cannot be built

An evaluator is asked for by a kind, an order and a region. First its formula is looked up,
then the region is settled; each of the two may fail, and nothing after them does. Margins of
a formula are never negative, so a padded region is never empty, and it has the dimensions of
the region and of the source. A survey hands out what is built for its own region.
-/

namespace LatticeDiff

namespace Region

theorem expandArgs_natCast (machine : Machine) (region : Region) (low high : Nat) :
    region.expandArgs machine (.int low) (.int high) = .ok (region.pad low high) := by
  have repeated : ∀ {step : Int → Int → Int} {corner : Position} {margin : Nat},
      corner.length = region.ndim →
      corner.map (step · margin) = corner.zipWith step (List.replicate region.ndim margin) := by
    intro step corner margin same
    rw [← same, ← List.map_const', List.zipWith_map_right, List.zipWith_self]
  rw [expandArgs_eq_expand machine (.uniform low) (.uniform high), expand_eq_ok_iff, low_pad, high_pad]
  exact ⟨repeated region.length_low, repeated region.length_high⟩

end Region

namespace Stencil

/-- For every order of a second derivative there is a first derivative as well. -/
theorem exists_first_of_mem_central : ∀ second ∈ table .central, second.derivative = 2 →
    (find? .central second.order (.int 1)).isSome := by
  decide

theorem exists_lookup_first_of_second {order : Arg} {second : Stencil}
    (found : lookup (.kind .central) order (.int 2) = .ok second) :
    ∃ first, lookup (.kind .central) order (.int 1) = .ok first := by
  obtain ⟨known, named, member, rfl, derivative⟩ := lookup_eq_ok found
  cases named
  have two : second.derivative = 2 := (Option.some.inj derivative).symm
  obtain ⟨first, foundFirst⟩ :=
    Option.isSome_iff_exists.1 (exists_first_of_mem_central second member two)
  exact ⟨first, lookup_eq_ok_iff.2 ⟨.central, _, rfl, rfl, foundFirst⟩⟩

end Stencil

namespace Evaluator

/-- How a new evaluator of a source starts, for a scheme and a region of interest. -/
structure Starts (source : Source) (scheme : Scheme) (region : Region) (new : Evaluator) :
    Prop where
  hasScheme : new.scheme = scheme
  ofRegion : new.region = region
  /-- The margins are those that the scheme reaches. -/
  padded : ∃ low high : Nat, scheme.reach = .ok (low, high) ∧
    ∀ machine, region.expandArgs machine (.int low) (.int high) = .ok new.padded
  ndim : new.padded.ndim = source.ndim
  position : new.position = new.padded.low
  shape : new.matrix.shape = scheme.matrixShape source.ndim
  zero : ∀ index, new.matrix.shape.contains index = true → new.matrix.cell? index = some 0.0

theorem starts_fresh {source : Source} {scheme : Scheme} {region : Region} {low high : Nat}
    (reach : scheme.reach = .ok (low, high)) (same : region.ndim = source.ndim) :
    (fresh source scheme region low high).Starts source scheme region where
  hasScheme := rfl
  ofRegion := rfl
  padded := ⟨low, high, reach, fun machine => region.expandArgs_natCast machine low high⟩
  ndim := (region.ndim_pad low high).trans same
  position := rfl
  shape := rfl
  zero := fun _ inside => Grid.cell?_zeros inside

/-- Something is built from a formula and a region. If the formula cannot be had, that is the
failure, whatever the region is; if only the region cannot be had, that is; and otherwise it
is built. -/
structure BuildsInOrder {α : Type} (formula : Except Fault Stencil)
    (interest : Except Fault Region) (outcome : Except Fault α)
    (Built : Stencil → Region → α → Prop) : Prop where
  noFormula : ∀ fault, formula = .error fault → outcome = .error fault
  noRegion : ∀ stencil fault, formula = .ok stencil → interest = .error fault →
    outcome = .error fault
  success : ∀ stencil region, formula = .ok stencil → interest = .ok region →
    ∃ built, outcome = .ok built ∧ Built stencil region built

section Construction

variable {source : Source} {scheme : Scheme} {region? : Option Region} {kind order : Arg}

theorem ofScheme_of_error {fault : Fault}
    (failed : source.regionOfInterest region? = .error fault) :
    ofScheme source scheme region? = .error fault := by
  rw [ofScheme, failed]
  rfl

/-- Once the region is settled, nothing fails for a scheme that samples. -/
theorem exists_ofScheme {region : Region} {low high : Nat}
    (settled : source.regionOfInterest region? = .ok region)
    (reach : scheme.reach = .ok (low, high)) :
    ∃ new, ofScheme source scheme region? = .ok new ∧ new.Starts source scheme region :=
  ⟨_, ofScheme_eq_ok_iff.2 ⟨region, low, high, settled, reach, rfl⟩,
    starts_fresh reach (Source.ndim_of_regionOfInterest settled)⟩

theorem gradient_eq_ofScheme {stencil : Stencil}
    (found : Stencil.lookup kind order (.int 1) = .ok stencil) :
    gradient source stencil region? = ofScheme source (.gradient stencil) region? := by
  obtain ⟨_, _, _, _, derivative⟩ := Stencil.lookup_eq_ok found
  exact if_pos (Option.some.inj derivative).symm

theorem buildsInOrder_buildGradient (source : Source) (region? : Option Region)
    (kind order : Arg) :
    BuildsInOrder (Stencil.lookup kind order (.int 1)) (source.regionOfInterest region?)
      (buildGradient source region? kind order) fun stencil region built =>
        built.1.Starts source (.gradient stencil) region ∧
          built.2 = .gradientBuilt stencil.kind stencil.order built.1.region built.1.padded where
  noFormula := by
    intro fault failed
    rw [buildGradient, failed]
    rfl
  noRegion := by
    intro stencil fault found failed
    rw [buildGradient, found, Outcome.ok_bind, gradient_eq_ofScheme found,
      ofScheme_of_error failed]
    rfl
  success := by
    intro stencil region found settled
    have reach := (Scheme.reaches_gradient (Stencil.mem_all_of_lookup found)).reach
    obtain ⟨new, built, starts⟩ := exists_ofScheme settled reach
    refine ⟨(new, .gradientBuilt stencil.kind stencil.order new.region new.padded), ?_,
      starts, rfl⟩
    rw [buildGradient, found, Outcome.ok_bind, gradient_eq_ofScheme found, built]
    rfl

theorem buildsInOrder_hessian (source : Source) (region? : Option Region) (order : Arg) :
    BuildsInOrder (Stencil.lookup (.kind .central) order (.int 2))
      (source.regionOfInterest region?) (hessian source order region?) fun second region new =>
        ∃ first, Stencil.lookup (.kind .central) order (.int 1) = .ok first ∧
          new.Starts source (.hessian second first) region := by
  have formulas : ∀ {second first}, Stencil.lookup (.kind .central) order (.int 2) = .ok second →
      Stencil.lookup (.kind .central) order (.int 1) = .ok first →
      Scheme.hessianFormulas order = .ok (second, first) := by
    intro second first found foundFirst
    rw [Scheme.hessianFormulas, found, Outcome.ok_bind, foundFirst]
    rfl
  -- The second lookup never fails after the first, so the first one alone decides.
  constructor
  case noFormula =>
    intro fault failed
    rw [hessian, Scheme.hessianFormulas, failed]
    rfl
  case noRegion =>
    intro second fault found failed
    obtain ⟨first, foundFirst⟩ := Stencil.exists_lookup_first_of_second found
    rw [hessian, formulas found foundFirst]
    exact ofScheme_of_error failed
  case success =>
    intro second region found settled
    obtain ⟨first, foundFirst⟩ := Stencil.exists_lookup_first_of_second found
    have reach := (Scheme.reaches_hessian (formulas found foundFirst)).reach
    obtain ⟨new, built, starts⟩ := exists_ofScheme settled reach
    refine ⟨new, ?_, first, foundFirst, starts⟩
    rw [hessian, formulas found foundFirst]
    exact built

theorem map_fst_buildHessian (source : Source) (region? : Option Region) (order : Arg) :
    (buildHessian source region? order).map Prod.fst = hessian source order region? := by
  rw [buildHessian, hessian]
  cases Scheme.hessianFormulas order with
  | error fault => rfl
  | ok formulas =>
      obtain ⟨second, first⟩ := formulas
      rw [Outcome.ok_bind, Outcome.ok_bind]
      change (ofScheme source (.hessian second first) region? >>= _).map Prod.fst =
        ofScheme source (.hessian second first) region?
      cases ofScheme source (.hessian second first) region? with
      | error fault => rfl
      | ok new => rfl

end Construction

end Evaluator

namespace Survey

theorem ofSource_eq_ok_iff {source : Source} {region? : Option Region} {survey : Survey} :
    ofSource source region? = .ok survey ↔
      survey.source = source ∧ source.regionOfInterest region? = .ok survey.region := by
  rw [ofSource, Outcome.bind_eq_ok]
  constructor
  · rintro ⟨region, settled, made⟩
    cases made
    exact ⟨rfl, settled⟩
  · rintro ⟨rfl, settled⟩
    exact ⟨survey.region, settled, rfl⟩

/-- A survey recognises the kind on its own, before anything is built. That changes nothing. -/
theorem gradient_eq_buildGradient (survey : Survey) (kind order : Arg) :
    survey.gradient kind order =
      Evaluator.buildGradient survey.source (some survey.region) kind order := by
  rw [gradient, Evaluator.buildGradient]
  cases named : kind.asKind with
  | error fault =>
      rw [Stencil.lookup, named]
      rfl
  | ok known =>
      rw [Outcome.ok_bind, Evaluator.buildGradient, Stencil.lookup_of_named named]

/-- A survey builds what is built for its source and the region that was settled for it. -/
structure BuildsFor (survey : Survey) (source : Source) (region? : Option Region)
    (kind order : Arg) : Prop where
  settled : source.regionOfInterest region? = .ok survey.region
  gradient : survey.gradient kind order =
    Evaluator.buildGradient source (some survey.region) kind order
  hessian : survey.hessian order = Evaluator.buildHessian source (some survey.region) order

theorem buildsFor_of_ofSource {source : Source} {region? : Option Region} {survey : Survey}
    (made : ofSource source region? = .ok survey) (kind order : Arg) :
    survey.BuildsFor source region? kind order := by
  obtain ⟨rfl, settled⟩ := ofSource_eq_ok_iff.1 made
  exact ⟨settled, gradient_eq_buildGradient survey kind order, rfl⟩

end Survey

namespace Evaluator

/-- For every source, region, kind and order, there are only two reasons for which an
evaluator cannot be built: its formula cannot be had, which is found out first, or its region
of interest. A Hessian needs the formula of the first derivative as well, but that can be had
whenever the one of the second can. What is built stands at the low corner of its padded
region, with a matrix of zeros. A survey hands out what is built for its source and region
without it. -/
theorem built_in_order (source : Source) (region? : Option Region) (kind order : Arg) :
    (BuildsInOrder (Stencil.lookup kind order (.int 1)) (source.regionOfInterest region?)
      (buildGradient source region? kind order) fun stencil region built =>
        built.1.Starts source (.gradient stencil) region ∧
          built.2 = .gradientBuilt stencil.kind stencil.order built.1.region built.1.padded) ∧
    (BuildsInOrder (Stencil.lookup (.kind .central) order (.int 2))
      (source.regionOfInterest region?) (hessian source order region?) fun second region new =>
        ∃ first, Stencil.lookup (.kind .central) order (.int 1) = .ok first ∧
          new.Starts source (.hessian second first) region) ∧
    (buildHessian source region? order).map Prod.fst = hessian source order region? ∧
    ∀ survey, Survey.ofSource source region? = .ok survey →
      survey.BuildsFor source region? kind order :=
  ⟨buildsInOrder_buildGradient source region? kind order,
    buildsInOrder_hessian source region? order,
    map_fst_buildHessian source region? order,
    fun _ made => Survey.buildsFor_of_ofSource made kind order⟩

/-- Backward differences on a square, and on one that does not tell its bounds: without a
region the second cannot be had, but an order that is not tabulated is noticed before. -/
theorem built_in_order_square :
    let square := Source.square 3
    let hidden : Source := { square with tellsBounds := false }
    let bounds : Region := ⟨[⟨0, 2, by decide⟩, ⟨0, 2, by decide⟩], by decide⟩
    let stencil : Stencil := ⟨.backward, 1, 1, [⟨0, 1⟩, ⟨-1, -1⟩], 1, by decide⟩
    (∃ built, buildGradient square none (.text "bd") (.int 1) = .ok built ∧
      built.1.Starts square (.gradient stencil) bounds) ∧
    buildGradient hidden none (.text "bd") (.int 1) = .error .regionMissing ∧
    buildGradient hidden none (.text "bd") (.bool true) =
      .error (Stencil.unsupported .backward (.bool true) (.int 1)) ∧
    hessian hidden (.int 2) none = .error .regionMissing ∧
    hessian hidden (.int 6) none = .error (Stencil.unsupported .central (.int 6) (.int 2)) := by
  intro square hidden bounds stencil
  obtain ⟨gradients, -, -, -⟩ := built_in_order square none (.text "bd") (.int 1)
  obtain ⟨built, success, starts, -⟩ := gradients.success stencil bounds rfl rfl
  obtain ⟨gradientsHidden, -, -, -⟩ := built_in_order hidden none (.text "bd") (.int 1)
  obtain ⟨gradientsNever, -, -, -⟩ := built_in_order hidden none (.text "bd") (.bool true)
  obtain ⟨-, hessians, -, -⟩ := built_in_order hidden none (.text "bd") (.int 2)
  obtain ⟨-, hessiansNever, -, -⟩ := built_in_order hidden none (.text "bd") (.int 6)
  exact ⟨⟨built, success, starts⟩, gradientsHidden.noRegion stencil _ rfl rfl,
    gradientsNever.noFormula _ rfl, hessians.noRegion _ _ rfl rfl,
    hessiansNever.noFormula _ rfl⟩

end Evaluator

end LatticeDiff
