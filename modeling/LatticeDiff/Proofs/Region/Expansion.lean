import LatticeDiff.Proofs.Arg.Coordinates
import LatticeDiff.Proofs.Region.Membership
import LatticeDiff.Region.Args

/-!
# Expanding regions

A region is known by its corners, and there is one for any two corners that are in order
along every axis. So expanding a region by margins is arithmetic on its corners: margins
add up, opposite margins undo each other, and a region is shrunk to nothing exactly if the
margins and the length of some axis leave no coordinate of it. By margins that are not
negative, a region grows by the places around its positions.
-/

namespace LatticeDiff

namespace Span

theorem ofEnds?_eq_some_iff {low high : Int} {span : Span} :
    ofEnds? low high = some span ↔ span.low = low ∧ span.high = high := by
  unfold ofEnds?
  split
  · rw [Option.some.injEq]
    constructor
    · rintro rfl
      exact ⟨rfl, rfl⟩
    · rintro ⟨rfl, rfl⟩
      rfl
  · next disordered =>
      constructor
      · intro impossible
        cases impossible
      · rintro ⟨rfl, rfl⟩
        exact absurd span.low_le_high disordered

/-- Moved ends are in order if the margins leave a coordinate between them. -/
theorem sub_le_add_iff {span : Span} {down up : Int} :
    span.low - down ≤ span.high + up ↔ 1 ≤ down + up + (span.length : Int) := by
  have ordered := span.low_le_high
  rw [length]
  omega

end Span

namespace Position

/-- Along every axis, a place is at most the margins of that axis away from a position. -/
inductive Around : List Int → List Int → Position → Position → Prop where
  | nil : Around [] [] [] []
  | cons {below above coordinate other : Int} {low high : List Int}
      {position place : Position} :
      coordinate - below ≤ other → other ≤ coordinate + above →
      Around low high position place →
      Around (below :: low) (above :: high) (coordinate :: position) (other :: place)

theorem zipWith_zipWith {step sum : Int → Int → Int}
    (joined : ∀ coordinate first second,
      step (step coordinate first) second = step coordinate (sum first second))
    (position first second : List Int) :
    (position.zipWith step first).zipWith step second =
      position.zipWith step (first.zipWith sum second) := by
  induction position generalizing first second with
  | nil => simp
  | cons coordinate position ih =>
      cases first with
      | nil => simp
      | cons => cases second <;> simp [ih, joined]

theorem zipWith_zipWith_neg {step : Int → Int → Int}
    (undone : ∀ coordinate distance, step (step coordinate distance) (-distance) = coordinate)
    {position distances : List Int} (same : position.length = distances.length) :
    (position.zipWith step distances).zipWith step (distances.map (- ·)) = position := by
  induction position generalizing distances with
  | nil => simp
  | cons coordinate position ih =>
      cases distances with
      | nil => cases same
      | cons distance distances => simp [ih (Nat.succ.inj same), undone]

end Position

namespace Region

/-- Between corners with equally many coordinates there are spans that have them as their
ends, or none. -/
theorem spans?_eq_some_iff {low high : Position} {spans : List Span}
    (same : low.length = high.length) :
    spans? low high = some spans ↔ spans.map Span.low = low ∧ spans.map Span.high = high := by
  unfold spans?
  induction low generalizing high spans with
  | nil =>
      obtain rfl := List.length_eq_zero_iff.1 same.symm
      rw [List.zipWith_nil_left, List.mapM_nil]
      cases spans with
      | nil => simp
      | cons span spans => simp
  | cons bottom low ih =>
      cases high with
      | nil => cases same
      | cons top high =>
          have rest : ∀ others, (low.zipWith Span.ofEnds? high).mapM id = some others ↔
              others.map Span.low = low ∧ others.map Span.high = high :=
            fun _ => ih (Nat.succ.inj same)
          rw [List.zipWith_cons_cons, List.mapM_cons]
          simp only [id, Option.bind_eq_bind, Option.bind_eq_some_iff, Span.ofEnds?_eq_some_iff,
            rest, Option.pure_def, Option.some.injEq]
          constructor
          · rintro ⟨span, ⟨rfl, rfl⟩, others, ⟨rfl, rfl⟩, rfl⟩
            exact ⟨rfl, rfl⟩
          · rintro ⟨lows, highs⟩
            cases spans with
            | nil => cases lows
            | cons span others =>
                cases lows
                cases highs
                exact ⟨span, ⟨rfl, rfl⟩, others, ⟨rfl, rfl⟩, rfl⟩

theorem ofCorners_low_high (region : Region) : ofCorners region.low region.high = .ok region := by
  obtain ⟨spans, nonempty⟩ := region
  cases spans with
  | nil => exact absurd rfl nonempty
  | cons span spans =>
      have same : (span.low :: spans.map Span.low).length =
          (span.high :: spans.map Span.high).length := by simp
      have found : spans? (span.low :: spans.map Span.low) (span.high :: spans.map Span.high) =
          some (span :: spans) := (spans?_eq_some_iff same).2 ⟨rfl, rfl⟩
      simp only [ofCorners, low, high, List.map_cons, found, if_neg (not_not.2 same),
        List.isEmpty_cons, Bool.false_eq_true, if_false]

/-- The region between two corners has them as its corners, and there is no other one. -/
theorem ofCorners_eq_ok_iff {low high : Position} {region : Region} :
    ofCorners low high = .ok region ↔ region.low = low ∧ region.high = high := by
  constructor
  · intro success
    unfold ofCorners at success
    split at success
    · cases success
    · next same =>
        split at success
        · cases success
        · split at success
          · cases success
          · cases success
          · next span spans found =>
              cases success
              exact (spans?_eq_some_iff (not_not.1 same)).1 found
  · rintro ⟨rfl, rfl⟩
    exact ofCorners_low_high region

/-- Of corners with equally many coordinates, at least one, it can only be wrong that they
are out of order. -/
theorem eq_regionEmpty_of_ofCorners {low high : Position} (same : low.length = high.length)
    (nonempty : low ≠ []) {fault : Fault} (failed : ofCorners low high = .error fault) :
    fault = .regionEmpty low high := by
  unfold ofCorners at failed
  rw [if_neg (not_not.2 same), if_neg (by simpa using nonempty)] at failed
  split at failed
  · exact (Except.error.inj failed).symm
  · exact (Except.error.inj failed).symm
  · cases failed

theorem exists_spans_iff {low high : Position} :
    (∃ spans : List Span, spans.map Span.low = low ∧ spans.map Span.high = high) ↔
      List.Forall₂ (· ≤ ·) low high := by
  constructor
  · rintro ⟨spans, rfl, rfl⟩
    rw [List.forall₂_map_left_iff, List.forall₂_map_right_iff, List.forall₂_same]
    intro span _
    exact span.low_le_high
  · intro ordered
    induction ordered with
    | nil => exact ⟨[], rfl, rfl⟩
    | @cons bottom top low high first _ ih =>
        obtain ⟨spans, rfl, rfl⟩ := ih
        exact ⟨⟨bottom, top, first⟩ :: spans, rfl, rfl⟩

/-- There is a region between two corners exactly if they are in order along every axis, and
there is an axis. -/
theorem exists_ofCorners_iff {low high : Position} :
    (∃ region, ofCorners low high = .ok region) ↔
      low ≠ [] ∧ List.Forall₂ (· ≤ ·) low high := by
  rw [← exists_spans_iff]
  constructor
  · rintro ⟨region, success⟩
    obtain ⟨rfl, rfl⟩ := ofCorners_eq_ok_iff.1 success
    exact ⟨by simp [low, region.spans_ne_nil], region.spans, rfl, rfl⟩
  · rintro ⟨nonempty, spans, rfl, rfl⟩
    have spansNonempty : spans ≠ [] := by simpa using nonempty
    exact ⟨⟨spans, spansNonempty⟩, ofCorners_low_high ⟨spans, spansNonempty⟩⟩

theorem holds_iff_corners {region : Region} {position : Position} :
    region.Holds position ↔ List.Forall₂ (· ≤ ·) region.low position ∧
      List.Forall₂ (· ≤ ·) position region.high := by
  unfold Holds low high
  induction region.spans generalizing position with
  | nil => cases position <;> simp
  | cons span spans ih =>
      cases position with
      | nil => simp
      | cons coordinate position =>
          simp only [List.map_cons, List.forall₂_cons, ih]
          tauto

section Margins

variable {region grown : Region} {below above : List Int}

theorem expand_eq_ok_iff :
    region.expand below above = .ok grown ↔
      grown.low = region.low.zipWith (· - ·) below ∧
        grown.high = region.high.zipWith (· + ·) above :=
  ofCorners_eq_ok_iff

/-- Expanding by margins is possible exactly if they leave a coordinate on every axis. -/
theorem exists_expand_iff (belowLength : below.length = region.ndim)
    (aboveLength : above.length = region.ndim) :
    (∃ grown, region.expand below above = .ok grown) ↔
      ∀ (axis : Nat) (down up : Int) (length : Nat), below[axis]? = some down →
        above[axis]? = some up → region.shape[axis]? = some length → 1 ≤ down + up + length := by
  have lows : (region.low.zipWith (· - ·) below).length = region.ndim := by
    rw [List.length_zipWith, length_low, belowLength, Nat.min_self]
  have highs : (region.high.zipWith (· + ·) above).length = region.ndim := by
    rw [List.length_zipWith, length_high, aboveLength, Nat.min_self]
  have nonempty : region.low.zipWith (· - ·) below ≠ [] := by
    apply List.ne_nil_of_length_pos
    rw [lows]
    exact region.ndim_pos
  rw [expand, exists_ofCorners_iff, and_iff_right nonempty, forall₂_iff_getElem?,
    and_iff_right (lows.trans highs.symm)]
  simp only [List.getElem?_zipWith_eq_some, low, high, shape, List.getElem?_map,
    Option.map_eq_some_iff]
  constructor
  · rintro every axis down up _ isDown isUp ⟨span, found, rfl⟩
    have here := every axis _ _ ⟨_, down, ⟨span, found, rfl⟩, isDown, rfl⟩
      ⟨_, up, ⟨span, found, rfl⟩, isUp, rfl⟩
    exact Span.sub_le_add_iff.1 here
  · rintro every axis _ _ ⟨_, down, ⟨span, found, rfl⟩, isDown, rfl⟩
      ⟨_, up, ⟨other, otherFound, rfl⟩, isUp, rfl⟩
    obtain rfl := Option.some.inj (found.symm.trans otherFound)
    exact Span.sub_le_add_iff.2 (every axis down up _ isDown isUp ⟨span, found, rfl⟩)

/-- Margins that are not enough leave an axis whose corners are out of order. -/
theorem eq_regionEmpty_of_expand (belowLength : below.length = region.ndim)
    (aboveLength : above.length = region.ndim) {fault : Fault}
    (failed : region.expand below above = .error fault) :
    fault = .regionEmpty (region.low.zipWith (· - ·) below)
      (region.high.zipWith (· + ·) above) := by
  apply eq_regionEmpty_of_ofCorners _ _ failed
  · simp [belowLength, aboveLength]
  · apply List.ne_nil_of_length_pos
    rw [List.length_zipWith, length_low, belowLength, Nat.min_self]
    exact region.ndim_pos

/-- Expanding an expanded region is expanding by the sums of the margins, also where nothing
is left. -/
theorem expand_expand (success : region.expand below above = .ok grown)
    (further higher : List Int) :
    grown.expand further higher =
      region.expand (below.zipWith (· + ·) further) (above.zipWith (· + ·) higher) := by
  obtain ⟨lows, highs⟩ := expand_eq_ok_iff.1 success
  rw [expand, expand, lows, highs, Position.zipWith_zipWith Int.sub_sub,
    Position.zipWith_zipWith Int.add_assoc]

theorem expand_neg (belowLength : below.length = region.ndim)
    (aboveLength : above.length = region.ndim) (success : region.expand below above = .ok grown) :
    grown.expand (below.map (- ·)) (above.map (- ·)) = .ok region := by
  obtain ⟨lows, highs⟩ := expand_eq_ok_iff.1 success
  rw [expand_eq_ok_iff, lows, highs]
  constructor
  · rw [Position.zipWith_zipWith_neg (by omega) (by rw [length_low, belowLength])]
  · rw [Position.zipWith_zipWith_neg (by omega) (by rw [length_high, aboveLength])]

/-- A region grows by the places around its positions, if no margin is negative. -/
theorem holds_expand_iff (belowLength : below.length = region.ndim)
    (aboveLength : above.length = region.ndim) (belowNonneg : ∀ margin ∈ below, 0 ≤ margin)
    (aboveNonneg : ∀ margin ∈ above, 0 ≤ margin)
    (success : region.expand below above = .ok grown) {place : Position} :
    grown.Holds place ↔
      ∃ position, region.Holds position ∧ Position.Around below above position place := by
  obtain ⟨lows, highs⟩ := expand_eq_ok_iff.1 success
  rw [holds_iff_corners, lows, highs]
  unfold low high Holds
  unfold ndim at belowLength aboveLength
  generalize region.spans = spans at *
  clear success lows highs
  induction spans generalizing below above place with
  | nil =>
      obtain rfl := List.length_eq_zero_iff.1 belowLength
      obtain rfl := List.length_eq_zero_iff.1 aboveLength
      constructor
      · rintro ⟨ends, _⟩
        cases ends
        exact ⟨[], .nil, .nil⟩
      · rintro ⟨_, held, around⟩
        cases held
        cases around
        exact ⟨.nil, .nil⟩
  | cons span spans ih =>
      obtain ⟨down, below, rfl⟩ := List.exists_cons_of_length_eq_add_one belowLength
      obtain ⟨up, above, rfl⟩ := List.exists_cons_of_length_eq_add_one aboveLength
      obtain ⟨downNonneg, belowNonneg⟩ := List.forall_mem_cons.1 belowNonneg
      obtain ⟨upNonneg, aboveNonneg⟩ := List.forall_mem_cons.1 aboveNonneg
      have rest : ∀ place,
          List.Forall₂ (· ≤ ·) ((spans.map Span.low).zipWith (· - ·) below) place ∧
            List.Forall₂ (· ≤ ·) place ((spans.map Span.high).zipWith (· + ·) above) ↔
          ∃ position, List.Forall₂ (fun (span : Span) (coordinate : Int) =>
              span.low ≤ coordinate ∧ coordinate ≤ span.high) spans position ∧
            Position.Around below above position place :=
        fun _ => ih belowNonneg aboveNonneg (Nat.succ.inj belowLength) (Nat.succ.inj aboveLength)
      have ordered := span.low_le_high
      rw [List.map_cons, List.map_cons, List.zipWith_cons_cons, List.zipWith_cons_cons]
      constructor
      · rintro ⟨lowEnds, highEnds⟩
        obtain ⟨other, place, lowEnd, lowRest, rfl⟩ := List.forall₂_cons_left_iff.1 lowEnds
        obtain ⟨highEnd, highRest⟩ := List.forall₂_cons.1 highEnds
        obtain ⟨position, held, around⟩ := (rest place).1 ⟨lowRest, highRest⟩
        -- The coordinate of the span that is nearest to the place is within the margins.
        have nearest : span.low ≤ max span.low (min span.high other) ∧
            max span.low (min span.high other) ≤ span.high := by omega
        refine ⟨max span.low (min span.high other) :: position, .cons nearest held,
          .cons ?_ ?_ around⟩
        · omega
        · omega
      · rintro ⟨_, held, around⟩
        obtain ⟨coordinate, position, within, heldRest, rfl⟩ := List.forall₂_cons_left_iff.1 held
        cases around with
        | cons lower upper around =>
            obtain ⟨lowRest, highRest⟩ := (rest _).2 ⟨position, heldRest, around⟩
            refine ⟨.cons ?_ lowRest, .cons ?_ highRest⟩
            · omega
            · omega

end Margins

section Arguments

variable {machine : Machine} {ndim : Nat} {argument : Arg} {values : List Int}

/-- An argument that gives the margins of `ndim` axes: an integer for all of them, or a list
with one for each. -/
inductive Margins (ndim : Nat) : Arg → List Int → Prop where
  | uniform (margin : Int) : Margins ndim (.int margin) (List.replicate ndim margin)
  | perAxis {values : List Int} (count : values.length = ndim) :
      Margins ndim (.list (values.map .int)) values

theorem margins_perAxis (count : values.length = ndim) :
    margins machine ndim (.list (values.map .int)) = .ok values := by
  have converted : Arg.truncatedItems machine (.list (values.map .int)) = .ok values :=
    Arg.truncatedItems_ofPosition machine values
  simp only [margins, converted, Outcome.ok_bind, if_pos count]
  rfl

theorem Margins.length_eq (given : Margins ndim argument values) : values.length = ndim := by
  cases given with
  | uniform margin => exact List.length_replicate
  | perAxis count => exact count

theorem Margins.accepted (given : Margins ndim argument values) :
    margins machine ndim argument = .ok values := by
  cases given with
  | uniform margin => rfl
  | perAxis count => exact margins_perAxis count

variable {region : Region} {low high : Arg} {below above : List Int}

theorem expandArgs_eq_expand (machine : Machine) (isBelow : Margins region.ndim low below)
    (isAbove : Margins region.ndim high above) :
    region.expandArgs machine low high = region.expand below above := by
  unfold expandArgs
  cases isAbove with
  | uniform margin =>
      simp only [isBelow.accepted, (Margins.uniform margin).accepted, Outcome.ok_bind]
  | perAxis count =>
      simp only [isBelow.accepted, (Margins.perAxis count).accepted, Outcome.ok_bind]

/-- An integer stands for the list that repeats it, whatever stands on the other side. -/
theorem expandArgs_uniform (machine : Machine) (region : Region) (margin : Int) (other : Arg) :
    region.expandArgs machine (.int margin) other =
        region.expandArgs machine (.list ((List.replicate region.ndim margin).map .int)) other ∧
      region.expandArgs machine other (.int margin) =
        region.expandArgs machine other (.list ((List.replicate region.ndim margin).map .int)) := by
  have repeated : margins machine region.ndim (.list ((List.replicate region.ndim margin).map .int)) =
      .ok (List.replicate region.ndim margin) := margins_perAxis List.length_replicate
  have uniform : margins machine region.ndim (.int margin) =
      .ok (List.replicate region.ndim margin) := rfl
  constructor
  · cases other <;> simp only [expandArgs, repeated, uniform]
  · simp only [expandArgs, repeated, uniform]

/-- What expanding a region by margins below and above it gives. -/
structure ExpandsBy (machine : Machine) (region : Region) (low high : Arg)
    (below above : List Int) : Prop where
  /-- It succeeds exactly if a coordinate is left on every axis. -/
  succeeds : (∃ grown, region.expandArgs machine low high = .ok grown) ↔
    ∀ (axis : Nat) (down up : Int) (length : Nat), below[axis]? = some down →
      above[axis]? = some up → region.shape[axis]? = some length → 1 ≤ down + up + length
  /-- Otherwise the region would be empty. -/
  fails {fault : Fault} : region.expandArgs machine low high = .error fault →
    fault = .regionEmpty (region.low.zipWith (· - ·) below) (region.high.zipWith (· + ·) above)
  /-- Further margins add to the first ones, whether a region is left of them or not. -/
  again {grown : Region} {lowAgain highAgain lowSum highSum : Arg}
    {belowAgain aboveAgain : List Int} : region.expandArgs machine low high = .ok grown →
      Margins region.ndim lowAgain belowAgain → Margins region.ndim highAgain aboveAgain →
      Margins region.ndim lowSum (below.zipWith (· + ·) belowAgain) →
      Margins region.ndim highSum (above.zipWith (· + ·) aboveAgain) →
      grown.expandArgs machine lowAgain highAgain = region.expandArgs machine lowSum highSum
  /-- The opposite margins give the region back. -/
  back {grown : Region} {lowBack highBack : Arg} : region.expandArgs machine low high = .ok grown →
    Margins region.ndim lowBack (below.map (- ·)) →
    Margins region.ndim highBack (above.map (- ·)) →
    grown.expandArgs machine lowBack highBack = .ok region
  /-- Without negative margins, the new positions are the places around the old ones. -/
  mem {grown : Region} {place : Position} : region.expandArgs machine low high = .ok grown →
    (∀ margin ∈ below, 0 ≤ margin) → (∀ margin ∈ above, 0 ≤ margin) →
    (grown.contains place = true ↔
      ∃ position, region.contains position = true ∧
        Position.Around below above position place)
  /-- An integer stands for the list that repeats it. -/
  uniform (margin : Int) (other : Arg) :
    region.expandArgs machine (.int margin) other =
        region.expandArgs machine (.list ((List.replicate region.ndim margin).map .int)) other ∧
      region.expandArgs machine other (.int margin) =
        region.expandArgs machine other (.list ((List.replicate region.ndim margin).map .int))

/-- Expanding regions is arithmetic on margins, which may be of any sign and be given as one
integer or as one for each axis. -/
theorem expandsBy_margins (isBelow : Margins region.ndim low below)
    (isAbove : Margins region.ndim high above) : region.ExpandsBy machine low high below above := by
  have belowLength := isBelow.length_eq
  have aboveLength := isAbove.length_eq
  have sameNdim : ∀ {grown : Region}, region.expand below above = .ok grown →
      grown.ndim = region.ndim := by
    intro grown success
    rw [← length_low grown, (expand_eq_ok_iff.1 success).1, List.length_zipWith, length_low,
      belowLength, Nat.min_self]
  have first := expandArgs_eq_expand machine isBelow isAbove
  constructor
  case succeeds =>
    rw [first]
    exact exists_expand_iff belowLength aboveLength
  case fails =>
    intro fault failed
    rw [first] at failed
    exact eq_regionEmpty_of_expand belowLength aboveLength failed
  case again =>
    intro grown _ _ _ _ _ _ success isBelowAgain isAboveAgain isBelowSum isAboveSum
    rw [first] at success
    rw [← sameNdim success] at isBelowAgain isAboveAgain
    rw [expandArgs_eq_expand machine isBelowAgain isAboveAgain, expand_expand success,
      expandArgs_eq_expand machine isBelowSum isAboveSum]
  case back =>
    intro grown _ _ success isBelowBack isAboveBack
    rw [first] at success
    rw [← sameNdim success] at isBelowBack isAboveBack
    rw [expandArgs_eq_expand machine isBelowBack isAboveBack]
    exact expand_neg belowLength aboveLength success
  case mem =>
    intro grown place success belowNonneg aboveNonneg
    rw [first] at success
    simp only [contains_iff_holds]
    exact holds_expand_iff belowLength aboveLength belowNonneg aboveNonneg success
  case uniform =>
    exact expandArgs_uniform machine region

/-- A rectangle that grows along one axis and shrinks along the other, and back. -/
theorem expandsBy_rectangle :
    let machine := Machine.small
    let region : Region := ⟨[⟨0, 4, by decide⟩, ⟨-1, 3, by decide⟩], by decide⟩
    let above : Arg := .list [.int (-3), .int 2]
    Margins 2 (.int 1) [1, 1] ∧ Margins 2 above [-3, 2] ∧
      region.ExpandsBy machine (.int 1) above [1, 1] [-3, 2] ∧
      ∃ grown, region.expandArgs machine (.int 1) above = .ok grown ∧
        grown.expandArgs machine (.int (-1)) (.list [.int 3, .int (-2)]) = .ok region := by
  intro machine region above
  have isBelow : Margins 2 (.int 1) [1, 1] := .uniform 1
  have isAbove : Margins 2 above [-3, 2] := @Margins.perAxis 2 [-3, 2] rfl
  have expands : region.ExpandsBy machine (.int 1) above [1, 1] [-3, 2] :=
    expandsBy_margins isBelow isAbove
  refine ⟨isBelow, isAbove, expands, ⟨[⟨-1, 1, by decide⟩, ⟨-2, 5, by decide⟩], by decide⟩,
    rfl, ?_⟩
  exact expands.back rfl (.uniform (-1)) (@Margins.perAxis 2 [3, -2] rfl)

end Arguments

end Region

end LatticeDiff
