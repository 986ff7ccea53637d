import LatticeDiff.Proofs.Region.Enumeration
import Mathlib.Algebra.BigOperators.Group.List.Basic
import Mathlib.Algebra.GroupWithZero.Nat

/-!
# The listing of a region

The positions of a region are found from their numbers. Here they are compared with the
positions that are put together from the coordinates of every axis, the last axis running
fastest. From that they are in increasing order, and there is each position of the region
once. Listing a region lists the coordinates of its axes first, which is possible only as
long as there are not too many of them.
-/

namespace LatticeDiff

namespace Span

/-- The coordinates of a span, from the low end on. -/
def coordinates (span : Span) : List Int :=
  (List.range span.length).map fun (offset : Nat) => span.low + offset

@[simp] theorem mem_coordinates {span : Span} {coordinate : Int} :
    coordinate ∈ span.coordinates ↔ span.low ≤ coordinate ∧ coordinate ≤ span.high := by
  simp only [coordinates, length, List.mem_map, List.mem_range]
  constructor
  · rintro ⟨offset, bound, rfl⟩
    omega
  · intro within
    exact ⟨(coordinate - span.low).toNat, by omega, by omega⟩

theorem pairwise_coordinates (span : Span) : span.coordinates.Pairwise (· < ·) := by
  rw [coordinates, List.pairwise_map]
  exact List.pairwise_lt_range.imp fun earlier => by omega

end Span

namespace Position

/-- All positions with one coordinate out of each row. The last row runs fastest. -/
def product : List (List Int) → List Position
  | [] => [[]]
  | row :: rows => row.flatMap fun coordinate => (product rows).map (coordinate :: ·)

theorem mem_product {rows : List (List Int)} {position : Position} :
    position ∈ product rows ↔
      List.Forall₂ (fun row coordinate => coordinate ∈ row) rows position := by
  induction rows generalizing position with
  | nil => simp [product]
  | cons row rows ih =>
      rw [product, List.mem_flatMap, List.forall₂_cons_left_iff]
      simp only [List.mem_map, ih]
      constructor
      · rintro ⟨coordinate, member, rest, others, rfl⟩
        exact ⟨coordinate, rest, member, others, rfl⟩
      · rintro ⟨coordinate, rest, member, others, rfl⟩
        exact ⟨coordinate, member, rest, others, rfl⟩

theorem pairwise_product {rows : List (List Int)}
    (increasing : ∀ row ∈ rows, row.Pairwise (· < ·)) : (product rows).Pairwise (· < ·) := by
  induction rows with
  | nil => exact List.pairwise_singleton _ _
  | cons row rows ih =>
      obtain ⟨first, others⟩ := List.forall_mem_cons.1 increasing
      rw [product, List.pairwise_flatMap]
      constructor
      · intro coordinate _
        rw [List.pairwise_map]
        exact (ih others).imp fun less => List.cons_lt_cons_iff.2 (.inr ⟨rfl, less⟩)
      · apply first.imp
        intro coordinate other less position member place placeMember
        obtain ⟨_, _, rfl⟩ := List.mem_map.1 member
        obtain ⟨_, _, rfl⟩ := List.mem_map.1 placeMember
        exact List.cons_lt_cons_iff.2 (.inl less)

end Position

theorem Shape.range_mul (rounds count : Nat) :
    List.range (rounds * count) =
      (List.range rounds).flatMap fun round =>
        (List.range count).map fun place => round * count + place := by
  induction rounds with
  | zero => simp
  | succ rounds ih =>
      rw [Nat.succ_mul, List.range_add, ih, List.range_succ, List.flatMap_append]
      simp

theorem Shape.volume_eq_prod (shape : Shape) : shape.volume = shape.prod := by
  induction shape with
  | nil => rfl
  | cons length shape ih => rw [volume_cons, List.prod_cons, ih]

namespace Region

/-- Counting positions puts together the coordinates of every axis. -/
theorem map_positionOf_unrank (spans : List Span) :
    (List.range (Shape.volume (spans.map Span.length))).map (fun number =>
      spans.zipWith (fun span (offset : Nat) => (span.low + offset : Int))
        (Shape.unrank (spans.map Span.length) number)) =
      Position.product (spans.map Span.coordinates) := by
  induction spans with
  | nil => rfl
  | cons span spans ih =>
      rw [List.map_cons, List.map_cons, Shape.volume_cons, Shape.range_mul, List.map_flatMap,
        Position.product, Span.coordinates, List.flatMap_map, ← ih]
      congr 1
      funext round
      rw [List.map_map, List.map_map]
      apply List.map_congr_left
      intro place member
      have below := List.mem_range.1 member
      have positive := Nat.lt_of_le_of_lt (Nat.zero_le place) below
      have quotient : (round * Shape.volume (spans.map Span.length) + place) /
          Shape.volume (spans.map Span.length) = round := by
        rw [Nat.mul_comm, Nat.mul_add_div positive, Nat.div_eq_of_lt below, Nat.add_zero]
      have remainder : (round * Shape.volume (spans.map Span.length) + place) %
          Shape.volume (spans.map Span.length) = place := by
        rw [Nat.mul_comm, Nat.mul_add_mod, Nat.mod_eq_of_lt below]
      simp only [Function.comp_apply, Shape.unrank, quotient, remainder, List.zipWith_cons_cons]

theorem positions_eq_product (region : Region) :
    region.positions = Position.product (region.spans.map Span.coordinates) :=
  map_positionOf_unrank region.spans

theorem mem_positions_iff {region : Region} {position : Position} :
    position ∈ region.positions ↔ region.Holds position := by
  rw [positions_eq_product, Position.mem_product, List.forall₂_map_left_iff, Holds]
  simp only [Span.mem_coordinates]

theorem size_pos (region : Region) : 1 ≤ region.size := by
  have inside := rank_indexOf_lt region.holds_low
  omega

theorem rank_indexOf_positionAt {region : Region} {number : Nat} (bound : number < region.size) :
    region.shape.rank (region.indexOf (region.positionAt number)) = number := by
  rw [positionAt_eq_positionOf, (holds_positionOf (Shape.contains_unrank bound)).2,
    Shape.rank_unrank bound]

section Room

variable {machine : Machine} {region : Region} {lengths : List Nat} {listed : Nat}

/-- The coordinates of all axes can be listed: none has too many to be counted, and together
they fit into memory. -/
structure Listable (machine : Machine) (region : Region) : Prop where
  countable : ∀ length ∈ region.shape, length ≤ enumerationLimit
  memory : machine.fits (machine.listBytes region.shape.sum) = true

theorem listingFault?_cons {length : Nat} (short : length ≤ enumerationLimit)
    (fits : machine.fits (machine.listBytes (listed + length)) = true) :
    listingFault? machine listed (length :: lengths) =
      listingFault? machine (listed + length) lengths := by
  rw [listingFault?, if_neg (Nat.not_lt.2 short), if_pos fits]

theorem listingFault?_eq_none_iff :
    listingFault? machine listed lengths = none ↔
      (∀ length ∈ lengths, length ≤ enumerationLimit) ∧
        (lengths ≠ [] → machine.fits (machine.listBytes (listed + lengths.sum)) = true) := by
  induction lengths generalizing listed with
  | nil => simp [listingFault?]
  | cons length lengths ih =>
      rw [List.forall_mem_cons, List.sum_cons, ← Nat.add_assoc]
      by_cases short : length ≤ enumerationLimit
      · cases fits : machine.fits (machine.listBytes (listed + length)) with
        | true =>
            rw [listingFault?_cons short fits, ih]
            cases lengths with
            | nil => simp [short, fits]
            | cons => simp [short]
        | false =>
            -- All lists together take no less than those up to this axis.
            have exhausted :
                machine.fits (machine.listBytes (listed + length + lengths.sum)) ≠ true := by
              intro more
              rw [Machine.fits_of_le (Machine.listBytes_le (Nat.le_add_right _ _)) more] at fits
              cases fits
            simp [listingFault?, Nat.not_lt.2 short, fits, exhausted]
      · simp [listingFault?, Nat.not_le.1 short, short]

theorem listingFault?_shape_eq_none_iff :
    listingFault? machine 0 region.shape = none ↔ region.Listable machine := by
  have axes : region.shape ≠ [] := List.ne_nil_of_length_pos (by simp [region.ndim_pos])
  rw [listingFault?_eq_none_iff, Nat.zero_add]
  constructor
  · rintro ⟨countable, memory⟩
    exact ⟨countable, memory axes⟩
  · rintro ⟨countable, memory⟩
    exact ⟨countable, fun _ => memory⟩

/-- How the listing of axes stops, if some coordinates have been listed before: the axes in
front of the one at fault can be listed. -/
inductive Stops (machine : Machine) (listed : Nat) (lengths : List Nat) : Fault → Prop where
  | uncountable {before after : List Nat} {length : Nat}
      (parts : lengths = before ++ length :: after)
      (front : listingFault? machine listed before = none) (long : enumerationLimit < length) :
      Stops machine listed lengths .tooLarge
  | exhausted {before after : List Nat} {length : Nat}
      (parts : lengths = before ++ length :: after)
      (front : listingFault? machine listed before = none) (short : length ≤ enumerationLimit)
      (memory : machine.fits (machine.listBytes (listed + before.sum + length)) = false) :
      Stops machine listed lengths .outOfMemory

theorem stops_of_listingFault? {fault : Fault}
    (failed : listingFault? machine listed lengths = some fault) :
    Stops machine listed lengths fault := by
  induction lengths generalizing listed with
  | nil => cases failed
  | cons length lengths ih =>
      by_cases short : length ≤ enumerationLimit
      · cases fits : machine.fits (machine.listBytes (listed + length)) with
        | true =>
            rw [listingFault?_cons short fits] at failed
            cases ih failed with
            | @uncountable before after other parts front long =>
                have extended := (listingFault?_cons short fits).trans front
                exact .uncountable (by rw [parts, List.cons_append]) extended long
            | @exhausted before after other parts front below memory =>
                have extended := (listingFault?_cons short fits).trans front
                refine .exhausted (by rw [parts, List.cons_append]) extended below ?_
                rwa [List.sum_cons, ← Nat.add_assoc]
        | false =>
            rw [listingFault?, if_neg (Nat.not_lt.2 short), fits] at failed
            cases failed
            exact .exhausted (List.nil_append _).symm rfl short fits
      · rw [listingFault?, if_pos (Nat.not_le.1 short)] at failed
        cases failed
        exact .uncountable (List.nil_append _).symm rfl (Nat.not_le.1 short)

theorem firstPositions_of_listable (listable : region.Listable machine) {limit : Int}
    (nonneg : 0 ≤ limit) (countable : Word.fitsSigned limit = true) :
    region.firstPositions machine limit = .ok (region.positions.take limit.toNat) := by
  rw [firstPositions, listingFault?_shape_eq_none_iff.2 listable, positions, ← List.map_take,
    List.take_range]
  simp [nonneg, countable]

/-- No position is given if an axis cannot be listed. -/
theorem firstPositions_of_not_listable (unlisted : ¬region.Listable machine) (limit : Int) :
    ∃ fault, Stops machine 0 region.shape fault ∧
      region.firstPositions machine limit = .error fault := by
  cases found : listingFault? machine 0 region.shape with
  | none => exact absurd (listingFault?_shape_eq_none_iff.1 found) unlisted
  | some fault =>
      refine ⟨fault, stops_of_listingFault? found, ?_⟩
      rw [firstPositions, found]

end Room

/-- What it is for a list of positions to be the listing of a region. -/
structure Lists (region : Region) (listing : List Position) : Prop where
  mem : ∀ position, position ∈ listing ↔ region.contains position = true
  nodup : listing.Nodup
  increasing : listing.Pairwise (· < ·)
  length : listing.length = region.size
  /-- A position stands where its offset has its place in row-major order. -/
  place : ∀ number position, listing[number]? = some position →
    region.shape.contains (region.indexOf position) = true ∧
      region.shape.rank (region.indexOf position) = number

theorem lists_positions (region : Region) : region.Lists region.positions := by
  have increasing : region.positions.Pairwise (· < ·) := by
    rw [positions_eq_product]
    apply Position.pairwise_product
    intro row member
    obtain ⟨span, _, rfl⟩ := List.mem_map.1 member
    exact span.pairwise_coordinates
  refine ⟨?_, ?_, increasing, region.length_positions, ?_⟩
  · intro position
    rw [mem_positions_iff, contains_iff_holds]
  · apply increasing.imp
    rintro position _ less rfl
    exact List.lt_irrefl position less
  · intro number position found
    obtain ⟨bound, rfl⟩ := List.getElem?_eq_some_iff.1 found
    have below : number < region.size := by rwa [length_positions] at bound
    simp only [positions, List.getElem_map, List.getElem_range]
    exact ⟨contains_indexOf (holds_positionAt below), rank_indexOf_positionAt below⟩

/-- The positions of a region are those that are put together from the coordinates of its
axes, the last one running fastest. They are the positions that the region contains, each
once, in lexicographic order and numbered in row-major order, and there are as many as the
product of the lengths of the axes says. They are given if the coordinates of all axes can
be listed, and otherwise none is. -/
theorem firstPositions_enumerate (machine : Machine) (region : Region) :
    region.Lists region.positions ∧
    region.positions = Position.product (region.spans.map Span.coordinates) ∧
    region.size = region.shape.prod ∧ 1 ≤ region.size ∧
    (region.Listable machine → ∀ limit : Int, 0 ≤ limit → Word.fitsSigned limit = true →
      region.firstPositions machine limit = .ok (region.positions.take limit.toNat)) ∧
    (¬region.Listable machine → ∀ limit, ∃ fault, Stops machine 0 region.shape fault ∧
      region.firstPositions machine limit = .error fault) := by
  refine ⟨region.lists_positions, region.positions_eq_product, region.shape.volume_eq_prod,
    region.size_pos, ?_, ?_⟩
  · intro listable limit nonneg countable
    exact firstPositions_of_listable listable nonneg countable
  · intro unlisted limit
    exact firstPositions_of_not_listable unlisted limit

/-- A rectangle around the origin of one axis. -/
theorem firstPositions_rectangle :
    let machine := Machine.small
    let region : Region := ⟨[⟨0, 1, by decide⟩, ⟨-1, 1, by decide⟩], by decide⟩
    region.Listable machine ∧ Word.fitsSigned 4 = true ∧
      region.firstPositions machine 4 = .ok [[0, -1], [0, 0], [0, 1], [1, -1]] := by
  intro machine region
  have listable : region.Listable machine := ⟨by decide, by decide⟩
  obtain ⟨_, _, _, _, given, _⟩ := firstPositions_enumerate machine region
  exact ⟨listable, by decide, given listable 4 (by decide) (by decide)⟩

/-- An axis with more coordinates than a signed word counts: the region contains the origin,
but no position of it is ever given, whatever the machine. -/
theorem tooLarge_to_list :
    let region : Region := ⟨[⟨0, 2 ^ 63 - 1, by decide⟩], by decide⟩
    region.contains [0] = true ∧
      ∀ machine limit, region.firstPositions machine limit = .error .tooLarge := by
  intro region
  refine ⟨by decide, ?_⟩
  intro machine limit
  have failed : listingFault? machine 0 region.shape = some .tooLarge := by
    rw [listingFault?.eq_def]
    rfl
  rw [firstPositions, failed]

end Region

end LatticeDiff
