import LatticeDiff.Field
import Mathlib.Data.List.Forall2

/-!
# Membership and reading

Regions and shapes test positions by recursion over their axes. This module states
both tests axis by axis and derives when a field can be read: exactly at the
positions that lie in the reader's region and on the grid. Every other reading
leaves one of the two and says so.
-/

namespace LatticeDiff

theorem forall₂_iff_getElem? {α β : Type} {relation : α → β → Prop} {left : List α}
    {right : List β} :
    List.Forall₂ relation left right ↔ left.length = right.length ∧
      ∀ (place : Nat) (first : α) (second : β), left[place]? = some first →
        right[place]? = some second → relation first second := by
  rw [List.forall₂_iff_get]
  refine and_congr_right fun _ => ?_
  constructor
  · intro every place first second found otherFound
    obtain ⟨inLeft, rfl⟩ := List.getElem?_eq_some_iff.1 found
    obtain ⟨inRight, rfl⟩ := List.getElem?_eq_some_iff.1 otherFound
    exact every place inLeft inRight
  · intro every place inLeft inRight
    exact every place _ _ (List.getElem?_eq_getElem inLeft) (List.getElem?_eq_getElem inRight)

namespace Shape

/-- A position lies on an array of this shape if every coordinate is an index of
its axis. -/
def Holds (shape : Shape) (position : Position) : Prop :=
  List.Forall₂ (fun (length : Nat) (coordinate : Int) =>
    0 ≤ coordinate ∧ coordinate < length) shape position

theorem index?_isSome_iff {shape : Shape} {position : Position} :
    (shape.index? position).isSome ↔ shape.Holds position := by
  induction shape generalizing position with
  | nil =>
      cases position with
      | nil => simp [index?, Holds]
      | cons coordinate position => simp [index?, Holds]
  | cons length shape ih =>
      cases position with
      | nil => simp [index?, Holds]
      | cons coordinate position =>
          simp only [index?, Holds, List.forall₂_cons]
          rw [← Holds, ← ih]
          split
          · next bounds => simp [bounds]
          · next outside => simp [outside]

theorem index?_of_holds {shape : Shape} {position : Position} (holds : shape.Holds position) :
    shape.index? position = some (position.map Int.toNat) := by
  unfold Holds at holds
  induction holds with
  | nil => rfl
  | cons within _ ih => rw [index?, if_pos within, ih, Option.map_some, List.map_cons]

theorem Holds.length_eq {shape : Shape} {position : Position}
    (holds : shape.Holds position) : shape.length = position.length :=
  List.Forall₂.length_eq holds

theorem Holds.bounds {shape : Shape} {position : Position} (holds : shape.Holds position)
    {axis : Nat} (inShape : axis < shape.length) (inPosition : axis < position.length) :
    0 ≤ position[axis] ∧ position[axis] < shape[axis] := by
  exact List.Forall₂.get holds inShape inPosition

end Shape

namespace Grid

theorem at?_isSome_iff {grid : Grid} {position : Position} :
    (grid.at? position).isSome ↔ grid.shape.Holds position := by
  rw [← Shape.index?_isSome_iff, at?]
  cases found : grid.shape.index? position with
  | none => simp
  | some index =>
      have inside := cell?_isSome (Shape.contains_of_index? found)
      simpa using inside

/-- At a position on a grid stands the entry at its place in row-major order. -/
theorem at?_of_holds {grid : Grid} {position : Position} (holds : grid.shape.Holds position) :
    grid.at? position = grid.cells[grid.shape.rank (position.map Int.toNat)]? := by
  have found := Shape.index?_of_holds holds
  rw [at?, found, Option.bind_some, cell?, if_pos (Shape.contains_of_index? found)]

theorem ext_cell? {left right : Grid} (sameShape : left.shape = right.shape)
    (sameCells : ∀ index, left.shape.contains index = true →
      left.cell? index = right.cell? index) : left = right := by
  obtain ⟨shape, leftCells, leftSize⟩ := left
  obtain ⟨_, rightCells, rightSize⟩ := right
  simp only at sameShape
  subst sameShape
  congr 1
  apply Array.ext
  · rw [leftSize, rightSize]
  · intro place inLeft inRight
    have inside : place < shape.volume := by rwa [← leftSize]
    have contained := Shape.contains_unrank inside
    have same := sameCells _ contained
    simp only [cell?, contained, if_true, Shape.rank_unrank inside] at same
    simpa [inLeft, inRight] using same

end Grid

namespace Region

/-- A position lies in a region if every coordinate lies within its span. -/
def Holds (region : Region) (position : Position) : Prop :=
  List.Forall₂ (fun (span : Span) (coordinate : Int) =>
    span.low ≤ coordinate ∧ coordinate ≤ span.high) region.spans position

theorem contains_iff_holds {region : Region} {position : Position} :
    region.contains position = true ↔ region.Holds position := by
  simp only [contains, Holds, List.forall₂_iff_zip, Bool.and_eq_true, decide_eq_true_eq,
    List.all_eq_true, Span.contains_iff]
  rw [ndim]
  constructor
  · rintro ⟨sameLength, every⟩
    exact ⟨sameLength.symm, fun member => every _ member⟩
  · rintro ⟨sameLength, every⟩
    exact ⟨sameLength.symm, fun pair member => every member⟩

theorem Holds.length_eq {region : Region} {position : Position}
    (holds : region.Holds position) : position.length = region.ndim :=
  (List.Forall₂.length_eq holds).symm

theorem Holds.bounds {region : Region} {position : Position} (holds : region.Holds position)
    {axis : Nat} (inRegion : axis < region.spans.length) (inPosition : axis < position.length) :
    region.spans[axis].low ≤ position[axis] ∧ position[axis] ≤ region.spans[axis].high := by
  exact List.Forall₂.get holds inRegion inPosition

end Region

namespace Fault

/-- The faults of a reading that leaves the reader's region or the array. -/
inductive OutOfBounds : Fault → Prop where
  | region (position low high : Position) :
      OutOfBounds (.outsideRegion position low high)
  | array (position : Position) (shape : Shape) :
      OutOfBounds (.outsideArray position shape)

end Fault

namespace Field

/-- Where a reader that has to stay in a region can read. -/
def Readable (field : Field) (region : Region) (position : Position) : Prop :=
  region.Holds position ∧ field.shape.Holds position

/-- The sample at a position of the grid. -/
def sampleAt (field : Field) (position : Position) : Float :=
  (field.grid.at? position).getD 0.0

theorem read_of_readable {field : Field} {region : Region} {position : Position}
    (readable : field.Readable region position) :
    field.read region position = .ok (field.sampleAt position) := by
  have inRegion := Region.contains_iff_holds.2 readable.1
  have onGrid := Grid.at?_isSome_iff.2 readable.2
  obtain ⟨value, found⟩ := Option.isSome_iff_exists.1 onGrid
  simp [read, sampleAt, inRegion, found]

theorem read_of_not_readable {field : Field} {region : Region} {position : Position}
    (unreadable : ¬field.Readable region position) :
    ∃ fault, field.read region position = .error fault ∧ fault.OutOfBounds := by
  by_cases inRegion : region.contains position = true
  · have offGrid : ¬(field.grid.at? position).isSome := by
      intro onGrid
      exact unreadable ⟨Region.contains_iff_holds.1 inRegion, Grid.at?_isSome_iff.1 onGrid⟩
    have missing := Option.not_isSome_iff_eq_none.1 offGrid
    refine ⟨.outsideArray position field.shape, ?_, .array position field.shape⟩
    simp [read, inRegion, missing]
  · refine ⟨.outsideRegion position region.low region.high, ?_,
      .region position region.low region.high⟩
    simp [read, inRegion]

/-- The coordinates that a caller is told when a position cannot be read: those of the position,
and those of the region or, inside of it, of the array that it has left. -/
def named (field : Field) (region : Region) (position : Position) : List Int :=
  position ++
    if region.contains position then field.shape.map Int.ofNat else region.low ++ region.high

/-- How a reading is refused. -/
structure Refuses (field : Field) (region : Region) (position : Position) (fault : Fault) :
    Prop where
  unreadable : ¬field.Readable region position
  outOfBounds : fault.OutOfBounds
  /-- A machine raises the fault unless it cannot write a coordinate that the message names. -/
  raised : ∀ machine : Machine, fault.raisedOn machine =
    if ∀ coordinate ∈ field.named region position, machine.writes coordinate = true then fault
    else .unwritable
  /-- A machine that does not limit digits writes all of them. -/
  unlimited : ∀ machine : Machine, machine.digitLimit = none → fault.raisedOn machine = fault

/-- Every failure of a reading is a refusal. -/
theorem refuses_of_read {field : Field} {region : Region} {position : Position} {fault : Fault}
    (failed : field.read region position = .error fault) :
    field.Refuses region position fault := by
  have unreadable : ¬field.Readable region position := by
    intro readable
    rw [read_of_readable readable] at failed
    cases failed
  obtain ⟨other, otherFailed, outOfBounds⟩ := read_of_not_readable unreadable
  obtain rfl : other = fault := Except.error.inj (otherFailed.symm.trans failed)
  have printed : other.printed = field.named region position := by
    rw [read] at failed
    rw [named]
    split at failed
    · next inRegion =>
        rw [if_pos inRegion]
        split at failed
        · cases failed
        · cases failed
          rfl
    · next outside =>
        rw [if_neg outside]
        cases failed
        rfl
  have apart : ∀ bytes, other ≠ .repeated bytes := by
    rintro bytes rfl
    cases outOfBounds
  refine ⟨unreadable, outOfBounds, fun machine => ?_, fun machine unlimited =>
    Fault.raisedOn_of_unlimited unlimited apart⟩
  rw [← printed]
  exact Fault.raisedOn_of_ne_repeated machine apart

/-- No refusal can be written that names a coordinate with more digits than are written. -/
theorem Refuses.unwritable {field : Field} {region : Region} {position : Position}
    {fault : Fault} (refuses : field.Refuses region position fault) {machine : Machine}
    {limit : Nat} (limited : machine.digitLimit = some limit) {coordinate : Int}
    (member : coordinate ∈ position) (long : Nat.pow 10 limit ≤ coordinate.natAbs) :
    fault.raisedOn machine = .unwritable := by
  rw [refuses.raised, if_neg]
  intro every
  have written := every coordinate (List.mem_append_left _ member)
  simp only [Machine.writes, limited, decide_eq_true_eq] at written
  exact Nat.lt_irrefl _ (Nat.lt_of_lt_of_le written long)

theorem read_eq_ok_iff {field : Field} {region : Region} {position : Position}
    {value : Float} :
    field.read region position = .ok value ↔
      field.Readable region position ∧ value = field.sampleAt position := by
  constructor
  · intro success
    by_cases readable : field.Readable region position
    · rw [read_of_readable readable] at success
      exact ⟨readable, (Except.ok.inj success).symm⟩
    · obtain ⟨fault, failure, _⟩ := read_of_not_readable readable
      rw [failure] at success
      cases success
  · rintro ⟨readable, rfl⟩
    exact read_of_readable readable

/-- A reading inside the reader's region can fail only by leaving the array. -/
theorem outsideArray_of_read {field : Field} {region : Region} {position : Position}
    {fault : Fault} (holds : region.Holds position)
    (failed : field.read region position = .error fault) :
    ¬field.shape.Holds position ∧ fault = .outsideArray position field.shape := by
  have inRegion := Region.contains_iff_holds.2 holds
  have offArray : ¬field.shape.Holds position := by
    intro onArray
    rw [read_of_readable ⟨holds, onArray⟩] at failed
    cases failed
  have missing : field.grid.at? position = none := by
    rw [← Option.not_isSome_iff_eq_none, Grid.at?_isSome_iff]
    exact offArray
  simp only [read, inRegion, if_true, missing, Except.error.injEq] at failed
  exact ⟨offArray, failed.symm⟩

end Field

end LatticeDiff
