import LatticeDiff.Machine
import LatticeDiff.Position

/-!
# Row-major order

The entries of an array are kept in one row, the last axis running fastest. The
rank of an index is its place in that row; `unrank` recovers the index from it.
-/

namespace LatticeDiff

/-- The shape of an array, by the lengths of its axes. -/
abbrev Shape := List Nat

namespace Shape

/-- The number of entries. -/
def volume : Shape → Nat
  | [] => 1
  | length :: shape => length * volume shape

@[simp] theorem volume_nil : volume [] = 1 := rfl

@[simp] theorem volume_cons (length : Nat) (shape : Shape) :
    volume (length :: shape) = length * volume shape := rfl

/-- The place of an index in row-major order. -/
def rank : Shape → List Nat → Nat
  | _ :: shape, coordinate :: index => coordinate * volume shape + rank shape index
  | _, _ => 0

/-- The index at a place in row-major order. -/
def unrank : Shape → Nat → List Nat
  | [], _ => []
  | _ :: shape, place => place / volume shape :: unrank shape (place % volume shape)

/-- All indices within the shape, in row-major order. -/
def indices (shape : Shape) : List (List Nat) :=
  (List.range shape.volume).map shape.unrank

/-- Whether an index has one coordinate per axis, each within its axis. -/
def contains : Shape → List Nat → Bool
  | [], [] => true
  | length :: shape, coordinate :: index => coordinate < length && contains shape index
  | _, _ => false

/-- A lattice position as an index, if all its coordinates are within their
axes. -/
def index? : Shape → Position → Option (List Nat)
  | [], [] => some []
  | length :: shape, coordinate :: position =>
      if 0 ≤ coordinate ∧ coordinate < length then
        (index? shape position).map (coordinate.toNat :: ·)
      else none
  | _, _ => none

/-- Arrays have at most this many axes. -/
def axisLimit : Nat := 64

/-- The number of bytes, and of entries along an axis, at which no array can be
laid out any more. -/
def layoutLimit : Nat := Word.signedLimit

/-- Whether an array of doubles of this shape can be laid out. Axes without entries
do not make it any smaller. -/
def canLayOut (shape : Shape) : Bool :=
  shape.length ≤ axisLimit && shape.all (· < layoutLimit)
    && Word.byteLength * volume (shape.filter (· ≠ 0)) < layoutLimit

/-- Whether an array of doubles of this shape fits into memory. -/
def fitsMemory (machine : Machine) (shape : Shape) : Bool :=
  machine.fits (Word.byteLength * volume shape)

/-- A shape without axes holds the empty index only. -/
theorem contains_nil_iff {index : List Nat} : contains [] index = true ↔ index = [] := by
  cases index with
  | nil => simp [contains]
  | cons coordinate index => simp [contains]

/-- An index is within a shape if it is so along the first axis and along the others. -/
theorem contains_cons_iff {length : Nat} {shape : Shape} {index : List Nat} :
    contains (length :: shape) index = true ↔
      ∃ coordinate rest, index = coordinate :: rest ∧ coordinate < length ∧
        shape.contains rest = true := by
  cases index with
  | nil => simp [contains]
  | cons coordinate rest =>
      rw [contains, Bool.and_eq_true, decide_eq_true_eq]
      constructor
      · rintro ⟨bound, others⟩
        exact ⟨coordinate, rest, rfl, bound, others⟩
      · rintro ⟨_, _, same, bound, others⟩
        cases same
        exact ⟨bound, others⟩

/-- An index within a shape has one coordinate per axis. -/
theorem length_of_contains {shape : Shape} {index : List Nat}
    (inside : shape.contains index = true) : index.length = shape.length := by
  induction shape generalizing index with
  | nil => rw [contains_nil_iff.1 inside]
  | cons length shape ih =>
      obtain ⟨coordinate, rest, rfl, _, others⟩ := contains_cons_iff.1 inside
      rw [List.length_cons, List.length_cons, ih others]

@[simp] theorem length_unrank (shape : Shape) (place : Nat) :
    (unrank shape place).length = shape.length := by
  induction shape generalizing place with
  | nil => rfl
  | cons length shape ih => simp [unrank, ih]

/-- Indices within the shape have ranks below the number of entries. -/
theorem rank_lt {shape : Shape} {index : List Nat}
    (inside : shape.contains index = true) : shape.rank index < volume shape := by
  induction shape generalizing index with
  | nil =>
      cases index with
      | nil => simp [rank]
      | cons coordinate index => simp [contains] at inside
  | cons length shape ih =>
      cases index with
      | nil => simp [contains] at inside
      | cons coordinate index =>
          simp only [contains, Bool.and_eq_true, decide_eq_true_eq] at inside
          have below := ih inside.2
          have next : (coordinate + 1) * volume shape ≤ length * volume shape :=
            Nat.mul_le_mul_right _ inside.1
          rw [Nat.add_mul, Nat.one_mul] at next
          simp only [rank, volume_cons]
          omega

/-- Every place below the number of entries holds an index within the shape. -/
theorem contains_unrank {shape : Shape} {place : Nat} (inside : place < volume shape) :
    shape.contains (shape.unrank place) = true := by
  induction shape generalizing place with
  | nil => rfl
  | cons length shape ih =>
      rw [volume_cons] at inside
      have positive : 0 < volume shape := by
        rcases Nat.eq_zero_or_pos (volume shape) with zero | positive
        · simp [zero] at inside
        · exact positive
      simp only [unrank, contains, Bool.and_eq_true, decide_eq_true_eq]
      exact ⟨(Nat.div_lt_iff_lt_mul positive).2 inside, ih (Nat.mod_lt _ positive)⟩

/-- The index at a place has that place as its rank. -/
theorem rank_unrank {shape : Shape} {place : Nat} (inside : place < volume shape) :
    shape.rank (shape.unrank place) = place := by
  induction shape generalizing place with
  | nil =>
      simp at inside
      simp [rank, inside]
  | cons length shape ih =>
      rw [volume_cons] at inside
      have positive : 0 < volume shape := by
        rcases Nat.eq_zero_or_pos (volume shape) with zero | positive
        · simp [zero] at inside
        · exact positive
      rw [unrank, rank, ih (Nat.mod_lt _ positive), Nat.mul_comm]
      exact Nat.div_add_mod place (volume shape)

/-- The place of an index holds that index. -/
theorem unrank_rank {shape : Shape} {index : List Nat}
    (inside : shape.contains index = true) : shape.unrank (shape.rank index) = index := by
  induction shape generalizing index with
  | nil =>
      cases index with
      | nil => rfl
      | cons coordinate index => simp [contains] at inside
  | cons length shape ih =>
      cases index with
      | nil => simp [contains] at inside
      | cons coordinate index =>
          simp only [contains, Bool.and_eq_true, decide_eq_true_eq] at inside
          have below := rank_lt inside.2
          have positive : 0 < volume shape := Nat.lt_of_le_of_lt (Nat.zero_le _) below
          rw [rank, unrank, Nat.mul_comm coordinate, Nat.mul_add_div positive,
            Nat.div_eq_of_lt below, Nat.add_zero, Nat.mul_add_mod,
            Nat.mod_eq_of_lt below, ih inside.2]

theorem mem_indices {shape : Shape} {index : List Nat} :
    index ∈ shape.indices ↔ shape.contains index = true := by
  simp only [indices, List.mem_map, List.mem_range]
  constructor
  · rintro ⟨place, bound, rfl⟩
    exact contains_unrank bound
  · intro inside
    exact ⟨shape.rank index, rank_lt inside, unrank_rank inside⟩

/-- Positions are turned into indices within the shape. -/
theorem contains_of_index? {shape : Shape} {position : Position} {index : List Nat}
    (found : shape.index? position = some index) : shape.contains index = true := by
  induction shape generalizing position index with
  | nil =>
      cases position with
      | nil =>
          simp only [index?, Option.some.injEq] at found
          subst found
          rfl
      | cons coordinate position => simp [index?] at found
  | cons length shape ih =>
      cases position with
      | nil => simp [index?] at found
      | cons coordinate position =>
          simp only [index?] at found
          split at found
          · next bounds =>
              obtain ⟨rest, restFound, rfl⟩ := Option.map_eq_some_iff.1 found
              simp only [contains, Bool.and_eq_true, decide_eq_true_eq]
              exact ⟨by omega, ih restFound⟩
          · simp at found

end Shape

end LatticeDiff
