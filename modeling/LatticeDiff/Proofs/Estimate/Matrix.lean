import LatticeDiff.Proofs.Estimate.Pointwise
import LatticeDiff.Proofs.Region.Membership

/-!
# The matrix of an evaluation

Every cell of a derivative matrix belongs to one derivative, which
`Scheme.derivativeAt?` names. Filling the entries of a scheme stores in each cell the
estimate of its derivative, and changes no cell whose entry is not reached.
-/

namespace LatticeDiff

namespace Entry

@[simp] theorem shape_store (entry : Entry) (value : Float) (matrix : Grid) :
    (entry.store value matrix).shape = matrix.shape := by
  unfold store
  induction entry.cells generalizing matrix with
  | nil => rfl
  | cons cell cells ih => rw [List.foldl_cons, ih, Grid.shape_set]

theorem cell?_store {entry : Entry} {value : Float} {matrix : Grid} {cell : List Nat}
    (inside : matrix.shape.contains cell = true) :
    (entry.store value matrix).cell? cell =
      if cell ∈ entry.cells then some value else matrix.cell? cell := by
  unfold store
  induction entry.cells generalizing matrix with
  | nil => simp
  | cons first cells ih =>
      rw [List.foldl_cons, ih (by rwa [Grid.shape_set])]
      by_cases later : cell ∈ cells
      · simp [later]
      · by_cases same : cell = first
        · subst same
          simp [later, Grid.cell?_set_self inside]
        · simp [later, same, Grid.cell?_set_of_ne same]

theorem shape_fillAllAt (read : Reader) (position : Position) (entries : List Entry)
    (matrix : Grid) :
    (fillAllAt read position entries matrix).2.shape = matrix.shape := by
  induction entries generalizing matrix with
  | nil => rfl
  | cons entry entries ih =>
      rw [fillAllAt]
      cases entry.derivative.estimateAt read position with
      | error fault => rfl
      | ok value => rw [ih, shape_store]

theorem result_fillAllAt (read : Reader) (position : Position) (entries : List Entry)
    (first second : Grid) :
    (fillAllAt read position entries first).1 = (fillAllAt read position entries second).1 := by
  induction entries generalizing first second with
  | nil => rfl
  | cons entry entries ih =>
      rw [fillAllAt, fillAllAt]
      cases entry.derivative.estimateAt read position with
      | error fault => rfl
      | ok value => exact ih (entry.store value first) (entry.store value second)

/-- A cell that no entry holds keeps its value, whether or not filling succeeds. -/
theorem cell?_fillAllAt_of_free {read : Reader} {position : Position} {entries : List Entry}
    {matrix : Grid} {cell : List Nat} (inside : matrix.shape.contains cell = true)
    (free : ∀ entry ∈ entries, cell ∉ entry.cells) :
    (fillAllAt read position entries matrix).2.cell? cell = matrix.cell? cell := by
  induction entries generalizing matrix with
  | nil => rfl
  | cons entry entries ih =>
      rw [fillAllAt]
      cases entry.derivative.estimateAt read position with
      | error fault => rfl
      | ok value =>
          have notHere := free entry (by simp)
          have notLater : ∀ other ∈ entries, cell ∉ other.cells :=
            fun other member => free other (by simp [member])
          rw [ih (by rwa [shape_store]) notLater, cell?_store inside, if_neg notHere]

/-- Where the entries that hold a cell all estimate one derivative, filling them all
stores its estimate. -/
theorem cell?_fillAllAt_of_held {read : Reader} {position : Position} {entries : List Entry}
    {matrix : Grid} {cell : List Nat} {derivative : Derivative}
    (inside : matrix.shape.contains cell = true)
    (success : (fillAllAt read position entries matrix).1 = .ok ())
    (agree : ∀ entry ∈ entries, cell ∈ entry.cells → entry.derivative = derivative)
    (held : ∃ entry ∈ entries, cell ∈ entry.cells) :
    ∃ value, derivative.estimateAt read position = .ok value ∧
      (fillAllAt read position entries matrix).2.cell? cell = some value := by
  induction entries generalizing matrix with
  | nil => simp at held
  | cons entry entries ih =>
      rw [fillAllAt] at success ⊢
      cases estimated : entry.derivative.estimateAt read position with
      | error fault => simp [estimated] at success
      | ok value =>
          simp only [estimated] at success ⊢
          have agreeLater : ∀ other ∈ entries, cell ∈ other.cells →
              other.derivative = derivative :=
            fun other member => agree other (by simp [member])
          by_cases heldLater : ∃ other ∈ entries, cell ∈ other.cells
          · exact ih (by rwa [shape_store]) success agreeLater heldLater
          · have heldHere : cell ∈ entry.cells := by
              obtain ⟨holder, member, holds⟩ := held
              cases member with
              | head => exact holds
              | tail _ member => exact absurd ⟨holder, member, holds⟩ heldLater
            have free : ∀ other ∈ entries, cell ∉ other.cells :=
              fun other member holds => heldLater ⟨other, member, holds⟩
            refine ⟨value, ?_, ?_⟩
            · rw [← agree entry (by simp) heldHere, estimated]
            · rw [cell?_fillAllAt_of_free (by rwa [shape_store]) free, cell?_store inside,
                if_pos heldHere]

end Entry

namespace Scheme

/-- The derivative that a cell of the matrix is for. -/
def derivativeAt? : Scheme → List Nat → Option Derivative
  | .gradient stencil, [axis, 0] => some (.along stencil axis)
  | .hessian second first, [row, column] =>
      if row = column then some (.along second row)
      else some (.mixed first (min row column) (max row column))
  | _, _ => none

theorem derivativeAt?_of_mem {scheme : Scheme} {ndim : Nat} {entry : Entry}
    {cell : List Nat} (member : entry ∈ scheme.entries ndim) (held : cell ∈ entry.cells) :
    scheme.derivativeAt? cell = some entry.derivative := by
  cases scheme with
  | blank => simp [entries] at member
  | gradient stencil =>
      simp only [entries, gradientEntries, List.mem_map] at member
      obtain ⟨axis, _, rfl⟩ := member
      simp only [List.mem_singleton] at held
      subst held
      rfl
  | hessian second first =>
      simp only [entries, hessianRow, List.mem_flatMap, List.mem_cons, List.mem_map] at member
      obtain ⟨row, _, diagonal | ⟨column, beyond, rfl⟩⟩ := member
      · subst diagonal
        simp only [List.mem_singleton] at held
        subst held
        simp [derivativeAt?]
      · have ordered : row < column := (List.mem_range'_1.1 beyond).1
        simp only [List.mem_cons, List.not_mem_nil, or_false] at held
        rcases held with rfl | rfl
        · simp [derivativeAt?, Nat.ne_of_lt ordered, Nat.min_eq_left (Nat.le_of_lt ordered),
            Nat.max_eq_right (Nat.le_of_lt ordered)]
        · simp [derivativeAt?, Nat.ne_of_gt ordered, Nat.min_eq_right (Nat.le_of_lt ordered),
            Nat.max_eq_left (Nat.le_of_lt ordered)]

theorem mem_gradientEntries {stencil : Stencil} {ndim axis : Nat} (bound : axis < ndim) :
    (⟨.along stencil axis, [[axis, 0]]⟩ : Entry) ∈ (gradient stencil).entries ndim := by
  exact List.mem_map_of_mem (List.mem_range.2 bound)

theorem mem_hessianEntries_along {second first : Stencil} {ndim axis : Nat}
    (bound : axis < ndim) :
    (⟨.along second axis, [[axis, axis]]⟩ : Entry) ∈ (hessian second first).entries ndim := by
  rw [entries, List.mem_flatMap]
  exact ⟨axis, List.mem_range.2 bound, by simp [hessianRow]⟩

theorem mem_hessianEntries_mixed {second first : Stencil} {ndim outer inner : Nat}
    (ordered : outer < inner) (bound : inner < ndim) :
    (⟨.mixed first outer inner, [[outer, inner], [inner, outer]]⟩ : Entry) ∈
      (hessian second first).entries ndim := by
  rw [entries, List.mem_flatMap]
  refine ⟨outer, List.mem_range.2 (Nat.lt_trans ordered bound), ?_⟩
  rw [hessianRow, List.mem_cons]
  right
  rw [List.mem_map]
  exact ⟨inner, List.mem_range'_1.2 ⟨ordered, by omega⟩, rfl⟩

/-- Every cell of a matrix with derivatives is held by an entry. -/
theorem exists_entry_of_contains {scheme : Scheme} {ndim : Nat} {cell : List Nat}
    (derives : scheme ≠ .blank)
    (inside : (scheme.matrixShape ndim).contains cell = true) :
    ∃ entry ∈ scheme.entries ndim, cell ∈ entry.cells := by
  cases scheme with
  | blank => exact absurd rfl derives
  | gradient stencil =>
      obtain ⟨axis, rest, rfl, bound, others⟩ := Shape.contains_cons_iff.1 inside
      obtain ⟨column, rest, rfl, single, others⟩ := Shape.contains_cons_iff.1 others
      obtain rfl := Shape.contains_nil_iff.1 others
      obtain rfl : column = 0 := by omega
      exact ⟨_, mem_gradientEntries bound, by simp⟩
  | hessian second first =>
      obtain ⟨row, rest, rfl, rowBound, others⟩ := Shape.contains_cons_iff.1 inside
      obtain ⟨column, rest, rfl, columnBound, others⟩ := Shape.contains_cons_iff.1 others
      obtain rfl := Shape.contains_nil_iff.1 others
      rcases Nat.lt_trichotomy row column with ordered | rfl | ordered
      · exact ⟨_, mem_hessianEntries_mixed ordered columnBound, by simp⟩
      · exact ⟨_, mem_hessianEntries_along rowBound, by simp⟩
      · exact ⟨_, mem_hessianEntries_mixed ordered rowBound, by simp⟩

/-- A completed evaluation has stored in each cell the estimate of its derivative. -/
theorem cell?_fillAllAt {scheme : Scheme} {ndim : Nat} {read : Reader} {position : Position}
    {matrix : Grid} {cell : List Nat} (derives : scheme ≠ .blank)
    (shaped : matrix.shape = scheme.matrixShape ndim)
    (success : (Entry.fillAllAt read position (scheme.entries ndim) matrix).1 = .ok ())
    (inside : (scheme.matrixShape ndim).contains cell = true) :
    ∃ derivative value, scheme.derivativeAt? cell = some derivative ∧
      derivative.estimateAt read position = .ok value ∧
      (Entry.fillAllAt read position (scheme.entries ndim) matrix).2.cell? cell =
        some value := by
  obtain ⟨holder, member, held⟩ := exists_entry_of_contains derives inside
  have named := derivativeAt?_of_mem member held
  have agree : ∀ entry ∈ scheme.entries ndim, cell ∈ entry.cells →
      entry.derivative = holder.derivative := by
    intro entry otherMember otherHeld
    have otherNamed := derivativeAt?_of_mem otherMember otherHeld
    exact Option.some.inj (otherNamed.symm.trans named)
  rw [← shaped] at inside
  obtain ⟨value, estimated, stored⟩ :=
    Entry.cell?_fillAllAt_of_held inside success agree ⟨holder, member, held⟩
  exact ⟨holder.derivative, value, named, estimated, stored⟩

/-- A completed evaluation leaves nothing of what the matrix has held before. -/
theorem matrix_fillAllAt {scheme : Scheme} {ndim : Nat} {read : Reader} {position : Position}
    {first second : Grid} (derives : scheme ≠ .blank)
    (firstShaped : first.shape = scheme.matrixShape ndim)
    (secondShaped : second.shape = scheme.matrixShape ndim)
    (success : (Entry.fillAllAt read position (scheme.entries ndim) first).1 = .ok ()) :
    (Entry.fillAllAt read position (scheme.entries ndim) second).2 =
      (Entry.fillAllAt read position (scheme.entries ndim) first).2 := by
  have secondSuccess : (Entry.fillAllAt read position (scheme.entries ndim) second).1 = .ok () :=
    (Entry.result_fillAllAt read position (scheme.entries ndim) second first).trans success
  apply Grid.ext_cell?
  · rw [Entry.shape_fillAllAt, Entry.shape_fillAllAt, firstShaped, secondShaped]
  · intro cell inside
    rw [Entry.shape_fillAllAt, secondShaped] at inside
    obtain ⟨derivative, value, named, estimated, stored⟩ :=
      cell?_fillAllAt derives firstShaped success inside
    obtain ⟨otherDerivative, otherValue, otherNamed, otherEstimated, otherStored⟩ :=
      cell?_fillAllAt derives secondShaped secondSuccess inside
    rw [named, Option.some.injEq] at otherNamed
    subst otherNamed
    rw [estimated, Except.ok.injEq] at otherEstimated
    rw [stored, otherStored, otherEstimated]

end Scheme

end LatticeDiff
