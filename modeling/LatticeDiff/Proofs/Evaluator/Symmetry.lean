import LatticeDiff.Proofs.Evaluator.Run

/-!
# Symmetry of Hessians

The matrix of a Hessian evaluator is symmetric at all times, not only after an evaluation
that has succeeded. A mixed derivative is stored in both of its cells together, so an
evaluation that is broken off leaves new values beside old ones, but never in one cell of a
pair without the other.
-/

namespace LatticeDiff

namespace Grid

theorem cell?_zeros {shape : Shape} {index : List Nat}
    (inside : shape.contains index = true) : (zeros shape).cell? index = some 0.0 := by
  have bound := Shape.rank_lt inside
  simp [cell?, zeros, inside, bound]

/-- A square matrix that holds one value in both cells of every pair at the diagonal. -/
structure Symmetric (ndim : Nat) (matrix : Grid) : Prop where
  shape : matrix.shape = [ndim, ndim]
  mirrored : ∀ row < ndim, ∀ column < ndim, ∃ value,
    matrix.cell? [row, column] = some value ∧ matrix.cell? [column, row] = some value

theorem symmetric_zeros (ndim : Nat) : (zeros [ndim, ndim]).Symmetric ndim where
  shape := rfl
  mirrored := by
    intro row rowBound column columnBound
    refine ⟨0.0, cell?_zeros ?_, cell?_zeros ?_⟩
    · simp [Shape.contains, rowBound, columnBound]
    · simp [Shape.contains, rowBound, columnBound]

end Grid

namespace Entry

/-- An entry that is kept in the mirror image of each of its cells, too. -/
def Mirrored (entry : Entry) : Prop :=
  ∀ row column, [row, column] ∈ entry.cells → [column, row] ∈ entry.cells

/-- A value that is stored in a cell and in its mirror image keeps a matrix symmetric. -/
theorem symmetric_store {entry : Entry} (mirrored : entry.Mirrored) {ndim : Nat}
    {matrix : Grid} (symmetric : matrix.Symmetric ndim) (value : Float) :
    (entry.store value matrix).Symmetric ndim where
  shape := by rw [shape_store, symmetric.shape]
  mirrored := by
    intro row rowBound column columnBound
    have inside : matrix.shape.contains [row, column] = true := by
      simp [symmetric.shape, Shape.contains, rowBound, columnBound]
    have imageInside : matrix.shape.contains [column, row] = true := by
      simp [symmetric.shape, Shape.contains, rowBound, columnBound]
    rw [cell?_store inside, cell?_store imageInside]
    by_cases held : [row, column] ∈ entry.cells
    · exact ⟨value, if_pos held, if_pos (mirrored row column held)⟩
    · have imageFree : [column, row] ∉ entry.cells := fun imageHeld =>
        held (mirrored column row imageHeld)
      rw [if_neg held, if_neg imageFree]
      exact symmetric.mirrored row rowBound column columnBound

/-- Filling mirrored entries keeps a matrix symmetric, at whichever reading it is broken
off. -/
theorem symmetric_fillAllAt (read : Reader) (position : Position) {entries : List Entry}
    (mirrored : ∀ entry ∈ entries, entry.Mirrored) {ndim : Nat} {matrix : Grid}
    (symmetric : matrix.Symmetric ndim) :
    (fillAllAt read position entries matrix).2.Symmetric ndim := by
  induction entries generalizing matrix with
  | nil => exact symmetric
  | cons entry entries ih =>
      rw [fillAllAt]
      cases entry.derivative.estimateAt read position with
      | error fault => exact symmetric
      | ok value =>
          have stored := symmetric_store (mirrored entry (by simp)) symmetric value
          exact ih (fun other member => mirrored other (by simp [member])) stored

end Entry

namespace Scheme

theorem mirrored_of_mem_hessian {second first : Stencil} {ndim : Nat} {entry : Entry}
    (member : entry ∈ (hessian second first).entries ndim) : entry.Mirrored := by
  simp only [entries, hessianRow, List.mem_flatMap, List.mem_cons, List.mem_map] at member
  intro row column held
  obtain ⟨axis, _, rfl | ⟨inner, _, rfl⟩⟩ := member
  · simp_all
  · simp only [List.mem_cons, List.cons.injEq, and_true, List.not_mem_nil, or_false] at held ⊢
    rcases held with ⟨rfl, rfl⟩ | ⟨rfl, rfl⟩
    · exact .inr ⟨rfl, rfl⟩
    · exact .inl ⟨rfl, rfl⟩

end Scheme

namespace Evaluator

/-- A Hessian evaluator whose matrix is symmetric. -/
structure Balanced (ndim : Nat) (evaluator : Evaluator) : Prop where
  formed : evaluator.WellFormed
  scheme : ∃ second first, evaluator.scheme = .hessian second first
  symmetric : evaluator.matrix.Symmetric ndim

theorem Balanced.evaluate {ndim : Nat} {evaluator : Evaluator}
    (balanced : evaluator.Balanced ndim) (field : Field) :
    (evaluator.evaluate field).evaluator.matrix.Symmetric ndim := by
  obtain ⟨second, first, scheme⟩ := balanced.scheme
  have derives : evaluator.scheme ≠ .blank := by simp [scheme]
  rw [evaluate_eq derives]
  apply Entry.symmetric_fillAllAt _ _ _ balanced.symmetric
  rw [scheme]
  intro entry member
  exact Scheme.mirrored_of_mem_hessian member

theorem persistent_balanced (ndim : Nat) : Persistent (Balanced ndim) where
  perform balanced performed := by
    have moved := Moved.of_perform performed
    refine ⟨moved.alike.wellFormed balanced.formed, ?_, ?_⟩
    · rw [moved.alike.scheme]
      exact balanced.scheme
    · rw [moved.matrix_eq]
      exact balanced.symmetric
  evaluate {evaluator} field balanced := by
    have alike := evaluator.alike_evaluate field
    refine ⟨alike.wellFormed balanced.formed, ?_, balanced.evaluate field⟩
    rw [alike.scheme]
    exact balanced.scheme
  copy balanced copied := by
    have alike := alike_copy balanced.formed copied
    refine ⟨alike.wellFormed balanced.formed, ?_, ?_⟩
    · rw [alike.scheme]
      exact balanced.scheme
    · rw [matrix_copy balanced.formed copied, balanced.symmetric.shape]
      exact Grid.symmetric_zeros ndim

namespace Session

/-- At every moment the matrices of a Hessian evaluator and of its copies are symmetric:
before the first evaluation, and after any commands, among them evaluations that were broken
off. -/
theorem symmetric_run {source : Source} {order : Arg} {region? : Option Region}
    {built : Evaluator} (success : hessian source order region? = .ok built)
    (commands : List Command) :
    ∀ member ∈ ((start source built).run commands).pool.members,
      member.matrix.Symmetric source.ndim := by
  obtain ⟨second, first, _, success⟩ := hessian_eq_ok_iff.1 success
  obtain ⟨formed, scheme, _⟩ := wellFormed_of_ofScheme success
  obtain ⟨region, low, high, _, _, rfl⟩ := ofScheme_eq_ok_iff.1 success
  have initial : (fresh source (.hessian second first) region low high).Balanced source.ndim :=
    ⟨formed, ⟨second, first, scheme⟩, Grid.symmetric_zeros source.ndim⟩
  intro member found
  exact ((persistent_balanced source.ndim).run initial commands member found).symmetric

/-- At the edge of a square an evaluation is broken off at a sample for the mixed
derivative, after it has stored the first entry of the diagonal. -/
theorem symmetric_square :
    let edge : Motion := .setPosition (.ofPosition [1, 0])
    ∃ built, hessian (Source.square 3) (.int 2) none = .ok built ∧
      let session := (start (Source.square 3) built).run [.reposition edge]
      (session.step .evaluate).result = .error (.outsideArray [0, -1] [3, 3]) ∧
      (session.step .evaluate).session.current.matrix.Symmetric 2 := by
  intro edge
  let second : Stencil := ⟨.central, 2, 2, [⟨-1, 1⟩, ⟨0, -2⟩, ⟨1, 1⟩], 1, by decide⟩
  let first : Stencil := ⟨.central, 2, 1, [⟨-1, -1⟩, ⟨1, 1⟩], 2, by decide⟩
  let region : Region := ⟨[⟨0, 2, by decide⟩, ⟨0, 2, by decide⟩], by decide⟩
  let built := fresh (Source.square 3) (.hessian second first) region 1 1
  let moved : Evaluator := { built with position := [1, 0] }
  have success : hessian (Source.square 3) (.int 2) none = .ok built := rfl
  have found : Scheme.hessianFormulas (.int 2) = .ok (second, first) := rfl
  have derives : moved.scheme ≠ .blank := by simp [moved, built, fresh]
  have missed : Reader.each ((Source.square 3).field.read moved.padded)
      (moved.scheme.samplesAt moved.ndim moved.position) =
        .error (.outsideArray [0, -1] [3, 3]) := rfl
  have broken := (decides_evaluate derives (Scheme.convertible_hessian found)
    (Source.square 3).field).eq_error_iff.2 missed
  refine ⟨built, success, ?_⟩
  intro session
  have current : session.current = moved := rfl
  constructor
  · rw [result_step_evaluate, current]
    exact congrArg (Except.map fun _ => Reply.done) broken
  · exact symmetric_run success [.reposition edge, .evaluate] _ (current_mem _)

end Session

end Evaluator

end LatticeDiff
