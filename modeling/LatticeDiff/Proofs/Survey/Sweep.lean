import LatticeDiff.Proofs.Evaluator.Placement
import LatticeDiff.Proofs.Grid.Sampling
import LatticeDiff.Proofs.Region.Listing
import LatticeDiff.Survey

/-!
# Sweeps

A sweep uses one evaluator for all positions of a region, and stores what its matrix holds in
an array that is not cleared before. It gives what as many new evaluators would, each placed
at one position and asked once: `Survey.sweepFrom_eq` says so of every stretch of a sweep. No
two positions share a cell, so that what has been stored stays.
-/

namespace LatticeDiff

namespace Grid

variable {grid part : Grid} {start rest index : List Nat}

theorem shape_ofRow (shape : Shape) (entries : Array Float) :
    (ofRow shape entries).shape = shape := by
  unfold ofRow
  split
  · rfl
  · rfl

theorem cell?_reshape {shape : Shape} (enough : grid.cells.size = shape.volume)
    (inside : shape.contains index = true) :
    (grid.reshape shape).cell? index = grid.cells[shape.rank index]? := by
  rw [reshape, ofRow, dif_pos enough, cell?, if_pos inside]

theorem shape_store : (grid.store start part).shape = grid.shape := by
  unfold store
  induction part.shape.indices generalizing grid with
  | nil => rfl
  | cons first others ih => rw [List.foldl_cons, ih, shape_set]

theorem cell?_store_append (inside : grid.shape.contains (start ++ rest) = true)
    (inPart : part.shape.contains rest = true) :
    (grid.store start part).cell? (start ++ rest) = part.cell? rest := by
  have stored : ∀ (rests : List (List Nat)) (grid : Grid),
      grid.shape.contains (start ++ rest) = true →
      (rests.foldl (fun grid other => grid.set (start ++ other) (part.entry other)) grid).cell?
        (start ++ rest) =
          if rest ∈ rests then some (part.entry rest) else grid.cell? (start ++ rest) := by
    intro rests
    induction rests with
    | nil => simp
    | cons first others ih =>
        intro grid inside
        rw [List.foldl_cons, ih _ (by rwa [shape_set])]
        by_cases later : rest ∈ others
        · simp [later]
        · by_cases same : rest = first
          · subst same
            simp [later, cell?_set_self inside]
          · simp [later, same, cell?_set_of_ne]
  rw [store, stored _ _ inside, if_pos (Shape.mem_indices.2 inPart), cell?_eq_entry inPart]

/-- Storing changes no cell whose index starts otherwise. -/
theorem cell?_store_of_ne (apart : ∀ rest, index ≠ start ++ rest) :
    (grid.store start part).cell? index = grid.cell? index := by
  unfold store
  induction part.shape.indices generalizing grid with
  | nil => rfl
  | cons first others ih => rw [List.foldl_cons, ih, cell?_set_of_ne (apart first)]

end Grid

namespace Survey

open Evaluator

section Store

variable {region : Region} {entryShape : Shape} {grid : Grid} {matrices : List Grid}

/-- Store matrices at consecutive positions of a region, from the one with the given number
on. -/
def storeFrom (region : Region) (entryShape : Shape) : Nat → Grid → List Grid → Grid
  | _, grid, [] => grid
  | number, grid, matrix :: matrices =>
      storeFrom region entryShape (number + 1)
        (grid.store (region.indexOf (region.positionAt number)) (matrix.reshape entryShape)) matrices

theorem shape_storeFrom (number : Nat) :
    (storeFrom region entryShape number grid matrices).shape = grid.shape := by
  induction matrices generalizing number grid with
  | nil => rfl
  | cons matrix matrices ih => rw [storeFrom, ih, Grid.shape_store]

/-- Positions with different numbers have no cell in common. -/
theorem append_ne_append {first second : Nat} (inFirst : first < region.size)
    (inSecond : second < region.size) (different : first ≠ second) (left right : List Nat) :
    region.indexOf (region.positionAt first) ++ left ≠
      region.indexOf (region.positionAt second) ++ right := by
  intro same
  apply different
  have lengths : ∀ number, number < region.size →
      (region.indexOf (region.positionAt number)).length = region.shape.length :=
    fun number bound =>
      Shape.length_of_contains (Region.contains_indexOf (Region.holds_positionAt bound))
  have starts := List.append_inj_left same ((lengths first inFirst).trans (lengths second inSecond).symm)
  rw [← Region.rank_indexOf_positionAt inFirst, starts, Region.rank_indexOf_positionAt inSecond]

theorem cell?_storeFrom_of_lt {number place : Nat} (before : place < number)
    (enough : number + matrices.length ≤ region.size) (entry : List Nat) :
    (storeFrom region entryShape number grid matrices).cell?
        (region.indexOf (region.positionAt place) ++ entry) =
      grid.cell? (region.indexOf (region.positionAt place) ++ entry) := by
  induction matrices generalizing number grid with
  | nil => rfl
  | cons matrix matrices ih =>
      rw [List.length_cons] at enough
      rw [storeFrom, ih (Nat.lt_succ_of_lt before) (by omega), Grid.cell?_store_of_ne]
      exact append_ne_append (by omega) (by omega) (Nat.ne_of_lt before) entry

theorem cell?_storeFrom {number place : Nat} {entry : List Nat}
    (shaped : grid.shape = region.shape ++ entryShape)
    (enough : number + matrices.length ≤ region.size) (bound : place < matrices.length)
    (inside : entryShape.contains entry = true) :
    (storeFrom region entryShape number grid matrices).cell?
        (region.indexOf (region.positionAt (number + place)) ++ entry) =
      (matrices[place].reshape entryShape).cell? entry := by
  induction matrices generalizing number grid place with
  | nil => cases bound
  | cons matrix matrices ih =>
      rw [List.length_cons] at enough bound
      rw [storeFrom]
      cases place with
      | zero =>
          have here : grid.shape.contains
              (region.indexOf (region.positionAt number) ++ entry) = true := by
            rw [shaped]
            exact Shape.contains_append_iff.2
              ⟨_, _, rfl, Region.contains_indexOf (Region.holds_positionAt (by omega)), inside⟩
          refine (cell?_storeFrom_of_lt (Nat.lt_add_one number) (by omega) entry).trans ?_
          exact Grid.cell?_store_append here (by rwa [Grid.reshape, Grid.shape_ofRow])
      | succ place =>
          have places : number + (place + 1) = number + 1 + place := by omega
          rw [places]
          exact ih (by rw [Grid.shape_store, shaped]) (by omega) (Nat.lt_of_succ_lt_succ bound)

end Store

/-- One evaluator that is moved on gives what the original would give at every position,
also after a failure: then nothing is given. -/
theorem sweepFrom_eq {original : Evaluator} (formed : original.WellFormed)
    (derives : original.scheme ≠ .blank) (field : Field) {region : Region}
    (same : region.ndim = original.ndim) (entryShape : Shape) {evaluator : Evaluator}
    (alike : Alike original evaluator) (number : Nat) (grid : Grid) (count : Nat) :
    sweepFrom field region entryShape evaluator number grid count =
      ((List.range' number count).mapM fun number =>
        original.matrixAt field (region.positionAt number)).map
          (storeFrom region entryShape number grid) := by
  induction count generalizing evaluator number grid with
  | zero => rfl
  | succ count ih =>
      have length : (region.positionAt number).length = original.ndim := by
        rw [← same]
        exact Region.length_positionAt region number
      obtain ⟨taken, takenLength, _, placed⟩ := exists_setPosition (region.positionAt number)
      have accepted := placed evaluator (length.trans alike.ndim.symm)
      let moved : Evaluator := { evaluator with position := taken }
      have movedAlike : Alike original moved := by
        apply alike.trans
        apply Alike.of_position
        rw [takenLength, length, alike.ndim]
      have next : Alike original (moved.evaluate field).evaluator :=
        movedAlike.trans (moved.alike_evaluate field)
      have here : original.matrixAt field (region.positionAt number) =
          (moved.evaluate field).result.map fun _ => (moved.evaluate field).evaluator.matrix := by
        rw [← matrixAt_of_alike alike formed derives field length]
        exact matrixAt_of_setPosition accepted field
      rw [sweepFrom, accepted, Outcome.ok_bind, List.range'_succ, List.mapM_cons, here]
      change ((moved.evaluate field).result >>= fun _ =>
        sweepFrom field region entryShape (moved.evaluate field).evaluator (number + 1)
          (grid.store (region.indexOf (region.positionAt number))
            ((moved.evaluate field).evaluator.matrix.reshape entryShape)) count) = _
      cases (moved.evaluate field).result with
      | error fault => rfl
      | ok done =>
          rw [Outcome.ok_bind, ih next, Except.map, Outcome.ok_bind]
          cases (List.range' (number + 1) count).mapM fun number =>
              original.matrixAt field (region.positionAt number) with
          | error fault => rfl
          | ok matrices => rfl

end Survey

end LatticeDiff
