import LatticeDiff.Proofs.Evaluator.Run

/-!
# Partial results

An evaluation that fails keeps what it has stored. Entries are estimated in a fixed order, so
the cell that it has failed for divides the matrix: cells that come earlier have the value
that an evaluation without failure stores there, and all others have what they had before.
-/

namespace LatticeDiff

namespace Derivative

/-- Estimates that are both found agree if the readers agree where both can read. -/
theorem estimateAt_eq_of_agree {first second : Reader} {derivative : Derivative}
    {position : Position} {value other : Float}
    (found : derivative.estimateAt first position = .ok value)
    (otherFound : derivative.estimateAt second position = .ok other)
    (agree : ∀ place, first.Serves place → second.Serves place →
      second place = first place) : other = value := by
  have served := ((derivative.follows_estimateAt first position).complete value found).2
  have otherServed := ((derivative.follows_estimateAt second position).complete other otherFound).2
  have same : derivative.estimateAt second position = derivative.estimateAt first position := by
    apply estimateAt_congr
    intro place member
    exact agree place (served place member) (otherServed place member)
  rw [found, otherFound, Except.ok.injEq] at same
  exact same

end Derivative

namespace Entry

/-- Filling is broken off by an entry that cannot be estimated, after the entries before it
have been filled. -/
theorem exists_of_fillAllAt_eq_error {read : Reader} {position : Position}
    {entries : List Entry} {matrix : Grid} {fault : Fault}
    (failed : (fillAllAt read position entries matrix).1 = .error fault) :
    ∃ done failing rest, entries = done ++ failing :: rest ∧
      failing.derivative.estimateAt read position = .error fault ∧
      (fillAllAt read position done matrix).1 = .ok () ∧
      (fillAllAt read position entries matrix).2 = (fillAllAt read position done matrix).2 := by
  induction entries generalizing matrix with
  | nil => cases failed
  | cons entry entries ih =>
      rw [fillAllAt] at failed ⊢
      cases estimated : entry.derivative.estimateAt read position with
      | error other =>
          simp only [estimated, Except.error.injEq] at failed
          subst failed
          exact ⟨[], entry, entries, rfl, estimated, rfl, rfl⟩
      | ok value =>
          simp only [estimated] at failed ⊢
          obtain ⟨done, failing, rest, split, failure, filled, same⟩ := ih failed
          refine ⟨entry :: done, failing, rest, ?_, failure, ?_, ?_⟩
          · rw [split, List.cons_append]
          · simpa only [fillAllAt, estimated] using filled
          · simpa only [fillAllAt, estimated] using same

end Entry

namespace Derivative

/-- The axes of a derivative, the outer one first. -/
def axes : Derivative → Nat × Nat
  | .along _ axis => (axis, axis)
  | .mixed _ outer inner => (outer, inner)

/-- Derivatives come by their outer axis, and then by their inner one. -/
def Precedes (derivative other : Derivative) : Prop :=
  derivative.axes.1 < other.axes.1 ∨
    derivative.axes.1 = other.axes.1 ∧ derivative.axes.2 < other.axes.2

theorem Precedes.irrefl (derivative : Derivative) : ¬derivative.Precedes derivative := by
  unfold Precedes
  omega

theorem Precedes.asymm {derivative other : Derivative} (precedes : derivative.Precedes other) :
    ¬other.Precedes derivative := by
  unfold Precedes at *
  omega

end Derivative

namespace Scheme

variable {scheme : Scheme} {ndim : Nat} {cell other : List Nat}

/-- Whether a cell is estimated before another one. Those of a gradient come row by row. A
Hessian has one estimate for a cell and its mirror image, and they come by the smaller axis
and then by the greater one. -/
def Earlier : Scheme → List Nat → List Nat → Prop
  | .gradient _, [row, _], [otherRow, _] => row < otherRow
  | .hessian _ _, [row, column], [otherRow, otherColumn] =>
      min row column < min otherRow otherColumn ∨
        min row column = min otherRow otherColumn ∧ max row column < max otherRow otherColumn
  | _, _, _ => False

theorem exists_row_of_mem {stencil : Stencil} {entry : Entry}
    (member : entry ∈ (gradient stencil).entries ndim) (held : cell ∈ entry.cells) :
    ∃ row < ndim, cell = [row, 0] ∧ entry.derivative.axes = (row, row) := by
  simp only [entries, gradientEntries, List.mem_map, List.mem_range] at member
  obtain ⟨axis, bound, rfl⟩ := member
  obtain rfl := List.mem_singleton.1 held
  exact ⟨axis, bound, rfl, rfl⟩

theorem exists_pair_of_mem {second first : Stencil} {entry : Entry}
    (member : entry ∈ (hessian second first).entries ndim) (held : cell ∈ entry.cells) :
    ∃ row < ndim, ∃ column < ndim, cell = [row, column] ∧
      entry.derivative.axes = (min row column, max row column) := by
  simp only [entries, hessianRow, List.mem_flatMap, List.mem_cons, List.mem_map,
    List.mem_range, List.mem_range'_1] at member
  obtain ⟨axis, bound, rfl | ⟨inner, beyond, rfl⟩⟩ := member
  · obtain rfl := List.mem_singleton.1 held
    refine ⟨axis, bound, axis, bound, rfl, ?_⟩
    rw [Nat.min_self, Nat.max_self]
    rfl
  · have innerBound : inner < ndim := by omega
    have ordered : axis ≤ inner := by omega
    simp only [List.mem_cons, List.not_mem_nil, or_false] at held
    rcases held with rfl | rfl
    · refine ⟨axis, bound, inner, innerBound, rfl, ?_⟩
      rw [Nat.min_eq_left ordered, Nat.max_eq_right ordered]
      rfl
    · refine ⟨inner, innerBound, axis, bound, rfl, ?_⟩
      rw [Nat.min_eq_right ordered, Nat.max_eq_left ordered]
      rfl

/-- Cells are estimated in the order of the derivatives of their entries. -/
theorem earlier_iff_precedes {entry otherEntry : Entry} (member : entry ∈ scheme.entries ndim)
    (otherMember : otherEntry ∈ scheme.entries ndim) (held : cell ∈ entry.cells)
    (otherHeld : other ∈ otherEntry.cells) :
    scheme.Earlier cell other ↔ entry.derivative.Precedes otherEntry.derivative := by
  cases scheme with
  | blank => simp [entries] at member
  | gradient stencil =>
      obtain ⟨row, _, rfl, axes⟩ := exists_row_of_mem member held
      obtain ⟨otherRow, _, rfl, otherAxes⟩ := exists_row_of_mem otherMember otherHeld
      rw [Derivative.Precedes, axes, otherAxes, Earlier]
      omega
  | hessian second first =>
      obtain ⟨row, _, column, _, rfl, axes⟩ := exists_pair_of_mem member held
      obtain ⟨otherRow, _, otherColumn, _, rfl, otherAxes⟩ :=
        exists_pair_of_mem otherMember otherHeld
      rw [Derivative.Precedes, axes, otherAxes, Earlier]

theorem exists_cell_of_mem {entry : Entry} (member : entry ∈ scheme.entries ndim) :
    ∃ cell ∈ entry.cells, (scheme.matrixShape ndim).contains cell = true := by
  cases scheme with
  | blank => simp [entries] at member
  | gradient stencil =>
      simp only [entries, gradientEntries, List.mem_map, List.mem_range] at member
      obtain ⟨axis, bound, rfl⟩ := member
      exact ⟨[axis, 0], by simp, by simp [matrixShape, Shape.contains, bound]⟩
  | hessian second first =>
      obtain ⟨cell, held⟩ : ∃ cell, cell ∈ entry.cells := by
        simp only [entries, hessianRow, List.mem_flatMap, List.mem_cons, List.mem_map] at member
        obtain ⟨axis, _, rfl | ⟨inner, _, rfl⟩⟩ := member
        · exact ⟨[axis, axis], List.mem_cons_self⟩
        · exact ⟨[axis, inner], List.mem_cons_self⟩
      obtain ⟨row, rowBound, column, columnBound, rfl, _⟩ := exists_pair_of_mem member held
      exact ⟨_, held, by simp [matrixShape, Shape.contains, rowBound, columnBound]⟩

theorem fst_axes_of_mem_hessianRow {second first : Stencil} {axis : Nat} {entry : Entry}
    (member : entry ∈ hessianRow second first ndim axis) : entry.derivative.axes.1 = axis := by
  simp only [hessianRow, List.mem_cons, List.mem_map] at member
  obtain rfl | ⟨inner, _, rfl⟩ := member
  · rfl
  · rfl

theorem pairwise_entries (scheme : Scheme) (ndim : Nat) :
    (scheme.entries ndim).Pairwise fun entry other =>
      entry.derivative.Precedes other.derivative := by
  cases scheme with
  | blank => exact .nil
  | gradient stencil =>
      rw [entries, gradientEntries, List.pairwise_map]
      exact List.pairwise_lt_range.imp fun less => .inl less
  | hessian second first =>
      rw [entries, List.pairwise_flatMap]
      constructor
      · intro axis _
        rw [hessianRow, List.pairwise_cons, List.pairwise_map]
        constructor
        · intro entry member
          obtain ⟨inner, beyond, rfl⟩ := List.mem_map.1 member
          exact .inr ⟨rfl, (List.mem_range'_1.1 beyond).1⟩
        · exact List.Pairwise.imp (fun less => .inr ⟨rfl, less⟩) List.pairwise_lt_range'
      · apply List.pairwise_lt_range.imp
        intro axis later less entry member other otherMember
        left
        rwa [fst_axes_of_mem_hessianRow member, fst_axes_of_mem_hessianRow otherMember]

/-- The cells that are estimated before a cell of an entry are those of the entries before
it. -/
theorem exists_held_iff_earlier {done rest : List Entry} {failing : Entry}
    (split : scheme.entries ndim = done ++ failing :: rest) (held : other ∈ failing.cells)
    (derives : scheme ≠ .blank) (inside : (scheme.matrixShape ndim).contains cell = true) :
    (∃ entry ∈ done, cell ∈ entry.cells) ↔ scheme.Earlier cell other := by
  have ordered := scheme.pairwise_entries ndim
  rw [split, List.pairwise_append, List.pairwise_cons] at ordered
  obtain ⟨_, ⟨after, _⟩, before⟩ := ordered
  have failingAmong : failing ∈ scheme.entries ndim := by simp [split]
  constructor
  · rintro ⟨entry, member, cellHeld⟩
    have among : entry ∈ scheme.entries ndim := by simp [split, member]
    exact (earlier_iff_precedes among failingAmong cellHeld held).2
      (before entry member failing List.mem_cons_self)
  · intro earlier
    obtain ⟨entry, among, cellHeld⟩ := exists_entry_of_contains derives inside
    have precedes := (earlier_iff_precedes among failingAmong cellHeld held).1 earlier
    rw [split, List.mem_append, List.mem_cons] at among
    rcases among with early | rfl | late
    · exact ⟨entry, early, cellHeld⟩
    · exact absurd precedes (Derivative.Precedes.irrefl entry.derivative)
    · exact absurd precedes (after entry late).asymm

end Scheme

namespace Evaluator

/-- What a cell is given by every evaluation that succeeds, of an evaluator of the same scheme
at the same position, over a field that has the same samples where both can be read. -/
def CompletesWith (evaluator : Evaluator) (field : Field) (cell : List Nat) (value : Float) :
    Prop :=
  ∀ (twin : Evaluator) (other : Field), twin.scheme = evaluator.scheme →
    twin.position = evaluator.position → twin.matrix.shape = evaluator.matrix.shape →
    (∀ place, field.Readable evaluator.padded place → other.Readable twin.padded place →
      other.sampleAt place = field.sampleAt place) →
    (twin.evaluate other).result = .ok () →
      (twin.evaluate other).evaluator.matrix.cell? cell = some value

/-- What an evaluation leaves in the matrix that fails for a cell. -/
structure BrokenOff (evaluator : Evaluator) (field : Field) (fault : Fault)
    (failing : List Nat) (after : Grid) : Prop where
  shape : after.shape = evaluator.matrix.shape
  inside : (evaluator.scheme.matrixShape evaluator.ndim).contains failing = true
  /-- The derivative of the cell cannot be estimated. -/
  failed : ∃ derivative, evaluator.scheme.derivativeAt? failing = some derivative ∧
    derivative.estimateAt (field.read evaluator.padded) evaluator.position = .error fault
  /-- Cells before it have the estimates of their derivatives. -/
  stored : ∀ cell, (evaluator.scheme.matrixShape evaluator.ndim).contains cell = true →
    evaluator.scheme.Earlier cell failing → ∃ derivative value,
      evaluator.scheme.derivativeAt? cell = some derivative ∧
      derivative.estimateAt (field.read evaluator.padded) evaluator.position = .ok value ∧
      after.cell? cell = some value ∧ evaluator.CompletesWith field cell value
  /-- All others have what they had before. -/
  kept : ∀ cell, (evaluator.scheme.matrixShape evaluator.ndim).contains cell = true →
    ¬evaluator.scheme.Earlier cell failing → after.cell? cell = evaluator.matrix.cell? cell

theorem completesWith_of_estimateAt {evaluator : Evaluator} {field : Field} {cell : List Nat}
    {derivative : Derivative} {value : Float} (derives : evaluator.scheme ≠ .blank)
    (shaped : evaluator.matrix.shape = evaluator.scheme.matrixShape evaluator.ndim)
    (inside : (evaluator.scheme.matrixShape evaluator.ndim).contains cell = true)
    (named : evaluator.scheme.derivativeAt? cell = some derivative)
    (estimated : derivative.estimateAt (field.read evaluator.padded) evaluator.position =
      .ok value) :
    evaluator.CompletesWith field cell value := by
  intro twin other sameScheme samePosition sameShape agree success
  have sameNdim : twin.ndim = evaluator.ndim := by rw [ndim, ndim, samePosition]
  rw [← sameScheme] at derives named inside
  rw [← sameNdim] at inside
  have twinShaped : twin.matrix.shape = twin.scheme.matrixShape twin.ndim := by
    rw [sameShape, shaped, sameScheme, sameNdim]
  obtain ⟨twinDerivative, twinValue, twinNamed, twinEstimated, stored⟩ :=
    cell?_evaluate derives twinShaped success inside
  obtain rfl := Option.some.inj (named.symm.trans twinNamed)
  rw [samePosition] at twinEstimated
  rw [stored, Derivative.estimateAt_eq_of_agree estimated twinEstimated]
  intro place served twinServed
  have readable := Field.serves_iff_readable.1 served
  have twinReadable := Field.serves_iff_readable.1 twinServed
  rw [Field.read_of_readable readable, Field.read_of_readable twinReadable,
    agree place readable twinReadable]

/-- An evaluation that fails does so for one cell, which divides the matrix. -/
theorem exists_brokenOff {evaluator : Evaluator} {field : Field} {fault : Fault}
    (derives : evaluator.scheme ≠ .blank)
    (shaped : evaluator.matrix.shape = evaluator.scheme.matrixShape evaluator.ndim)
    (failed : (evaluator.evaluate field).result = .error fault) :
    ∃ failing, evaluator.BrokenOff field fault failing
      (evaluator.evaluate field).evaluator.matrix := by
  have shape := evaluator.shape_evaluate field
  rw [evaluate_eq derives] at failed shape ⊢
  dsimp only at failed shape ⊢
  obtain ⟨done, failing, rest, split, unfound, filled, same⟩ :=
    Entry.exists_of_fillAllAt_eq_error failed
  have among : ∀ entry ∈ done, entry ∈ evaluator.scheme.entries evaluator.ndim := by
    intro entry member
    simp [split, member]
  have failingAmong : failing ∈ evaluator.scheme.entries evaluator.ndim := by
    simp [split]
  obtain ⟨cell, held, failingInside⟩ := Scheme.exists_cell_of_mem failingAmong
  have heldIff := fun other (inside : (evaluator.scheme.matrixShape evaluator.ndim).contains
      other = true) => Scheme.exists_held_iff_earlier split held derives inside
  refine ⟨cell, shape, failingInside, ?_, ?_, ?_⟩
  · exact ⟨_, Scheme.derivativeAt?_of_mem failingAmong held, unfound⟩
  · intro other inside earlier
    obtain ⟨holder, member, otherHeld⟩ := (heldIff other inside).2 earlier
    have named := Scheme.derivativeAt?_of_mem (among holder member) otherHeld
    have agree : ∀ entry ∈ done, other ∈ entry.cells →
        entry.derivative = holder.derivative := by
      intro entry entryMember entryHeld
      have entryNamed := Scheme.derivativeAt?_of_mem (among entry entryMember) entryHeld
      exact Option.some.inj (entryNamed.symm.trans named)
    have insideMatrix : evaluator.matrix.shape.contains other = true := by rwa [shaped]
    obtain ⟨value, estimated, stored⟩ :=
      Entry.cell?_fillAllAt_of_held insideMatrix filled agree ⟨holder, member, otherHeld⟩
    refine ⟨holder.derivative, value, named, estimated, ?_, ?_⟩
    · rw [same, stored]
    · exact completesWith_of_estimateAt derives shaped inside named estimated
  · intro other inside notEarlier
    rw [same]
    apply Entry.cell?_fillAllAt_of_free
    · rwa [shaped]
    · intro entry member entryHeld
      exact notEarlier ((heldIff other inside).1 ⟨entry, member, entryHeld⟩)

namespace Session

/-- Whatever has happened before, an evaluation that fails has failed for one cell of the
matrix, has stored the estimates of all cells before it, and has left the others alone. -/
theorem brokenOff_run {source : Source} {region? : Option Region} {built : Evaluator}
    (builds : Builds source region? built) (commands : List Command) :
    let session := (start source built).run commands
    ∀ fault, (session.step .evaluate).result = .error fault →
      ∃ failing, session.current.BrokenOff session.source.field fault failing
        (session.step .evaluate).session.current.matrix := by
  obtain ⟨scheme, derives, success⟩ := builds.exists_scheme
  obtain ⟨sameScheme, _, _, shaped⟩ := current_run success commands
  intro session fault failed
  have derivesStill : session.current.scheme ≠ .blank := by rwa [sameScheme]
  have failedEvaluation : (session.current.evaluate session.source.field).result =
      .error fault := by
    rw [result_step_evaluate] at failed
    cases ended : (session.current.evaluate session.source.field).result with
    | error other =>
        rw [ended] at failed
        cases failed
        rfl
    | ok done =>
        rw [ended] at failed
        cases failed
  have after : (session.step .evaluate).session.current.matrix =
      (session.current.evaluate session.source.field).evaluator.matrix := by
    simp only [step, current, Pool.get_put]
  rw [after]
  exact exists_brokenOff derivesStill shaped failedEvaluation

/-- At the edge of a square a gradient is broken off along the second axis. -/
theorem brokenOff_square :
    let stencil : Stencil := ⟨.central, 2, 1, [⟨-1, -1⟩, ⟨1, 1⟩], 2, by decide⟩
    let edge : Motion := .setPosition (.ofPosition [1, 0])
    ∃ built, gradient (Source.square 3) stencil none = .ok built ∧
      let session := (start (Source.square 3) built).run [.reposition edge]
      (session.step .evaluate).result = .error (.outsideArray [1, -1] [3, 3]) ∧
      ∃ failing, session.current.BrokenOff (Source.square 3).field
        (.outsideArray [1, -1] [3, 3]) failing
        (session.step .evaluate).session.current.matrix := by
  intro stencil edge
  let region : Region := ⟨[⟨0, 2, by decide⟩, ⟨0, 2, by decide⟩], by decide⟩
  let built := fresh (Source.square 3) (.gradient stencil) region 1 1
  let moved : Evaluator := { built with position := [1, 0] }
  have success : gradient (Source.square 3) stencil none = .ok built := rfl
  have derives : moved.scheme ≠ .blank := by simp [moved, built, fresh]
  have convertible : moved.scheme.Convertible := ⟨by decide +kernel, by decide +kernel⟩
  have missed : Reader.each ((Source.square 3).field.read moved.padded)
      (moved.scheme.samplesAt moved.ndim moved.position) =
        .error (.outsideArray [1, -1] [3, 3]) := rfl
  have broken := (decides_evaluate derives convertible (Source.square 3).field).eq_error_iff.2
    missed
  refine ⟨built, success, ?_⟩
  intro session
  have current : session.current = moved := rfl
  have failed : (session.step .evaluate).result = .error (.outsideArray [1, -1] [3, 3]) := by
    rw [result_step_evaluate, current]
    exact congrArg (Except.map fun _ => Reply.done) broken
  exact ⟨failed, brokenOff_run (.gradient success) [.reposition edge] _ failed⟩

end Session

end Evaluator

end LatticeDiff
