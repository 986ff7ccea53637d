import LatticeDiff.Evaluator.Session
import LatticeDiff.Proofs.Arg.Coordinates
import LatticeDiff.Proofs.Evaluator.Construction
import LatticeDiff.Proofs.Evaluator.InPlace
import LatticeDiff.Proofs.Pool

/-!
# Sessions with an evaluator

What no command can change. Whatever is asked of an evaluator and its copies, all of
them keep the scheme, the regions and the dimensions of the evaluator that the session
started with: only positions, samples and the cells of matrices change.
-/

namespace LatticeDiff

theorem Grid.shape_overwrite {grid changed : Grid} {index : List Arg} {value : Arg}
    (success : grid.overwrite index value = .ok changed) : changed.shape = grid.shape := by
  unfold overwrite at success
  split at success
  · cases success
  · rw [Outcome.bind_eq_ok] at success
    obtain ⟨coordinates, _, success⟩ := success
    split at success
    · cases success
    · rw [Outcome.bind_eq_ok] at success
      obtain ⟨start, _, success⟩ := success
      rw [Outcome.bind_eq_ok] at success
      obtain ⟨cell, _, success⟩ := success
      cases success
      rfl

theorem Field.shape_overwrite {field changed : Field} {index : List Arg} {value : Arg}
    (success : field.overwrite index value = .ok changed) : changed.shape = field.shape := by
  rw [overwrite, Outcome.bind_eq_ok] at success
  obtain ⟨grid, overwritten, success⟩ := success
  rw [ofGrid] at success
  split at success
  · cases success
    exact Grid.shape_overwrite overwritten
  · cases success

namespace Evaluator

/-- Two evaluators that differ at most in their positions and in the cells of their
matrices. -/
structure Alike (original evaluator : Evaluator) : Prop where
  scheme : evaluator.scheme = original.scheme
  region : evaluator.region = original.region
  padded : evaluator.padded = original.padded
  ndim : evaluator.ndim = original.ndim
  shape : evaluator.matrix.shape = original.matrix.shape

namespace Alike

theorem refl (evaluator : Evaluator) : Alike evaluator evaluator :=
  ⟨rfl, rfl, rfl, rfl, rfl⟩

theorem trans {first second third : Evaluator} (left : Alike first second)
    (right : Alike second third) : Alike first third where
  scheme := right.scheme.trans left.scheme
  region := right.region.trans left.region
  padded := right.padded.trans left.padded
  ndim := right.ndim.trans left.ndim
  shape := right.shape.trans left.shape

theorem symm {first second : Evaluator} (alike : Alike first second) : Alike second first where
  scheme := alike.scheme.symm
  region := alike.region.symm
  padded := alike.padded.symm
  ndim := alike.ndim.symm
  shape := alike.shape.symm

theorem of_position {evaluator : Evaluator} {position : Position}
    (same : position.length = evaluator.ndim) :
    Alike evaluator { evaluator with position } :=
  ⟨rfl, rfl, rfl, same, rfl⟩

theorem wellFormed {original evaluator : Evaluator} (alike : Alike original evaluator)
    (formed : original.WellFormed) : evaluator.WellFormed where
  padded := by
    rw [alike.scheme, alike.region, alike.padded]
    exact formed.padded
  ndim := by
    rw [alike.ndim, alike.region]
    exact formed.ndim
  shape := by
    rw [alike.scheme, alike.ndim, alike.shape]
    exact formed.shape

end Alike

/-- An evaluator that is put at another position, and is otherwise as before. -/
inductive Moved (evaluator : Evaluator) : Evaluator → Prop where
  | position (position : Position) :
      position.length = evaluator.ndim → Moved evaluator { evaluator with position }

namespace Moved

variable {evaluator moved : Evaluator}

theorem alike (put : evaluator.Moved moved) : Alike evaluator moved := by
  cases put with
  | position _ same => exact .of_position same

theorem matrix_eq (put : evaluator.Moved moved) : moved.matrix = evaluator.matrix := by
  cases put with
  | position _ same => rfl

theorem of_place {position : Position} (success : evaluator.place position = .ok moved) :
    evaluator.Moved moved := by
  rw [place, Outcome.bind_eq_ok] at success
  obtain ⟨coordinates, accepted, success⟩ := success
  cases success
  exact .position coordinates (Arg.length_of_coordinates accepted)

theorem of_setPosition {position : Arg} (success : evaluator.setPosition position = .ok moved) :
    evaluator.Moved moved := by
  rw [setPosition, Outcome.bind_eq_ok] at success
  obtain ⟨coordinates, _, success⟩ := success
  exact of_place success

theorem of_move {distance axis : Arg} (success : evaluator.move distance axis = .ok moved) :
    evaluator.Moved moved := by
  rw [move, Outcome.bind_eq_ok] at success
  obtain ⟨steps, _, success⟩ := success
  rw [Outcome.bind_eq_ok] at success
  obtain ⟨along, _, success⟩ := success
  cases success
  exact .position _ (Position.length_shift evaluator.position along steps)

theorem of_perform {motion : Motion} (success : evaluator.perform motion = .ok moved) :
    evaluator.Moved moved := by
  cases motion with
  | setPosition position => exact of_setPosition success
  | setAxisPosition position axis =>
      rw [perform, setAxisPosition, Outcome.bind_eq_ok] at success
      obtain ⟨along, _, success⟩ := success
      rw [Outcome.bind_eq_ok] at success
      obtain ⟨coordinate, _, success⟩ := success
      exact of_place success
  | move distance axis => exact of_move success
  | moveBy distances =>
      rw [perform, moveBy, Outcome.bind_eq_ok] at success
      obtain ⟨steps, accepted, success⟩ := success
      cases success
      have same := Arg.length_of_coordinates accepted
      apply Moved.position
      rw [List.length_zipWith, same, ndim, Nat.min_self]
  | forward axis => exact of_move success
  | back axis => exact of_move success

end Moved

section Reposition

variable {evaluator moved : Evaluator} {motion : Motion}

/-- The cursor's way there and the motion at one stroke lead to the same, and nothing is read
or stored on the way. -/
theorem reposition_of_ok (performed : evaluator.perform motion = .ok moved) :
    evaluator.reposition motion = ⟨.ok (), [], moved⟩ := by
  rw [reposition, outcome_walk, performed]
  cases Moved.of_perform performed with
  | position _ _ => rfl

theorem reposition_of_error {fault : Fault} (failed : evaluator.perform motion = .error fault) :
    evaluator.reposition motion = ⟨.error fault, [], evaluator⟩ := by
  rw [reposition, outcome_walk, failed]
  rfl

end Reposition

theorem alike_evaluate (evaluator : Evaluator) (field : Field) :
    Alike evaluator (evaluator.evaluate field).evaluator := by
  obtain ⟨matrix, shape, same⟩ := evaluator.exists_matrix_evaluate field
  rw [same]
  exact ⟨rfl, rfl, rfl, rfl, shape⟩

theorem alike_fresh {evaluator : Evaluator} {source : Source} {low high : Nat}
    (formed : evaluator.WellFormed) (reach : evaluator.scheme.reach = .ok (low, high))
    (same : evaluator.region.ndim = source.ndim) :
    Alike evaluator (fresh source evaluator.scheme evaluator.region low high) := by
  have sameNdim : (fresh source evaluator.scheme evaluator.region low high).ndim =
      evaluator.ndim := by
    rw [ndim_fresh, formed.ndim]
  obtain ⟨formedLow, formedHigh, formedReach, padded⟩ := formed.padded
  rw [reach] at formedReach
  cases formedReach
  refine ⟨rfl, rfl, padded.symm, sameNdim, ?_⟩
  rw [(wellFormed_fresh reach same).shape, sameNdim, formed.shape]
  rfl

/-- A copy is built anew over the same region and for the same scheme, and then placed. -/
theorem exists_moved_of_copy {evaluator duplicate : Evaluator} {source : Source}
    (success : evaluator.copy source = .ok duplicate) :
    ∃ low high, evaluator.scheme.reach = .ok (low, high) ∧
      evaluator.region.ndim = source.ndim ∧
      (fresh source evaluator.scheme evaluator.region low high).Moved duplicate := by
  have rebuilt : ∃ built,
      ofScheme source evaluator.scheme (some evaluator.region) = .ok built ∧
        built.setPosition (.ofPosition evaluator.position) = .ok duplicate := by
    rw [copy, Outcome.bind_eq_ok] at success
    obtain ⟨built, success, placed⟩ := success
    refine ⟨built, ?_, placed⟩
    unfold rebuild at success
    split at success
    · cases success
    · next stencil same =>
        rw [same]
        exact (gradient_eq_ok_iff.1 success).2
    · exact success
  obtain ⟨built, success, placed⟩ := rebuilt
  obtain ⟨region, low, high, settled, reach, rfl⟩ := ofScheme_eq_ok_iff.1 success
  obtain ⟨rfl, same⟩ := Source.regionOfInterest_some_eq_ok_iff.1 settled
  exact ⟨low, high, reach, same, .of_setPosition placed⟩

theorem alike_copy {evaluator duplicate : Evaluator} {source : Source}
    (formed : evaluator.WellFormed) (success : evaluator.copy source = .ok duplicate) :
    Alike evaluator duplicate := by
  obtain ⟨low, high, reach, same, moved⟩ := exists_moved_of_copy success
  exact (alike_fresh formed reach same).trans moved.alike

theorem matrix_copy {evaluator duplicate : Evaluator} {source : Source}
    (formed : evaluator.WellFormed) (success : evaluator.copy source = .ok duplicate) :
    duplicate.matrix = Grid.zeros evaluator.matrix.shape := by
  obtain ⟨low, high, _, same, moved⟩ := exists_moved_of_copy success
  rw [moved.matrix_eq, formed.shape, formed.ndim, same]
  rfl

namespace Session

/-- What a command can turn a session into. -/
inductive Becomes (session : Session) : Session → Prop where
  | unchanged : Becomes session session
  | repositioned {motion : Motion} {moved : Evaluator} :
      session.current.perform motion = .ok moved →
      Becomes session { session with pool := session.pool.put moved }
  | evaluated :
      Becomes session { session with
        pool := session.pool.put (session.current.evaluate session.source.field).evaluator }
  | copied {duplicate : Evaluator} :
      session.current.copy session.source = .ok duplicate →
      Becomes session { session with pool := session.pool.add duplicate }
  | switched {pool : Pool Evaluator} :
      pool.members = session.pool.members → Becomes session { session with pool }
  | overwritten {field : Field} :
      field.shape = session.source.field.shape →
      Becomes session { session with source := { session.source with field } }

theorem becomes_proceed {session : Session} {outcome : Except Fault (Reply × Session)}
    (changed : ∀ reply next, outcome = .ok (reply, next) → Becomes session next) :
    Becomes session (session.proceed outcome).session := by
  cases outcome with
  | error fault => exact .unchanged
  | ok answer => exact changed answer.1 answer.2 rfl

theorem step_reposition_of_error {session : Session} {motion : Motion} {fault : Fault}
    (failed : session.current.perform motion = .error fault) :
    session.step (.reposition motion) = ⟨.error fault, [], session⟩ := by
  have same : session.pool.put session.current = session.pool := Pool.put_get session.pool
  rw [step, reposition_of_error failed, same]
  rfl

theorem step_reposition_of_ok {session : Session} {motion : Motion} {moved : Evaluator}
    (performed : session.current.perform motion = .ok moved) :
    session.step (.reposition motion) =
      ⟨.ok .done, [], { session with pool := session.pool.put moved }⟩ := by
  rw [step, reposition_of_ok performed]
  rfl

theorem step_copy_of_error {session : Session} {fault : Fault}
    (failed : session.current.copy session.source = .error fault) :
    session.step .copy = ⟨.error fault, [], session⟩ := by
  rw [copy] at failed
  rw [step]
  cases rebuilt : session.current.rebuild session.source with
  | error other =>
      rw [rebuilt] at failed
      cases failed
      rfl
  | ok fresh =>
      rw [rebuilt] at failed
      have refused : fresh.perform (.setPosition (.ofPosition session.current.position)) =
        .error fault := failed
      simp only [reposition_of_error refused]
      rfl

theorem step_copy_of_ok {session : Session} {duplicate : Evaluator}
    (copied : session.current.copy session.source = .ok duplicate) :
    session.step .copy = ⟨.ok (.index session.pool.members.length), [],
      { session with pool := session.pool.add duplicate }⟩ := by
  obtain ⟨fresh, rebuilt, placed⟩ := Outcome.bind_eq_ok.1 copied
  have performed : fresh.perform (.setPosition (.ofPosition session.current.position)) =
    .ok duplicate := placed
  simp only [step, rebuilt, reposition_of_ok performed]
  rfl

theorem reads_step_reposition (session : Session) (motion : Motion) :
    (session.step (.reposition motion)).reads = [] := by
  cases performed : session.current.perform motion with
  | error fault => rw [step_reposition_of_error performed]
  | ok moved => rw [step_reposition_of_ok performed]

theorem reads_step_copy (session : Session) : (session.step .copy).reads = [] := by
  cases copied : session.current.copy session.source with
  | error fault => rw [step_copy_of_error copied]
  | ok duplicate => rw [step_copy_of_ok copied]

theorem becomes_step (session : Session) (command : Command) :
    Becomes session (session.step command).session := by
  cases command with
  | evaluate => exact .evaluated
  | reposition motion =>
      cases performed : session.current.perform motion with
      | error fault =>
          rw [step_reposition_of_error performed]
          exact .unchanged
      | ok moved =>
          rw [step_reposition_of_ok performed]
          exact .repositioned performed
  | copy =>
      cases copied : session.current.copy session.source with
      | error fault =>
          rw [step_copy_of_error copied]
          exact .unchanged
      | ok duplicate =>
          rw [step_copy_of_ok copied]
          exact .copied copied
  | use index =>
      apply becomes_proceed
      intro reply next success
      obtain ⟨pool, used, success⟩ := Outcome.bind_eq_ok.1 success
      cases success
      exact .switched (Pool.members_of_use used)
  | overwrite index value =>
      apply becomes_proceed
      intro reply next success
      obtain ⟨field, overwritten, success⟩ := Outcome.bind_eq_ok.1 success
      cases success
      exact .overwritten (Field.shape_overwrite overwritten)

theorem result_step_evaluate (session : Session) :
    (session.step .evaluate).result =
      (session.current.evaluate session.source.field).result.map fun _ => .done := rfl

/-- A session with one evaluator. -/
def start (source : Source) (evaluator : Evaluator) : Session :=
  ⟨source, .singleton evaluator⟩

/-- The session after a sequence of commands, failed ones included. -/
def run (session : Session) (commands : List Command) : Session :=
  commands.foldl (fun session command => (session.step command).session) session

theorem current_mem (session : Session) : session.current ∈ session.pool.members :=
  session.pool.get_mem

theorem Becomes.shape {session next : Session} (becomes : session.Becomes next) :
    next.source.field.shape = session.source.field.shape := by
  cases becomes with
  | overwritten same => exact same
  | unchanged | repositioned | evaluated | copied | switched => rfl

end Session

/-- A property of evaluators that nothing ends that can be asked of one. -/
structure Persistent (property : Evaluator → Prop) : Prop where
  perform : ∀ {evaluator moved : Evaluator} {motion : Motion}, property evaluator →
    evaluator.perform motion = .ok moved → property moved
  evaluate : ∀ {evaluator : Evaluator} (field : Field), property evaluator →
    property (evaluator.evaluate field).evaluator
  copy : ∀ {evaluator duplicate : Evaluator} {source : Source}, property evaluator →
    evaluator.copy source = .ok duplicate → property duplicate

namespace Persistent

variable {property : Evaluator → Prop}

theorem becomes (persistent : Persistent property) {session next : Session}
    (all : ∀ member ∈ session.pool.members, property member)
    (becomes : session.Becomes next) : ∀ member ∈ next.pool.members, property member := by
  have current := all _ session.current_mem
  intro member found
  cases becomes with
  | unchanged | overwritten => exact all member found
  | repositioned performed =>
      rcases List.mem_or_eq_of_mem_set found with kept | rfl
      · exact all member kept
      · exact persistent.perform current performed
  | evaluated =>
      rcases List.mem_or_eq_of_mem_set found with kept | rfl
      · exact all member kept
      · exact persistent.evaluate session.source.field current
  | copied duplicated =>
      rcases List.mem_append.1 found with kept | new
      · exact all member kept
      · obtain rfl := List.mem_singleton.1 new
        exact persistent.copy current duplicated
  | switched same =>
      change member ∈ _ at found
      rw [same] at found
      exact all member found

/-- What persists in an evaluator does so in it and in all copies after any commands. -/
theorem run (persistent : Persistent property) {source : Source} {evaluator : Evaluator}
    (initial : property evaluator) (commands : List Command) :
    ∀ member ∈ ((Session.start source evaluator).run commands).pool.members,
      property member := by
  have started : ∀ member ∈ (Session.start source evaluator).pool.members,
      property member := by
    intro member found
    obtain rfl := List.mem_singleton.1 found
    exact initial
  generalize Session.start source evaluator = session at started
  induction commands generalizing session with
  | nil => exact started
  | cons command commands ih =>
      exact ih _ (persistent.becomes started (session.becomes_step command))

end Persistent

theorem persistent_alike {original : Evaluator} (formed : original.WellFormed) :
    Persistent (Alike original) where
  perform alike performed := alike.trans (Moved.of_perform performed).alike
  evaluate field alike := alike.trans (alike_evaluate _ field)
  copy alike copied := alike.trans (alike_copy (alike.wellFormed formed) copied)

namespace Session

/-- What holds of a session that has started with an evaluator, after any commands. -/
structure Sound (original : Evaluator) (session : Session) : Prop where
  ndim : session.source.ndim = original.ndim
  members : ∀ member ∈ session.pool.members, Alike original member

theorem Sound.current {original : Evaluator} {session : Session}
    (sound : Sound original session) : Alike original session.current :=
  sound.members _ session.current_mem

theorem shape_run (session : Session) (commands : List Command) :
    (session.run commands).source.field.shape = session.source.field.shape := by
  induction commands generalizing session with
  | nil => rfl
  | cons command commands ih => exact (ih _).trans (session.becomes_step command).shape

theorem ndim_run (session : Session) (commands : List Command) :
    (session.run commands).source.ndim = session.source.ndim :=
  congrArg List.length (session.shape_run commands)

theorem sound_run {source : Source} {scheme : Scheme} {region? : Option Region}
    {built : Evaluator} (success : ofScheme source scheme region? = .ok built)
    (commands : List Command) : Sound built ((start source built).run commands) := by
  obtain ⟨formed, _, same⟩ := wellFormed_of_ofScheme success
  constructor
  · rw [ndim_run]
    exact same.symm
  · exact (persistent_alike formed).run (.refl built) commands

/-- The current evaluator has what evaluations rely on. -/
theorem current_run {source : Source} {scheme : Scheme} {region? : Option Region}
    {built : Evaluator} (success : ofScheme source scheme region? = .ok built)
    (commands : List Command) :
    let current := ((start source built).run commands).current
    current.scheme = scheme ∧ current.padded = built.padded ∧
      current.ndim = source.ndim ∧
      current.matrix.shape = current.scheme.matrixShape current.ndim := by
  obtain ⟨formed, sameScheme, sameNdim⟩ := wellFormed_of_ofScheme success
  have alike := (sound_run success commands).current
  exact ⟨alike.scheme.trans sameScheme, alike.padded, alike.ndim.trans sameNdim,
    (alike.wellFormed formed).shape⟩

end Session

end Evaluator

end LatticeDiff
