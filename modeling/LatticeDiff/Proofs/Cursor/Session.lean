import LatticeDiff.Cursor.Session
import LatticeDiff.Proofs.Arg.Coordinates
import LatticeDiff.Proofs.Pool
import LatticeDiff.Proofs.Region.Membership

/-!
# Sessions with cursors

Several cursors over one field, and commands to whichever of them is current. What becomes of
a cursor is decided by the commands that come while it is the current one, and those that
fail leave it where it is. It stands at a position with one coordinate per axis at all times,
so that reading can check the position against the region and against the array on every
axis.
-/

namespace LatticeDiff

namespace Cursor

variable {field : Field} {region : Region} {pool : Pool Cursor}

/-- How a command to a cursor ends, and what it makes of the cursor if it succeeds. -/
def perform (cursor : Cursor) : Command → Except Fault Cursor
  | .setPosition position => cursor.setPosition position
  | .move distance axis => cursor.move distance axis
  | .forward axis => cursor.forward axis
  | .back axis => cursor.back axis
  | .read | .copy | .use _ => .ok cursor

/-- What becomes of a cursor by a command to it. A command that fails leaves it alone. -/
def after (cursor : Cursor) (command : Command) : Cursor :=
  match cursor.perform command with
  | .ok next => next
  | .error _ => cursor

theorem after_of_ok {cursor next : Cursor} {command : Command}
    (performed : cursor.perform command = .ok next) : cursor.after command = next := by
  rw [after, performed]

theorem after_of_error {cursor : Cursor} {command : Command} {fault : Fault}
    (failed : cursor.perform command = .error fault) : cursor.after command = cursor := by
  rw [after, failed]

/-- A cursor that stands elsewhere, and is otherwise as before. -/
structure Moved (cursor moved : Cursor) : Prop where
  region : moved.region = cursor.region
  ndim : moved.ndim = cursor.ndim

theorem moved_of_move {cursor moved : Cursor} {distance axis : Arg}
    (success : cursor.move distance axis = .ok moved) : cursor.Moved moved := by
  rw [move, Outcome.bind_eq_ok] at success
  obtain ⟨along, _, success⟩ := success
  rw [Outcome.bind_eq_ok] at success
  obtain ⟨steps, _, success⟩ := success
  cases success
  exact ⟨rfl, Position.length_shift cursor.position along steps⟩

theorem moved_of_perform {cursor moved : Cursor} {command : Command}
    (success : cursor.perform command = .ok moved) : cursor.Moved moved := by
  cases command with
  | setPosition position =>
      rw [perform, setPosition, Outcome.bind_eq_ok] at success
      obtain ⟨coordinates, accepted, success⟩ := success
      cases success
      exact ⟨rfl, Arg.length_of_coordinates accepted⟩
  | move distance axis => exact moved_of_move success
  | forward axis => exact moved_of_move success
  | back axis => exact moved_of_move success
  | read | copy | use =>
      cases success
      exact ⟨rfl, rfl⟩

theorem moved_after (cursor : Cursor) (command : Command) :
    cursor.Moved (cursor.after command) := by
  cases performed : cursor.perform command with
  | ok next =>
      rw [after_of_ok performed]
      exact moved_of_perform performed
  | error fault =>
      rw [after_of_error performed]
      exact ⟨rfl, rfl⟩

/-- The commands that can move a cursor. -/
def Command.isMotion : Command → Bool
  | .setPosition _ | .move _ _ | .forward _ | .back _ => true
  | .read | .copy | .use _ => false

theorem change_eq (pool : Pool Cursor) (command : Command) :
    (match pool.put <$> pool.get.perform command with
      | .ok next => ((.ok .done : Except Fault Reply), next)
      | .error fault => (.error fault, pool)) =
    ((pool.get.perform command).map fun _ => .done, pool.put (pool.get.after command)) := by
  cases performed : pool.get.perform command with
  | ok next =>
      rw [after_of_ok performed]
      rfl
  | error fault =>
      rw [after_of_error performed, Pool.put_get]
      rfl

/-- A motion is answered as the current cursor performs it, and changes that cursor alone. -/
theorem step_motion (field : Field) (pool : Pool Cursor) {command : Command}
    (motion : command.isMotion = true) :
    step field pool command =
      ((pool.get.perform command).map fun _ => .done, pool.put (pool.get.after command)) := by
  cases command with
  | setPosition position => exact change_eq pool (.setPosition position)
  | move distance axis => exact change_eq pool (.move distance axis)
  | forward axis => exact change_eq pool (.forward axis)
  | back axis => exact change_eq pool (.back axis)
  | read | copy | use => cases motion

theorem step_use_of_ok {index : Arg} {next : Pool Cursor} (used : pool.use index = .ok next) :
    step field pool (.use index) = (.ok .done, next) := by
  rw [step, used]

theorem step_use_of_error {index : Arg} {fault : Fault} (failed : pool.use index = .error fault) :
    step field pool (.use index) = (.error fault, pool) := by
  rw [step, failed]

theorem step_eq_of_error {command : Command} {fault : Fault}
    (failed : (step field pool command).1 = .error fault) :
    (step field pool command).2 = pool := by
  cases command with
  | setPosition | move | forward | back =>
      rw [step_motion field pool rfl] at failed ⊢
      cases performed : pool.get.perform _ with
      | ok next =>
          rw [performed] at failed
          cases failed
      | error other => rw [after_of_error performed, Pool.put_get]
  | read => rfl
  | copy => cases failed
  | use index =>
      cases used : pool.use index with
      | ok next =>
          rw [step_use_of_ok used] at failed
          cases failed
      | error other => rw [step_use_of_error used]

/-- What a command makes of a session: the current cursor becomes what it does by the command,
the others stay as they are, and what is new stands where the current one does. Another cursor
becomes current only if that is the command. -/
structure Stepped (pool : Pool Cursor) (command : Command) (next : Pool Cursor) : Prop where
  members : ∃ added, next.members =
    pool.members.set pool.current (pool.get.after command) ++ added ∧
      ∀ cursor ∈ added, cursor = pool.get
  current : (∀ index, command ≠ .use index) → next.current = pool.current

/-- A command that leaves its cursor as it is keeps the members, and may add copies. -/
theorem stepped_of_members {command : Command} {next : Pool Cursor} {added : List Cursor}
    (still : pool.get.after command = pool.get) (same : next.members = pool.members ++ added)
    (copies : ∀ cursor ∈ added, cursor = pool.get)
    (current : (∀ index, command ≠ .use index) → next.current = pool.current) :
    Stepped pool command next where
  members := ⟨added, by rw [still, Pool.members_set_get, same], copies⟩
  current := current

theorem stepped_of_same {command : Command} {next : Pool Cursor}
    (still : pool.get.after command = pool.get) (same : next.members = pool.members)
    (current : (∀ index, command ≠ .use index) → next.current = pool.current) :
    Stepped pool command next :=
  stepped_of_members still (same.trans (List.append_nil _).symm)
    (fun _ member => absurd member List.not_mem_nil) current

theorem stepped_step (field : Field) (pool : Pool Cursor) (command : Command) :
    Stepped pool command (step field pool command).2 := by
  cases command with
  | setPosition | move | forward | back =>
      rw [step_motion field pool rfl]
      exact ⟨⟨[], (List.append_nil _).symm, by simp⟩, fun _ => rfl⟩
  | read => exact stepped_of_same rfl rfl fun _ => rfl
  | copy =>
      refine stepped_of_members rfl rfl ?_ fun _ => rfl
      intro cursor member
      exact List.mem_singleton.1 member
  | use index =>
      cases used : pool.use index with
      | ok next =>
          rw [step_use_of_ok used]
          exact stepped_of_same rfl (Pool.members_of_use used)
            fun noUse => absurd rfl (noUse index)
      | error fault =>
          rw [step_use_of_error used]
          exact stepped_of_same rfl rfl fun _ => rfl

/-- By one command, a cursor changes only if it is the current one. -/
theorem Stepped.getElem? {command : Command} {next : Pool Cursor}
    (stepped : Stepped pool command next) {number : Nat} {cursor : Cursor}
    (member : pool.members[number]? = some cursor) :
    next.members[number]? =
      some (if number = pool.current then cursor.after command else cursor) := by
  obtain ⟨added, members, _⟩ := stepped.members
  obtain ⟨bound, found⟩ := List.getElem?_eq_some_iff.1 member
  rw [members, List.getElem?_append_left (by rwa [List.length_set]), List.getElem?_set]
  by_cases same : number = pool.current
  · subst same
    rw [if_pos rfl, if_pos pool.current_lt, if_pos rfl, ← found]
    rfl
  · rw [if_neg (Ne.symm same), if_neg same, member]

/-- Carry out commands one after the other. -/
def run (field : Field) : Pool Cursor → List Command → Pool Cursor :=
  List.foldl fun pool command => (step field pool command).2

/-- The commands that come while a cursor, given by its number, is the current one. -/
def commandsTo (field : Field) (number : Nat) : Pool Cursor → List Command → List Command
  | _, [] => []
  | pool, command :: rest =>
      let later := commandsTo field number (step field pool command).2 rest
      if number = pool.current then command :: later else later

/-- Of the commands to a session, a cursor carries out those that come while it is the current
one, and no others. -/
theorem getElem?_run (field : Field) {number : Nat} {cursor : Cursor}
    (member : pool.members[number]? = some cursor) (commands : List Command) :
    (run field pool commands).members[number]? =
      some ((commandsTo field number pool commands).foldl after cursor) := by
  -- Which commands are the cursor's own depends on the state in which each of them comes.
  induction commands generalizing pool cursor with
  | nil => exact member
  | cons command rest ih =>
      have next := (stepped_step field pool command).getElem? member
      rw [run, List.foldl_cons, ← run, ih next, commandsTo]
      by_cases same : number = pool.current
      · simp only [if_pos same, List.foldl_cons]
      · simp only [if_neg same]

/-- A cursor of a field that reads in a region, with one coordinate for each axis. -/
structure Placed (field : Field) (region : Region) (cursor : Cursor) : Prop where
  region : cursor.region = region
  length : cursor.position.length = field.ndim

theorem Placed.of_moved {cursor moved : Cursor} (placed : Placed field region cursor)
    (same : cursor.Moved moved) : Placed field region moved where
  region := same.region.trans placed.region
  length := same.ndim.trans placed.length

theorem placed_step {command : Command} (placed : ∀ cursor ∈ pool.members,
    Placed field region cursor) :
    ∀ cursor ∈ (step field pool command).2.members, Placed field region cursor := by
  obtain ⟨added, members, copies⟩ := (stepped_step field pool command).members
  rw [members]
  intro cursor member
  rcases List.mem_append.1 member with old | new
  · rcases List.mem_or_eq_of_mem_set old with untouched | changed
    · exact placed cursor untouched
    · rw [changed]
      exact (placed _ pool.get_mem).of_moved (moved_after pool.get command)
  · rw [copies cursor new]
    exact placed _ pool.get_mem

theorem placed_run (placed : ∀ cursor ∈ pool.members, Placed field region cursor)
    (commands : List Command) :
    ∀ cursor ∈ (run field pool commands).members, Placed field region cursor := by
  induction commands generalizing pool with
  | nil => exact placed
  | cons command rest ih => exact ih (placed_step placed)

theorem step_read_of_readable (readable : field.Readable pool.get.region pool.get.position) :
    ∃ sample,
      field.grid.cells[field.shape.rank (pool.get.position.map Int.toNat)]? = some sample ∧
        step field pool .read = (.ok (.value sample), pool) := by
  have entry := Grid.at?_of_holds readable.2
  obtain ⟨sample, found⟩ := Option.isSome_iff_exists.1 (Grid.at?_isSome_iff.2 readable.2)
  refine ⟨sample, entry.symm.trans found, ?_⟩
  rw [step, Cursor.read, Field.read_of_readable readable, Field.sampleAt, found]
  rfl

theorem step_read_of_not_readable
    (unreadable : ¬field.Readable pool.get.region pool.get.position) :
    ∃ fault, field.Refuses pool.get.region pool.get.position fault ∧
      step field pool .read = (.error fault, pool) := by
  obtain ⟨fault, failed, _⟩ := Field.read_of_not_readable unreadable
  refine ⟨fault, Field.refuses_of_read failed, ?_⟩
  rw [step, Cursor.read, failed]
  rfl

/-- A session whose cursors all read in one region of a field, as it goes on from a state. -/
structure Orderly (field : Field) (region : Region) (pool : Pool Cursor) : Prop where
  /-- Every cursor has an integer coordinate for each axis. -/
  placed : ∀ cursor ∈ pool.members, Placed field region cursor
  /-- A command that fails changes no cursor, nor which of them is current. -/
  failed : ∀ command fault, (step field pool command).1 = .error fault →
    (step field pool command).2 = pool
  /-- A command changes the current cursor only, and may add copies of it. -/
  stepped : ∀ command, Stepped pool command (step field pool command).2
  /-- Each cursor can be made current by its number. -/
  used : ∀ number (bound : number < pool.members.length),
    step field pool (.use (.int number)) = (.ok .done, ⟨pool.members, number, bound⟩)
  /-- In the long run, a cursor carries out the commands that come while it is current. -/
  own : ∀ number cursor, pool.members[number]? = some cursor → ∀ commands,
    (run field pool commands).members[number]? =
      some ((commandsTo field number pool commands).foldl after cursor)
  /-- In the region and on the array, reading gives the entry at the place of the position in
  row-major order. -/
  readable : field.Readable region pool.get.position → ∃ sample,
    field.grid.cells[field.shape.rank (pool.get.position.map Int.toNat)]? = some sample ∧
      step field pool .read = (.ok (.value sample), pool)
  /-- Elsewhere, reading is refused. -/
  unreadable : ¬field.Readable region pool.get.position →
    ∃ fault, field.Refuses region pool.get.position fault ∧
      step field pool .read = (.error fault, pool)

theorem orderly_of_placed (placed : ∀ cursor ∈ pool.members, Placed field region cursor) :
    Orderly field region pool where
  placed := placed
  failed _ _ := step_eq_of_error
  stepped := stepped_step field pool
  used _ bound := step_use_of_ok (Pool.use_ofNat bound)
  own _ _ := getElem?_run field
  readable readable := by
    rw [← (placed _ pool.get_mem).region] at readable
    exact step_read_of_readable readable
  unreadable unreadable := by
    rw [← (placed _ pool.get_mem).region] at unreadable ⊢
    exact step_read_of_not_readable unreadable

/-- A field hands out a cursor for every region of its dimensions, also for one that reaches
beyond the array, and whatever commands follow, the session stays orderly. -/
theorem orderly_run (matched : region.ndim = field.ndim) (commands : List Command) :
    field.cursor (some region) = .ok ⟨region, region.low⟩ ∧
      Orderly field region (run field (.singleton ⟨region, region.low⟩) commands) := by
  constructor
  · exact if_pos matched
  -- All that is needed of the commands before is that every cursor still has its coordinates.
  · apply orderly_of_placed
    apply placed_run
    intro cursor member
    rw [List.mem_singleton.1 member]
    exact ⟨rfl, (List.length_map _).trans matched⟩

/-- In the lower corner of an array, a cursor and its copy part. The copy then stands in
the region, but one step below the first column, where nothing is read. Farther away than
4300 digits say, a machine with this limit does not get to the refusal. -/
theorem orderly_square :
    let field : Field := ⟨.zeros [3, 3], List.cons_ne_nil 3 [3]⟩
    let around : Span := ⟨-1, 3, by decide⟩
    let region : Region := ⟨[around, around], List.cons_ne_nil around [around]⟩
    let start := Pool.singleton (⟨region, region.low⟩ : Cursor)
    let later := run field start
      [.move (.int 1) (.int 0), .copy, .forward (.int (-1)), .use (.int 1)]
    let far := run field start [.move (.int (Nat.pow 10 4301)) (.int 0)]
    region.ndim = field.ndim ∧ Orderly field region later ∧
      later.members.map Cursor.position = [[0, 0], [0, -1]] ∧
      region.Holds later.get.position ∧
      (∃ fault, field.Refuses region later.get.position fault ∧
        step field later .read = (.error fault, later)) ∧
      ∃ fault, field.Refuses region far.get.position fault ∧
        step field far .read = (.error fault, far) ∧
        ∀ machine : Machine, machine.digitLimit = some 4300 →
          fault.raisedOn machine = .unwritable := by
  intro field around region start later far
  have matched : region.ndim = field.ndim := rfl
  have orderly : Orderly field region later := (orderly_run matched _).2
  have stand : later.get.position = [0, -1] := by decide +kernel
  have positions : later.members.map Cursor.position = [[0, 0], [0, -1]] := by decide +kernel
  have holds : region.Holds [0, -1] := Region.contains_iff_holds.1 rfl
  have offArray : ¬field.Readable region later.get.position := by
    intro readable
    have onArray : field.shape.Holds [0, -1] := stand ▸ readable.2
    cases Shape.index?_isSome_iff.2 onArray
  have outside : ¬field.Readable region far.get.position := by
    intro readable
    have inRegion := Region.contains_iff_holds.2 readable.1
    revert inRegion
    decide +kernel
  have faraway : Orderly field region far := (orderly_run matched _).2
  obtain ⟨fault, refuses, refused⟩ := faraway.unreadable outside
  refine ⟨matched, orderly, positions, stand ▸ holds, orderly.unreadable offArray, fault,
    refuses, refused, fun machine limited => ?_⟩
  have member : (Nat.pow 10 4301 : Int) - 1 ∈ far.get.position := by decide +kernel
  exact refuses.unwritable limited member (by decide +kernel)

end Cursor

end LatticeDiff
