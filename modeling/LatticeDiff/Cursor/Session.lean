import LatticeDiff.Cursor.Basic
import LatticeDiff.Pool

/-!
# Cursor sessions

A session works with any number of cursors over one field. Each command concerns
the current cursor; one that fails changes nothing.
-/

namespace LatticeDiff

namespace Cursor

/-- A command to the current cursor. -/
inductive Command where
  | read
  | setPosition (position : Arg)
  | move (distance axis : Arg)
  | forward (axis : Arg)
  | back (axis : Arg)
  | copy
  | use (index : Arg)

/-- What a command answers. -/
inductive Reply where
  | done
  | value (sample : Float)
  | index (place : Nat)

/-- Carry out a command. -/
def step (field : Field) (pool : Pool Cursor) (command : Command) :
    Except Fault Reply × Pool Cursor :=
  let change (outcome : Except Fault (Pool Cursor)) : Except Fault Reply × Pool Cursor :=
    match outcome with
    | .ok next => (.ok .done, next)
    | .error fault => (.error fault, pool)
  match command with
  | .read => (.value <$> pool.get.read field, pool)
  | .setPosition position => change (pool.put <$> pool.get.setPosition position)
  | .move distance axis => change (pool.put <$> pool.get.move distance axis)
  | .forward axis => change (pool.put <$> pool.get.forward axis)
  | .back axis => change (pool.put <$> pool.get.back axis)
  | .copy => (.ok (.index pool.members.length), pool.add pool.get)
  | .use index => change (pool.use index)

end Cursor

end LatticeDiff
