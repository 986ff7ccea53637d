import LatticeDiff.Arg.Number

/-!
# Pools

Several objects of one type, of which one at a time is current. Members are only
ever added, and are known by the order in which they came.
-/

namespace LatticeDiff

/-- A list of members with a current one. -/
structure Pool (α : Type) where
  members : List α
  current : Nat
  current_lt : current < members.length

namespace Pool

variable {α : Type}

/-- The pool with one member. -/
def singleton (member : α) : Pool α :=
  ⟨[member], 0, by simp⟩

/-- The current member. -/
def get (pool : Pool α) : α :=
  pool.members.get ⟨pool.current, pool.current_lt⟩

/-- Replace the current member. -/
def put (pool : Pool α) (member : α) : Pool α where
  members := pool.members.set pool.current member
  current := pool.current
  current_lt := by simpa using pool.current_lt

/-- Add a member; the current one stays current. -/
def add (pool : Pool α) (member : α) : Pool α where
  members := pool.members ++ [member]
  current := pool.current
  current_lt := by
    have bound := pool.current_lt
    simp only [List.length_append, List.length_singleton]
    omega

/-- Make another member current. -/
def use (pool : Pool α) (index : Arg) : Except Fault (Pool α) := do
  let place ← index.index pool.members.length
  if bound : place < pool.members.length then return ⟨pool.members, place, bound⟩
  else throw .indexOutOfRange

@[simp] theorem get_singleton (member : α) : (singleton member).get = member := rfl

@[simp] theorem get_put (pool : Pool α) (member : α) : (pool.put member).get = member := by
  simp [get, put]

@[simp] theorem get_add (pool : Pool α) (member : α) : (pool.add member).get = pool.get := by
  simp [get, add, List.getElem_append_left pool.current_lt]

end Pool

end LatticeDiff
