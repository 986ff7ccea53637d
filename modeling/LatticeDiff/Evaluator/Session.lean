import LatticeDiff.Evaluator.Motion
import LatticeDiff.Pool

/-!
# Evaluator sessions

A session works with any number of evaluators over one source, whose samples they
share and which may change between evaluations. Each command concerns the current
evaluator.
-/

namespace LatticeDiff

namespace Evaluator

/-- A command to the current evaluator. -/
inductive Command where
  | reposition (motion : Motion)
  | evaluate
  | copy
  | use (index : Arg)
  /-- Overwrite a sample of the source. -/
  | overwrite (index : List Arg) (value : Arg)

/-- What a command answers. -/
inductive Reply where
  | done
  | index (place : Nat)

/-- A source and the evaluators over it. -/
structure Session where
  source : Source
  pool : Pool Evaluator

/-- What a command leaves behind. -/
structure Step where
  result : Except Fault Reply
  /-- The positions read, in order. -/
  reads : List Position
  session : Session

namespace Session

/-- The current evaluator. -/
def current (session : Session) : Evaluator :=
  session.pool.get

/-- A step without any evaluator, which changes nothing if it fails. -/
def proceed (session : Session) (outcome : Except Fault (Reply × Session)) : Step :=
  match outcome with
  | .ok (reply, next) => ⟨.ok reply, [], next⟩
  | .error fault => ⟨.error fault, [], session⟩

/-- Carry out a command. An evaluation keeps what it stored before it failed. A copy is
built anew and then placed. -/
def step (session : Session) : Command → Step
  | .reposition motion =>
      let moving := session.current.reposition motion
      { result := moving.result.map fun _ => .done
        reads := moving.reads
        session := { session with pool := session.pool.put moving.evaluator } }
  | .evaluate =>
      let evaluation := session.current.evaluate session.source.field
      { result := evaluation.result.map fun _ => .done
        reads := evaluation.reads
        session := { session with pool := session.pool.put evaluation.evaluator } }
  | .copy =>
      match session.current.rebuild session.source with
      | .error fault => ⟨.error fault, [], session⟩
      | .ok fresh =>
          let placing := fresh.reposition (.setPosition (.ofPosition session.current.position))
          { result := placing.result.map fun _ => .index session.pool.members.length
            reads := placing.reads
            session := match placing.result with
              | .error _ => session
              | .ok _ => { session with pool := session.pool.add placing.evaluator } }
  | .use index => session.proceed do
      return (.done, { session with pool := ← session.pool.use index })
  | .overwrite index value => session.proceed do
      let field ← session.source.field.overwrite index value
      return (.done, { session with source := { session.source with field } })

end Session

end Evaluator

end LatticeDiff
