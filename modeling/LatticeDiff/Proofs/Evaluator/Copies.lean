import LatticeDiff.Proofs.Evaluator.Twins

/-!
# Copies

Calls to the evaluators of a session, in whichever order they come. What an evaluator
answers, and what becomes of it, is decided by the calls to it alone. So a copy and its
original do not disturb each other, and answer the same calls in the same way.
-/

namespace LatticeDiff

namespace Evaluator

/-- What an evaluator can be asked for. -/
inductive Call where
  | reposition (motion : Motion)
  | evaluate
  | copy

/-- What a call returns if it succeeds. -/
inductive Returned where
  | nothing
  | matrix (matrix : Grid)
  | evaluator (duplicate? : Option Evaluator)

/-- What is seen of a call: how it ends, where it has read, and where the evaluator stands
afterwards. -/
structure Answer where
  outcome : Except Fault Returned
  reads : List Position
  position : Position

namespace Call

def command : Call → Command
  | .reposition motion => .reposition motion
  | .evaluate => .evaluate
  | .copy => .copy

/-- What a session returns for a call that it has carried out. -/
def returned (call : Call) (session : Session) : Reply → Returned
  | .index place => .evaluator session.pool.members[place]?
  | .done =>
      match call with
      | .evaluate => .matrix session.current.matrix
      | .reposition _ | .copy => .nothing

/-- What is seen of a step that has carried out a call. -/
def answer (call : Call) (step : Step) : Answer where
  outcome := step.result.map (call.returned step.session)
  reads := step.reads
  position := step.session.current.position

end Call

/-- The items that are addressed to a number. -/
def ownOf {α : Type} (number : Nat) : List (Nat × α) → List α
  | [] => []
  | (owner, item) :: rest =>
      if owner = number then item :: ownOf number rest else ownOf number rest

theorem ownOf_map {α : Type} (number : Nat) (items : List α) :
    ownOf number (items.map fun item => (number, item)) = items := by
  induction items with
  | nil => rfl
  | cons item items ih => rw [List.map_cons, ownOf, if_pos rfl, ih]

/-- How an evaluator answers a call, and what becomes of it. -/
def respond (evaluator : Evaluator) (source : Source) : Call → Answer × Evaluator
  | .reposition motion =>
      match evaluator.perform motion with
      | .ok moved => (⟨.ok .nothing, [], moved.position⟩, moved)
      | .error fault => (⟨.error fault, [], evaluator.position⟩, evaluator)
  | .evaluate =>
      let evaluation := evaluator.evaluate source.field
      (⟨evaluation.result.map fun _ => .matrix evaluation.evaluator.matrix,
        evaluation.reads, evaluation.evaluator.position⟩, evaluation.evaluator)
  | .copy =>
      (⟨(evaluator.copy source).map fun duplicate => .evaluator (some duplicate), [],
        evaluator.position⟩, evaluator)

/-- How an evaluator answers calls one after the other, and what becomes of it. -/
def respondAll (evaluator : Evaluator) (source : Source) : List Call → List Answer × Evaluator
  | [] => ([], evaluator)
  | call :: calls =>
      let (answer, next) := evaluator.respond source call
      let (answers, last) := next.respondAll source calls
      (answer :: answers, last)

theorem respondAll_cons (evaluator : Evaluator) (source : Source) (call : Call)
    (calls : List Call) :
    evaluator.respondAll source (call :: calls) =
      ((evaluator.respond source call).1 ::
        ((evaluator.respond source call).2.respondAll source calls).1,
      ((evaluator.respond source call).2.respondAll source calls).2) := rfl

theorem alike_respond (evaluator : Evaluator) (source : Source) (call : Call) :
    Alike evaluator (evaluator.respond source call).2 := by
  cases call with
  | reposition motion =>
      rw [respond]
      cases performed : evaluator.perform motion with
      | error fault => exact .refl evaluator
      | ok moved => exact (Moved.of_perform performed).alike
  | evaluate => exact evaluator.alike_evaluate source.field
  | copy => exact .refl evaluator

namespace Twins

variable {first second : Evaluator}

/-- Twins answer a call in the same way, and are twins afterwards. -/
theorem respond (twins : Twins first second) (derives : first.scheme ≠ .blank)
    (formed : first.WellFormed) (source : Source) (call : Call) :
    (second.respond source call).1 = (first.respond source call).1 ∧
      Twins (first.respond source call).2 (second.respond source call).2 := by
  have alike : Alike (first.respond source call).2 (second.respond source call).2 :=
    ((first.alike_respond source call).symm.trans twins.alike).trans
      (second.alike_respond source call)
  cases call with
  | reposition motion =>
      have performs := perform_of_position_eq twins.position motion
      rw [Evaluator.respond, Evaluator.respond] at alike ⊢
      cases performed : first.perform motion with
      | error fault =>
          rw [performed] at performs
          simp only [performs, Except.map, twins.position]
          exact ⟨trivial, twins⟩
      | ok moved =>
          rw [performed] at performs alike
          simp only [performs, Except.map] at alike ⊢
          exact ⟨trivial, alike, rfl⟩
  | evaluate =>
      obtain ⟨sameResult, sameReads, sameMatrix⟩ := twins.evaluate derives formed source.field
      have samePosition : (second.evaluate source.field).evaluator.position =
          (first.evaluate source.field).evaluator.position := by
        rw [position_evaluate, position_evaluate, twins.position]
      refine ⟨?_, alike, samePosition⟩
      simp only [Evaluator.respond, sameResult, sameReads, samePosition]
      cases ended : (first.evaluate source.field).result with
      | error fault => rfl
      | ok done => rw [Except.map, Except.map, sameMatrix ended]
  | copy =>
      refine ⟨?_, twins⟩
      simp only [Evaluator.respond, twins.copy source, twins.position]

theorem respondAll (twins : Twins first second) (derives : first.scheme ≠ .blank)
    (formed : first.WellFormed) (source : Source) (calls : List Call) :
    (second.respondAll source calls).1 = (first.respondAll source calls).1 ∧
      Twins (first.respondAll source calls).2 (second.respondAll source calls).2 := by
  induction calls generalizing first second with
  | nil => exact ⟨rfl, twins⟩
  | cons call calls ih =>
      obtain ⟨sameAnswer, next⟩ := twins.respond derives formed source call
      have alike := first.alike_respond source call
      have nextDerives : (first.respond source call).2.scheme ≠ .blank := by
        rwa [alike.scheme]
      obtain ⟨sameAnswers, last⟩ := ih next nextDerives (alike.wellFormed formed)
      rw [respondAll_cons, respondAll_cons, sameAnswer, sameAnswers]
      exact ⟨rfl, last⟩

end Twins

namespace Session

/-- Carry out a call to the evaluator with a number. -/
def request (session : Session) (number : Nat) (call : Call) : Answer × Session :=
  let step := (session.step (.use (.int number))).session.step call.command
  (call.answer step, step.session)

/-- Carry out calls to evaluators with numbers, in their order. -/
def serve (session : Session) : List (Nat × Call) → List (Nat × Answer) × Session
  | [] => ([], session)
  | (number, call) :: requests =>
      let (answer, next) := session.request number call
      let (answers, last) := next.serve requests
      ((number, answer) :: answers, last)

theorem step_use {session : Session} {number : Nat}
    (bound : number < session.pool.members.length) :
    (session.step (.use (.int number))).session =
      { session with pool := ⟨session.pool.members, number, bound⟩ } := by
  rw [step, Pool.use_ofNat bound]
  rfl

/-- A call answers as the evaluator does that it goes to, and leaves of it what the
evaluator leaves. Other evaluators and the samples stay as they are, and new evaluators come
after them. -/
structure Requested (source : Source) (members : List Evaluator) (number : Nat)
    (responded : Answer × Evaluator) (requested : Answer × Session) : Prop where
  answer : requested.1 = responded.1
  source : requested.2.source = source
  members : ∃ added, requested.2.pool.members = members.set number responded.2 ++ added

theorem requested_step (session : Session) (call : Call) :
    Requested session.source session.pool.members session.pool.current
      (session.current.respond session.source call)
      (call.answer (session.step call.command), (session.step call.command).session) := by
  -- A call that does not change its evaluator puts it back in its own place.
  have unchanged : session.pool.members =
      session.pool.members.set session.pool.current session.current :=
    session.pool.members_set_get.symm
  cases call with
  | reposition motion =>
      rw [Call.command, respond]
      cases performed : session.current.perform motion with
      | error fault =>
          rw [step_reposition_of_error performed]
          refine ⟨rfl, rfl, [], ?_⟩
          rwa [List.append_nil]
      | ok moved =>
          rw [step_reposition_of_ok performed]
          refine ⟨?_, rfl, [], (List.append_nil _).symm⟩
          simp [Call.answer, Call.returned, current, Except.map]
  | evaluate =>
      refine ⟨?_, rfl, [], (List.append_nil _).symm⟩
      simp only [Call.answer, Call.command, respond, step, current, Pool.get_put]
      cases (session.pool.get.evaluate session.source.field).result with
      | error fault => rfl
      | ok done => simp [Call.returned, current, Except.map]
  | copy =>
      rw [Call.command, respond]
      cases copied : session.current.copy session.source with
      | error fault =>
          rw [step_copy_of_error copied]
          refine ⟨rfl, rfl, [], ?_⟩
          rwa [List.append_nil]
      | ok duplicate =>
          rw [step_copy_of_ok copied]
          refine ⟨?_, rfl, [duplicate], ?_⟩
          · have found : (session.pool.add duplicate).members[session.pool.members.length]? =
                some duplicate := List.getElem?_concat_length
            simp [Call.answer, Call.returned, current, Except.map, found]
          · rw [← unchanged]
            rfl

theorem requested_request {session : Session} {number : Nat}
    (bound : number < session.pool.members.length) (call : Call) :
    Requested session.source session.pool.members number
      (session.pool.members[number].respond session.source call)
      (session.request number call) := by
  rw [request, step_use bound]
  exact requested_step { session with pool := ⟨session.pool.members, number, bound⟩ } call

theorem Requested.getElem?_members {source : Source} {members : List Evaluator}
    {number other : Nat} {responded : Answer × Evaluator} {requested : Answer × Session}
    (asked : Requested source members number responded requested)
    (bound : other < members.length) :
    requested.2.pool.members[other]? =
      if number = other then some responded.2 else members[other]? := by
  obtain ⟨added, changed⟩ := asked.members
  rw [changed, List.getElem?_append_left (by rwa [List.length_set])]
  by_cases same : number = other
  · subst same
    rw [if_pos rfl, List.getElem?_set_self bound]
  · rw [if_neg same, List.getElem?_set_ne same]

theorem Requested.length_members {source : Source} {members : List Evaluator}
    {number : Nat} {responded : Answer × Evaluator} {requested : Answer × Session}
    (asked : Requested source members number responded requested) :
    members.length ≤ requested.2.pool.members.length := by
  obtain ⟨added, changed⟩ := asked.members
  rw [changed, List.length_append, List.length_set]
  exact Nat.le_add_right _ _

/-- Whatever is asked of others in between, an evaluator answers the calls to it as it does
when nothing else is asked, and becomes what it becomes then. -/
theorem own_serve {session : Session} {requests : List (Nat × Call)} {count number : Nat}
    (enough : count ≤ session.pool.members.length)
    (addressed : ∀ request ∈ requests, request.1 < count) (bound : number < count)
    {member : Evaluator} (here : session.pool.members[number]? = some member) :
    ownOf number (session.serve requests).1 =
        (member.respondAll session.source (ownOf number requests)).1 ∧
      (session.serve requests).2.pool.members[number]? =
        some (member.respondAll session.source (ownOf number requests)).2 := by
  -- The other requests are served in the session that the first one leaves. There the
  -- number belongs to what the call has left, or still to the same evaluator.
  induction requests generalizing session member with
  | nil => exact ⟨rfl, here⟩
  | cons request requests ih =>
      obtain ⟨target, call⟩ := request
      have targetBound : target < session.pool.members.length :=
        Nat.lt_of_lt_of_le (addressed (target, call) (by simp)) enough
      have asked := requested_request targetBound call
      have still := Nat.le_trans enough asked.length_members
      have later : ∀ request ∈ requests, request.1 < count :=
        fun other found => addressed other (List.mem_cons_of_mem _ found)
      have next := asked.getElem?_members (Nat.lt_of_lt_of_le bound enough)
      rw [serve]
      by_cases own : target = number
      · subst own
        obtain rfl : session.pool.members[target] = member := by
          rwa [List.getElem?_eq_getElem targetBound, Option.some.injEq] at here
        rw [if_pos rfl] at next
        obtain ⟨answers, becomes⟩ := ih still later next
        rw [asked.source] at answers becomes
        simp only [ownOf, if_pos, respondAll]
        exact ⟨by rw [asked.answer, answers], becomes⟩
      · rw [if_neg own, here] at next
        obtain ⟨answers, becomes⟩ := ih still later next
        rw [asked.source] at answers becomes
        simp only [ownOf, if_neg own]
        exact ⟨answers, becomes⟩

/-- The requests to a number, without the others. -/
def alone (number : Nat) (requests : List (Nat × Call)) : List (Nat × Call) :=
  (ownOf number requests).map fun call => (number, call)

/-- The evaluator with a number answers requests to several evaluators, and ends, as if those
to it were alone. -/
structure Independent (session : Session) (requests : List (Nat × Call)) (number : Nat) :
    Prop where
  answers : ownOf number (session.serve requests).1 =
    ownOf number (session.serve (alone number requests)).1
  member : (session.serve requests).2.pool.members[number]? =
    (session.serve (alone number requests)).2.pool.members[number]?

/-- Two evaluators answer requests in the same way, and stand at one position in the end. -/
structure Equivalent (session : Session) (requests : List (Nat × Call))
    (first second : Nat) : Prop where
  answers : ownOf second (session.serve requests).1 = ownOf first (session.serve requests).1
  twins : ∃ original duplicate,
    (session.serve requests).2.pool.members[first]? = some original ∧
    (session.serve requests).2.pool.members[second]? = some duplicate ∧
    Twins original duplicate

theorem independent_serve {session : Session} {requests : List (Nat × Call)}
    (addressed : ∀ request ∈ requests, request.1 < session.pool.members.length) {number : Nat}
    (bound : number < session.pool.members.length) : Independent session requests number := by
  have here := List.getElem?_eq_getElem bound
  have onlyOwn : ∀ request ∈ alone number requests, request.1 < session.pool.members.length := by
    intro request member
    obtain ⟨call, _, rfl⟩ := List.mem_map.1 member
    exact bound
  obtain ⟨answers, becomes⟩ := own_serve (Nat.le_refl _) addressed bound here
  obtain ⟨aloneAnswers, aloneBecomes⟩ := own_serve (Nat.le_refl _) onlyOwn bound here
  rw [alone, ownOf_map] at aloneAnswers aloneBecomes
  exact ⟨answers.trans aloneAnswers.symm, becomes.trans aloneBecomes.symm⟩

/-- Twins of a session answer the same calls in the same way, whatever comes in between. -/
theorem equivalent_serve {session : Session} {requests : List (Nat × Call)}
    (addressed : ∀ request ∈ requests, request.1 < session.pool.members.length)
    {first second : Nat} {original duplicate : Evaluator}
    (firstHere : session.pool.members[first]? = some original)
    (secondHere : session.pool.members[second]? = some duplicate)
    (twins : Twins original duplicate) (derives : original.scheme ≠ .blank)
    (formed : original.WellFormed) (same : ownOf first requests = ownOf second requests) :
    Equivalent session requests first second := by
  obtain ⟨firstBound, _⟩ := List.getElem?_eq_some_iff.1 firstHere
  obtain ⟨secondBound, _⟩ := List.getElem?_eq_some_iff.1 secondHere
  obtain ⟨firstAnswers, firstBecomes⟩ :=
    own_serve (Nat.le_refl _) addressed firstBound firstHere
  obtain ⟨secondAnswers, secondBecomes⟩ :=
    own_serve (Nat.le_refl _) addressed secondBound secondHere
  obtain ⟨sameAnswers, still⟩ :=
    twins.respondAll derives formed session.source (ownOf second requests)
  rw [same] at firstAnswers firstBecomes
  exact ⟨by rw [firstAnswers, secondAnswers, sameAnswers], _, _, firstBecomes, secondBecomes,
    still⟩

/-- Whatever has happened before, an evaluator whose coordinates are signed words can be
copied. From then on it and its copy, and all other evaluators, take no notice of each other,
and if it and its copy are asked for the same, they answer the same. -/
theorem copies_run {source : Source} {region? : Option Region} {evaluator : Evaluator}
    (built : Builds source region? evaluator) (commands : List Command)
    (fits : ∀ coordinate ∈ ((start source evaluator).run commands).current.position,
      Word.fitsSigned coordinate = true) :
    let session := (start source evaluator).run commands
    let original := session.pool.current
    let duplicate := session.pool.members.length
    let copied := (session.step .copy).session
    (session.step .copy).result = .ok (.index duplicate) ∧
    ∀ requests : List (Nat × Call), (∀ request ∈ requests, request.1 ≤ duplicate) →
      (∀ number ≤ duplicate, Independent copied requests number) ∧
      (ownOf original requests = ownOf duplicate requests →
        Equivalent copied requests original duplicate) := by
  intro session original duplicate copied
  obtain ⟨scheme, derives, success⟩ := built.exists_scheme
  obtain ⟨formed, sameScheme, _⟩ := wellFormed_of_ofScheme success
  have sound := sound_run success commands
  obtain ⟨copy, copies, twins⟩ := twins_copy built sound.current sound.ndim fits
  have stepped := step_copy_of_ok copies
  have members : copied.pool.members = session.pool.members ++ [copy] := by
    change (session.step .copy).session.pool.members = _
    rw [stepped]
    rfl
  have length : copied.pool.members.length = duplicate + 1 := by
    rw [members, List.length_append, List.length_singleton]
  refine ⟨by rw [stepped], ?_⟩
  intro requests among
  have addressed : ∀ request ∈ requests, request.1 < copied.pool.members.length := by
    intro request member
    rw [length]
    exact Nat.lt_succ_of_le (among request member)
  constructor
  · intro number bound
    apply independent_serve addressed
    rw [length]
    exact Nat.lt_succ_of_le bound
  · have originalHere : copied.pool.members[original]? = some session.current := by
      rw [members, List.getElem?_append_left session.pool.current_lt]
      exact List.getElem?_eq_getElem session.pool.current_lt
    have duplicateHere : copied.pool.members[duplicate]? = some copy := by
      rw [members]
      exact List.getElem?_concat_length
    apply equivalent_serve addressed originalHere duplicateHere twins
    · rwa [sound.current.scheme, sameScheme]
    · exact sound.current.wellFormed formed

/-- Over a square, a copy and its original are moved and evaluated in turns. -/
theorem copies_square :
    let stencil : Stencil := ⟨.central, 2, 1, [⟨-1, -1⟩, ⟨1, 1⟩], 2, by decide⟩
    let place : Command := .reposition (.setPosition (.ofPosition [1, 1]))
    let forward : Call := .reposition (.forward (.int 0))
    let requests := [(0, .evaluate), (1, .evaluate), (1, forward), (0, forward), (0, .evaluate),
      (1, .evaluate)]
    ∃ built, gradient (Source.square 3) stencil none = .ok built ∧
      let session := (start (Source.square 3) built).run [place]
      session.current.position = [1, 1] ∧
      (session.step .copy).result = .ok (.index 1) ∧
      Independent (session.step .copy).session requests 0 ∧
      Independent (session.step .copy).session requests 1 ∧
      Equivalent (session.step .copy).session requests 0 1 := by
  intro stencil place forward requests
  let region : Region := ⟨[⟨0, 2, by decide⟩, ⟨0, 2, by decide⟩], by decide⟩
  have success : gradient (Source.square 3) stencil none =
      .ok (fresh (Source.square 3) (.gradient stencil) region 1 1) := rfl
  refine ⟨_, success, ?_⟩
  intro session
  have current : session.current.position = [1, 1] := rfl
  have fits : ∀ coordinate ∈ session.current.position, Word.fitsSigned coordinate = true := by
    rw [current]
    decide
  obtain ⟨copied, served⟩ := copies_run (.gradient success) [place] fits
  obtain ⟨independent, equivalent⟩ := served requests (by decide)
  exact ⟨current, copied, independent 0 (by decide), independent 1 (by decide), equivalent rfl⟩

end Session

end Evaluator

end LatticeDiff
