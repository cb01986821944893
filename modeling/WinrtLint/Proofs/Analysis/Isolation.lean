import WinrtLint.Proofs.Analysis.FirstHits

/-!
# Interleaved units keep apart

Events come in any order to the units of a session, also to units that have
ended.  What matters of them for one unit is its course: its family, the nodes
that it was given before its end, and whether it has ended.  At every moment
each unit is what its own course makes of it, and the sink holds what the units
that have ended report, in the order in which they ended (`Tracks`).  One event
keeps this up (`Tracks.step`), hence so does every run (`tracks_run`).
-/

namespace WinrtLint.Session

variable {Node : Type}

/-- What can happen to the units of a session. -/
inductive Event (Node : Type) where
  | begin (number : Nat) (family : Family)
  | visit (number : Nat) (node : Node)
  | finish (number : Nat)

namespace Event

/-- The number of the unit to which an event is sent. -/
def number : Event Node → Nat
  | .begin number _ => number
  | .visit number _ => number
  | .finish number => number

/-- The number under which an event begins a unit. -/
def begun? : Event Node → Option Nat
  | .begin number _ => some number
  | .visit _ _ => none
  | .finish _ => none

end Event

section

variable (analyzer : Analyzer) (hosts : Nat → Host Node)

/-- The session after an event; one that is turned down leaves the session as it is. -/
def after (session : Session) : Event Node → Session
  | .begin number family => session.beginUnit analyzer number family
  | .visit number node =>
      match session.visit analyzer (hosts number) number node with
      | .ok (_, next) => next
      | .error _ => session
  | .finish number =>
      match session.finish number with
      | .ok (_, next) => next
      | .error _ => session

/-- The session after events, from the start. -/
def run (events : List (Event Node)) : Session :=
  events.foldl (after analyzer hosts) start

end

/-! ## Courses of units -/

/-- What a unit has been through. -/
structure Course (Node : Type) where
  family : Family
  /-- The nodes delivered to it before its end. -/
  nodes : List Node
  ended : Bool

namespace Course

/-- The course of a unit to which a node is delivered. -/
def deliver (course : Course Node) (node : Node) : Course Node :=
  if course.ended then course else { course with nodes := course.nodes ++ [node] }

/-- The course of a unit that is ended. -/
def close (course : Course Node) : Course Node :=
  { course with ended := true }

/-- The course of the unit of a number after one more event. -/
def next (number : Nat) (course : Option (Course Node)) :
    Event Node → Option (Course Node)
  | .begin other family => if other = number then some ⟨family, [], false⟩ else course
  | .visit other node => if other = number then course.map (·.deliver node) else course
  | .finish other => if other = number then course.map close else course

/-- What the unit of a course holds, apart from all others. -/
def unit (analyzer : Analyzer) (host : Host Node) (course : Course Node) :
    UnitScan :=
  if course.ended then ⟨course.family, ⟨analyzer.rule, none⟩⟩
  else analyzer.holding course.family (analyzer.findings course.family host course.nodes)

end Course

/-- The course of the unit of a number; the latest one that was begun under it counts. -/
def courseOf (number : Nat) (events : List (Event Node)) :
    Option (Course Node) :=
  events.foldl (Course.next number) none

/-- The unit that an event ends, with its course up to its end. -/
def ending? (before : List (Event Node)) :
    Event Node → Option (Nat × Course Node)
  | .begin _ _ => none
  | .visit _ _ => none
  | .finish number =>
      match courseOf number before with
      | none => none
      | some course => if course.ended then none else some (number, course.close)

/-- The units that events end after those before them, in the order of their ends. -/
def endingsAfter (before : List (Event Node)) :
    List (Event Node) → List (Nat × Course Node)
  | [] => []
  | event :: rest => (ending? before event).toList ++ endingsAfter (before ++ [event]) rest

/-- The units that events end, in the order of their ends. -/
def endings (events : List (Event Node)) : List (Nat × Course Node) :=
  endingsAfter [] events

@[simp]
theorem courseOf_concat
    (number : Nat)
    (events : List (Event Node))
    (event : Event Node) :
    courseOf number (events ++ [event]) = Course.next number (courseOf number events) event := by
  simp [courseOf]

theorem endingsAfter_concat
    (before events : List (Event Node))
    (event : Event Node) :
    endingsAfter before (events ++ [event]) =
      endingsAfter before events ++ (ending? (before ++ events) event).toList := by
  induction events generalizing before with
  | nil => simp [endingsAfter]
  | cons first rest induction => simp [endingsAfter, induction]

@[simp]
theorem endings_concat (events : List (Event Node)) (event : Event Node) :
    endings (events ++ [event]) = endings events ++ (ending? events event).toList :=
  endingsAfter_concat [] events event

theorem Course.next_of_ne
    {number : Nat}
    {event : Event Node}
    (other : event.number ≠ number)
    (course : Option (Course Node)) :
    Course.next number course event = course := by
  cases event <;> exact if_neg other

/-- Whether a unit was begun and has not ended. -/
def Course.isOpen (course : Option (Course Node)) : Bool :=
  course.any (!·.ended)

/-- Where there is no open unit, an event that begins none changes no course and ends nothing. -/
theorem Course.next_of_not_isOpen
    {event : Event Node}
    (later : event.begun? = none)
    {number : Nat}
    {course : Option (Course Node)}
    (closed : isOpen course = false) :
    Course.next number course event = course := by
  cases event with
  | begin other family => cases later
  | visit other node =>
      cases course with
      | none => simp [next]
      | some course => simp_all [next, isOpen, deliver]
  | finish other =>
      cases course with
      | none => simp [next]
      | some course =>
          have same : course.close = course := by
            cases course
            simp_all [isOpen, close]
          simp [next, same]

theorem ending?_of_not_isOpen
    {before : List (Event Node)}
    {event : Event Node}
    (closed : Course.isOpen (courseOf event.number before) = false) :
    ending? before event = none := by
  cases event with
  | begin other family => rfl
  | visit other node => rfl
  | finish other =>
      rw [Event.number] at closed
      rw [ending?]
      cases known : courseOf other before with
      | none => rfl
      | some course => simp_all [Course.isOpen]

/-- No unit that has ended is missing among the endings. -/
theorem mem_endings
    {number : Nat}
    {events : List (Event Node)}
    {course : Course Node}
    (current : courseOf number events = some course)
    (ended : course.ended = true) :
    (number, course) ∈ endings events := by
  induction events using List.reverseRecOn generalizing course with
  | nil => cases current
  | append_singleton events event induction =>
      rw [courseOf_concat] at current
      rw [endings_concat, List.mem_append]
      by_cases own : event.number = number
      · subst own
        cases event with
        | begin number family =>
            simp only [Course.next, Event.number, if_true, Option.some.injEq] at current
            subst current
            cases ended
        | visit number node =>
            simp only [Course.next, Event.number, if_true, Option.map_eq_some_iff] at current
            rcases current with ⟨earlier, known, rfl⟩
            -- Only a unit that had ended before is one that has ended after a visit.
            rw [Course.deliver] at ended ⊢
            split at ended
            · rename_i closed
              rw [if_pos closed]
              exact Or.inl (induction known closed)
            · rename_i open_
              exact absurd ended open_
        | finish number =>
            simp only [Course.next, Event.number, if_true, Option.map_eq_some_iff] at current
            rcases current with ⟨earlier, known, rfl⟩
            cases closed : earlier.ended with
            | true =>
                have same : earlier.close = earlier := by
                  rw [Course.close, ← closed]
                rw [same]
                exact Or.inl (induction known closed)
            | false =>
                right
                simp [ending?, known, closed, Event.number]
      · rw [Course.next_of_ne own] at current
        exact Or.inl (induction current ended)

theorem number_of_ending?
    {before : List (Event Node)}
    {event : Event Node}
    {number : Nat}
    {course : Course Node}
    (ends : ending? before event = some (number, course)) :
    event.number = number := by
  cases event with
  | begin other family => cases ends
  | visit other node => cases ends
  | finish other =>
      rw [ending?] at ends
      split at ends
      · cases ends
      · split at ends
        · cases ends
        · cases ends
          rfl

/-- A number is among the endings no more often than a unit was begun under it: a unit that is
open now is one of those begun that have not ended. -/
theorem count_endings (number : Nat) (events : List (Event Node)) :
    ((endings events).map (·.1)).count number +
        (Course.isOpen (courseOf number events)).toNat ≤
      (events.filterMap Event.begun?).count number := by
  induction events using List.reverseRecOn with
  | nil => simp [endings, endingsAfter, courseOf, Course.isOpen]
  | append_singleton events event induction =>
      rw [courseOf_concat, endings_concat, List.map_append, List.count_append,
        List.filterMap_append, List.count_append]
      by_cases own : event.number = number
      · subst own
        cases event with
        | begin number family =>
            simp [ending?, Course.next, Course.isOpen, Event.number, Event.begun?] at induction ⊢
            omega
        | visit number node =>
            have same : Course.isOpen ((courseOf number events).map (·.deliver node)) =
                Course.isOpen (courseOf number events) := by
              cases courseOf number events with
              | none => rfl
              | some course =>
                  cases closed : course.ended <;> simp [Course.isOpen, Course.deliver, closed]
            simpa [ending?, Course.next, Event.number, Event.begun?, same,
              List.filterMap_cons] using induction
        | finish number =>
            simp only [ending?, Course.next, Event.number, if_true] at induction ⊢
            cases known : courseOf number events with
            | none => simpa [known, Event.begun?, List.filterMap_cons] using induction
            | some course =>
                cases closed : course.ended <;>
                  simpa [known, closed, Course.isOpen, Course.close, Event.begun?,
                    List.filterMap_cons] using induction
      · rw [Course.next_of_ne own]
        have absent : ((ending? events event).toList.map (·.1)).count number = 0 := by
          cases ends : ending? events event with
          | none => rfl
          | some ending =>
              have same := number_of_ending? ends
              simp [← same, own]
        omega

/-! ## Sessions -/

theorem lookup_filter_ne
    {number other : Nat}
    (apart : other ≠ number)
    (units : List (Nat × UnitScan)) :
    (units.filter fun entry => entry.1 ≠ number).lookup other = units.lookup other := by
  induction units with
  | nil => rfl
  | cons entry rest induction =>
      rcases entry with ⟨key, unit⟩
      rw [List.filter_cons, List.lookup_cons]
      by_cases dropped : key = number
      · have missed : (other == key) = false := by simp [dropped, apart]
        rw [if_neg (by simpa using dropped), missed]
        exact induction
      · rw [if_pos (by simpa using dropped), List.lookup_cons, induction]

theorem unit?_setUnit
    (session : Session)
    (number other : Nat)
    (unit : UnitScan) :
    (session.setUnit number unit).unit? other =
      if other = number then some unit else session.unit? other := by
  rw [unit?, setUnit, List.lookup_cons]
  by_cases same : other = number
  · simp [same]
  · have missed : (other == number) = false := by simp [same]
    rw [missed, if_neg same]
    exact lookup_filter_ne same session.units

@[simp]
theorem sink_setUnit (session : Session) (number : Nat) (unit : UnitScan) :
    (session.setUnit number unit).sink = session.sink :=
  rfl

section

variable {analyzer : Analyzer} {hosts : Nat → Host Node}

/-- A node delivered to an open unit adds its finding there and nothing anywhere else. -/
theorem visit_open
    (session : Session)
    {number : Nat}
    (answers : (hosts number).Answers)
    {family : Family}
    {found : List Diagnostic}
    (unit : session.unit? number = some (analyzer.holding family found))
    (node : Node) :
    session.visit analyzer (hosts number) number node =
      .ok (analyzer.addition? family (hosts number) found node,
        session.setUnit number (analyzer.holding family
          (found ++ (analyzer.addition? family (hosts number) found node).toList))) := by
  rw [visit, unit]
  simp only [Analyzer.visit_of_answers answers found node]

theorem finish_open
    (session : Session)
    {number : Nat}
    {family : Family}
    {found : List Diagnostic}
    (unit : session.unit? number = some (analyzer.holding family found)) :
    session.finish number =
      .ok (found, { session.setUnit number ⟨family, ⟨analyzer.rule, none⟩⟩ with
        sink := session.sink ++ found }) := by
  rw [finish, unit]
  rfl

/-- A unit that has ended turns down the nodes that it would have to look at. -/
theorem visit_ended
    (session : Session)
    {number : Nat}
    {family : Family}
    (unit : session.unit? number = some ⟨family, ⟨analyzer.rule, none⟩⟩)
    (node : Node) :
    session.visit analyzer (hosts number) number node =
      if (family.category? ((hosts number).kind node)).isSome &&
          ((hosts number).location node).inSource then
        .error (.scan (.ended .ended))
      else .ok (none, session.setUnit number ⟨family, ⟨analyzer.rule, none⟩⟩) := by
  rw [visit, unit]
  simp only [Analyzer.visit]
  cases family.category? ((hosts number).kind node) with
  | none => rfl
  | some category => cases ((hosts number).location node).inSource <;> rfl

theorem finish_ended
    (session : Session)
    {number : Nat}
    {family : Family}
    (unit : session.unit? number = some ⟨family, ⟨analyzer.rule, none⟩⟩) :
    session.finish number = .error (.scan (.ended .ended)) := by
  rw [finish, unit]
  rfl

/-- Events leave every unit but their own as it is. -/
theorem unit?_after_of_ne
    (session : Session)
    {event : Event Node}
    {other : Nat}
    (apart : other ≠ event.number) :
    (session.after analyzer hosts event).unit? other = session.unit? other := by
  have kept : ∀ unit, (session.setUnit event.number unit).unit? other = session.unit? other :=
    fun unit => by rw [unit?_setUnit, if_neg apart]
  cases event with
  | begin number family => exact kept _
  | visit number node =>
      rw [after, visit]
      cases session.unit? number with
      | none => rfl
      | some unit =>
          dsimp only
          cases analyzer.visit (hosts number) unit node with
          | error error => rfl
          | ok result => exact kept _
  | finish number =>
      rw [after, finish]
      cases session.unit? number with
      | none => rfl
      | some unit =>
          dsimp only
          cases Analyzer.finish unit with
          | error error => rfl
          | ok result => exact kept _

/-- Whether two sessions have the same units and the same sink. -/
def Alike (session other : Session) : Prop :=
  (∀ number, session.unit? number = other.unit? number) ∧ session.sink = other.sink

theorem after_unknown
    (session : Session)
    {event : Event Node}
    (later : event.begun? = none)
    (unknown : session.unit? event.number = none) :
    (session.after analyzer hosts event).Alike session := by
  cases event with
  | begin number family => cases later
  | visit number node =>
      rw [Event.number] at unknown
      rw [after, visit, unknown]
      exact ⟨fun _ => rfl, rfl⟩
  | finish number =>
      rw [Event.number] at unknown
      rw [after, finish, unknown]
      exact ⟨fun _ => rfl, rfl⟩

/-- A unit that has ended takes no event that changes it, another unit or the sink. -/
theorem after_ended
    (session : Session)
    {event : Event Node}
    (later : event.begun? = none)
    {family : Family}
    (unit : session.unit? event.number = some ⟨family, ⟨analyzer.rule, none⟩⟩) :
    (session.after analyzer hosts event).Alike session := by
  cases event with
  | begin number family => cases later
  | visit number node =>
      rw [Event.number] at unit
      rw [after, visit_ended session unit]
      split
      · rename_i next accepted
        split at accepted
        · cases accepted
        · cases accepted
          refine ⟨fun other => ?_, rfl⟩
          rw [unit?_setUnit]
          split
          · rename_i same
            exact same ▸ unit.symm
          · rfl
      · exact ⟨fun _ => rfl, rfl⟩
  | finish number =>
      rw [Event.number] at unit
      rw [after, finish_ended session unit]
      exact ⟨fun _ => rfl, rfl⟩

/-! ## What a session keeps track of -/

/--
A session is what events make of it: each unit is that of its course, and the
sink holds the reports of the units that ended.
-/
structure Tracks
    (analyzer : Analyzer)
    (hosts : Nat → Host Node)
    (events : List (Event Node))
    (session : Session) : Prop where
  units : ∀ number, session.unit? number =
    (courseOf number events).map (Course.unit analyzer (hosts number))
  sink : session.sink = (endings events).flatMap fun ending =>
    analyzer.findings ending.2.family (hosts ending.1) ending.2.nodes

namespace Tracks

variable {events : List (Event Node)} {session : Session}

theorem unit_open
    (tracks : Tracks analyzer hosts events session)
    {number : Nat}
    {course : Course Node}
    (current : courseOf number events = some course)
    (isOpen : course.ended = false) :
    session.unit? number = some (analyzer.holding course.family
      (analyzer.findings course.family (hosts number) course.nodes)) := by
  rw [tracks.units, current, Option.map_some, Course.unit, isOpen]
  rfl

theorem unit_ended
    (tracks : Tracks analyzer hosts events session)
    {number : Nat}
    {course : Course Node}
    (current : courseOf number events = some course)
    (ended : course.ended = true) :
    session.unit? number = some ⟨course.family, ⟨analyzer.rule, none⟩⟩ := by
  rw [tracks.units, current, Option.map_some, Course.unit, if_pos ended]

/-- An event keeps a session on track if it changes its own unit as it changes the course of
that unit, and the sink by what it ends. -/
theorem step_of
    {event : Event Node}
    (tracks : Tracks analyzer hosts events session)
    (own : (session.after analyzer hosts event).unit? event.number =
      (Course.next event.number (courseOf event.number events) event).map
        (Course.unit analyzer (hosts event.number)))
    (sink : (session.after analyzer hosts event).sink =
      session.sink ++ (ending? events event).toList.flatMap fun ending =>
        analyzer.findings ending.2.family (hosts ending.1) ending.2.nodes) :
    Tracks analyzer hosts (events ++ [event]) (session.after analyzer hosts event) where
  units := by
    intro number
    rw [courseOf_concat]
    by_cases same : number = event.number
    · subst same
      exact own
    · rw [unit?_after_of_ne session same, Course.next_of_ne (Ne.symm same), tracks.units]
  sink := by
    rw [endings_concat, List.flatMap_append, ← tracks.sink]
    exact sink

theorem step_of_alike
    {event : Event Node}
    (tracks : Tracks analyzer hosts events session)
    (later : event.begun? = none)
    (alike : (session.after analyzer hosts event).Alike session)
    (closed : Course.isOpen (courseOf event.number events) = false) :
    Tracks analyzer hosts (events ++ [event]) (session.after analyzer hosts event) := by
  apply tracks.step_of
  · rw [alike.1, Course.next_of_not_isOpen later closed, tracks.units]
  · rw [alike.2, ending?_of_not_isOpen closed]
    simp

/-- A node delivered to an open unit keeps the session on track. -/
theorem step_visit
    {number : Nat}
    (answers : (hosts number).Answers)
    (tracks : Tracks analyzer hosts events session)
    {course : Course Node}
    (current : courseOf number events = some course)
    (isOpen : course.ended = false)
    (node : Node) :
    Tracks analyzer hosts (events ++ [.visit number node])
      (session.after analyzer hosts (.visit number node)) := by
  have moved := visit_open session answers (tracks.unit_open current isOpen) node
  apply tracks.step_of
  · rw [after, moved, Event.number, unit?_setUnit, if_pos rfl, Course.next, if_pos rfl, current,
      Option.map_some, Option.map_some, Course.deliver, if_neg (by simp [isOpen]), Course.unit,
      if_neg (by simp [isOpen]), Analyzer.findings_concat]
  · rw [after, moved]
    simp [ending?]

/-- An open unit that ends hands its report over and keeps the session on track. -/
theorem step_finish
    {number : Nat}
    (tracks : Tracks analyzer hosts events session)
    {course : Course Node}
    (current : courseOf number events = some course)
    (isOpen : course.ended = false) :
    Tracks analyzer hosts (events ++ [.finish number])
      (session.after analyzer hosts (.finish number)) := by
  have moved := finish_open session (tracks.unit_open current isOpen)
  apply tracks.step_of
  · rw [after, moved, Event.number, Course.next, if_pos rfl, current]
    exact (unit?_setUnit session number number _).trans (if_pos rfl)
  · rw [after, moved]
    simp [ending?, current, isOpen, Course.close]

theorem step
    (answers : ∀ number, (hosts number).Answers)
    (tracks : Tracks analyzer hosts events session)
    (event : Event Node) :
    Tracks analyzer hosts (events ++ [event]) (session.after analyzer hosts event) := by
  cases later : event.begun? with
  | some number =>
      cases event with
      | begin number family =>
          apply tracks.step_of
          · rw [after, beginUnit, Event.number, unit?_setUnit, if_pos rfl, Course.next, if_pos rfl]
            rfl
          · simp [after, beginUnit, ending?]
      | visit number node => cases later
      | finish number => cases later
  | none =>
      cases current : courseOf event.number events with
      | none =>
          have unknown : session.unit? event.number = none := by
            rw [tracks.units, current]
            rfl
          exact tracks.step_of_alike later (after_unknown session later unknown)
            (by simp [Course.isOpen, current])
      | some course =>
          cases closed : course.ended with
          | true =>
              exact tracks.step_of_alike later
                (after_ended session later (tracks.unit_ended current closed))
                (by simp [Course.isOpen, current, closed])
          | false =>
              cases event with
              | begin number family => cases later
              | visit number node => exact tracks.step_visit (answers number) current closed node
              | finish number => exact tracks.step_finish current closed

end Tracks

theorem tracks_run
    (answers : ∀ number, (hosts number).Answers)
    (events : List (Event Node)) :
    Tracks analyzer hosts events (run analyzer hosts events) := by
  induction events using List.reverseRecOn with
  | nil => exact ⟨fun number => rfl, rfl⟩
  | append_singleton events event induction =>
      rw [run, List.foldl_append]
      exact induction.step answers event

/--
Units keep apart whatever the order of their events.  The sink holds the
reports of the units that have ended, in the order of their ends, none missing
and none twice.  The end of a unit gives what an analysis of its own nodes
gives, and only then is anything handed to the sink.  A unit that has ended
turns down its end and every node that it would have to look at, and no event
sent to it changes anything; nor does any event change another unit.
-/
theorem units_isolated
    (analyzer : Analyzer)
    {hosts : Nat → Host Node}
    (answers : ∀ number, (hosts number).Answers)
    (events : List (Event Node)) :
    let session := run analyzer hosts events
    (∃ reports,
      List.Forall₂
        (fun (ending : Nat × Course Node) report =>
          analyzer.analyze ending.2.family (hosts ending.1) ending.2.nodes = .ok report)
        (endings events) reports ∧
      session.sink = reports.flatten) ∧
    (∀ number course, courseOf number events = some course → course.ended = true →
      (number, course) ∈ endings events) ∧
    (∀ number, ((endings events).map (·.1)).count number ≤
      (events.filterMap Event.begun?).count number) ∧
    (∀ number course, courseOf number events = some course → course.ended = false →
      (∃ report next,
        session.finish number = .ok (report, next) ∧
        analyzer.analyze course.family (hosts number) course.nodes = .ok report ∧
        next.sink = session.sink ++ report) ∧
      ∀ node, ∃ answer next,
        session.visit analyzer (hosts number) number node = .ok (answer, next) ∧
        next.sink = session.sink) ∧
    (∀ number course, courseOf number events = some course → course.ended = true →
      session.finish number = .error (.scan (.ended .ended)) ∧
      (∀ node category,
        course.family.category? ((hosts number).kind node) = some category →
        ((hosts number).location node).inSource = true →
        session.visit analyzer (hosts number) number node = .error (.scan (.ended .ended))) ∧
      ∀ event : Event Node, event.number = number → event.begun? = none →
        (session.after analyzer hosts event).Alike session) ∧
    ∀ (event : Event Node) (other : Nat), other ≠ event.number →
      (session.after analyzer hosts event).unit? other = session.unit? other := by
  intro session
  have tracks : Tracks analyzer hosts events session := tracks_run answers events
  refine ⟨?_, fun _ _ => mem_endings, ?_, ?_, ?_,
    fun _ _ apart => unit?_after_of_ne session apart⟩
  · refine ⟨(endings events).map fun ending =>
      analyzer.findings ending.2.family (hosts ending.1) ending.2.nodes, ?_, ?_⟩
    · rw [List.forall₂_map_right_iff, List.forall₂_same]
      exact fun ending _ => Analyzer.analyze_of_answers (answers ending.1) ending.2.nodes
    · rw [tracks.sink, List.flatMap_def]
  · intro number
    exact (Nat.le_add_right _ _).trans (count_endings number events)
  · intro number course current isOpen
    have unit := tracks.unit_open current isOpen
    refine ⟨⟨_, _, finish_open session unit, ?_, rfl⟩, fun node => ?_⟩
    · exact Analyzer.analyze_of_answers (answers number) course.nodes
    · exact ⟨_, _, visit_open session (answers number) unit node, rfl⟩
  · intro number course current ended
    have unit := tracks.unit_ended current ended
    refine ⟨finish_ended session unit, ?_, ?_⟩
    · intro node category known literal
      rw [visit_ended session unit, known, literal]
      rfl
    · rintro event rfl later
      exact after_ended session later unit

end

/-- Two units whose calls come in turns, with a call to one that has ended. -/
def sampleEvents : List (Event (Location × String)) :=
  [.begin 0 .csharp, .begin 1 .csharp, .visit 0 (sampleNode 7 4 "Read"),
    .visit 1 (sampleNode 7 9 "Read"), .visit 0 (sampleNode 7 20 "Read"), .finish 1,
    .visit 1 (sampleNode 8 0 "Read"), .finish 0]

/-- Each of the two units reports its own call on the line that they share, and the call after
the end is not reported. -/
theorem units_isolated_sampleEvents :
    sampleHost.Answers ∧
      (run sampleAnalyzer (fun _ => sampleHost) sampleEvents).sink =
        [sampleFinding 7 9, sampleFinding 7 4] := by
  refine ⟨answers_sampleHost, ?_⟩
  rcases (units_isolated sampleAnalyzer (fun _ => answers_sampleHost) sampleEvents).1 with
    ⟨reports, reported, sink⟩
  rw [sink]
  -- There are two endings, and each of the reports is evaluated.
  cases reported with
  | cons first rest =>
      cases rest with
      | cons second none =>
          cases none
          cases first
          cases second
          rfl

end WinrtLint.Session
