import StepScript.Proofs.Block.Extent
import StepScript.Proofs.Run.ArrayView
import StepScript.Proofs.Run.Constancy

/-!
# The line of a failure

A run that fails reports the line at which its cursor stands.  `FailsAt` tells which line a failure
belongs to: that of the statement, or that of the header where a loop fails in its own work.  The
report names this line unless a counter cannot be changed at the end of a round.  The cursor then
stands at the statement that the round has visited last, and the report names that statement's line
(`Engine.run_failsAt`, `Engine.not_run_failsAt_of_increment`).
-/

namespace StepScript

/-! ## Where statements stand -/

/-- A statement is cut out of the line of a script that has its index. -/
def Line.StandsOn (lines : List Text) (statement : Line) : Prop :=
  ∃ text, lines[statement.index]? = some text ∧ statement.text <:+: text

namespace Text

theorem trim_isInfix (text : Text) : trim text <:+: text :=
  (dropEnd_isPrefix isBlank _).isInfix.trans (List.dropWhile_suffix isBlank).isInfix

theorem isSuffix_of_afterFirst? {mark : Char} {text rest : Text}
    (found : afterFirst? mark text = some rest) : rest <:+ text := by
  fun_induction afterFirst? mark text with
  | case1 => cases found
  | case2 =>
    cases found
    exact List.suffix_cons _ _
  | case3 _ _ _ ih => exact (ih found).trans (List.suffix_cons _ _)

theorem isPrefix_of_splitAtLast? {mark : Char} {text before behind : Text}
    (found : splitAtLast? mark text = some (before, behind)) : before <+: text := by
  fun_induction splitAtLast? mark text generalizing before behind with
  | case1 => cases found
  | case2 char rest front later split ih =>
    cases found
    exact (List.prefix_cons_inj char).mpr (ih split)
  | case3 =>
    cases found
    exact List.nil_prefix
  | case4 => cases found

/-- The first part in front of a mark begins a text, and the others are cut out of it. -/
theorem isPrefix_of_splitAtEach {mark : Char} {text part : Text} {parts : List Text}
    (split : splitAtEach mark text = part :: parts) :
    part <+: text ∧ ∀ other ∈ parts, other <:+: text := by
  fun_induction splitAtEach mark text generalizing part parts with
  | case1 =>
    cases split
    simp
  | case2 char rest =>
    cases split
    exact ⟨⟨rest, rfl⟩, by simp⟩
  | case3 rest first later found ih =>
    cases split
    obtain ⟨begins, inside⟩ := ih found
    refine ⟨List.nil_prefix, List.forall_mem_cons.mpr ⟨List.infix_cons begins.isInfix, ?_⟩⟩
    exact fun other member => List.infix_cons (inside other member)
  | case4 char rest first later found _ ih =>
    cases split
    obtain ⟨begins, inside⟩ := ih found
    refine ⟨(List.prefix_cons_inj char).mpr begins, ?_⟩
    exact fun other member => List.infix_cons (inside other member)

theorem isInfix_of_mem_splitAtEach {mark : Char} {text part : Text}
    (member : part ∈ splitAtEach mark text) : part <:+: text := by
  cases split : splitAtEach mark text with
  | nil => simp [split] at member
  | cons first parts =>
    obtain ⟨begins, inside⟩ := isPrefix_of_splitAtEach split
    rw [split] at member
    rcases List.mem_cons.mp member with rfl | later
    · exact begins.isInfix
    · exact inside part later

end Text

namespace Block

theorem isInfix_of_mem_headerStatements {header statement : Text} {closed : Bool}
    (member : statement ∈ headerStatements header closed) : statement <:+: header := by
  unfold headerStatements at member
  split at member
  · simp at member
  next tail opened =>
    have own : tail <:+: header :=
      (Text.isSuffix_of_afterFirst? opened).isInfix.trans (stripStatement_isInfix header)
    obtain ⟨part, piece, rfl⟩ := List.mem_map.mp (List.mem_of_mem_filter member)
    refine (Text.trim_isInfix part).trans ((Text.isInfix_of_mem_splitAtEach piece).trans ?_)
    split
    · split
      next split => exact (Text.isPrefix_of_splitAtLast? split).isInfix.trans own
      next => exact (List.dropLast_prefix tail).isInfix.trans own
    · exact own

/-- The statements of a block are cut out of the lines that the block was cut from. -/
theorem standsOn_of_mem_body {lines : List Text} {header : Line} {following : List Line}
    {block : Block} (extracted : extract header following = .ok block)
    (stand : ∀ line ∈ header :: following, line.StandsOn lines) :
    ∀ statement ∈ block.body, statement.StandsOn lines := by
  intro statement member
  unfold extract at extracted
  split at extracted
  · cases extracted
  next before close after split =>
    cases extracted
    have whole := eq_append_of_splitAtClose? split
    rcases List.mem_append.mp member with first | inner
    · obtain ⟨text, said, rfl⟩ := List.mem_map.mp first
      obtain ⟨source, found, inside⟩ := stand header List.mem_cons_self
      exact ⟨source, found, (isInfix_of_mem_headerStatements said).trans inside⟩
    · obtain ⟨line, within, kept⟩ := List.mem_filterMap.mp inner
      have among : line ∈ header :: following := by
        rw [whole]
        exact List.mem_append_left _ (List.mem_of_mem_tail within)
      obtain ⟨source, found, inside⟩ := stand line among
      obtain ⟨-, rfl⟩ := interiorStatement?_eq_some.mp kept
      exact ⟨source, found, (Text.trim_isInfix line.text).trans inside⟩

end Block

theorem Line.standsOn_of_mem {lines : List Text} {line : Line}
    (member : line ∈ numberLines 0 lines) : line.StandsOn lines :=
  ⟨line.text, (getElem?_of_mem_numberLines member).2, List.infix_rfl⟩

/-! ## Failures and their lines -/

/-- A statement or the work of a loop fails with a fault at a control point.  The index is that of
the line to which the failure belongs: the line of the statement, or that of the loop's header.  A
loop behind a condition is visited only if the condition holds; otherwise the condition is the last
statement that was visited. -/
inductive FailsAt (limits : Limits) (lines : List Text) (machine : Machine) :
    Control → Fault → Nat → Prop where
  | declaration {place : Place} {line : Line} {more : List Line} {name expression : Text}
      {keyword : Keyword} {cause : Fault} (stands : line.StandsOn lines)
      (classified : classify line.text = .ok (.declaration name expression keyword))
      (failed : (machine.visit place.inBody line).declare name expression keyword =
        .error (.fault cause)) :
      FailsAt limits lines machine (place.control (line :: more)) cause line.index
  | assignment {place : Place} {line : Line} {more : List Line} {name expression : Text}
      {index : Option Text} {cause : Fault} (stands : line.StandsOn lines)
      (classified : classify line.text = .ok (.assignment name expression index))
      (failed : (machine.visit place.inBody line).assign name expression index = .error cause) :
      FailsAt limits lines machine (place.control (line :: more)) cause line.index
  | condition {place : Place} {line : Line} {more : List Line} {condition : Text} {cause : Fault}
      (stands : line.StandsOn lines)
      (classified : classify line.text = .ok (.conditional condition))
      (failed : evaluateText condition machine.environment = .error cause) :
      FailsAt limits lines machine (place.control (line :: more)) cause line.index
  | consequence {place : Place} {line next : Line} {more rest : List Line}
      {condition name expression : Text} {index : Option Text} {value : Value} {cause : Fault}
      (stands : next.StandsOn lines)
      (judged : Step.Judged limits machine line more condition value (next :: rest))
      (classified : classify next.text = .ok (.assignment name expression index))
      (holds : value.truthy = true)
      (failed : ((machine.visit place.inBody line).visit place.inBody next).assign name expression
        index = .error cause) :
      FailsAt limits lines machine (place.control (line :: more)) cause next.index
  | passage {line next : Line} {more rest : List Line} {condition : Text} {value : Value}
      {header : LoopHeader} {cause : Fault}
      (stands : line.StandsOn lines) (standsToo : next.StandsOn lines)
      (judged : Step.Judged limits machine line more condition value (next :: rest))
      (classified : classify next.text = .ok (.loop header))
      (failed : Block.extract next rest = .error cause) :
      FailsAt limits lines machine (.top (line :: more)) cause
        (if value.truthy then next.index else line.index)
  | unclosed {line : Line} {more : List Line} {header : LoopHeader} {cause : Fault}
      (stands : line.StandsOn lines)
      (classified : classify line.text = .ok (.loop header))
      (failed : Block.extract line more = .error cause) :
      FailsAt limits lines machine (.top (line :: more)) cause line.index
  | start {line : Line} {more : List Line} {header : LoopHeader} {block : Block} {cause : Fault}
      (stands : line.StandsOn lines)
      (classified : classify line.text = .ok (.loop header))
      (extracted : Block.extract line more = .ok block)
      (failed : (machine.visit false line).enterLoop header line.index block = .error cause) :
      FailsAt limits lines machine (.top (line :: more)) cause line.index
  | test {frame : Frame} {value : Float} {after : List Line} {header : LoopHeader} {cause : Fault}
      (holds : frame.Holds lines header)
      (failed : Machine.goesOn frame value machine.environment = .error cause) :
      FailsAt limits lines machine (.test frame value after) cause frame.header
  | rounds {frame : Frame} {value : Float} {after : List Line} {header : LoopHeader}
      (holds : frame.Holds lines header)
      (goesOn : Machine.goesOn frame value machine.environment = .ok true)
      (exceeded : limits.maxLoop < ((frame.iterations + 1 : Nat) : Int)) :
      FailsAt limits lines machine (.test frame value after) (.loopLimit limits.maxLoop)
        frame.header
  | bind {frame : Frame} {value : Float} {after : List Line} {header : LoopHeader} {cause : Fault}
      (holds : frame.Holds lines header)
      (goesOn : Machine.goesOn frame value machine.environment = .ok true)
      (failed : (machine.countRound frame).1.beginRound (machine.countRound frame).2 value =
        .error cause) :
      FailsAt limits lines machine (.test frame value after) cause frame.header
  | increment {frame : Frame} {after : List Line} {header : LoopHeader} {cause : Fault}
      (holds : frame.Holds lines header)
      (failed : machine.endRound frame = .error cause) :
      FailsAt limits lines machine (.body frame [] after) cause frame.header

/-! ## Where the cursor stands -/

/-- The last visit of a machine was that of a statement in the body of a loop. -/
def Frame.LastVisited (frame : Frame) (machine : Machine) (statement : Line) : Prop :=
  statement ∈ frame.body ∧ machine.cursor = some statement.index ∧
    machine.entries.head? = some (.body (Text.trim statement.text))

/-- A round has just begun: the counter holds a number and may be written, and the cursor stands at
the header. -/
structure Frame.Begun (frame : Frame) (machine : Machine) : Prop where
  cursor : machine.cursor = some frame.header
  number : ∃ value, Environment.find? frame.counter machine.environment = some (.number value)
  writable : machine.constantLine? frame.counter = none

/-- Where the cursor stands in a loop: at the header in front of a test, and in a round also at the
statement that was visited last. -/
def Control.Points (machine : Machine) : Control → Prop
  | .top _ => True
  | .test frame _ _ => machine.cursor = some frame.header
  | .body frame _ _ => frame.Begun machine ∨ ∃ statement, frame.LastVisited machine statement

/-- All that is kept about where a machine stands in a script. -/
structure Control.Located (lines : List Text) (machine : Machine) (control : Control) : Prop where
  stands : control.Stands lines machine
  headed : control.Headed lines
  bodied : ∀ frame, control.frame? = some frame → ∀ statement ∈ frame.body,
    statement.StandsOn lines
  points : control.Points machine

/-- The counter that a round has begun with can be changed as long as nothing is visited. -/
theorem Frame.Begun.endRound {frame : Frame} {machine : Machine} (begun : frame.Begun machine) :
    ∃ changed, machine.endRound frame = .ok changed := by
  obtain ⟨value, found⟩ := begun.number
  have bound : machine.bind frame.counter (.number (value + frame.step)) none =
      .ok (machine.written frame.counter (.number (value + frame.step))) :=
    if_neg (by simp [begun.writable])
  have numeric : (Value.number value).toNumber (some frame.counter) = .ok value := rfl
  exact ⟨_, by simp only [Machine.endRound, found, numeric, bound]; rfl⟩

theorem Frame.begun_of_beginRound {frame : Frame} {value : Float} {machine changed : Machine}
    (begins : machine.beginRound frame value = .ok changed) : frame.Begun changed := by
  obtain ⟨bound, binds, rfl⟩ := Machine.exists_bind_of_beginRound begins
  obtain rfl := Machine.bind_ok binds
  refine ⟨rfl, ⟨value, Environment.find?_bind_self _ _ _⟩, ?_⟩
  change machine.constantLine? frame.counter = none
  cases noted : machine.constantLine? frame.counter with
  | none => rfl
  | some line => cases binds.symm.trans (Machine.bind_of_noted noted (by simp) _)

namespace Place

variable {place : Place} {lines : List Text} {machine : Machine} {line : Line}
  {more rest : List Line}

/-- In a round, the last visit was that of a statement of the body. -/
def Visited (machine : Machine) : Place → Prop
  | .top => True
  | .body frame _ => ∃ statement, frame.LastVisited machine statement

theorem Visited.points (visited : place.Visited machine) (rest : List Line) :
    (place.control rest).Points machine := by
  cases place with
  | top => trivial
  | body frame after => exact .inr visited

/-- Writing a variable keeps the last visit. -/
theorem Visited.written (visited : place.Visited machine) (name : Text) (value : Value)
    (constants : List (Text × Nat)) :
    place.Visited ({ machine with constants }.written name value) := by
  cases place with
  | top => trivial
  | body frame after => exact visited

theorem visited_visit (stands : (place.control (line :: more)).Stands lines machine)
    (before : Machine) : place.Visited (before.visit place.inBody line) := by
  cases place with
  | top => trivial
  | body frame after => exact ⟨line, stands.2.1.subset List.mem_cons_self, rfl, rfl⟩

theorem control_ne_end (place : Place) (line : Line) (more : List Line) (frame : Frame)
    (after : List Line) : place.control (line :: more) ≠ .body frame [] after := by
  cases place <;> simp [control]

theorem standsOn (located : (place.control more).Located lines machine) :
    ∀ line ∈ more, line.StandsOn lines := by
  intro line member
  cases place with
  | top => exact Line.standsOn_of_mem (located.stands.1.subset member)
  | body frame after => exact located.bodied frame rfl line (located.stands.2.1.subset member)

end Place

section Step

variable {limits : Limits} {lines : List Text} {machine : Machine} {control : Control}

/-- Every step keeps the cursor at the header or at the statement that was visited last. -/
theorem step_points {event : Option Event} {after : Machine} {reached : Control}
    (located : control.Located lines machine)
    (goes : step limits machine control = .go event after reached) : reached.Points after := by
  have stands := located.stands
  cases Step.rule_of_step goes with
  | @silent place line more found classified silent =>
    cases place with
    | top => trivial
    | body frame behind => exact located.points
  | ignored => exact (Place.visited_visit stands machine).points _
  | declared classified within declared =>
    obtain ⟨value, constants, -, rfl⟩ := Machine.declare_ok declared
    exact ((Place.visited_visit stands machine).written _ value constants).points _
  | assigned classified within assigned =>
    obtain ⟨value, rfl⟩ := Machine.assign_ok assigned
    exact ((Place.visited_visit stands machine).written _ value _).points _
  | conditionLast judged => exact (Place.visited_visit stands machine).points _
  | @consequenceAssigned place line next more rest condition name expression index truth changed
      judged consequence holds withinNext assigned =>
    obtain ⟨value, rfl⟩ := Machine.assign_ok assigned
    have visited := Place.visited_visit (Place.stands_judged _ judged stands)
      (machine.visit place.inBody line)
    exact (visited.written name value machine.constants).points rest
  | @consequencePassed place line next more rest condition value found judged =>
    cases value.truthy with
    | true => exact (Place.visited_visit (Place.stands_judged _ judged stands) _).points _
    | false => exact (Place.visited_visit stands machine).points _
  | consequenceBlock | loopLeft => trivial
  | loopEntered classified within extracted started =>
    obtain ⟨rfl, rfl⟩ := Machine.enterLoop_ok started
    rfl
  | roundBegun goesOn within begun => exact .inl (Frame.begun_of_beginRound begun)
  | incremented ended =>
    rw [Machine.endRound_ok ended]
    rfl

/-- Every step leads to a loop whose statements stand in the script, or out of loops. -/
theorem step_bodied {event : Option Event} {after : Machine} {reached : Control}
    (located : control.Located lines machine)
    (goes : step limits machine control = .go event after reached) :
    ∀ frame, reached.frame? = some frame → ∀ statement ∈ frame.body,
      statement.StandsOn lines := by
  have same {place : Place} {more rest : List Line}
      (located : (place.control more).Located lines machine) :
      ∀ frame, (place.control rest).frame? = some frame → ∀ statement ∈ frame.body,
        statement.StandsOn lines := by
    cases place with
    | top => exact fun _ framed => nomatch framed
    | body frame after => exact located.bodied
  cases Step.rule_of_step goes with
  | silent | ignored | declared | assigned | conditionLast | consequenceAssigned |
      consequencePassed => exact same located
  | consequenceBlock | loopLeft => exact fun _ framed => nomatch framed
  | @loopEntered line more header block _ frame value classified within extracted started =>
    obtain ⟨rfl, -⟩ := Machine.enterLoop_ok started
    intro other framed
    cases framed
    exact Block.standsOn_of_mem_body extracted (@Place.standsOn .top _ _ _ located)
  | @roundBegun frame value after bound goesOn within begun =>
    intro other framed
    cases framed
    exact located.bodied frame rfl
  | @incremented frame after changed value ended =>
    intro other framed
    cases framed
    exact located.bodied frame rfl

theorem step_located {event : Option Event} {after : Machine} {reached : Control}
    (located : control.Located lines machine)
    (goes : step limits machine control = .go event after reached) :
    reached.Located lines after where
  stands := (step_stands located.stands goes).1
  headed := step_headed located.stands located.headed goes
  bodied := step_bodied located goes
  points := step_points located goes

theorem Control.Located.counted (located : control.Located lines machine) (taken : Nat) :
    control.Located lines { machine with taken } where
  stands := located.stands.counted taken
  headed := located.headed
  bodied := located.bodied
  points := by
    have points := located.points
    cases control with
    | top => trivial
    | test => exact points
    | body frame rest after =>
      rcases points with begun | visited
      · exact .inl ⟨begun.cursor, begun.number, begun.writable⟩
      · exact .inr visited

theorem located_started (lines : List Text) :
    (Control.top (numberLines 0 lines)).Located lines .started where
  stands := Control.stands_started lines
  headed := fun _ framed => nomatch framed
  bodied := fun _ framed => nomatch framed
  points := trivial

theorem Passes.located {cancels : Snapshot → Bool} {found : Machine} {met : Control}
    (passes : Passes limits cancels machine control found met)
    (located : control.Located lines machine) : met.Located lines found := by
  induction passes with
  | here => exact located
  | silent goes _ ih => exact ih (step_located located goes)
  | shown goes _ _ ih => exact ih ((step_located located goes).counted _)

/-- A step that fails, but not for the limit of steps, fails at a statement or in the work of a
loop.  The cursor stands at the line of the failure, or at the statement that the round has visited
last if the counter cannot be changed. -/
theorem step_failsAt {stopped : Machine} {cause : Fault} (located : control.Located lines machine)
    (fails : step limits machine control = .fault stopped cause)
    (code : cause.code ≠ .stepLimit) :
    ∃ index, FailsAt limits lines machine control cause index ∧
      ((∀ frame after, control ≠ .body frame [] after) → stopped.cursor = some index) ∧
      ∀ frame after, control = .body frame [] after → stopped = machine ∧
        ∃ statement, frame.LastVisited machine statement := by
  have here {index : Nat} (failed : FailsAt limits lines machine control cause index)
      (cursor : stopped.cursor = some index)
      (inside : ∀ frame after, control ≠ .body frame [] after) :
      ∃ index, FailsAt limits lines machine control cause index ∧
        ((∀ frame after, control ≠ .body frame [] after) → stopped.cursor = some index) ∧
        ∀ frame after, control = .body frame [] after → stopped = machine ∧
          ∃ statement, frame.LastVisited machine statement :=
    ⟨index, failed, fun _ => cursor, fun frame after ended => absurd ended (inside frame after)⟩
  have headed := located.headed
  have points := located.points
  cases Step.rule_of_step fails with
  | exhausted | consequenceExhausted => exact absurd rfl code
  | @declarationFault place line more name expression keyword cause classified within failed =>
    have stand := Place.standsOn located line List.mem_cons_self
    exact here (.declaration stand classified failed) rfl (place.control_ne_end line more)
  | @assignmentFault place line more name expression index cause classified within failed =>
    have stand := Place.standsOn located line List.mem_cons_self
    exact here (.assignment stand classified failed) rfl (place.control_ne_end line more)
  | @conditionFault place line more condition cause classified within failed =>
    have stand := Place.standsOn located line List.mem_cons_self
    exact here (.condition stand classified failed) rfl (place.control_ne_end line more)
  | @consequenceFault place line next more rest condition name expression index value cause judged
      consequence holds withinNext failed =>
    have among : next ∈ line :: more :=
      List.mem_cons_of_mem line (judged.behind_isSuffix.subset List.mem_cons_self)
    have stand := Place.standsOn located next among
    exact here (.consequence stand judged consequence holds failed) rfl
      (place.control_ne_end line more)
  | @consequenceUnclosed line next more rest condition value header cause judged consequence
      withinNext unclosed =>
    have among : next ∈ line :: more :=
      List.mem_cons_of_mem line (judged.behind_isSuffix.subset List.mem_cons_self)
    have stand := @Place.standsOn .top _ _ _ located
    refine here (.passage (stand line List.mem_cons_self) (stand next among) judged consequence
      unclosed) ?_ (Place.top.control_ne_end line more)
    cases value.truthy <;> rfl
  | @loopUnclosed line more header cause classified within unclosed =>
    have stand := @Place.standsOn .top _ _ _ located line List.mem_cons_self
    exact here (.unclosed stand classified unclosed) rfl (Place.top.control_ne_end line more)
  | @loopFault line more header block cause classified within extracted failed =>
    have stand := @Place.standsOn .top _ _ _ located line List.mem_cons_self
    exact here (.start stand classified extracted failed) rfl
      (Place.top.control_ne_end line more)
  | @testFault frame value after cause failed =>
    obtain ⟨header, holds⟩ := headed frame rfl
    exact here (.test holds failed) points (by simp)
  | @roundsExhausted frame value after goesOn exceeded =>
    obtain ⟨header, holds⟩ := headed frame rfl
    exact here (.rounds holds goesOn exceeded) points (by simp)
  | @roundFault frame value after cause goesOn within failed =>
    obtain ⟨header, holds⟩ := headed frame rfl
    exact here (.bind holds goesOn failed) points (by simp)
  | @incrementFault frame after cause failed =>
    obtain ⟨header, holds⟩ := headed frame rfl
    refine ⟨frame.header, .increment holds failed,
      fun inside => absurd rfl (inside frame after), ?_⟩
    intro other behind same
    cases same
    refine ⟨rfl, ?_⟩
    rcases points with begun | visited
    · obtain ⟨changed, ended⟩ := begun.endRound
      cases failed.symm.trans ended
    · exact visited

end Step

/-! ## Runs -/

section Course

variable {limits : Limits} {cancels : Snapshot → Bool} {machine : Machine} {control : Control}

/-- A course that ends with a fault comes to the step that fails. -/
theorem Course.exists_passes {shots : List Snapshot} {stopped : Machine} {cause : Fault}
    (course : Course limits cancels machine control shots (.faulted stopped cause)) :
    ∃ found met, Passes limits cancels machine control found met ∧
      step limits found met = .fault stopped cause := by
  generalize ends : Ending.faulted stopped cause = ending at course
  induction course with
  | silent goes _ ih =>
    obtain ⟨found, met, passes, fails⟩ := ih ends
    exact ⟨found, met, .silent goes passes, fails⟩
  | shown goes kept _ ih =>
    obtain ⟨found, met, passes, fails⟩ := ih ends
    exact ⟨found, met, .shown goes kept passes, fails⟩
  | faulted fails =>
    cases ends
    exact ⟨_, _, .here _ _, fails⟩
  | cancelled | finished | broken => cases ends

/-- A run comes to one step that fails at most. -/
theorem Passes.eq_of_fault {found foundToo stopped stoppedToo : Machine} {met metToo : Control}
    {cause causeToo : Fault} (passes : Passes limits cancels machine control found met)
    (fails : step limits found met = .fault stopped cause)
    (passesToo : Passes limits cancels machine control foundToo metToo)
    (failsToo : step limits foundToo metToo = .fault stoppedToo causeToo) :
    found = foundToo ∧ met = metToo := by
  induction passes with
  | here =>
    cases passesToo with
    | here => exact ⟨rfl, rfl⟩
    | silent goes | shown goes => cases fails.symm.trans goes
  | silent goes _ ih =>
    cases passesToo with
    | here => cases failsToo.symm.trans goes
    | silent goesToo rest =>
      cases goes.symm.trans goesToo
      exact ih fails rest
    | shown goesToo => cases goes.symm.trans goesToo
  | shown goes _ _ ih =>
    cases passesToo with
    | here => cases failsToo.symm.trans goes
    | shown goesToo _ rest =>
      cases goes.symm.trans goesToo
      exact ih fails rest
    | silent goesToo => cases goes.symm.trans goesToo

end Course

theorem FailsAt.exists_line {limits : Limits} {lines : List Text} {machine : Machine}
    {control : Control} {cause : Fault} {index : Nat}
    (fails : FailsAt limits lines machine control cause index) :
    ∃ text, lines[index]? = some text := by
  have known {line : Line} (stands : line.StandsOn lines) :
      ∃ text, lines[line.index]? = some text := stands.imp fun _ found => found.1
  cases fails with
  | declaration stands | assignment stands | condition stands | consequence stands
  | unclosed stands | start stands => exact known stands
  | @passage _ _ _ _ _ value _ _ stands standsToo =>
    cases value.truthy with
    | true => exact known standsToo
    | false => exact known stands
  | test holds | rounds holds | bind holds | increment holds =>
    exact holds.standsAt.imp fun _ found => found.1

theorem FailsAt.index_of_round {limits : Limits} {lines : List Text} {machine : Machine}
    {frame : Frame} {after : List Line} {cause : Fault} {index : Nat}
    (fails : FailsAt limits lines machine (.body frame [] after) cause index) :
    index = frame.header := by
  generalize ended : Control.body frame [] after = control at fails
  cases fails with
  | increment =>
    cases ended
    rfl
  | declaration | assignment | condition | consequence =>
    exact absurd ended.symm (Place.control_ne_end _ _ _ _ _)
  | passage | unclosed | start | test | rounds | bind => cases ended

/-- A report names a line of the script: it has the number and the trimmed text of the line. -/
def Report.Names (lines : List Text) (report : Report) (index : Nat) : Prop :=
  ∃ text, lines[index]? = some text ∧ report.place = some (index + 1, Text.trim text)

theorem Report.names_ofFault {lines : List Text} {cursor : Option Nat} {cause : Fault}
    {index : Nat} (stands : cursor = some index) (known : ∃ text, lines[index]? = some text) :
    (ofFault lines cursor cause).Names lines index := by
  obtain ⟨text, found⟩ := known
  exact ⟨text, found, by simp [ofFault, stands, found]⟩

/-- A run comes to a control point and fails there with a report.  The index is that of the line to
which the failure belongs. -/
structure FailedAt (limits : Limits) (cancels : Snapshot → Bool) (lines : List Text)
    (report : Report) (machine : Machine) (control : Control) (index : Nat) : Prop where
  passes : Passes limits cancels .started (.top (numberLines 0 lines)) machine control
  fails : ∃ stopped cause, step limits machine control = .fault stopped cause ∧
    FailsAt limits lines machine control cause index ∧
    report = .ofFault lines stopped.cursor cause

namespace Engine

variable {engine ended : Engine} {script : Text} {speed : Option Value} {cancels : Snapshot → Bool}
  {result : RunResult} {report : Report}

/-- A run that fails, but not for the limit of steps, reports the line to which the failure belongs,
unless the counter of a loop cannot be changed at the end of a round.  Then it reports the line of
the statement that the round has visited last. -/
theorem run_failsAt (returned : engine.run script speed cancels = (ended, .ok result))
    (failed : result.outcome.report = some report)
    (code : report.code = .runtime ∨ report.code = .loopLimit) :
    ∃ machine control index,
      FailedAt engine.limits cancels (Text.lines script) report machine control index ∧
      ((∀ frame after, control ≠ .body frame [] after) →
        report.Names (Text.lines script) index) ∧
      ∀ frame after, control = .body frame [] after → ∃ statement,
        frame.LastVisited machine statement ∧
          report.Names (Text.lines script) statement.index := by
  obtain ⟨rule, -, rfl, -⟩ | ⟨-, shots, ending, course, -, -, answered⟩ := run_cases returned
  · cases failed
    rcases code with runtime | limit
    · cases runtime
    · cases limit
  obtain ⟨outcome, -⟩ := Ending.of_answer answered.symm
  cases ending with
  | finished | cancelled =>
    rw [← Except.ok.inj outcome] at failed
    cases failed
  | broken => cases outcome
  | faulted stopped cause =>
    rw [← Except.ok.inj outcome] at failed
    cases failed
    obtain ⟨machine, control, passes, fails⟩ := course.exists_passes
    have located := passes.located (located_started (Text.lines script))
    have within : cause.code ≠ .stepLimit := by
      rintro exceeded
      rcases code with runtime | limit
      · cases exceeded.symm.trans runtime
      · cases exceeded.symm.trans limit
    obtain ⟨index, belongs, cursor, visited⟩ := step_failsAt located fails within
    refine ⟨machine, control, index, ⟨passes, stopped, cause, fails, belongs, rfl⟩, ?_, ?_⟩
    · exact fun inside => Report.names_ofFault (cursor inside) belongs.exists_line
    · rintro frame after rfl
      obtain ⟨rfl, statement, last⟩ := visited frame after rfl
      obtain ⟨text, found, -⟩ := located.bodied frame rfl statement last.1
      exact ⟨statement, last, Report.names_ofFault last.2.1 ⟨text, found⟩⟩

/-- A loop with one round, which makes an array of its counter and then assigns to another variable:
its run fails when the round ends, and reports the line of the second statement. -/
theorem run_of_overwrittenCounter {script : Text} {head first second : Line} {rest : List Line}
    {last : Nat} (lines : numberLines 0 (Text.lines script) = head :: rest)
    (accepted : Dialect.violation? script = none)
    (opens : classify head.text =
      .ok (.loop ⟨['i'], ['0'], ['i'], .less, ['1'], ['+', '+'], 1⟩))
    (extracted : Block.extract head rest = .ok ⟨[first, second], last, []⟩)
    (writes : classify first.text = .ok (.assignment ['i'] ['[', ']'] none))
    (follows : classify second.text = .ok (.assignment ['x'] ['1'] none)) :
    ∃ ended result report machine frame stopped cause,
      new.run script none (fun _ => false) = (ended, .ok result) ∧
      result.outcome.report = some report ∧ report.code = .runtime ∧
      report = .ofFault (Text.lines script) (some second.index) cause ∧
      Passes new.limits (fun _ => false) .started (.top (numberLines 0 (Text.lines script)))
        machine (.body frame [] []) ∧
      step new.limits machine (.body frame [] []) = .fault stopped cause ∧
      frame.header = head.index := by
  let visited := Machine.started.visit false head
  let frame : Frame := ⟨['i'], 0, ['i'], .less, ['1'], 1, [first, second], head.index, last, 0⟩
  let round : Frame := { frame with iterations := 1 }
  let bound : Machine :=
    { visited.written ['i'] (.number 0) with frame := some round, highlight := some 0 }
  let overwritten := ((bound.showing .bind).1.visit true first).written ['i'] (.array [])
  let assigned := ((overwritten.showing .assign).1.visit true second).written ['x'] (.number 1)
  let cause : Fault := .arrayAsNumber ['i'] (some ['i'])
  have enters : step new.limits .started (.top (head :: rest)) =
      .go none { visited with frame := some frame } (.test frame 0 []) := by
    have within : ¬Step.Exhausted new.limits .started :=
      show ¬(10000 : Int) < (0 + 1 : Nat) by decide
    have started : visited.enterLoop ⟨['i'], ['0'], ['i'], .less, ['1'], ['+', '+'], 1⟩ head.index
      ⟨[first, second], last, []⟩ = .ok ({ visited with frame := some frame }, frame, 0) := rfl
    exact Step.step_of_rule (.loopEntered opens within extracted started)
  have begins : step new.limits { visited with frame := some frame } (.test frame 0 []) =
      .go (some .bind) bound (.body round [first, second] []) := rfl
  have overwrites : step new.limits (bound.showing .bind).1 (.body round [first, second] []) =
      .go (some .assign) overwritten (.body round [second] []) := by
    have within : ¬Step.Exhausted new.limits (bound.showing .bind).1 :=
      show ¬(10000 : Int) < (1 + 1 : Nat) by decide
    have written : ((bound.showing .bind).1.visit true first).assign ['i'] ['[', ']'] none =
      .ok overwritten := rfl
    exact Step.step_of_rule
      (@Step.Rule.assigned _ _ (.body round []) _ _ _ _ _ _ writes within written)
  have assigns : step new.limits (overwritten.showing .assign).1 (.body round [second] []) =
      .go (some .assign) assigned (.body round [] []) := by
    have within : ¬Step.Exhausted new.limits (overwritten.showing .assign).1 :=
      show ¬(10000 : Int) < (2 + 1 : Nat) by decide
    have written : ((overwritten.showing .assign).1.visit true second).assign ['x'] ['1'] none =
      .ok assigned := rfl
    exact Step.step_of_rule
      (@Step.Rule.assigned _ _ (.body round []) _ _ _ _ _ _ follows within written)
  have fails : step new.limits (assigned.showing .assign).1 (.body round [] []) =
      .fault (assigned.showing .assign).1 cause := rfl
  have passes : Passes new.limits (fun _ => false) .started
      (.top (numberLines 0 (Text.lines script))) (assigned.showing .assign).1
      (.body round [] []) := by
    rw [lines]
    exact .silent enters (.shown begins rfl (.shown overwrites rfl (.shown assigns rfl
      (.here _ _))))
  have course : Course new.limits (fun _ => false) .started
      (.top (numberLines 0 (Text.lines script)))
      [(bound.showing .bind).2, (overwritten.showing .assign).2, (assigned.showing .assign).2]
      (.faulted (assigned.showing .assign).1 cause) := by
    rw [lines]
    exact .silent enters (.shown begins rfl (.shown overwrites rfl (.shown assigns rfl
      (.faulted fails))))
  have idle : new.isRunning = false := rfl
  obtain ⟨ended, returned⟩ := run_ok_of_course idle accepted course rfl
  exact ⟨ended, _, _, _, round, _, cause, returned, rfl, rfl, rfl, passes, fails, rfl⟩

/-- The run of a script whose loop makes an array of its counter on the second line. -/
theorem run_of_arrayCounter :
    ∃ ended result report machine frame stopped cause,
      new.run "for (let i = 0; i < 1; i++) \x7b\ni = []\nx = 1\n\x7d".toList none (fun _ => false) =
        (ended, .ok result) ∧
      result.outcome.report = some report ∧ report.code = .runtime ∧
      report.place = some (3, "x = 1".toList) ∧
      Passes new.limits (fun _ => false) .started (.top (numberLines 0
        (Text.lines "for (let i = 0; i < 1; i++) \x7b\ni = []\nx = 1\n\x7d".toList)))
        machine (.body frame [] []) ∧
      step new.limits machine (.body frame [] []) = .fault stopped cause ∧ frame.header = 0 := by
  have split : Text.lines "for (let i = 0; i < 1; i++) \x7b\ni = []\nx = 1\n\x7d".toList =
      ["for (let i = 0; i < 1; i++) \x7b".toList, "i = []".toList, "x = 1".toList, ['\x7d']] := by
    cbv
  have lines : numberLines 0
      (Text.lines "for (let i = 0; i < 1; i++) \x7b\ni = []\nx = 1\n\x7d".toList) =
      [⟨0, "for (let i = 0; i < 1; i++) \x7b".toList⟩, ⟨1, "i = []".toList⟩,
        ⟨2, "x = 1".toList⟩, ⟨3, ['\x7d']⟩] := by
    rw [split]
    rfl
  have accepted : Dialect.violation?
      "for (let i = 0; i < 1; i++) \x7b\ni = []\nx = 1\n\x7d".toList = none := by cbv
  have opens : classify "for (let i = 0; i < 1; i++) \x7b".toList =
      .ok (.loop ⟨['i'], ['0'], ['i'], .less, ['1'], ['+', '+'], 1⟩) := by cbv
  have extracted : Block.extract ⟨0, "for (let i = 0; i < 1; i++) \x7b".toList⟩
      [⟨1, "i = []".toList⟩, ⟨2, "x = 1".toList⟩, ⟨3, ['\x7d']⟩] =
      .ok ⟨[⟨1, "i = []".toList⟩, ⟨2, "x = 1".toList⟩], 3, []⟩ := rfl
  obtain ⟨ended, result, report, machine, frame, stopped, cause, returned, failed, code, same,
    passes, fails, header⟩ :=
      run_of_overwrittenCounter lines accepted opens extracted (by cbv) (by cbv)
  refine ⟨ended, result, report, machine, frame, stopped, cause, returned, failed, code, ?_, passes,
    fails, header⟩
  rw [same, Report.ofFault, split]
  rfl

/-- The counter cannot be changed, and the report names the line of the statement behind the one
that made it an array. -/
theorem run_failsAt_of_arrayCounter :
    ∃ ended result report,
      new.run "for (let i = 0; i < 1; i++) \x7b\ni = []\nx = 1\n\x7d".toList none (fun _ => false) =
        (ended, .ok result) ∧
      result.outcome.report = some report ∧ report.code = .runtime ∧
      ∃ machine frame index statement,
        FailedAt new.limits (fun _ => false)
          (Text.lines "for (let i = 0; i < 1; i++) \x7b\ni = []\nx = 1\n\x7d".toList) report machine
          (.body frame [] []) index ∧
        frame.LastVisited machine statement ∧ statement.index = 2 := by
  obtain ⟨ended, result, report, found, frame, stopped, cause, returned, failed, code, place,
    passes, fails, -⟩ := run_of_arrayCounter
  obtain ⟨machine, control, index, failure, -, visited⟩ :=
    run_failsAt returned failed (.inl code)
  obtain ⟨stoppedToo, causeToo, failsToo, -⟩ := failure.fails
  obtain ⟨rfl, rfl⟩ := passes.eq_of_fault fails failure.passes failsToo
  obtain ⟨statement, last, text, -, named⟩ := visited frame [] rfl
  refine ⟨ended, result, report, returned, failed, code, found, frame, index, statement, failure,
    last, ?_⟩
  have number : statement.index + 1 = 3 :=
    congrArg Prod.fst (Option.some.inj (named.symm.trans place))
  omega

/-- Not every report names the line to which the failure belongs. -/
theorem not_run_failsAt_of_increment :
    ¬∀ (engine ended : Engine) (script : Text) (speed : Option Value) (cancels : Snapshot → Bool)
      (result : RunResult) (report : Report),
      engine.run script speed cancels = (ended, .ok result) →
      result.outcome.report = some report → report.code = .runtime ∨ report.code = .loopLimit →
      ∃ machine control index,
        FailedAt engine.limits cancels (Text.lines script) report machine control index ∧
          report.Names (Text.lines script) index := by
  intro all
  obtain ⟨ended, result, report, found, frame, stopped, cause, returned, failed, code, place,
    passes, fails, header⟩ := run_of_arrayCounter
  obtain ⟨machine, control, index, failure, text, -, named⟩ :=
    all _ _ _ _ _ _ _ returned failed (.inl code)
  obtain ⟨stoppedToo, causeToo, failsToo, belongs, -⟩ := failure.fails
  obtain ⟨rfl, rfl⟩ := passes.eq_of_fault fails failure.passes failsToo
  have own : index = 0 := belongs.index_of_round.trans header
  have number : index + 1 = 3 := congrArg Prod.fst (Option.some.inj (named.symm.trans place))
  omega

end Engine

end StepScript
