import Mathlib.Data.List.Forall2
import Toolpath.Proofs.Motion

/-! What two programs share when their commands agree on some axes only. Heights and extrusion alone
decide about the layers (`Machine.upright_stack_step`). -/

namespace Toolpath

variable {axes : List Axis} {first second : Settings} {offset shifted : Double}

/-- Two commands have the same code, select the same tool, and give the same arguments for some
axes. -/
structure Command.Agree (axes : List Axis) (left right : Command) : Prop where
  code : left.code = right.code
  tool : left.tool = right.tool
  arguments : ∀ axis ∈ axes, left.value? axis.letter = right.value? axis.letter

instance (axes : List Axis) (left right : Command) : Decidable (left.Agree axes right) :=
  decidable_of_iff (left.code = right.code ∧ left.tool = right.tool ∧
      ∀ axis ∈ axes, left.value? axis.letter = right.value? axis.letter)
    ⟨fun ⟨code, tool, arguments⟩ => ⟨code, tool, arguments⟩,
      fun ⟨code, tool, arguments⟩ => ⟨code, tool, arguments⟩⟩

theorem Command.Agree.isMove {left right : Command} (agree : left.Agree axes right) :
    left.isMove = right.isMove := by
  rw [Command.isMove, agree.code, Command.isMove]

namespace State

structure Agree (axes : List Axis) (left right : State) : Prop where
  relative : left.relative = right.relative
  tool : left.tool = right.tool
  places : ∀ axis ∈ axes, left.get axis = right.get axis
  extruding : .e ∈ axes → left.extruding = right.extruding

variable {left right : State} {command other : Command}

theorem Agree.marked (states : left.Agree axes right) (commands : command.Agree axes other) :
    (left.marked command).Agree axes (right.marked other) where
  relative := states.relative
  tool := by simp only [State.marked, commands.tool, states.tool]
  places := states.places
  extruding := states.extruding

theorem Agree.target (states : left.Agree axes right) (commands : command.Agree axes other)
    (same : .x ∈ axes → offset = shifted) {axis : Axis} (shared : axis ∈ axes) :
    left.target offset command axis = right.target shifted other axis := by
  have argument : left.argument? offset command axis = right.argument? shifted other axis := by
    rw [argument?, argument?, commands.arguments axis shared, states.tool]
    by_cases lateral : axis = .x
    · subst axis
      rw [same shared]
    · simp [lateral]
  rw [State.target, State.target, argument, states.places axis shared, states.relative]

theorem Agree.extrusion (states : left.Agree axes right) (commands : command.Agree axes other)
    (same : .x ∈ axes → offset = shifted) (fed : .e ∈ axes) :
    left.extrusion offset command = right.extrusion shifted other := by
  rw [State.extrusion, State.extrusion, states.relative, commands.arguments .e fed,
    states.target commands same fed, states.places .e fed]

theorem Agree.moved (states : left.Agree axes right) (commands : command.Agree axes other)
    (same : .x ∈ axes → offset = shifted) :
    (left.moved offset command).Agree axes (right.moved shifted other) where
  relative := states.relative
  tool := states.tool
  places axis shared := by
    simpa [State.moved, State.get] using states.target commands same shared
  extruding fed := by simp only [State.moved, states.extrusion commands same fed]

theorem Agree.repositioned (states : left.Agree axes right) (commands : command.Agree axes other) :
    (left.repositioned command).Agree axes (right.repositioned other) where
  relative := states.relative
  tool := states.tool
  places axis shared := by
    have place := states.places axis shared
    simp only [State.get] at place
    simp [State.repositioned, State.get, commands.arguments axis shared, place]
  extruding := states.extruding

theorem Agree.step (states : left.Agree axes right) (commands : command.Agree axes other)
    (same : .x ∈ axes → offset = shifted) :
    (left.step offset command).Agree axes (right.step shifted other) := by
  have marked := states.marked commands
  unfold State.step
  rw [commands.code]
  cases Action.ofCode other.code with
  | move => exact marked.moved commands same
  | arc => exact marked
  | absolute => exact { marked with relative := rfl }
  | relative => exact { marked with relative := rfl }
  | reposition => exact marked.repositioned commands
  | unknown => exact marked

end State

namespace Segment

/-- The shadow of a segment on the Z axis. Recording commutes with it, since no layer is started for
the sake of X or Y. -/
def upright (segment : Segment) : Segment :=
  ⟨⟨0, 0, segment.start.z⟩, ⟨0, 0, segment.stop.z⟩, segment.kind⟩

end Segment

namespace Layer

def upright (layer : Layer) : Layer :=
  ⟨layer.z, layer.extruded.map Segment.upright, layer.support.map Segment.upright,
    layer.travel.map Segment.upright⟩

def spans (layer : Layer) (kind : Kind) : List (Double × Double) :=
  (layer.segments kind).map fun segment => (segment.start.z, segment.stop.z)

@[simp] theorem upright_empty (z : Double) : (empty z).upright = empty z := by
  simp [upright, empty]

@[simp] theorem upright_add (layer : Layer) (segment : Segment) :
    (layer.add segment).upright = layer.upright.add segment.upright := by
  unfold add
  cases kind : segment.kind <;> simp [upright, Segment.upright, kind]

theorem spans_upright (layer : Layer) (kind : Kind) : layer.upright.spans kind = layer.spans kind := by
  cases kind <;> simp [spans, segments, upright, Segment.upright]

end Layer

namespace Stack

def upright (stack : Stack) : Stack :=
  { stack with
    recorded := stack.recorded.map Layer.upright
    current_lt := by simpa using stack.current_lt }

@[simp] theorem upright_startLayer (stack : Stack) (z : Double) :
    (stack.startLayer z).upright = stack.upright.startLayer z := by
  simp [upright, startLayer]

@[simp] theorem upright_fill (stack : Stack) (segment : Segment) :
    (stack.fill segment).upright = stack.upright.fill segment.upright := by
  cases current : stack.current with
  | none => simp [upright, fill, current]
  | some place =>
      have modified : (stack.recorded.modify place (·.add segment)).map Layer.upright =
          (stack.recorded.map Layer.upright).modify place (·.add segment.upright) := by
        apply Array.ext_getElem?
        intro index
        rw [Array.getElem?_map, Array.getElem?_modify, Array.getElem?_modify, Array.getElem?_map]
        by_cases here : place = index <;> simp [here, Function.comp_def]
      simp [upright, fill, current, modified]

@[simp] theorem upright_add (stack : Stack) (segment : Segment) :
    (stack.add segment).upright = stack.upright.add segment.upright := by
  have same : stack.upright.current = stack.current := rfl
  unfold add
  rw [same]
  split <;> simp [Segment.upright]

@[simp] theorem needsLayerAt_upright (stack : Stack) (z : Double) :
    stack.upright.needsLayerAt z = stack.needsLayerAt z := by
  have current : stack.upright.current? = stack.current?.map Layer.upright := by
    cases place : stack.current <;> simp [upright, current?, place]
  rw [needsLayerAt, needsLayerAt, current]
  cases stack.current? <;> rfl

theorem layers_upright (stack : Stack) : stack.upright.layers = stack.layers.map Layer.upright := by
  simp [upright, layers]

end Stack

namespace Machine

theorem upright_stackFor (settings : Settings) (stack : Stack) (next : State) :
    (stackFor settings stack next).upright = stackFor settings stack.upright next := by
  unfold stackFor
  rw [Stack.needsLayerAt_upright]
  split <;> simp

theorem stackFor_congr (travel : first.travelStartsLayer = second.travelStartsLayer)
    (stack : Stack) {left right : State} (extruding : left.extruding = right.extruding)
    (level : left.get .z = right.get .z) :
    stackFor first stack left = stackFor second stack right := by
  have same : left.position.z = right.position.z := level
  simp only [stackFor, travel, extruding, same]

theorem upright_segment (settings : Settings) (state : State) (command : Command) :
    (segment settings state command).upright =
      ⟨⟨0, 0, state.get .z⟩, ⟨0, 0, (state.moved settings.toolOffset command).get .z⟩,
        .ofMove (state.moved settings.toolOffset command).extruding state.tool⟩ := rfl

variable {left right : Machine} {command other : Command}

theorem upright_stack_step (travel : first.travelStartsLayer = second.travelStartsLayer)
    (states : left.state.Agree [.z, .e] right.state) (commands : command.Agree [.z, .e] other)
    (recorded : left.stack.upright = right.stack.upright) :
    (left.step first command).stack.upright = (right.step second other).stack.upright := by
  rw [stack_step, stack_step, commands.isMove]
  split
  · have marked := states.marked commands
    have moved : ((left.state.marked command).moved first.toolOffset command).Agree [.z, .e]
        ((right.state.marked other).moved second.toolOffset other) :=
      marked.moved commands (by simp)
    have extruding := moved.extruding (by simp)
    have start := marked.places .z (by simp)
    have stop := moved.places .z (by simp)
    dsimp only
    rw [Stack.upright_add, Stack.upright_add, upright_segment, upright_segment, upright_stackFor,
      upright_stackFor, start, stop, extruding, marked.tool, recorded,
      stackFor_congr travel _ extruding stop]
  · exact recorded

theorem agree_run {program altered : List Command}
    (commands : List.Forall₂ (Command.Agree axes) program altered)
    (same : .x ∈ axes → first.toolOffset = second.toolOffset)
    (states : left.state.Agree axes right.state) :
    (left.run first program).state.Agree axes (right.run second altered).state := by
  induction commands generalizing left right with
  | nil => exact states
  | cons head rest ih =>
      apply ih
      rw [state_step, state_step]
      exact states.step head same

theorem upright_stack_run {program altered : List Command}
    (commands : List.Forall₂ (Command.Agree [.z, .e]) program altered)
    (travel : first.travelStartsLayer = second.travelStartsLayer)
    (states : left.state.Agree [.z, .e] right.state)
    (recorded : left.stack.upright = right.stack.upright) :
    (left.run first program).stack.upright = (right.run second altered).stack.upright := by
  induction commands generalizing left right with
  | nil => exact recorded
  | cons head rest ih =>
      apply ih
      · rw [state_step, state_step]
        exact states.step head (by simp)
      · exact upright_stack_step travel states head recorded

end Machine

/-- Along each axis the machine goes by the arguments for that axis alone, and by the offset of the
second tool along X. Its layers go by the arguments for Z and the extruder and by the layer policy:
with these alike, two programs record as many layers at the same heights, with segments between the
same heights, and leave the same flags and tool. -/
theorem axes_independent (first second : Settings) (program altered : List Command) (count : Nat) :
    let one := Machine.initial.run first (program.take count)
    let two := Machine.initial.run second (altered.take count)
    (∀ axis, (axis = .x → first.toolOffset = second.toolOffset) →
      List.Forall₂ (Command.Agree [axis]) program altered →
        one.state.get axis = two.state.get axis) ∧
    (first.travelStartsLayer = second.travelStartsLayer →
      List.Forall₂ (Command.Agree [.z, .e]) program altered →
        one.layers.map Layer.z = two.layers.map Layer.z ∧
        (∀ kind, one.layers.map (·.spans kind) = two.layers.map (·.spans kind)) ∧
        one.state.extruding = two.state.extruding ∧
        one.state.relative = two.state.relative ∧
        one.state.tool = two.state.tool) := by
  intro one two
  have alike (axes : List Axis) : State.initial.Agree axes State.initial :=
    ⟨rfl, rfl, fun _ _ => rfl, fun _ => rfl⟩
  refine ⟨fun axis same commands => ?_, fun travel commands => ?_⟩
  · have states : one.state.Agree [axis] two.state :=
      Machine.agree_run (List.forall₂_take count commands)
        (fun lateral => same (List.mem_singleton.mp lateral).symm) (alike [axis])
    exact states.places axis (by simp)
  · have prefixes := List.forall₂_take count commands
    have states : one.state.Agree [.z, .e] two.state :=
      Machine.agree_run prefixes (by simp) (alike _)
    have recorded : one.stack.upright = two.stack.upright :=
      Machine.upright_stack_run prefixes travel (alike _) rfl
    have layers : one.layers.map Layer.upright = two.layers.map Layer.upright := by
      rw [Machine.layers, Machine.layers, ← Stack.layers_upright, ← Stack.layers_upright, recorded]
    have levels := congrArg (List.map Layer.z) layers
    have spans (kind : Kind) := congrArg (List.map (·.spans kind)) layers
    simp only [List.map_map, Function.comp_def, Layer.spans_upright] at levels spans
    exact ⟨levels, spans, states.extruding (by simp), states.relative, states.tool⟩

theorem axes_independent_of_shift :
    let given (key : String) (value : Double) : String × Param := (key, ⟨"", value, true⟩)
    let program : List Command :=
      [⟨"G1", [given "x" 5, given "z" 1, given "e" 1], some 1, 1⟩, ⟨"G91", [], none, 2⟩,
        ⟨"G92", [given "e" 7, given "x" 3], none, 3⟩, ⟨"G1", [given "z" 2, given "e" (-1)], none, 4⟩]
    let altered : List Command :=
      [⟨"G1", [given "z" 1, given "e" 1, given "f" 9], some 1, 1⟩, ⟨"G91", [], none, 2⟩,
        ⟨"G92", [given "y" 2, given "e" 7], none, 3⟩,
        ⟨"G1", [given "x" .nan, given "e" (-1), given "z" 2], none, 4⟩]
    let shifted : Settings := ⟨true, 5, false, by decide +kernel⟩
    let one := Machine.initial.run .standard (program.take 3)
    let two := Machine.initial.run shifted (altered.take 3)
    List.Forall₂ (Command.Agree [.z]) program altered ∧
      List.Forall₂ (Command.Agree [.z, .e]) program altered ∧
      one.state.get .x ≠ two.state.get .x ∧ one.state.get .z = two.state.get .z ∧
      one.layers.map Layer.z = two.layers.map Layer.z := by
  intro given program altered shifted one two
  have level : List.Forall₂ (Command.Agree [.z]) program altered := by decide +kernel
  have fed : List.Forall₂ (Command.Agree [.z, .e]) program altered := by decide +kernel
  have independent := axes_independent .standard shifted program altered 3
  exact ⟨level, fed, by decide +kernel, independent.1 .z (by decide) level,
    (independent.2 rfl fed).1⟩

end Toolpath
