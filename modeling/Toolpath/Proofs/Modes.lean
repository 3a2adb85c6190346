import Toolpath.Proofs.Spelling

/-! The same moves with absolute and with relative positions. A `Stance` follows a program of whole
numbers without rounding, and two machines, one in each mode, keep in step with it. -/

namespace Toolpath

/-- A place of whole numbers, and whether the last move extruded. -/
structure Stance where
  place : PerAxis Int
  extruding : Bool

/-- Holds of the whole numbers that leave a double room for a sum or a difference. -/
def Small (value : Int) : Prop := value.natAbs ≤ 2 ^ 52

instance (value : Int) : Decidable (Small value) :=
  inferInstanceAs (Decidable (value.natAbs ≤ 2 ^ 52))

def Targets.Bounded (targets : Targets) : Prop :=
  ∀ axis, ∀ value ∈ targets.get axis, Small value

instance (targets : Targets) : Decidable targets.Bounded :=
  inferInstanceAs (Decidable (∀ axis, ∀ value ∈ targets.get axis, Small value))

namespace Stance

def origin : Stance := ⟨.ofFn fun _ => 0, false⟩

def step (stance : Stance) (targets : Targets) : Stance :=
  let place := .ofFn fun axis => (targets.get axis).getD (stance.place.get axis)
  ⟨place, stance.place.e < place.e⟩

def distances (stance : Stance) (targets : Targets) : Targets :=
  .ofFn fun axis => (targets.get axis).map (· - stance.place.get axis)

def differences (stance : Stance) : List Targets → List Targets
  | [] => []
  | targets :: rest => stance.distances targets :: (stance.step targets).differences rest

def Bounded (stance : Stance) : Prop := ∀ axis, Small (stance.place.get axis)

theorem bounded_origin : origin.Bounded := by
  intro axis
  simp [origin, Small]

theorem Bounded.step {stance : Stance} {targets : Targets} (bounded : stance.Bounded)
    (small : targets.Bounded) : (stance.step targets).Bounded := by
  intro axis
  simp only [Stance.step, PerAxis.get_ofFn]
  cases target : targets.get axis with
  | none => exact bounded axis
  | some value => exact small axis value target

def state (stance : Stance) (relative : Bool) : State :=
  ⟨.ofFn fun axis => .ofInt (stance.place.get axis), stance.extruding, relative, 0⟩

theorem get_state (stance : Stance) (relative : Bool) (axis : Axis) :
    (stance.state relative).get axis = .ofInt (stance.place.get axis) := by
  simp [state, State.get]

theorem state_origin : origin.state false = State.initial := by
  simp [state, origin, State.initial, Binary.ofInt_zero]

end Stance

theorem double_room : Format.double.precision + Format.double.fraction < Format.double.reach := by
  decide

namespace Small

variable {left right : Int}

theorem within (small : Small left) : left.natAbs ≤ 2 ^ Format.double.precision := by
  change left.natAbs ≤ 2 ^ 53
  unfold Small at small
  omega

theorem sub_within (small : Small left) (other : Small right) :
    (left - right).natAbs ≤ 2 ^ Format.double.precision := by
  change (left - right).natAbs ≤ 2 ^ 53
  unfold Small at small other
  omega

theorem ofInt_sub (small : Small left) (other : Small right) :
    (.ofInt left - .ofInt right : Double) = .ofInt (left - right) :=
  Binary.ofInt_sub double_room small.within other.within

theorem ofInt_add_sub (small : Small left) (other : Small right) :
    (.ofInt right + .ofInt (left - right) : Double) = .ofInt left := by
  rw [Binary.ofInt_add double_room other.within (small.sub_within other)]
  congr 1
  omega

theorem zero_lt_ofInt_sub (small : Small left) (other : Small right) :
    (Binary.zero false).lt (.ofInt (left - right) : Double) = decide (right < left) := by
  rw [Binary.zero_lt_ofInt double_room (small.sub_within other)]
  simp only [Int.sub_pos]

end Small

namespace State

variable {stance : Stance} {targets : Targets} {command : Command} {offset : Double}
  {relative : Bool}

theorem argument?_state (carries : command.Carries targets) (axis : Axis) :
    (stance.state relative).argument? offset command axis =
      (targets.get axis).map Binary.ofInt := by
  rw [argument?, carries.arguments axis]
  cases targets.get axis <;> simp [Stance.state]

theorem target_absolute (carries : command.Carries targets) (axis : Axis) :
    (stance.state false).target offset command axis =
      .ofInt ((stance.step targets).place.get axis) := by
  rw [target, argument?_state carries, Stance.get_state]
  cases found : targets.get axis <;> simp [Stance.step, Stance.state, found]

theorem target_relative (carries : command.Carries (stance.distances targets))
    (bounded : stance.Bounded) (small : targets.Bounded) (axis : Axis) :
    (stance.state true).target offset command axis =
      .ofInt ((stance.step targets).place.get axis) := by
  rw [target, argument?_state carries, Stance.get_state]
  cases found : targets.get axis with
  | none => simp [Stance.distances, Stance.step, found]
  | some value =>
      have sum := (small axis value found).ofInt_add_sub (bounded axis)
      simpa [Stance.distances, Stance.step, Stance.state, found] using sum

theorem extrusion_absolute (carries : command.Carries targets) (bounded : stance.Bounded)
    (small : targets.Bounded) :
    (stance.state false).extrusion offset command =
      .ofInt ((stance.step targets).place.get .e - stance.place.get .e) := by
  have mode : ¬(stance.state false).relative = true := Bool.false_ne_true
  have difference := (bounded.step small .e).ofInt_sub (bounded .e)
  rw [extrusion, if_neg mode, target_absolute carries, Stance.get_state]
  exact difference

theorem extrusion_relative (carries : command.Carries (stance.distances targets)) :
    (stance.state true).extrusion offset command =
      .ofInt ((stance.step targets).place.get .e - stance.place.get .e) := by
  have mode : (stance.state true).relative = true := rfl
  rw [extrusion, if_pos mode, carries.arguments .e, Stance.distances, Stance.step,
    PerAxis.get_ofFn, PerAxis.get_ofFn]
  cases targets.get .e with
  | none =>
      rw [Option.getD_none, Int.sub_self, Binary.ofInt_zero, Option.map_none, Option.map_none,
        Option.getD_none]
  | some value => rw [Option.getD_some, Option.map_some, Option.map_some, Option.getD_some]

theorem moved_state (bounded : stance.Bounded) (small : targets.Bounded)
    (reaches : ∀ axis, (stance.state relative).target offset command axis =
      .ofInt ((stance.step targets).place.get axis))
    (extrudes : (stance.state relative).extrusion offset command =
      .ofInt ((stance.step targets).place.get .e - stance.place.get .e)) :
    (stance.state relative).moved offset command = (stance.step targets).state relative := by
  have advances := (bounded.step small .e).zero_lt_ofInt_sub (bounded .e)
  rw [moved, extrudes, funext reaches, advances]
  rfl

theorem moved_absolute (carries : command.Carries targets) (bounded : stance.Bounded)
    (small : targets.Bounded) :
    (stance.state false).moved offset command = (stance.step targets).state false :=
  moved_state bounded small (target_absolute carries) (extrusion_absolute carries bounded small)

theorem moved_relative (carries : command.Carries (stance.distances targets))
    (bounded : stance.Bounded) (small : targets.Bounded) :
    (stance.state true).moved offset command = (stance.step targets).state true :=
  moved_state bounded small (target_relative carries bounded small) (extrusion_relative carries)

end State

namespace Machine

variable {settings : Settings} {command other : Command}

theorem stack_step_of_isMove (machine : Machine) (linear : command.isMove = true)
    (unmarked : command.tool = none) :
    let next := (machine.step settings command).state
    next = machine.state.moved settings.toolOffset command ∧
      (machine.step settings command).stack = machine.stack.record settings
        ⟨machine.state.position, next.position, next.extruding, machine.state.tool⟩ := by
  intro next
  have kept : machine.state.marked command = machine.state := by
    simp [State.marked, unmarked]
  have moved : next = machine.state.moved settings.toolOffset command := by
    rw [← kept, ← State.step_of_isMove _ _ _ linear]
    exact state_step settings machine command
  refine ⟨moved, ?_⟩
  rw [moved, stack_step, if_pos linear, kept]
  exact add_segment_eq_record settings machine.stack machine.state command

/-- Two machines stand at one stance, the first with absolute and the second with relative
positions, and have recorded the same layers. -/
structure InStep (stance : Stance) (left right : Machine) : Prop where
  absolute : left.state = stance.state false
  relative : right.state = stance.state true
  stack : left.stack = right.stack

variable {stance : Stance} {left right : Machine}

theorem InStep.step (together : InStep stance left right) {targets : Targets}
    (carries : command.Carries targets) (other_carries : other.Carries (stance.distances targets))
    (bounded : stance.Bounded) (small : targets.Bounded) :
    InStep (stance.step targets) (left.step settings command) (right.step settings other) := by
  obtain ⟨leftMoved, leftStack⟩ := left.stack_step_of_isMove carries.linear carries.unmarked
  obtain ⟨rightMoved, rightStack⟩ :=
    right.stack_step_of_isMove other_carries.linear other_carries.unmarked
  have absolute : (left.step settings command).state = (stance.step targets).state false := by
    rw [leftMoved, together.absolute, State.moved_absolute carries bounded small]
  have relative : (right.step settings other).state = (stance.step targets).state true := by
    rw [rightMoved, together.relative, State.moved_relative other_carries bounded small]
  refine ⟨absolute, relative, ?_⟩
  rw [leftStack, rightStack, absolute, relative, together.absolute, together.relative,
    together.stack]
  rfl

theorem InStep.run (settings : Settings) {program : List Targets} {commands others : List Command}
    (together : InStep stance left right)
    (carries : List.Forall₂ Command.Carries program commands)
    (differs : List.Forall₂ Command.Carries (stance.differences program) others)
    (bounded : stance.Bounded) (small : ∀ targets ∈ program, targets.Bounded) :
    InStep (program.foldl Stance.step stance) (left.run settings commands)
      (right.run settings others) := by
  -- Both lists of commands come from one program, so they are taken apart together.
  induction carries generalizing stance left right others with
  | nil =>
      cases differs
      exact together
  | cons carried _ ih =>
      cases differs with
      | cons differed rest =>
          rw [List.forall_mem_cons] at small
          have stepped : InStep (stance.step _) (left.step settings _) (right.step settings _) :=
            together.step carried differed bounded small.1
          rw [run_cons, run_cons]
          exact ih stepped rest (bounded.step small.1) small.2

theorem motion_mode (settings : Settings) (relative : Bool)
    (mode : command.code = if relative then "G91" else "G90")
    (unmarked : command.tool = none) :
    (initial.step settings command).state = Stance.origin.state relative ∧
      (initial.step settings command).stack = .empty := by
  have fresh : initial.state = Stance.origin.state false := Stance.state_origin.symm
  have kept : (Stance.origin.state false).marked command = Stance.origin.state false := by
    simp [State.marked, unmarked]
  have still : command.isMove = false := by
    cases relative <;> simp [Command.isMove, mode]
  refine ⟨?_, ?_⟩
  · rw [state_step, fresh]
    cases relative with
    | false =>
        have action := (Action.ofCode_eq_absolute command.code).mpr mode
        simp only [State.step, action, kept]
        rfl
    | true =>
        have action := (Action.ofCode_eq_relative command.code).mpr mode
        simp only [State.step, action, kept]
        rfl
  · rw [stack_step, if_neg (by simp [still])]
    rfl

end Machine

/-- A program of whole numbers of at most `2 ^ 52` in magnitude does the same whether it gives its
targets themselves or, in the other mode, their distances from the places reached so far: the layers
are the same and so is the end, for any way of spelling the two. Both can be written down. -/
theorem modes_agree (settings : Settings) (program : List Targets)
    (small : ∀ targets ∈ program, targets.Bounded) :
    let differences := Stance.origin.differences program
    (∀ absolute relative : String, Spells "G90" program absolute →
      Spells "G91" differences relative →
        let one := interpret settings absolute
        let two := interpret settings relative
        one.layers = two.layers ∧ (∀ axis, one.state.get axis = two.state.get axis) ∧
          one.state.extruding = two.state.extruding) ∧
      Spells "G90" program (written "G90" program) ∧
      Spells "G91" differences (written "G91" differences) := by
  intro differences
  refine ⟨?_, spells_written (.inl rfl) _, spells_written (.inr rfl) _⟩
  rintro absolute relative ⟨first, moves, read, mode, unmarked, carries⟩
    ⟨second, others, reread, opposite, bare, differs⟩ one two
  obtain ⟨start, empty⟩ := Machine.motion_mode settings false mode unmarked
  obtain ⟨restart, vacant⟩ := Machine.motion_mode settings true opposite bare
  have together : Machine.InStep Stance.origin (Machine.initial.step settings first)
      (Machine.initial.step settings second) := ⟨start, restart, empty.trans vacant.symm⟩
  have ends := together.run settings carries differs Stance.bounded_origin small
  have ran : one = (Machine.initial.step settings first).run settings moves := by
    rw [← Machine.run_cons, ← read, ← interpret]
  have reran : two = (Machine.initial.step settings second).run settings others := by
    rw [← Machine.run_cons, ← reread, ← interpret]
  rw [ran, reran]
  refine ⟨congrArg Stack.layers ends.stack, ?_, ?_⟩
  · intro axis
    rw [ends.absolute, ends.relative, Stance.get_state, Stance.get_state]
  · rw [ends.absolute, ends.relative]
    rfl

theorem modes_agree_of_retraction :
    let program : List Targets :=
      [⟨some 5, none, some 1, some 4503599627370496, some 900⟩,
        ⟨none, some (-3), some 2, some 1, none⟩]
    let absolute := "G90\nG1 X5 Z1 E4503599627370496 F900\nG1 Y-3 Z2 E1\n"
    let relative :=
      "g91 ; from here\nG0 X5.0 Z+1 E4503599627370496 F9e2\nG1 e-4503599627370495 Z1 Y-3"
    let one := interpret .standard absolute
    let two := interpret .standard relative
    (∀ targets ∈ program, targets.Bounded) ∧ Spells "G90" program absolute ∧
      Spells "G91" (Stance.origin.differences program) relative ∧
      one.layers.map Layer.z = [1] ∧ one.layers = two.layers ∧
      one.state.get .e = two.state.get .e := by
  intro program absolute relative one two
  have small : ∀ targets ∈ program, targets.Bounded := by decide +kernel
  have spelled : Spells "G90" program absolute := by decide +kernel
  have altered : Spells "G91" (Stance.origin.differences program) relative := by decide +kernel
  obtain ⟨layers, places, _⟩ :=
    (modes_agree .standard program small).1 absolute relative spelled altered
  exact ⟨small, spelled, altered, by decide +kernel, layers, places .e⟩

end Toolpath
