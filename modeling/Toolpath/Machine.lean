import Toolpath.Command
import Toolpath.Layer
import Toolpath.Log
import Toolpath.Settings

/-! The machine: a state, the layers recorded so far, and an account of the lines it was fed. Only a
linear move adds a segment. -/

namespace Toolpath

structure State where
  axes : PerAxis Double
  extruding : Bool
  relative : Bool
  tool : Int
deriving DecidableEq

namespace State

def initial : State := ⟨.ofFn fun _ => .zero false, false, false, 0⟩

def get (state : State) (axis : Axis) : Double := state.axes.get axis

def position (state : State) : Point := ⟨state.axes.x, state.axes.y, state.axes.z⟩

/-- The argument a command gives for an axis; that of X is reduced by the offset while the second
tool is selected. -/
def argument? (state : State) (offset : Double) (command : Command) (axis : Axis) : Option Double :=
  (command.value? axis.letter).map fun value =>
    if axis = .x && state.tool = 1 then value - offset else value

def target (state : State) (offset : Double) (command : Command) (axis : Axis) : Double :=
  match state.argument? offset command axis with
  | none => state.get axis
  | some argument => if state.relative then state.get axis + argument else argument

/-- How much a linear move extrudes: the extruder's argument when positions are relative, its
advance when they are absolute. -/
def extrusion (state : State) (offset : Double) (command : Command) : Double :=
  if state.relative then (command.value? Axis.e.letter).getD (.zero false)
  else state.target offset command .e - state.get .e

def moved (state : State) (offset : Double) (command : Command) : State :=
  { state with
    axes := .ofFn (state.target offset command)
    extruding := (Binary.zero false).lt (state.extrusion offset command) }

def repositioned (state : State) (command : Command) : State :=
  { state with
    axes := .ofFn fun axis =>
      if axis.isPosition then (command.value? axis.letter).getD (state.get axis)
      else state.get axis }

end State

inductive SkipReason where
  | arc
  | unknown
deriving DecidableEq

structure Skip where
  reason : SkipReason
  line : Int
  code : String
deriving DecidableEq

namespace Skip

def message (skip : Skip) : String :=
  match skip.reason with
  | .arc => "Arc command " ++ skip.code ++ " on line " ++ toString skip.line ++ " is not supported"
  | .unknown => "Ignoring command " ++ skip.code ++ " on line " ++ toString skip.line

def logLine (skip : Skip) : Log.Line := ⟨.debug, .machine, skip.message⟩

end Skip

structure Malformed where
  line : Int
  key : String
  raw : String
deriving DecidableEq

structure Diagnostics where
  lines : Nat
  moves : Nat
  skipped : Array Skip
  malformed : Array Malformed
deriving DecidableEq

namespace Diagnostics

def empty : Diagnostics := ⟨0, 0, #[], #[]⟩

def unsupported (diagnostics : Diagnostics) : List Skip :=
  diagnostics.skipped.toList.filter (·.reason = .arc)

def ignored (diagnostics : Diagnostics) : List Skip :=
  diagnostics.skipped.toList.filter (·.reason = .unknown)

def isClean (diagnostics : Diagnostics) : Bool :=
  diagnostics.unsupported.isEmpty && diagnostics.malformed.isEmpty

def log (diagnostics : Diagnostics) : List Log.Line := diagnostics.skipped.toList.map Skip.logLine

def countLine (diagnostics : Diagnostics) : Diagnostics :=
  { diagnostics with lines := diagnostics.lines + 1 }

def countMove (diagnostics : Diagnostics) : Diagnostics :=
  { diagnostics with moves := diagnostics.moves + 1 }

def skip (diagnostics : Diagnostics) (reason : SkipReason) (command : Command) : Diagnostics :=
  { diagnostics with skipped := diagnostics.skipped.push ⟨reason, command.line, command.code⟩ }

def noteMalformed (diagnostics : Diagnostics) (command : Command) : Diagnostics :=
  { diagnostics with
    malformed := diagnostics.malformed ++
      (command.malformed.map fun (key, param) => ⟨command.line, key, param.raw⟩).toArray }

end Diagnostics

inductive Action where
  | move
  | arc
  | absolute
  | relative
  | reposition
  | unknown
deriving DecidableEq

namespace Action

def ofCode (code : String) : Action :=
  if code = "G0" || code = "G1" then move
  else if code = "G2" || code = "G3" then arc
  else if code = "G90" then absolute
  else if code = "G91" then relative
  else if code = "G92" then reposition
  else unknown

end Action

structure Machine where
  state : State
  stack : Stack
  diagnostics : Diagnostics
deriving DecidableEq

namespace Machine

def initial : Machine := ⟨.initial, .empty, .empty⟩

def layers (machine : Machine) : List Layer := machine.stack.layers

def selectTool (machine : Machine) (tool : Int) : Machine :=
  { machine with state := { machine.state with tool } }

def segment (settings : Settings) (state : State) (command : Command) : Segment :=
  let next := state.moved settings.toolOffset command
  ⟨state.position, next.position, .ofMove next.extruding state.tool⟩

/-- The stack that a linear move records into. Extrusion at a new height starts a layer; travel does
so only when the settings ask for it. -/
def stackFor (settings : Settings) (stack : Stack) (next : State) : Stack :=
  if (next.extruding || settings.travelStartsLayer) && stack.needsLayerAt next.position.z then
    stack.startLayer next.position.z
  else stack

def move (settings : Settings) (machine : Machine) (command : Command) : Machine :=
  let next := machine.state.moved settings.toolOffset command
  { state := next
    stack := (stackFor settings machine.stack next).add (segment settings machine.state command)
    diagnostics := machine.diagnostics.countMove }

def act (settings : Settings) (machine : Machine) (command : Command) : Machine :=
  match Action.ofCode command.code with
  | .move => machine.move settings command
  | .arc => { machine with diagnostics := machine.diagnostics.skip .arc command }
  | .absolute => { machine with state := { machine.state with relative := false } }
  | .relative => { machine with state := { machine.state with relative := true } }
  | .reposition => { machine with state := machine.state.repositioned command }
  | .unknown => { machine with diagnostics := machine.diagnostics.skip .unknown command }

/-- The machine after the line's tool marker, which counts even on a line without a code. -/
def marked (machine : Machine) (command : Command) : Machine :=
  match command.tool with
  | some tool => machine.selectTool tool
  | none => machine

def step (settings : Settings) (machine : Machine) (command : Command) : Machine :=
  let counted := { machine with diagnostics := machine.diagnostics.countLine }
  let marked := counted.marked command
  if command.isNoop then marked
  else act settings { marked with diagnostics := marked.diagnostics.noteMalformed command } command

def run (settings : Settings) (machine : Machine) (commands : List Command) : Machine :=
  commands.foldl (step settings) machine

end Machine

def interpret (settings : Settings) (text : String) : Machine :=
  Machine.initial.run settings (Command.ofText text.toList)

end Toolpath
