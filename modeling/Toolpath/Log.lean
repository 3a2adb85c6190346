/-!
The log: lines with a level, under the name of the part that writes them.
-/

namespace Toolpath.Log

inductive Level where
  | debug
  | info
  | warning
  | error
deriving DecidableEq

namespace Level

def name : Level → String
  | debug => "DEBUG"
  | info => "INFO"
  | warning => "WARNING"
  | error => "ERROR"

end Level

inductive Logger where
  | machine
  | preview
  | loader
  | commandLine
deriving DecidableEq

namespace Logger

def name : Logger → String
  | machine => "toolpath_layers.gcode.interpreter"
  | preview => "toolpath_layers.gcode.preview"
  | loader => "toolpath_layers.loader"
  | commandLine => "toolpath_layers.cli"

end Logger

structure Line where
  level : Level
  logger : Logger
  message : String
deriving DecidableEq

namespace Line

def text (line : Line) : String :=
  line.level.name ++ " " ++ line.logger.name ++ ": " ++ line.message

end Line

end Toolpath.Log
