/-!
The usage lines and the help text of the command line, eighty columns wide.
-/

namespace Toolpath.CommandLine

def programName : String := "toolpath-layers"

def joinLines (lines : List String) : String := String.join (lines.map (· ++ "\n"))

def usageLines : List String :=
  ["usage: toolpath-layers [-h] [--flat] [--json] [--preview PREVIEW]",
    "                       [--tool-offset TOOL_OFFSET] [--travel-layers] [-v]",
    "                       source"]

def usage : String := joinLines usageLines

def help : String := joinLines (usageLines ++
  ["",
    "Split a G-code toolpath into layers of extruded, support and travel segments.",
    "",
    "positional arguments:",
    "  source                Path or http(s) URL of the toolpath to read.",
    "",
    "options:",
    "  -h, --help            show this help message and exit",
    "  --flat                Merge all layers into three segment lists instead of",
    "                        keeping them separate.",
    "  --json                Print the parsed geometry as JSON.",
    "  --preview PREVIEW     Write a PNG preview of the toolpath to this path.",
    "  --tool-offset TOOL_OFFSET",
    "                        X offset subtracted from explicit X targets while tool",
    "                        1 is active.",
    "  --travel-layers       Start a new layer on Z changes made while travelling,",
    "                        not only while extruding.",
    "  -v, --verbose         Enable debug logging."])

end Toolpath.CommandLine
