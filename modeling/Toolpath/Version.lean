/-!
The version of the program.
-/

namespace Toolpath

def version : String := "0.1.0"

end Toolpath
