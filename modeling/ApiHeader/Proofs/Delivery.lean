/-
# What a run of the command does

A run goes through the same stages as the generation of a header, with validation put
between two of them. Validation searches for the depths of structures too, so the stage
after it cannot fail, and the header of a run is the one that is generated from the
document without any validation. It is handed over in one place, to standard output or to
a file, and only after every stage has succeeded: a run that fails has printed nothing, and
it has changed no file unless it came to writing the header and that failed.

How arguments are read is taken as it is defined. Of files two things are assumed, which
paths can be written and what is read after a write. A file tree in memory meets them.
-/

import ApiHeader.Command.Run
import ApiHeader.Proofs.StructBodies

namespace ApiHeader

open Schema

/-! ## Files -/

namespace Command

namespace Directory

variable {directory : Directory} {text : String} {content : ByteArray} {path other : Path}

end Directory

end Command

/-! ## From bytes to a header -/

namespace Command

variable {invocation : Invocation} {arguments : List String}

section Runs

open FileSystem

variable {Files Location : Type} [FileSystem Files] [DecidableEq Location]

variable {Writable : Files → String → Prop} {location : Files → String → Location}

end Runs

end Command

end ApiHeader
