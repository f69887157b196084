/-
Where lines of output can go.
-/
import RiftScript.Notice

namespace RiftScript

inductive Sink where
  | stream
  | discard
  /-- A log, under the name of a logger and at a level. -/
  | log (logger : String) (level : LogLevel)
deriving Repr, DecidableEq

namespace Sink

/-- The text that a line comes to where the log is kept from a level on. -/
def write (threshold : LogLevel) (line : String) : Sink → String
  | stream => line ++ "\n"
  | discard => ""
  | log logger level =>
    let record : LogRecord := ⟨level, logger, line⟩
    if record.kept threshold then record.display ++ "\n" else ""

end Sink

/-- Lines kept in memory. -/
structure LineBuffer where
  lines : List String
deriving Repr, DecidableEq

namespace LineBuffer

def empty : LineBuffer := ⟨[]⟩

def push (b : LineBuffer) (line : String) : LineBuffer :=
  ⟨b.lines ++ [line]⟩

def size (b : LineBuffer) : Nat :=
  b.lines.length

/-- The lines with breaks between them. -/
def text (b : LineBuffer) : String :=
  "\n".intercalate b.lines

end LineBuffer
end RiftScript
