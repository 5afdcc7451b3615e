import BuildProvenance.Text.Cut
import BuildProvenance.Text.Utf8

/-!
# Paths

A path is a sequence of bytes, cut at slashes into names.  Names need not be
text; where a path is shown to a user, what is no text is replaced.
-/

namespace BuildProvenance

/-- A name within a directory: any bytes but the slash. -/
abbrev FileName := List UInt8

structure Path where
  bytes : List UInt8
  deriving DecidableEq

namespace FileName

def dot : FileName := [46]

def dotDot : FileName := [46, 46]

/-- The longest name that a directory can hold. -/
def maxLength : Nat := 255

def display (name : FileName) : String := Utf8.decodeLossy name

end FileName

namespace Path

def slash : UInt8 := 47

def ofString (text : String) : Path := ⟨Utf8.encode text⟩

def display (path : Path) : String := Utf8.decodeLossy path.bytes

def isAbsolute (path : Path) : Bool := path.bytes.head? = some slash

/-- The names of a path in order.  Repeated slashes count once; a slash at the
end asks for a directory, which the name `.` after it says too. -/
def names (path : Path) : List FileName :=
  let names := (Text.parts slash path.bytes).filter (· ≠ [])
  if path.bytes.getLast? = some slash ∧ names ≠ [] then names ++ [FileName.dot] else names

/-- A path that the system takes at all: not empty, not too long, no zero byte. -/
def isUsable (path : Path) : Bool :=
  path.bytes ≠ [] && path.bytes.length < 4096 && !path.bytes.contains 0

/-- Without slashes and `.` names at the end, but not beyond a leading slash. -/
def trimNames (bytes : List UInt8) : List UInt8 :=
  let trimmed := Text.trimEnd slash bytes
  match Text.cutLast? slash trimmed with
  | some (before, last) =>
    if last = FileName.dot ∧ Text.trimEnd slash before ≠ [] then
      Text.trimEnd slash before
    else trimmed
  | none => trimmed

/-- Cuts `.` names at the end as often as there are any. -/
def trimAll : Nat → List UInt8 → List UInt8
  | 0, bytes => bytes
  | steps + 1, bytes =>
    let trimmed := trimNames bytes
    if trimmed.length < bytes.length then trimAll steps trimmed else bytes

/-- The path without its last name; nothing for an empty path and the root. -/
def parent? (path : Path) : Option Path :=
  let bytes := trimAll path.bytes.length path.bytes
  if bytes = [] then none
  else
    match Text.cutLast? slash bytes with
    | none => some ⟨[]⟩
    | some (before, _) =>
      let outer := trimAll before.length before
      if outer = [] then some ⟨[slash]⟩ else some ⟨outer⟩

end Path

end BuildProvenance
