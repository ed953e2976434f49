/-!
# Supported versions

A bytecode file states the version of its layout and the version of its type encoding.  Of each
there is a range that can be read, both ends included.
-/

namespace LuauDisassembler

/-- A range of versions, both ends included. -/
structure VersionRange where
  oldest : Int
  newest : Int
deriving DecidableEq, Repr

namespace VersionRange

def contains (r : VersionRange) (version : Int) : Bool :=
  decide (r.oldest ≤ version) && decide (version ≤ r.newest)

theorem contains_iff {r : VersionRange} {version : Int} :
    r.contains version = true ↔ r.oldest ≤ version ∧ version ≤ r.newest := by
  simp [contains]

end VersionRange

/-- The bytecode layouts that can be read. -/
def bytecodeVersions : VersionRange := ⟨3, 6⟩

/-- The type encodings that can be read. -/
def typeVersions : VersionRange := ⟨1, 3⟩

end LuauDisassembler
