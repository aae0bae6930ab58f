import WasmCoverage.Text.Occurrence
import WasmCoverage.Text.Utf8

/-!
# Finding the instrumentation marker

A module is instrumented if its octets contain a marker.  Modules can be large, so they are read
in chunks, and each window that is searched begins with the end of what was read before: one
octet less than the marker has.  A marker across the border of two chunks is then seen whole.

A chunk may be asked for in any length.  One too short for the marker is made as long as it, but
there is a length that no read can be asked for, and then nothing is searched.  Memory is taken to
suffice for every other chunk; where it is bounded, `searchWithin` says what becomes of a search.
-/

namespace WasmCoverage

open WasmCoverage.Text

namespace Marker

/-- How many octets one chunk has: as many as asked for, but no fewer than the marker. -/
def chunkLength (marker : Octets) (asked : Int) : Nat :=
  (max asked marker.length).toNat

/-- The last `count` octets. -/
def lastOctets (count : Nat) (window : Octets) : Octets :=
  window.drop (window.length - count)

/-- Does the marker occur in the octets still to be read, or across their border with those read
before, which ended in `tail`?  Chunks have `more + 1` octets. -/
def scan (marker : Octets) (more : Nat) (tail rest : Octets) : Bool :=
  match rest with
  | [] => false
  | octet :: others =>
    let window := tail ++ (octet :: others).take (more + 1)
    occursIn marker window ||
      scan marker more (lastOctets (marker.length - 1) window) (others.drop more)
  termination_by rest.length
  decreasing_by
    simp only [List.length_drop, List.length_cons]
    omega

/-- The chunk length that is asked for unless another one is given. -/
def defaultChunk : Int := 1048576

/-- Do the octets of a file contain a marker, read in chunks of the asked length?  A marker must
not be empty; nothing is answered for one that is. -/
def contains? (marker : Octets) (asked : Int) (data : Octets) : Option Bool :=
  if marker = [] then none
  else some (scan marker (chunkLength marker asked - 1) [] data)

/-- The largest number of octets that one read can be asked for. -/
def readLimit : Nat := 0x7FFFFFFFFFFFFFDE

/-- Why a file is not searched. -/
inductive SearchFault where
  | emptyMarker
  /-- A chunk is longer than a read can be asked for. -/
  | chunkTooLong
  /-- There is no memory for a chunk. -/
  | outOfMemory
  deriving DecidableEq, Repr

/-- Search the octets of a file for a marker, read in chunks of the asked length, or say why they
cannot be searched. -/
def search (marker : Octets) (asked : Int) (data : Octets) : Except SearchFault Bool :=
  if marker = [] then .error .emptyMarker
  else if readLimit < chunkLength marker asked then .error .chunkTooLong
  else .ok (scan marker (chunkLength marker asked - 1) [] data)

/-- Search where there is memory for chunks of so many octets. -/
def searchWithin (memory : Nat) (marker : Octets) (asked : Int) (data : Octets) :
    Except SearchFault Bool :=
  match search marker asked data with
  | .ok found => if memory < chunkLength marker asked then .error .outOfMemory else .ok found
  | .error fault => .error fault

/-- The message about an empty marker. -/
def emptyMessage : String := "marker must be non-empty"

end Marker

end WasmCoverage
