import ComponentViews.FileTree
import ComponentViews.Shell.Octets

/-! Streams of octets between processes, and where descriptors lead. -/

namespace ComponentViews.Shell

/-- Where a descriptor leads. -/
inductive Channel where
  | reader (stream : Nat)
  | writer (stream : Nat)
  /-- Adds to a file. -/
  | file (location : Location)
  /-- Reads a file and writes over it where it has come to. -/
  | update (stream : Nat) (location : Location)
  /-- Reads a stream and adds to it. -/
  | both (stream : Nat)
  /-- Holds nothing and keeps nothing. -/
  | void
  /-- Takes nothing. -/
  | full
  deriving DecidableEq, Repr

/-- The stream that is read through a channel. -/
def Channel.source? : Channel → Option Nat
  | .reader stream => some stream
  | .update stream _ => some stream
  | .both stream => some stream
  | _ => none

/-- Whether what is read from a stream is read through a channel. -/
def Channel.reads (number : Nat) (channel : Channel) : Bool := channel = .reader number || channel = .both number

/-- Whether what is written to a stream is written through a channel. -/
def Channel.writes (number : Nat) (channel : Channel) : Bool := channel = .writer number || channel = .both number

/-- What is left to be read, or has been written. What a program has read ahead of a
file it gives back. -/
structure Stream where
  /-- What comes first. -/
  ahead : Octets
  /-- What has been added behind it, the latest first. -/
  behind : List Octets
  size : Nat
  ofFile : Bool
  /-- How much fits in before those who write have to wait, unless everything does. -/
  capacity : Option Nat
  /-- Whether somebody has read from it. -/
  touched : Bool
  /-- Whether those who write to it are still to come. -/
  awaited : Bool

namespace Stream

def ofContent (content : Octets) (ofFile : Bool) : Stream :=
  { ahead := content, behind := [], size := content.length, ofFile, capacity := none, touched := false, awaited := false }

/-- Holds whatever is written, to be read later. -/
def unbounded : Stream := ofContent [] false

/-- How much fits into a pipe. -/
def usualCapacity : Nat := 65536

def pipe : Stream := { unbounded with capacity := some usualCapacity }

/-- What is there to be read. -/
def content (stream : Stream) : Octets :=
  if stream.behind.isEmpty then stream.ahead else stream.ahead ++ stream.behind.reverse.flatten

def add (stream : Stream) (octets : Octets) : Stream :=
  { stream with behind := octets :: stream.behind, size := stream.size + octets.length }

/-- The stream when all but the given rest has been read. -/
def keep (stream : Stream) (rest : Octets) : Stream :=
  { stream with ahead := rest, behind := [], size := rest.length, touched := true }

/-- The stream when a number of octets has been read, and the given rest is left. -/
def advance (stream : Stream) (count : Nat) (rest : Octets) : Stream :=
  { stream with ahead := rest, behind := [], size := stream.size - count, touched := true }

/-- Whether those who write have to wait. -/
def isFull (stream : Stream) : Bool := stream.capacity.any fun capacity => stream.size > capacity

/-- Makes room for more, for a reader that wants all at once. -/
def widen (stream : Stream) : Stream :=
  { stream with capacity := stream.capacity.map fun capacity => max capacity (2 * stream.size) }

end Stream
end ComponentViews.Shell
