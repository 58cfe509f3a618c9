import Tollgate.Octets

/-!
# Reading a body in chunks

On HTTP/2 the client's side of a tunnel is the body of its request, which comes in chunks of any
size. Reads of any size take from them in order; what is left of a chunk waits for the next read.
A read polls the body for its next chunk, and has to wait while that has not come.
-/

namespace Tollgate.Tunnel

inductive BodyEnd where
  | complete
  | broken
  deriving DecidableEq, Repr

/-- A body that is being read. -/
structure ChunkReader where
  /-- What is left of the last chunk. -/
  pending : Octets := []
  chunks : List Octets
  ending : BodyEnd
  deriving Repr

inductive ChunkRead where
  /-- The next octets; none at the end of the body. -/
  | data (bytes : Octets)
  /-- The body broke off. -/
  | broken
  deriving DecidableEq, Repr

namespace ChunkReader

/-- Reads up to `most` octets. -/
def read (reader : ChunkReader) (most : Nat) : ChunkRead × ChunkReader :=
  match reader with
  | ⟨[], [], ending⟩ =>
    (match ending with
      | .complete => .data []
      | .broken => .broken, ⟨[], [], ending⟩)
  | ⟨[], chunk :: chunks, ending⟩ => read ⟨chunk, chunks, ending⟩ most
  | ⟨byte :: pending, chunks, ending⟩ =>
    let all := byte :: pending
    (.data (all.take most), ⟨all.drop most, chunks, ending⟩)
termination_by (reader.chunks.length, if reader.pending.isEmpty then 1 else 0)
decreasing_by
  all_goals simp_wf
  exact Prod.Lex.left _ _ (Nat.lt_succ_self _)

/-- All octets that are still to be read. -/
def rest (reader : ChunkReader) : Octets := reader.pending ++ reader.chunks.flatten

end ChunkReader

/-! ## Polling -/

def BodyEnd.read : BodyEnd → ChunkRead
  | .complete => .data []
  | .broken => .broken

/-- A body that is polled while it comes in. -/
structure PolledReader where
  /-- What is left of the last chunk. -/
  pending : Octets := []
  /-- What the polls of the body to come give: a chunk, or nothing yet. -/
  polls : List (Option Octets)
  /-- How the body ends behind them. One without an end stays open and has nothing more to give. -/
  ending : Option BodyEnd
  deriving Repr

namespace PolledReader

/-- Polls the body until there is something to read. -/
def pollFrom (ending : Option BodyEnd) (most : Nat) :
    (pending : Octets) → (polls : List (Option Octets)) → Option ChunkRead × PolledReader
  | byte :: pending, polls =>
    let all := byte :: pending
    (some (.data (all.take most)), ⟨all.drop most, polls, ending⟩)
  | [], some chunk :: polls => pollFrom ending most chunk polls
  | [], none :: polls => (none, ⟨[], polls, ending⟩)
  | [], [] => (ending.map BodyEnd.read, ⟨[], [], ending⟩)

/-- Tries to read up to `most` octets. Nothing is returned while the body has nothing to give. -/
def poll (reader : PolledReader) (most : Nat) : Option ChunkRead × PolledReader :=
  pollFrom reader.ending most reader.pending reader.polls

/-- All octets that are still to be read. -/
def rest (reader : PolledReader) : Octets :=
  reader.pending ++ (reader.polls.filterMap id).flatten

end PolledReader

/-- A reader whose chunks have all come. -/
def ChunkReader.polled (reader : ChunkReader) : PolledReader :=
  ⟨reader.pending, reader.chunks.map some, some reader.ending⟩

end Tollgate.Tunnel
