import PageBuffer.Building
import PageBuffer.Fallible

/-!
A page pool: a table from pages to frames, a replacer that chooses which frame to reuse, a queue of
free frames, and for each frame the page it holds.

There are no pin counts.  A fetched page is pinned until it is unpinned once.
-/

namespace PageBuffer

structure Pool where
  pageTable : Table PageId FrameId
  replacer : Replacer
  /-- Frames that hold no page, next one first. -/
  free : List FrameId
  /-- The page in each frame, `noPage` for none. -/
  resident : Array PageId
  deriving DecidableEq, Repr

namespace Pool

/-- A step whose assumption about the pool does not hold.  The step is abandoned there. -/
inductive Fault where
  | table (fault : Table.Fault)
  | access (error : BufferError)
  | noFrame (frame : FrameId)
  /-- The evicted frame holds `noPage`. -/
  | vacant (frame : FrameId)
  /-- The evicted frame's page is not in the page table. -/
  | unmapped (page : PageId)
  deriving DecidableEq, Repr

/-- A pool of `size` free frames around a table and a replacer. -/
def around (pageTable : Table PageId FrameId) (replacer : Replacer) (size : Nat) : Pool where
  pageTable
  replacer
  free := (List.range size).map Int.ofNat
  resident := Array.replicate size noPage

/-- A pool of `size` free frames. -/
def assemble (bucketSize size k : Nat) : Except BufferError Pool := do
  let pageTable ← Table.create bucketSize
  let replacer ← Replacer.create size k
  return around pageTable replacer size

theorem exists_parts_of_assemble {bucketSize size k : Nat} {pool : Pool}
    (assembled : assemble bucketSize size k = .ok pool) :
    ∃ pageTable replacer, Table.create bucketSize = .ok pageTable ∧
      Replacer.create size k = .ok replacer ∧ pool = around pageTable replacer size := by
  simp only [assemble, Fallible.bind_eq_ok_iff, Fallible.pure_eq_ok_iff] at assembled
  obtain ⟨pageTable, tableCreated, replacer, replacerCreated, rfl⟩ := assembled
  exact ⟨pageTable, replacer, tableCreated, replacerCreated, rfl⟩

/-- A pool of `size` free frames, with the storage that its table and its replacer reserve. -/
def build (bucketSize size k : Nat) : Except BuildFault Pool := do
  let pageTable ← Table.build .ofPool bucketSize
  let replacer ← Replacer.build .ofPool size k
  return around pageTable replacer size

/-- What is built with storage is what is assembled without. -/
theorem assemble_of_build {bucketSize size k : Nat} {pool : Pool}
    (built : build bucketSize size k = .ok pool) : assemble bucketSize size k = .ok pool := by
  simp only [build, Fallible.bind_eq_ok_iff, Fallible.pure_eq_ok_iff] at built
  obtain ⟨pageTable, tableBuilt, replacer, replacerBuilt, rfl⟩ := built
  rw [assemble, created_of_withStorage tableBuilt, created_of_withStorage replacerBuilt]
  rfl

/-- A pool whose page table has two entries to a bucket. -/
def create (size k : Nat) : Except BuildFault Pool :=
  build 2 size k

def ofSettings (settings : Settings) : Except BuildFault Pool :=
  build settings.bucketSize.toNat settings.poolSize.toNat settings.replacerK.toNat

/-- The frame that a page is mapped to. -/
def find (pool : Pool) (hash : HashFunction PageId) (page : PageId) :
    Except Fault (Option FrameId) :=
  (pool.pageTable.find hash page).mapError .table

/-- The page in a frame. -/
def pageIn (pool : Pool) (frame : FrameId) : Except Fault PageId :=
  if frame < 0 then
    .error (.noFrame frame)
  else
    match pool.resident[frame.toNat]? with
    | none => .error (.noFrame frame)
    | some page => .ok page

def setPage (pool : Pool) (frame : FrameId) (page : PageId) : Except Fault Pool := do
  let _ ← pool.pageIn frame
  return { pool with resident := pool.resident.setIfInBounds frame.toNat page }

/-- Records an access to a frame and pins it. -/
def pin (pool : Pool) (frame : FrameId) : Except Fault Pool :=
  let touched := pool.replacer.touch frame
  match touched.answer with
  | .error error => .error (.access error)
  | .ok () => .ok { pool with replacer := touched.state.mark frame false }

/-- Puts a page into a frame and pins it there. -/
def load (pool : Pool) (hash : HashFunction PageId) (page : PageId) (frame : FrameId) :
    Except Fault Pool := do
  let seated ← pool.setPage frame page
  let (pageTable, _) ← (seated.pageTable.insert hash page frame).mapError .table
  pin { seated with pageTable } frame

/-- Takes the page out of an evicted frame. -/
def vacate (pool : Pool) (hash : HashFunction PageId) (frame : FrameId) : Except Fault Pool := do
  let page ← pool.pageIn frame
  if page = noPage then
    throw (.vacant frame)
  else
    let (present, pageTable) ← (pool.pageTable.remove hash page).mapError .table
    if present then
      setPage { pool with pageTable } frame noPage
    else
      throw (.unmapped page)

/-- Takes a page out of its frame and queues the frame as free. -/
def discard (pool : Pool) (hash : HashFunction PageId) (page : PageId) (frame : FrameId) :
    Except Fault Pool := do
  let (_, pageTable) ← (pool.pageTable.remove hash page).mapError .table
  let cleared ← setPage { pool with pageTable } frame noPage
  return { cleared with free := cleared.free ++ [frame] }

/-- Answers and moves to the changed pool; at a fault the pool stays as it is. -/
def settle {α : Type} (pool : Pool) (answer : α) (change : Except Fault Pool) :
    Outcome Pool Empty (Except Fault α) :=
  match change with
  | .ok next => ⟨.ok answer, next, []⟩
  | .error fault => ⟨.error fault, pool, []⟩

/-- Pins a page, loading it into a free or an evicted frame if it is not there.  Answers no frame
if every frame is pinned.  By the time an evicted frame turns out to hold `noPage` the replacer has
stopped tracking it. -/
def fetch (pool : Pool) (hash : HashFunction PageId) (page : PageId) :
    Outcome Pool Empty (Except Fault (Option FrameId)) :=
  match pool.find hash page with
  | .error fault => ⟨.error fault, pool, []⟩
  | .ok (some frame) => pool.settle (some frame) (pool.pin frame)
  | .ok none =>
      match pool.free with
      | frame :: free => pool.settle (some frame) ({ pool with free }.load hash page frame)
      | [] =>
          let evicted := pool.replacer.evict
          match evicted.answer with
          | none => ⟨.ok none, pool, []⟩
          | some frame =>
              let spared := { pool with replacer := evicted.state }
              spared.settle (some frame) do
                let emptied ← spared.vacate hash frame
                emptied.load hash page frame

/-- Lets a page's frame be evicted.  A page that is not in the pool is ignored. -/
def unpin (pool : Pool) (hash : HashFunction PageId) (page : PageId) :
    Outcome Pool Empty (Except Fault Unit) :=
  match pool.find hash page with
  | .error fault => ⟨.error fault, pool, []⟩
  | .ok none => ⟨.ok (), pool, []⟩
  | .ok (some frame) => ⟨.ok (), { pool with replacer := pool.replacer.mark frame true }, []⟩

/-- Drops a page and frees its frame.  A pinned page is refused, an absent one ignored. -/
def delete (pool : Pool) (hash : HashFunction PageId) (page : PageId) :
    Outcome Pool Empty (Except Fault (Except BufferError Unit)) :=
  match pool.find hash page with
  | .error fault => ⟨.error fault, pool, []⟩
  | .ok none => ⟨.ok (.ok ()), pool, []⟩
  | .ok (some frame) =>
      let released := pool.replacer.release frame
      match released.answer with
      | .error error => ⟨.ok (.error error), pool, []⟩
      | .ok () =>
          pool.settle (.ok ()) ({ pool with replacer := released.state }.discard hash page frame)

end Pool

end PageBuffer
