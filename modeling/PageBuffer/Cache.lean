import PageBuffer.History
import PageBuffer.Pool.Run

/-!
The page pool as one structure: each frame is free or holds a page together with its pin and its
complete access history.  There is no page table to keep in step, and no replacer.
-/

namespace PageBuffer

/-- A page in a frame, and its accesses since it was loaded there. -/
structure Resident where
  page : PageId
  pinned : Bool
  history : History
  deriving DecidableEq, Repr

structure Cache where
  k : Nat
  clock : Nat := 0
  /-- What each frame holds. -/
  frames : List (Option Resident)
  /-- The free frames, next one first. -/
  free : List Nat
  deriving DecidableEq, Repr

namespace Cache

def create (size k : Nat) : Cache :=
  { k, frames := List.replicate size none, free := List.range size }

/-- The frame that holds a page. -/
def frameOf? (cache : Cache) (page : PageId) : Option Nat :=
  cache.frames.findIdx? (·.any (·.page = page))

def residentIn (cache : Cache) (frame : Nat) : Option Resident :=
  cache.frames[frame]?.join

/-- The histories of the unpinned residents, with their frames. -/
def unpinned (cache : Cache) : List (Nat × History) :=
  cache.frames.zipIdx.filterMap fun (resident, frame) =>
    (resident.filter (!·.pinned)).map fun resident => (frame, resident.history)

/-- The frame of the unpinned resident that no other one precedes. -/
def victim? (cache : Cache) : Option Nat :=
  (cache.unpinned.find? fun candidate =>
    cache.unpinned.all fun other => !History.precedes cache.k other.2 candidate.2).map (·.1)

/-- Puts a resident into a frame, or nothing. -/
def put (cache : Cache) (frame : Nat) (resident : Option Resident) : Cache :=
  { cache with frames := cache.frames.set frame resident }

/-- Pins a page in a frame and adds an access to the history it has there. -/
def access (cache : Cache) (frame : Nat) (page : PageId) (history : History) : Cache :=
  let resident : Resident := { page, pinned := true, history := history ++ [cache.clock] }
  { cache.put frame (some resident) with clock := cache.clock + 1 }

def fetch (cache : Cache) (page : PageId) : Option Nat × Cache :=
  match cache.frameOf? page with
  | some frame =>
      let history := (cache.residentIn frame).elim [] (·.history)
      (some frame, cache.access frame page history)
  | none =>
      match cache.free with
      | frame :: free => (some frame, { cache with free }.access frame page [])
      | [] =>
          match cache.victim? with
          | some frame => (some frame, cache.access frame page [])
          | none => (none, cache)

def unpin (cache : Cache) (page : PageId) : Cache :=
  match cache.frameOf? page with
  | some frame =>
      cache.put frame ((cache.residentIn frame).map fun resident => { resident with pinned := false })
  | none => cache

/-- Whether the page in a frame is pinned. -/
def isPinned (cache : Cache) (frame : Nat) : Bool :=
  (cache.residentIn frame).any (·.pinned)

def delete (cache : Cache) (page : PageId) : Except BufferError Unit × Cache :=
  match cache.frameOf? page with
  | some frame =>
      if cache.isPinned frame then
        (.error (.removeNonEvictable frame), cache)
      else
        (.ok (), { cache.put frame none with free := cache.free ++ [frame] })
  | none => (.ok (), cache)

def answer (call : Pool.Call) (cache : Cache) : Pool.Answer × Cache :=
  match call with
  | .fetch page =>
      let (frame, next) := cache.fetch page
      (.frame (frame.map Int.ofNat), next)
  | .unpin page => (.done, cache.unpin page)
  | .delete page =>
      let (result, next) := cache.delete page
      (.ofResult result, next)
  | .find page => (.frame ((cache.frameOf? page).map Int.ofNat), cache)

/-- Answers a call.  No call on a cache can fail. -/
def perform (call : Pool.Call) (cache : Cache) :
    Outcome Cache Empty (Except Pool.Fault Pool.Answer) :=
  let (answer, next) := cache.answer call
  ⟨.ok answer, next, []⟩

/-- How many pages are resident. -/
def len (cache : Cache) : Nat :=
  cache.frames.countP (·.isSome)

/-- How many residents are unpinned. -/
def evictableCount (cache : Cache) : Nat :=
  cache.unpinned.length

/-- The page in each frame, `noPage` for none. -/
def pages (cache : Cache) : List PageId :=
  cache.frames.map fun resident => resident.elim noPage (·.page)

end Cache

end PageBuffer
