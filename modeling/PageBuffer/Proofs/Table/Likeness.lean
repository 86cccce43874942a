import PageBuffer.Proofs.Table.Audit
import PageBuffer.Proofs.Table.Shape

/-!
Tables that no caller tells apart.

Two tables are alike if their buckets go by the same patterns and their look-ups agree.  Then the
buckets that a key routes to hold the same keys, in whatever order and under whatever numbers, so
one is full when the other is, and what a split moves is the same.  Every call gets the same answer
from both and leaves them alike.
-/

namespace PageBuffer.Table

variable {κ ν : Type} [DecidableEq κ] {hash : HashFunction κ} {table one other : Table κ ν}
  {key : κ} {value : ν}

/-- Tables that show the same depths and find the same values. -/
structure Alike (hash : HashFunction κ) (one other : Table κ ν) : Prop where
  structured : one.Structured
  otherStructured : other.Structured
  routed : one.Routed hash
  otherRouted : other.Routed hash
  bucketSize_eq : one.bucketSize = other.bucketSize
  find_eq : ∀ key, one.find hash key = other.find hash key
  hasPattern_iff : ∀ depth pattern, one.HasPattern depth pattern ↔ other.HasPattern depth pattern

/-- A bucket with room takes an entry in without a split. -/
theorem Structured.insertWithin_of_room (structured : table.Structured) {id : Nat}
    {bucket : Bucket κ ν} (routed : table.route hash key = .ok (id, bucket))
    (room : bucket.put table.bucketSize key value ≠ .full) (levels : Nat) :
    ∃ final, insertWithin hash key value levels table = .ok (final, []) ∧
      Inserts hash key value table final ∧
      ∀ depth pattern, final.HasPattern depth pattern ↔ table.HasPattern depth pattern := by
  have found := structured.found_of_route routed
  cases put : bucket.put table.bucketSize key value with
  | overwritten held =>
      refine ⟨_, insertWithin_of_overwritten routed put, .overwrite routed put, ?_⟩
      intro depth pattern
      exact hasPattern_setBucket found (Bucket.depth_of_put_eq_overwritten put) table.len
  | added held =>
      refine ⟨_, insertWithin_of_added routed put, .add routed put, ?_⟩
      intro depth pattern
      exact hasPattern_setBucket found (Bucket.depth_of_put_eq_added put) _
  | full => exact absurd put room

/-- Insertions into two tables end alike: both return, or both meet the same fault. -/
inductive AlikeEnds (hash : HashFunction κ) : Except Fault (Table κ ν × List Event) →
    Except Fault (Table κ ν × List Event) → Prop where
  | returned {one other : Table κ ν} {events otherEvents : List Event}
      (alike : Alike hash one other) : AlikeEnds hash (.ok (one, events)) (.ok (other, otherEvents))
  | failed {fault : Fault} : AlikeEnds hash (.error fault) (.error fault)

theorem AlikeEnds.map_events {first second : Except Fault (Table κ ν × List Event)}
    (ends : AlikeEnds hash first second) (growth otherGrowth : List Event) :
    AlikeEnds hash (first.map fun (final, later) => (final, growth ++ later))
      (second.map fun (final, later) => (final, otherGrowth ++ later)) := by
  cases ends with
  | returned alike => exact .returned alike
  | failed => exact .failed

namespace Alike

/-- Public views that agree make tables alike. -/
theorem of_localDepth (structured : one.Structured) (otherStructured : other.Structured)
    (routed : one.Routed hash) (otherRouted : other.Routed hash)
    (sameSize : one.bucketSize = other.bucketSize)
    (sameFinds : ∀ key, one.find hash key = other.find hash key)
    (sameDepths : ∀ slot, one.localDepth slot = other.localDepth slot) :
    Alike hash one other where
  structured := structured
  otherStructured := otherStructured
  routed := routed
  otherRouted := otherRouted
  bucketSize_eq := sameSize
  find_eq := sameFinds
  hasPattern_iff depth pattern := by
    rw [structured.aligned.hasPattern_iff_localDepth,
      otherStructured.aligned.hasPattern_iff_localDepth, sameDepths]

variable (alike : Alike hash one other)

include alike

section Buckets

variable {id otherId : Nat} {bucket otherBucket : Bucket κ ν}
  (routed : one.route hash key = .ok (id, bucket))
  (otherRouted : other.route hash key = .ok (otherId, otherBucket))

include routed otherRouted

theorem depth_eq : bucket.depth = otherBucket.depth := by
  have has := alike.structured.hasPattern_of_route routed
  have otherHas := alike.otherStructured.hasPattern_of_route otherRouted
  exact alike.otherStructured.aligned.depth_unique ((alike.hasPattern_iff _ _).mp has) otherHas

/-- The buckets of a key hold the same keys. -/
theorem perm_keys : bucket.keys.Perm otherBucket.keys := by
  have sameKeys := alike.routed.perm_keys alike.structured alike.otherRouted
    alike.otherStructured alike.find_eq
  have distinct := alike.structured.distinct (alike.structured.found_of_route routed)
  have otherDistinct :=
    alike.otherStructured.distinct (alike.otherStructured.found_of_route otherRouted)
  rw [List.perm_ext_iff_of_nodup distinct otherDistinct]
  intro sought
  rw [alike.routed.mem_bucket_keys_iff_of_route alike.structured routed,
    alike.otherRouted.mem_bucket_keys_iff_of_route alike.otherStructured otherRouted,
    sameKeys.mem_iff, alike.depth_eq routed otherRouted]

theorem full_iff : bucket.put one.bucketSize key value = .full ↔
    otherBucket.put other.bucketSize key value = .full := by
  have sameKeys := alike.perm_keys routed otherRouted
  rw [Bucket.put_eq_full_iff, Bucket.put_eq_full_iff, sameKeys.mem_iff, alike.bucketSize_eq,
    ← Bucket.length_keys, ← Bucket.length_keys, sameKeys.length_eq]

/-- Making room for a key leaves tables alike. -/
theorem grown (shallow : bucket.depth < 63) :
    Alike hash (one.grown hash id bucket) (other.grown hash otherId otherBucket) := by
  have sameDepth := alike.depth_eq routed otherRouted
  have found := alike.structured.found_of_route routed
  have otherFound := alike.otherStructured.found_of_route otherRouted
  have otherShallow : otherBucket.depth < 63 := sameDepth ▸ shallow
  constructor
  case structured => exact alike.structured.grown found shallow hash
  case otherStructured => exact alike.otherStructured.grown otherFound otherShallow hash
  case routed => exact alike.routed.grown alike.structured.aligned found
  case otherRouted => exact alike.otherRouted.grown alike.otherStructured.aligned otherFound
  case bucketSize_eq => simpa using alike.bucketSize_eq
  case find_eq =>
    intro sought
    rw [alike.structured.find_grown found shallow,
      alike.otherStructured.find_grown otherFound otherShallow, alike.find_eq]
  case hasPattern_iff =>
    intro depth pattern
    by_cases low : pattern < 2 ^ depth
    · rw [← Nat.mod_eq_of_lt low, alike.structured.hasPattern_grown_iff_of_route routed,
        alike.otherStructured.hasPattern_grown_iff_of_route otherRouted, alike.hasPattern_iff,
        sameDepth]
    · exact iff_of_false (fun has => low has.pattern_lt) (fun has => low has.pattern_lt)

end Buckets

/-- Insertions of one entry leave tables alike if they leave the same patterns. -/
theorem inserts {final otherFinal : Table κ ν} (inserts : Inserts hash key value one final)
    (otherInserts : Inserts hash key value other otherFinal)
    (samePatterns : ∀ depth pattern,
      final.HasPattern depth pattern ↔ otherFinal.HasPattern depth pattern) :
    Alike hash final otherFinal where
  structured := inserts.structured alike.structured
  otherStructured := otherInserts.structured alike.otherStructured
  routed := alike.routed.inserts alike.structured inserts
  otherRouted := alike.otherRouted.inserts alike.otherStructured otherInserts
  bucketSize_eq := by
    rw [inserts.bucketSize_eq, otherInserts.bucketSize_eq, alike.bucketSize_eq]
  find_eq sought := by
    rw [inserts.find alike.structured, otherInserts.find alike.otherStructured, alike.find_eq]
  hasPattern_iff := samePatterns

theorem insertWithin_of_room {id otherId : Nat} {bucket otherBucket : Bucket κ ν}
    (routed : one.route hash key = .ok (id, bucket))
    (otherRouted : other.route hash key = .ok (otherId, otherBucket))
    (room : bucket.put one.bucketSize key value ≠ .full) (levels : Nat) :
    AlikeEnds hash (insertWithin hash key value levels one)
      (insertWithin hash key value levels other) := by
  have otherRoom := mt (alike.full_iff routed otherRouted).mpr room
  obtain ⟨final, inserted, inserts, patterns⟩ :=
    alike.structured.insertWithin_of_room routed room levels
  obtain ⟨otherFinal, otherInserted, otherInserts, otherPatterns⟩ :=
    alike.otherStructured.insertWithin_of_room otherRouted otherRoom levels
  rw [inserted, otherInserted]
  apply AlikeEnds.returned
  apply alike.inserts inserts otherInserts
  intro depth pattern
  exact (patterns depth pattern).trans
    ((alike.hasPattern_iff depth pattern).trans (otherPatterns depth pattern).symm)

omit alike in
/-- Full buckets are split on both sides until there is room on both, or no level left on either. -/
theorem insertWithin {one other : Table κ ν} (alike : Alike hash one other) {levels id : Nat}
    {bucket : Bucket κ ν} (routed : one.route hash key = .ok (id, bucket))
    (room : bucket.depth + levels ≤ 63) :
    AlikeEnds hash (insertWithin hash key value levels one)
      (insertWithin hash key value levels other) := by
  induction levels generalizing one other id bucket with
  | zero =>
      obtain ⟨otherId, otherBucket, otherRouted, _⟩ := alike.otherStructured.exists_route hash key
      by_cases full : bucket.put one.bucketSize key value = .full
      · have otherFull := (alike.full_iff routed otherRouted).mp full
        rw [insertWithin_zero_of_full routed full, insertWithin_zero_of_full otherRouted otherFull]
        exact .failed
      · exact alike.insertWithin_of_room routed otherRouted full 0
  | succ levels inductionHypothesis =>
      obtain ⟨otherId, otherBucket, otherRouted, _⟩ := alike.otherStructured.exists_route hash key
      by_cases full : bucket.put one.bucketSize key value = .full
      · have otherFull := (alike.full_iff routed otherRouted).mp full
        have sameDepth := alike.depth_eq routed otherRouted
        rw [insertWithin_of_full routed full (by omega),
          insertWithin_of_full otherRouted otherFull (by omega)]
        apply AlikeEnds.map_events
        have deeper := alike.structured.aligned.route_grown_self
          alike.structured.globalDepth_le (by omega) routed
        apply inductionHypothesis (alike.grown routed otherRouted (by omega)) deeper
        simp only [Bucket.half]
        omega
      · exact alike.insertWithin_of_room routed otherRouted full (levels + 1)

theorem insert (key : κ) (value : ν) :
    AlikeEnds hash (one.insert hash key value) (other.insert hash key value) := by
  obtain ⟨id, bucket, routed, found⟩ := alike.structured.exists_route hash key
  obtain ⟨otherId, otherBucket, otherRouted, _⟩ := alike.otherStructured.exists_route hash key
  have shallow := alike.structured.aligned.depth_le found
  have narrow := alike.structured.globalDepth_le
  rw [insert_of_route routed, insert_of_route otherRouted, ← alike.depth_eq routed otherRouted]
  exact alike.insertWithin routed (by omega)

theorem remove (key : κ) : ∃ present next otherNext,
    one.remove hash key = .ok (present, next) ∧
      other.remove hash key = .ok (present, otherNext) ∧ Alike hash next otherNext := by
  obtain ⟨present, next, removed, removes⟩ := alike.structured.exists_removes hash key
  obtain ⟨otherPresent, otherNext, otherRemoved, otherRemoves⟩ :=
    alike.otherStructured.exists_removes hash key
  obtain ⟨answer, answered⟩ := alike.structured.exists_find hash key
  have samePresent : otherPresent = present := by
    rw [removes.present_eq answered]
    apply otherRemoves.present_eq
    rwa [← alike.find_eq]
  subst samePresent
  refine ⟨otherPresent, next, otherNext, removed, otherRemoved, ?_⟩
  constructor
  case structured => exact removes.structured alike.structured
  case otherStructured => exact otherRemoves.structured alike.otherStructured
  case routed => exact alike.routed.removes alike.structured removes
  case otherRouted => exact alike.otherRouted.removes alike.otherStructured otherRemoves
  case bucketSize_eq =>
    exact removes.bucketSize_eq.trans (alike.bucketSize_eq.trans otherRemoves.bucketSize_eq.symm)
  case find_eq =>
    intro sought
    rw [removes.find alike.structured, otherRemoves.find alike.otherStructured, alike.find_eq]
  case hasPattern_iff =>
    intro depth pattern
    rw [removes.hasPattern_iff alike.structured, otherRemoves.hasPattern_iff alike.otherStructured,
      alike.hasPattern_iff]

theorem len_eq : one.len = other.len :=
  alike.routed.len_eq_len alike.structured alike.otherRouted alike.otherStructured alike.find_eq

theorem sameShape : one.SameShape other :=
  alike.structured.sameShape alike.otherStructured alike.hasPattern_iff

theorem localDepths_eq : one.localDepths = other.localDepths := by
  have sameDepths : one.localDepth = other.localDepth := funext alike.sameShape.localDepth_eq
  rw [localDepths, localDepths, alike.sameShape.globalDepth_eq, sameDepths]

theorem audit_eq : one.audit hash = other.audit hash := by
  rw [alike.structured.audit_of_routed alike.routed,
    alike.otherStructured.audit_of_routed alike.otherRouted]

/-- A call gets the same answer from tables that are alike, and leaves them so. -/
theorem perform (call : Call κ ν) :
    Run.Matches (Alike hash) id (Table.perform hash call one) (Table.perform hash call other) := by
  cases call with
  | insert key value =>
      have ends := alike.insert key value
      simp only [Table.perform]
      generalize one.insert hash key value = inserted at ends ⊢
      generalize other.insert hash key value = otherInserted at ends ⊢
      cases ends with
      | returned laterAlike => exact ⟨rfl, laterAlike⟩
      | failed => exact ⟨rfl, alike⟩
  | remove key =>
      obtain ⟨present, next, otherNext, removed, otherRemoved, laterAlike⟩ := alike.remove key
      simp only [Table.perform, removed, otherRemoved]
      exact ⟨rfl, laterAlike⟩
  | find key => exact ⟨by simp [Table.perform, alike.find_eq], alike⟩
  | len => exact ⟨by simp [Table.perform, alike.len_eq], alike⟩
  | isEmpty => exact ⟨by simp [Table.perform, isEmpty, alike.len_eq], alike⟩
  | globalDepth => exact ⟨by simp [Table.perform, alike.sameShape.globalDepth_eq], alike⟩
  | bucketCount => exact ⟨by simp [Table.perform, alike.sameShape.bucketCount_eq], alike⟩
  | localDepth slot => exact ⟨by simp [Table.perform, alike.sameShape.localDepth_eq], alike⟩
  | localDepths => exact ⟨by simp [Table.perform, alike.localDepths_eq], alike⟩
  | check => exact ⟨by simp [Table.perform, alike.audit_eq], alike⟩

theorem answers_eq (calls : List (Call κ ν)) :
    Run.answers (Table.perform hash) one calls = Run.answers (Table.perform hash) other calls := by
  have allowed : Run.Allowed (Table.perform hash) (fun _ _ => True) other calls :=
    fun _ _ _ _ => trivial
  have step : ∀ (call : Call κ ν) (one other : Table κ ν), Alike hash one other → True →
      Run.Matches (Alike hash) id (Table.perform hash call one) (Table.perform hash call other) :=
    fun call _ _ alike _ => alike.perform call
  rw [Run.answers_eq_map step alike allowed, List.map_id]

end Alike

/-- Two histories under one hash function may number buckets and order entries differently.  If all
local depths and all look-ups agree in the end, then every further run gets the same answers. -/
theorem answers_eq_of_same_depths_and_finds {bucketSize : Nat} {fresh : Table κ ν}
    (created : create bucketSize = .ok fresh) (hash : HashFunction κ)
    (first second : List (Call κ ν))
    (sameDepths : ∀ slot, (Run.finalState (perform hash) fresh first).localDepth slot =
      (Run.finalState (perform hash) fresh second).localDepth slot)
    (sameFinds : ∀ key, (Run.finalState (perform hash) fresh first).find hash key =
      (Run.finalState (perform hash) fresh second).find hash key) (calls : List (Call κ ν)) :
    Run.answers (perform hash) (Run.finalState (perform hash) fresh first) calls =
      Run.answers (perform hash) (Run.finalState (perform hash) fresh second) calls := by
  have freshRouted := routed_create created hash
  have freshStructured := structured_create created
  obtain ⟨routed, structured, sameSize⟩ := freshRouted.reached freshStructured first
  obtain ⟨otherRouted, otherStructured, otherSameSize⟩ :=
    freshRouted.reached freshStructured second
  have alike := Alike.of_localDepth structured otherStructured routed otherRouted
    (sameSize.trans otherSameSize.symm) sameFinds sameDepths
  exact alike.answers_eq calls

/-- The even keys come first in one history and the odd ones in the other, where a removal also
leaves the buckets in another order. -/
theorem answers_eq_after_even_or_odd_first :
    let fresh : Table (Fin 8) Nat := { bucketSize := 2 }
    let plain : HashFunction (Fin 8) := fun key => UInt64.ofNat key
    let first : List (Call (Fin 8) Nat) :=
      [.insert 0 5, .insert 4 6, .insert 1 7, .insert 2 8, .insert 3 9, .insert 5 10]
    let second : List (Call (Fin 8) Nat) :=
      [.insert 1 0, .insert 7 0, .insert 5 10, .remove 1, .insert 1 7, .insert 3 9, .remove 7,
        .insert 4 6, .insert 2 8, .insert 0 5]
    let one := Run.finalState (perform plain) fresh first
    let other := Run.finalState (perform plain) fresh second
    create 2 = .ok fresh ∧ (∀ slot, one.localDepth slot = other.localDepth slot) ∧
      (∀ key, one.find plain key = other.find plain key) ∧
      one.directory ≠ other.directory ∧ one.buckets.toList.map (·.keys) ≠
        other.buckets.toList.map (·.keys) ∧
      ∀ calls, Run.answers (perform plain) one calls = Run.answers (perform plain) other calls := by
  intro fresh plain first second one other
  have created : create 2 = .ok fresh := rfl
  have structured := structured_create created
  have aligned : one.Aligned := ((routed_create created plain).reached structured first).2.1.aligned
  have otherAligned : other.Aligned :=
    ((routed_create created plain).reached structured second).2.1.aligned
  have depth : one.globalDepth = 2 := by decide +kernel
  have otherDepth : other.globalDepth = 2 := by decide +kernel
  have inside : ∀ slot < 4, one.localDepth slot = other.localDepth slot := by decide +kernel
  have sameDepths : ∀ slot, one.localDepth slot = other.localDepth slot := by
    intro slot
    rcases Nat.lt_or_ge slot 4 with below | outside
    · exact inside slot below
    · rw [aligned.localDepth_of_outside (by rwa [depth]),
        otherAligned.localDepth_of_outside (by rwa [otherDepth])]
  have sameFinds : ∀ key, one.find plain key = other.find plain key := by decide +kernel
  have numberedApart : one.directory ≠ other.directory := by decide +kernel
  have orderedApart : one.buckets.toList.map (·.keys) ≠ other.buckets.toList.map (·.keys) := by
    decide +kernel
  refine ⟨created, sameDepths, sameFinds, numberedApart, orderedApart, ?_⟩
  exact answers_eq_of_same_depths_and_finds created plain first second sameDepths sameFinds

end PageBuffer.Table
