import PageBuffer.Proofs.Table.Audit
import PageBuffer.Proofs.Table.Insertion

/-!
What can go wrong with a table, under any history of hash functions.

As long as the directory is no deeper than `63`, every index is in range, every bit is one of a word
and no difference falls below zero, also between the rounds of an insertion.  A call fails only if it
asks for a slot that the directory does not have, or if an insertion would go beyond that depth.
-/

namespace PageBuffer.Table

variable {κ ν : Type} {table : Table κ ν} {hash : HashFunction κ} {id slot : Nat}
  {bucket : Bucket κ ν} {key : κ} {value : ν}

/-- Room is made in a bucket that is there.  The depth that a split logs is at least one, the bit
before it is one of a word, and the new bucket gets the next number. -/
structure SafeRoom (hash : HashFunction κ) (table : Table κ ν) (id : Nat)
    (bucket : Bucket κ ν) : Prop where
  id_lt : id < table.buckets.size
  exists_makeRoom : ∃ next growth, table.makeRoom hash id bucket = .ok (next, growth) ∧
    ∀ part depth moved sibling slots, Event.split part depth moved sibling slots ∈ growth →
      part = id ∧ 1 ≤ depth ∧ depth - 1 < 64 ∧ sibling = table.buckets.size

/-- What the operations compute from a table is defined. -/
structure Safe (hash : HashFunction κ) (table : Table κ ν) : Prop where
  /-- The low bits of every hash are a slot. -/
  slot_lt : ∀ key, (hash key).toNat % 2 ^ table.globalDepth < table.directory.size
  id_lt : ∀ id ∈ table.directory, id < table.buckets.size
  globalDepth_lt : table.globalDepth < 64
  depth_lt : ∀ bucket ∈ table.buckets, bucket.depth < 64
  depth_le : ∀ bucket ∈ table.buckets, bucket.depth ≤ table.globalDepth
  /-- An entry that can be removed has been counted. -/
  len_pos : ∀ bucket ∈ table.buckets, bucket.entries ≠ [] → 1 ≤ table.len
  safeRoom : ∀ key id bucket, table.route hash key = .ok (id, bucket) →
    table.SafeRoom hash id bucket

theorem eq_of_split_mem_growthEvents {part depth moved sibling slots : Nat}
    (logged : Event.split part depth moved sibling slots ∈ table.growthEvents hash id bucket) :
    part = id ∧ depth = bucket.depth + 1 ∧ sibling = table.buckets.size := by
  unfold growthEvents at logged
  split at logged
  · simp only [double, partingEvents, List.mem_cons, reduceCtorEq, Event.split.injEq,
      List.not_mem_nil, or_false, false_or] at logged
    exact ⟨logged.1, logged.2.1, logged.2.2.2.1⟩
  · simp only [partingEvents, List.mem_cons, reduceCtorEq, Event.split.injEq,
      List.not_mem_nil, or_false] at logged
    exact ⟨logged.1, logged.2.1, logged.2.2.2.1⟩

section Structured

variable (structured : table.Structured)

include structured

theorem Structured.depth_lt (found : table.buckets[id]? = some bucket) : bucket.depth < 64 :=
  Nat.lt_succ_of_le ((structured.aligned.depth_le found).trans structured.globalDepth_le)

theorem Structured.safeRoom (found : table.buckets[id]? = some bucket) (hash : HashFunction κ) :
    table.SafeRoom hash id bucket := by
  have narrow := structured.depth_lt found
  refine ⟨(Array.getElem?_eq_some_iff.mp found).1, _, _, makeRoom_of_lt narrow, ?_⟩
  intro part depth moved sibling slots logged
  obtain ⟨rfl, rfl, rfl⟩ := eq_of_split_mem_growthEvents logged
  exact ⟨rfl, Nat.succ_pos _, narrow, rfl⟩

theorem Structured.safe (hash : HashFunction κ) : table.Safe hash := by
  constructor
  case slot_lt =>
    intro key
    rw [structured.aligned.size_directory]
    exact Nat.mod_lt _ (Nat.two_pow_pos _)
  case id_lt =>
    intro id named
    rcases Array.mem_iff_getElem?.mp named with ⟨slot, atSlot⟩
    exact structured.aligned.id_lt atSlot
  case globalDepth_lt => exact Nat.lt_succ_of_le structured.globalDepth_le
  case depth_lt =>
    intro bucket stored
    rcases Array.mem_iff_getElem?.mp stored with ⟨id, found⟩
    exact structured.depth_lt found
  case depth_le =>
    intro bucket stored
    rcases Array.mem_iff_getElem?.mp stored with ⟨id, found⟩
    exact structured.aligned.depth_le found
  case len_pos =>
    intro bucket stored nonempty
    rcases Array.mem_iff_getElem?.mp stored with ⟨id, found⟩
    rcases List.exists_mem_of_ne_nil _ nonempty with ⟨entry, inBucket⟩
    exact structured.len_pos found inBucket
  case safeRoom =>
    intro key id bucket routed
    exact structured.safeRoom (structured.found_of_route routed) hash

/-- Inside the directory every slot has a local depth, which is at most the global one. -/
theorem Structured.exists_localDepth (inside : slot < 2 ^ table.globalDepth) :
    ∃ depth ≤ table.globalDepth, table.localDepth slot = .ok depth := by
  obtain ⟨depth, has⟩ := structured.aligned.exists_hasPattern slot
  exact ⟨depth, structured.aligned.depth_le_of_hasPattern has,
    (structured.aligned.localDepth_eq_ok_iff inside).mpr has⟩

end Structured

theorem exists_mapM_eq_ok {ε α β : Type} {compute : α → Except ε β} {list : List α}
    (computed : ∀ item ∈ list, ∃ result, compute item = .ok result) :
    ∃ results, list.mapM compute = .ok results := by
  induction list with
  | nil => exact ⟨[], rfl⟩
  | cons head tail inductionHypothesis =>
      rcases List.forall_mem_cons.mp computed with ⟨⟨first, headComputed⟩, tailComputed⟩
      rcases inductionHypothesis tailComputed with ⟨rest, restComputed⟩
      refine ⟨first :: rest, ?_⟩
      simp [List.mapM_cons, headComputed, restComputed, bind, Except.bind, pure, Except.pure]

theorem Structured.exists_localDepths (structured : table.Structured) :
    ∃ depths, table.localDepths = .ok depths := by
  apply exists_mapM_eq_ok
  intro slot inRange
  rw [List.mem_range, Nat.one_shiftLeft] at inRange
  obtain ⟨depth, _, answered⟩ := structured.exists_localDepth inRange
  exact ⟨depth, answered⟩

theorem Structured.exists_audit (structured : table.Structured) (hash : HashFunction κ) :
    ∃ violation, table.audit hash = .ok violation := by
  rcases structured.audit_cases hash with ⟨_, silent⟩ | ⟨_, _, _, _, reported⟩
  · exact ⟨_, silent⟩
  · exact ⟨_, reported⟩

variable [DecidableEq κ]

/-- The call that a table has no answer to, and the one that does not come to an end. -/
inductive Fails (hash : HashFunction κ) (table : Table κ ν) : Call κ ν → Fault → Prop where
  | noSlot {slot : Nat} (outside : 2 ^ table.globalDepth ≤ slot) :
      Fails hash table (.localDepth slot) (.noSlot slot)
  | inseparable {key : κ} {value : ν} {later : Table κ ν}
      (passes : Passes hash key value table later) (beyond : 63 < later.globalDepth) :
      Fails hash table (.insert key value) .inseparable

theorem answer_of_insert_eq_error {fault : Fault}
    (failed : table.insert hash key value = .error fault) :
    (perform hash (.insert key value) table).answer = .error fault := by
  simp only [perform, failed]

/-- Only these two calls fail. -/
theorem Structured.answer_eq_error_iff (structured : table.Structured) {call : Call κ ν}
    {fault : Fault} :
    (Table.perform hash call table).answer = .error fault ↔ Fails hash table call fault := by
  constructor
  · intro failed
    cases call with
    | insert key value =>
        cases inserted : table.insert hash key value with
        | ok outcome =>
            simp only [Table.perform, inserted] at failed
            cases failed
        | error found =>
            simp only [Table.perform, inserted, Except.error.injEq] at failed
            subst failed
            obtain ⟨rfl, later, passes, beyond⟩ := structured.insert_eq_error_iff.mp inserted
            exact .inseparable passes beyond
    | localDepth slot =>
        by_cases inside : slot < 2 ^ table.globalDepth
        · obtain ⟨depth, _, answered⟩ := structured.exists_localDepth inside
          simp only [Table.perform, answered] at failed
          cases failed
        · have outside := Nat.le_of_not_lt inside
          simp only [Table.perform, structured.aligned.localDepth_of_outside outside] at failed
          cases failed
          exact .noSlot outside
    | find key =>
        obtain ⟨answer, answered⟩ := structured.exists_find hash key
        simp only [Table.perform, answered] at failed
        cases failed
    | remove key =>
        obtain ⟨present, next, removed, _⟩ := structured.exists_removes hash key
        simp only [Table.perform, removed] at failed
        cases failed
    | localDepths =>
        obtain ⟨depths, answered⟩ := structured.exists_localDepths
        simp only [Table.perform, answered] at failed
        cases failed
    | check =>
        obtain ⟨violation, answered⟩ := structured.exists_audit hash
        simp only [Table.perform, answered] at failed
        cases failed
    | len | isEmpty | globalDepth | bucketCount => cases failed
  · intro fails
    cases fails with
    | noSlot outside =>
        simp only [Table.perform, structured.aligned.localDepth_of_outside outside]
        rfl
    | inseparable passes beyond =>
        exact answer_of_insert_eq_error
          (structured.insert_eq_error_iff.mpr ⟨rfl, _, passes, beyond⟩)

/-- Let any run have led to a table, hash functions changing between its calls, and let any hash
function be current now.  The table is safe, and so is every table that an insertion goes through
down to depth `63`.  A call fails only if it asks for a slot outside the directory, or is an
insertion that goes beyond that depth. -/
theorem faults_after_any_history {bucketSize : Nat} {fresh : Table κ ν}
    (created : create bucketSize = .ok fresh) (steps : List (HashFunction κ × Call κ ν))
    (hash : HashFunction κ) :
    let table := Run.finalState performHashed fresh steps
    table.Safe hash ∧
      (∀ key value moment, Passes hash key value table moment → moment.globalDepth ≤ 63 →
        moment.Safe hash) ∧
      (∀ call fault, (perform hash call table).answer = .error fault ↔
        Fails hash table call fault) ∧
      ∀ slot < 2 ^ table.globalDepth, ∃ depth ≤ table.globalDepth,
        table.localDepth slot = .ok depth := by
  intro table
  have structured : table.Structured := ((structured_create created).finalState steps).1
  refine ⟨structured.safe hash, ?_, fun call fault => structured.answer_eq_error_iff,
    fun slot inside => structured.exists_localDepth inside⟩
  intro key value moment passes narrow
  exact (passes.structured structured narrow).safe hash

/-- Two keys stand in two buckets, and then a hash function comes that tells no keys apart: one key
is misplaced, and a third one can be inserted at no depth.  The other calls answer as ever. -/
theorem faults_after_any_history_blind :
    let fresh : Table Nat Nat := { bucketSize := 1 }
    let plain : HashFunction Nat := fun key => UInt64.ofNat key
    let blind : HashFunction Nat := fun _ => 0
    let steps : List (HashFunction Nat × Call Nat Nat) :=
      [(plain, .insert 0 5), (plain, .insert 1 6)]
    let table := Run.finalState performHashed fresh steps
    create 1 = .ok fresh ∧ table.audit blind = .ok (some (.misrouted 1 1)) ∧ table.Safe blind ∧
      Fails blind table (.localDepth 2) (.noSlot 2) ∧
      (∃ depth ≤ table.globalDepth, table.localDepth 1 = .ok depth) ∧
      Fails blind table (.insert 2 7) .inseparable := by
  intro fresh plain blind steps table
  have created : create 1 = .ok fresh := rfl
  have structured : table.Structured := ((structured_create created).finalState steps).1
  have routed : table.route blind 2 = .ok (0, ⟨1, [(0, 5)]⟩) := by decide +kernel
  have never : ∀ deep, ¬ (⟨1, [(0, 5)]⟩ : Bucket Nat Nat).PartsBy blind 2 deep := by
    rintro deep ⟨_, _, entry, _, parted⟩
    exact parted fun _ _ _ => rfl
  have failed : table.insert blind 2 7 = .error .inseparable :=
    structured.insert_eq_inseparable routed (by decide) (by decide +kernel) never
  obtain ⟨safe, _, fails_iff, depths⟩ := faults_after_any_history created steps blind
  exact ⟨created, by decide +kernel, safe, (fails_iff _ _).mp (by decide +kernel),
    depths 1 (by decide +kernel), (fails_iff _ _).mp (answer_of_insert_eq_error failed)⟩

end PageBuffer.Table
