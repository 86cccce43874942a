import PageBuffer.Proofs.Table.Audit
import PageBuffer.Proofs.Table.Shape
import PageBuffer.Threads
import Mathlib.Order.CompletePartialOrder

/-!
Threads that share a table and keep to keys of their own.

A call's answer depends on nothing but what is stored under its key, so no thread sees the others.
The tables that two schedules leave may differ in the numbers of their buckets and in the order of
entries, and in nothing that a caller can see.
-/

namespace PageBuffer.Table

variable {κ ν : Type} [DecidableEq κ]

section Contents

namespace Contents

variable {contents alone : Contents κ ν} {call : Call κ ν} {key sought : κ}

/-- An answer depends only on what is stored under the call's key. -/
theorem answer_eq (about : call.key? = some key) (same : contents.find? key = alone.find? key) :
    (perform call contents).answer = (perform call alone).answer := by
  cases call with
  | insert => rfl
  | find | remove =>
      cases about
      simp [perform, same]
  | len | isEmpty => cases about

/-- Whatever is the same under a key before a call is so after it. -/
theorem find?_perform_congr (same : contents.find? sought = alone.find? sought) :
    (perform call contents).state.find? sought = (perform call alone).state.find? sought := by
  cases call <;> simp [perform, same]

theorem find?_perform_of_ne (about : call.key? = some key) (different : sought ≠ key) :
    (perform call contents).state.find? sought = contents.find? sought := by
  cases call with
  | insert | remove =>
      cases about
      simp [perform, different]
  | find | len | isEmpty => rfl

theorem mem_keys_of_mem_keys_perform (about : call.key? = some key)
    (member : sought ∈ (perform call contents).state.keys) :
    sought = key ∨ sought ∈ contents.keys := by
  cases call with
  | insert =>
      cases about
      exact mem_keys_insert.mp member
  | remove =>
      rw [perform, keys_remove] at member
      exact .inr (List.mem_of_mem_filter member)
  | find | len | isEmpty => exact .inr member

end Contents

end Contents

section Threads

open Threads

variable {Thread : Type} [DecidableEq Thread] {owned : Thread → Set κ}
  {schedule : List (Thread × Contents.Call κ ν)} {contents alone : Contents κ ν} {thread : Thread}

/-- Each call of the schedule is about a key of its thread. -/
def KeepsTo (owned : Thread → Set κ) (schedule : List (Thread × Contents.Call κ ν)) : Prop :=
  ∀ item ∈ schedule, ∃ key ∈ owned item.1, item.2.key? = some key

/-- Among the calls of others, a thread gets the answers that it gets alone, and its keys come to
hold what they would hold then. -/
theorem KeepsTo.own_eq (keeps : KeepsTo owned schedule)
    (disjoint : ∀ one other, one ≠ other → Disjoint (owned one) (owned other))
    (agree : ∀ key ∈ owned thread, contents.find? key = alone.find? key) :
    own thread ((schedule.map (·.1)).zip
        (Run.answers Contents.perform contents (schedule.map (·.2)))) =
      Run.answers Contents.perform alone (own thread schedule) ∧
    ∀ key ∈ owned thread,
      (Run.finalState Contents.perform contents (schedule.map (·.2))).find? key =
        (Run.finalState Contents.perform alone (own thread schedule)).find? key := by
  induction schedule generalizing contents alone with
  | nil => exact ⟨rfl, agree⟩
  | cons item rest inductionHypothesis =>
      rcases item with ⟨other, call⟩
      rcases List.forall_mem_cons.mp keeps with ⟨⟨called, calledOwned, about⟩, later⟩
      simp only [List.map_cons, Run.answers_cons, List.zip_cons_cons, Run.finalState_cons]
      -- The thread's own call is made on both sides; a call of another one leaves its keys alone.
      by_cases mine : other = thread
      · subst mine
        have agreeNext : ∀ key ∈ owned other, (Contents.perform call contents).state.find? key =
            (Contents.perform call alone).state.find? key :=
          fun key keyOwned => Contents.find?_perform_congr (agree key keyOwned)
        obtain ⟨laterAnswers, laterFinds⟩ := inductionHypothesis later agreeNext
        simp only [own_cons_self, Run.answers_cons, Run.finalState_cons, List.cons.injEq]
        exact ⟨⟨Contents.answer_eq about (agree called calledOwned), laterAnswers⟩, laterFinds⟩
      · rw [own_cons_of_ne mine, own_cons_of_ne mine]
        apply inductionHypothesis later
        intro key keyOwned
        have different : key ≠ called := by
          rintro rfl
          exact Set.disjoint_left.mp (disjoint other thread mine) calledOwned keyOwned
        rw [Contents.find?_perform_of_ne about different]
        exact agree key keyOwned

omit [DecidableEq Thread] in
/-- Keys of no thread keep what they have. -/
theorem KeepsTo.find?_of_not_owned (keeps : KeepsTo owned schedule) {key : κ}
    (free : ∀ thread, key ∉ owned thread) :
    (Run.finalState Contents.perform contents (schedule.map (·.2))).find? key =
      contents.find? key := by
  induction schedule generalizing contents with
  | nil => rfl
  | cons item rest inductionHypothesis =>
      rcases List.forall_mem_cons.mp keeps with ⟨⟨called, calledOwned, about⟩, later⟩
      have different : key ≠ called := by
        rintro rfl
        exact free item.1 calledOwned
      rw [List.map_cons, Run.finalState_cons, inductionHypothesis later,
        Contents.find?_perform_of_ne about different]

/-- What is stored in the end does not depend on the schedule. -/
theorem KeepsTo.find?_eq {other : List (Thread × Contents.Call κ ν)}
    (keeps : KeepsTo owned schedule) (otherKeeps : KeepsTo owned other)
    (disjoint : ∀ one other, one ≠ other → Disjoint (owned one) (owned other))
    (samePrograms : ∀ thread, own thread schedule = own thread other) (key : κ) :
    (Run.finalState Contents.perform contents (schedule.map (·.2))).find? key =
      (Run.finalState Contents.perform contents (other.map (·.2))).find? key := by
  by_cases someOwner : ∃ thread, key ∈ owned thread
  · rcases someOwner with ⟨thread, keyOwned⟩
    rw [(keeps.own_eq disjoint fun _ _ => rfl).2 key keyOwned, samePrograms,
      (otherKeeps.own_eq disjoint fun _ _ => rfl).2 key keyOwned]
  · have free : ∀ thread, key ∉ owned thread := fun thread keyOwned => someOwner ⟨thread, keyOwned⟩
    rw [keeps.find?_of_not_owned free, otherKeeps.find?_of_not_owned free]

end Threads

section Crowding

variable {hash : HashFunction κ} {few many room : Nat} {involved : Set κ} {list : List κ}

/-- At most `room` keys of the set agree on the low `depth` bits of their hashes, whatever these
are. -/
def Thin (hash : HashFunction κ) (depth room : Nat) (involved : Set κ) : Prop :=
  ∀ pattern, {key | key ∈ involved ∧ (hash key).toNat % 2 ^ depth = pattern}.encard ≤ room

omit [DecidableEq κ] in
/-- Distinct keys out of a thin set are sparse, also when more bits are looked at. -/
theorem Thin.sparse (thin : Thin hash few room involved) (le : few ≤ many)
    (distinct : list.Nodup) (within : ∀ key ∈ list, key ∈ involved) :
    Sparse hash many room list := by
  intro pattern
  have part : {key | key ∈ list.filter fun key => (hash key).toNat % 2 ^ many = pattern} ⊆
      {key | key ∈ involved ∧ (hash key).toNat % 2 ^ few = pattern % 2 ^ few} := by
    intro key member
    simp only [Set.mem_ofPred_eq, List.mem_filter, decide_eq_true_eq] at member ⊢
    refine ⟨within key member.1, ?_⟩
    rw [← member.2, mod_mod_two_pow _ le]
  have count := (Set.encard_le_encard part).trans (thin (pattern % 2 ^ few))
  rw [encard_mem_of_nodup (distinct.filter _), ← List.countP_eq_length_filter] at count
  exact Nat.cast_le.mp count

end Crowding

section Tables

variable {hash : HashFunction κ} {table : Table κ ν}

/-- A table stands for the map of its own entries. -/
theorem Routed.represents (routed : table.Routed hash) (structured : table.Structured) :
    Represents hash table.bucketSize 63 table ⟨table.entries⟩ where
  structured := structured
  routed := routed
  distinct := routed.nodup_keys structured
  find_eq key := by
    obtain ⟨answer, answered⟩ := structured.exists_find hash key
    rw [answered]
    cases sought : (⟨table.entries⟩ : Contents κ ν).find? key with
    | none =>
        cases answer with
        | none => rfl
        | some value =>
            have stored := (routed.mem_keys_iff_find structured).mpr ⟨value, answered⟩
            exact absurd stored (Contents.find?_eq_none_iff_not_mem_keys.mp sought)
    | some value =>
        rcases Option.map_eq_some_iff.mp sought with ⟨entry, found, rfl⟩
        rcases (Keyed.find?_eq_some_iff (routed.nodup_keys structured)).mp found with ⟨stored, rfl⟩
        rw [← answered]
        exact routed.find_of_mem structured stored
  len_eq := structured.len_eq
  bucketSize_eq := rfl
  globalDepth_le := structured.globalDepth_le

end Tables

section Runs

variable {hash : HashFunction κ} {few bucketSize : Nat} {table : Table κ ν} {involved : Set κ}
  {contents : Contents κ ν} {calls : List (Contents.Call κ ν)}

/-- A table that stands for a map whose keys are all out of one set. -/
structure StandsWithin (hash : HashFunction κ) (bucketSize : Nat) (involved : Set κ)
    (table : Table κ ν) (contents : Contents κ ν) : Prop where
  represents : Represents hash bucketSize 63 table contents
  within : ∀ key ∈ contents.keys, key ∈ involved

/-- As long as the set is not crowded, calls about its keys are answered as by the map. -/
theorem StandsWithin.perform (stands : StandsWithin hash bucketSize involved table contents)
    (thin : Thin hash few bucketSize involved) (shallow : few ≤ 63)
    {call : Contents.Call κ ν} (about : ∃ key ∈ involved, call.key? = some key) :
    Run.Matches (StandsWithin hash bucketSize involved) .ok
      (Table.perform hash call.onTable table) (Contents.perform call contents) := by
  rcases about with ⟨called, calledInvolved, about⟩
  have nextWithin : ∀ key ∈ (Contents.perform call contents).state.keys, key ∈ involved := by
    intro key member
    rcases Contents.mem_keys_of_mem_keys_perform about member with rfl | former
    · exact calledInvolved
    · exact stands.within key former
  have sparse : ∀ key value, call = .insert key value →
      Sparse hash 63 bucketSize (contents.insert key value).keys := by
    rintro key value rfl
    exact thin.sparse shallow
      (Contents.nodup_keys_insert stands.represents.distinct key value) nextWithin
  have matched := stands.represents.perform (Nat.le_refl 63) sparse
  exact ⟨matched.answer_eq, matched.related, nextWithin⟩

theorem StandsWithin.run (stands : StandsWithin hash bucketSize involved table contents)
    (thin : Thin hash few bucketSize involved) (shallow : few ≤ 63)
    (about : ∀ call ∈ calls, ∃ key ∈ involved, call.key? = some key) :
    Run.answers (fun call => Table.perform hash call.onTable) table calls =
        (Run.answers Contents.perform contents calls).map .ok ∧
      StandsWithin hash bucketSize involved
        (Run.finalState (fun call => Table.perform hash call.onTable) table calls)
        (Run.finalState Contents.perform contents calls) := by
  have allowed : Run.Allowed Contents.perform
      (fun _ call => ∃ key ∈ involved, call.key? = some key) contents calls := by
    rintro before call after rfl
    exact about call (by simp)
  have step : ∀ (call : Contents.Call κ ν) (table : Table κ ν) (contents : Contents κ ν),
      StandsWithin hash bucketSize involved table contents →
      (∃ key ∈ involved, call.key? = some key) →
      Run.Matches (StandsWithin hash bucketSize involved) .ok
        (Table.perform hash call.onTable table) (Contents.perform call contents) :=
    fun _ _ _ stands about => stands.perform thin shallow about
  exact ⟨Run.answers_eq_map step stands allowed, Run.related_finalState step stands allowed⟩

end Runs

section Insertions

variable {hash : HashFunction κ} {table fresh : Table κ ν} {before calls : List (Call κ ν)}
  {depth pattern room : Nat}

/-- Insertions alone only add keys. -/
theorem Routed.keys_subset_of_inserts (routed : table.Routed hash) (structured : table.Structured)
    (onlyInserts : ∀ call ∈ calls, ∃ key value, call = .insert key value) :
    ∀ moment ∈ Run.states (Table.perform hash) table calls,
      moment.keys.Nodup ∧
        moment.keys ⊆ (Run.finalState (Table.perform hash) table calls).keys := by
  induction calls generalizing table with
  | nil =>
      intro moment member
      rw [List.mem_singleton.mp member]
      exact ⟨routed.nodup_keys structured, List.Subset.refl _⟩
  | cons call rest inductionHypothesis =>
      rcases List.forall_mem_cons.mp onlyInserts with ⟨⟨key, value, rfl⟩, later⟩
      have laterSubset := inductionHypothesis (routed.perform structured (.insert key value))
        (structured.perform hash (.insert key value)).1 later
      have first : table.keys ⊆ (Table.perform hash (.insert key value) table).state.keys := by
        rcases structured.perform_cases hash (.insert key value) with
          ⟨_, _, same, inserts⟩ | ⟨_, _, isRemove, _⟩ | same
        · intro other stored
          exact (inserts.mem_keys_iff structured routed).mpr (.inr stored)
        · cases isRemove
        · rw [same]
          exact List.Subset.refl _
      intro moment member
      rcases List.mem_cons.mp member with rfl | inRest
      · exact ⟨routed.nodup_keys structured,
          List.Subset.trans first (laterSubset _ List.mem_cons_self).2⟩
      · exact laterSubset moment inRest

/-- After insertions alone, the peaks are those from before and the crowds that are there now. -/
theorem peak_le_iff_of_inserts (routed : fresh.Routed hash) (structured : fresh.Structured)
    (onlyInserts : ∀ call ∈ calls, ∃ key value, call = .insert key value) :
    peak hash (Run.states (perform hash) fresh (before ++ calls)) depth pattern ≤ room ↔
      peak hash (Run.states (perform hash) fresh before) depth pattern ≤ room ∧
        crowd hash (Run.finalState (perform hash) fresh (before ++ calls)).keys depth pattern ≤
          room := by
  obtain ⟨reachedRouted, reachedStructured, _⟩ := routed.reached structured before
  have growing := reachedRouted.keys_subset_of_inserts reachedStructured onlyInserts
  rw [Run.finalState_append]
  simp only [peak_le_iff, Run.mem_states_append]
  constructor
  · intro fits
    exact ⟨fun moment earlier => fits moment (.inl earlier),
      fits _ (.inr (Run.finalState_mem_states _ _ _))⟩
  · rintro ⟨earlierFits, finalFits⟩ moment (earlier | later)
    · exact earlierFits moment earlier
    · obtain ⟨distinct, subset⟩ := growing moment later
      exact (crowd_le_crowd_of_subset distinct subset).trans finalFits

/-- Insertions that lead to the same look-ups lead to the same shape. -/
theorem sameShape_of_inserts {bucketSize : Nat} (created : create bucketSize = .ok fresh)
    (hash : HashFunction κ) (before : List (Call κ ν)) {first second : List (Call κ ν)}
    (firstInserts : ∀ call ∈ first, ∃ key value, call = .insert key value)
    (secondInserts : ∀ call ∈ second, ∃ key value, call = .insert key value)
    (same : ∀ key, (Run.finalState (perform hash) fresh (before ++ first)).find hash key =
      (Run.finalState (perform hash) fresh (before ++ second)).find hash key) :
    (Run.finalState (perform hash) fresh (before ++ first)).SameShape
      (Run.finalState (perform hash) fresh (before ++ second)) := by
  have routed := routed_create created hash
  have structured := structured_create created
  obtain ⟨firstRouted, firstStructured, firstSize⟩ := routed.reached structured (before ++ first)
  obtain ⟨secondRouted, secondStructured, secondSize⟩ :=
    routed.reached structured (before ++ second)
  refine (shapedBy_states created hash (before ++ first)).sameShape firstStructured
    (shapedBy_states created hash (before ++ second)) secondStructured
    (secondSize.trans firstSize.symm) ?_
  intro depth pattern
  have sameKeys := firstRouted.perm_keys firstStructured secondRouted secondStructured same
  rw [peak_le_iff_of_inserts routed structured firstInserts,
    peak_le_iff_of_inserts routed structured secondInserts, crowd, crowd, sameKeys.countP_eq]

end Insertions

section Schedules

open Threads

variable {Thread : Type} [DecidableEq Thread] {owned : Thread → Set κ}
  {programs : Thread → List (Contents.Call κ ν)} {schedule : List (Thread × Contents.Call κ ν)}

omit [DecidableEq κ] in
theorem keepsTo_of_interleaves (interleaves : Interleaves programs schedule)
    (keyed : ∀ thread, ∀ call ∈ programs thread, ∃ key ∈ owned thread, call.key? = some key) :
    KeepsTo owned schedule := by
  rintro ⟨thread, call⟩ scheduled
  apply keyed thread call
  rw [← interleaves thread]
  exact mem_own.mpr scheduled

omit [DecidableEq κ] in
theorem inserts_of_interleaves (interleaves : Interleaves programs schedule)
    (onlyInserts : ∀ thread, ∀ call ∈ programs thread, ∃ key value, call = .insert key value) :
    ∀ call ∈ (schedule.map (·.2)).map (·.onTable), ∃ key value, call = Call.insert key value := by
  intro call made
  rw [List.map_map] at made
  rcases List.mem_map.mp made with ⟨⟨thread, own⟩, scheduled, rfl⟩
  rw [← mem_own, interleaves thread] at scheduled
  obtain ⟨key, value, rfl⟩ := onlyInserts thread own scheduled
  exact ⟨key, value, rfl⟩

section Represented

variable {hash : HashFunction κ} {bucketSize few : Nat} {involved : Set κ} {table : Table κ ν}
  {contents : Contents κ ν}
  (stands : StandsWithin hash bucketSize involved table contents)
  (thin : Thin hash few bucketSize involved) (shallow : few ≤ 63)
  (within : ∀ thread, owned thread ⊆ involved)

include stands thin shallow within

omit [DecidableEq Thread] in
theorem KeepsTo.run_answers (keeps : KeepsTo owned schedule) :
    Run.answers (fun call => perform hash call.onTable) table (schedule.map (·.2)) =
        (Run.answers Contents.perform contents (schedule.map (·.2))).map .ok ∧
      StandsWithin hash bucketSize involved
        (Run.finalState (fun call => perform hash call.onTable) table (schedule.map (·.2)))
        (Run.finalState Contents.perform contents (schedule.map (·.2))) := by
  apply stands.run thin shallow
  intro call made
  rcases List.mem_map.mp made with ⟨item, scheduled, rfl⟩
  obtain ⟨key, keyOwned, about⟩ := keeps item scheduled
  exact ⟨key, within item.1 keyOwned, about⟩

/-- A thread gets the answers that it gets alone. -/
theorem KeepsTo.own_answers (keeps : KeepsTo owned schedule)
    (disjoint : ∀ one other, one ≠ other → Disjoint (owned one) (owned other)) (thread : Thread) :
    own thread ((schedule.map (·.1)).zip
        (Run.answers (fun call => perform hash call.onTable) table (schedule.map (·.2)))) =
      Run.answers (fun call => perform hash call.onTable) table (own thread schedule) := by
  have ownAbout : ∀ call ∈ own thread schedule, ∃ key ∈ involved, call.key? = some key := by
    intro call made
    obtain ⟨key, keyOwned, about⟩ := keeps (thread, call) (mem_own.mp made)
    exact ⟨key, within thread keyOwned, about⟩
  have alone := (stands.run thin shallow ownAbout).1
  have together := (keeps.run_answers stands thin shallow within).1
  rw [together, alone, own_zip_map, (keeps.own_eq disjoint fun _ _ => rfl).1]

omit [DecidableEq Thread] in
/-- No thread is refused an answer, and the table that they leave is sound. -/
theorem KeepsTo.answered (keeps : KeepsTo owned schedule) (handles : Nat) :
    let ran := run (fun call => perform hash call.onTable) ⟨table, handles⟩ schedule
    (∀ item ∈ ran.1, ∃ answer, item.2 = .ok answer) ∧ ran.2.value.audit hash = .ok none := by
  intro ran
  obtain ⟨answers, represents, _⟩ := keeps.run_answers stands thin shallow within
  have ran_eq : ran = _ := run_eq _ _ schedule
  rw [ran_eq]
  refine ⟨?_, represents.structured.audit_of_routed represents.routed⟩
  intro item answered
  have inAnswers := (List.of_mem_zip answered).2
  rw [answers, List.mem_map] at inAnswers
  rcases inAnswers with ⟨answer, _, same⟩
  exact ⟨answer, same.symm⟩

/-- Schedules of the same programs lead to the same look-ups and to the same count. -/
theorem KeepsTo.find_eq_and_len_eq {other : List (Thread × Contents.Call κ ν)}
    (keeps : KeepsTo owned schedule) (otherKeeps : KeepsTo owned other)
    (disjoint : ∀ one other, one ≠ other → Disjoint (owned one) (owned other))
    (samePrograms : ∀ thread, own thread schedule = own thread other) :
    let perform (call : Contents.Call κ ν) := perform hash call.onTable
    (∀ key, (Run.finalState perform table (schedule.map (·.2))).find hash key =
        (Run.finalState perform table (other.map (·.2))).find hash key) ∧
      (Run.finalState perform table (schedule.map (·.2))).len =
        (Run.finalState perform table (other.map (·.2))).len := by
  intro perform
  have represents := (keeps.run_answers stands thin shallow within).2.represents
  have otherRepresents := (otherKeeps.run_answers stands thin shallow within).2.represents
  have sameFind : ∀ key, (Run.finalState perform table (schedule.map (·.2))).find hash key =
      (Run.finalState perform table (other.map (·.2))).find hash key := by
    intro key
    rw [represents.find_eq, otherRepresents.find_eq,
      keeps.find?_eq otherKeeps disjoint samePrograms]
  exact ⟨sameFind, represents.routed.len_eq_len represents.structured otherRepresents.routed
    otherRepresents.structured sameFind⟩

end Represented

omit [DecidableEq Thread] in
/-- A table that a run has led to stands for the map of its entries. -/
theorem standsWithin_of_reached {bucketSize : Nat} {fresh table : Table κ ν} {involved : Set κ}
    (created : create bucketSize = .ok fresh) (hash : HashFunction κ) (before : List (Call κ ν))
    (reached : table = Run.finalState (perform hash) fresh before)
    (within : ∀ key ∈ table.keys, key ∈ involved) :
    StandsWithin hash bucketSize involved table ⟨table.entries⟩ := by
  obtain ⟨routed, structured, sameSize⟩ :=
    (routed_create created hash).reached (structured_create created) before
  rw [← reached] at routed structured sameSize
  have freshSize : fresh.bucketSize = bucketSize := by
    obtain ⟨positive, rfl⟩ := eq_of_create created
    rfl
  rw [← freshSize, ← sameSize]
  exact ⟨routed.represents structured, within⟩

/-- Threads that keep to keys of their own do not disturb each other.  Under every schedule each
gets the answers that it gets alone, no call fails, and the check finds nothing.  All schedules
store the same; if the threads only insert, all lead to the same shape. -/
theorem interleavings_agree {bucketSize : Nat} {fresh table : Table κ ν}
    (created : create bucketSize = .ok fresh) (hash : HashFunction κ) (before : List (Call κ ν))
    (reached : table = Run.finalState (perform hash) fresh before) (handles : Nat)
    (keyed : ∀ thread, ∀ call ∈ programs thread, ∃ key ∈ owned thread, call.key? = some key)
    (disjoint : ∀ one other, one ≠ other → Disjoint (owned one) (owned other))
    {depth : Nat} (shallow : depth ≤ 63)
    (thin : Thin hash depth bucketSize {key | key ∈ table.keys ∨ ∃ thread, key ∈ owned thread}) :
    let perform (call : Contents.Call κ ν) := perform hash call.onTable
    let ran (schedule : List (Thread × Contents.Call κ ν)) := run perform ⟨table, handles⟩ schedule
    (∀ schedule, Interleaves programs schedule →
      (∀ thread, own thread (ran schedule).1 = Run.answers perform table (programs thread)) ∧
        (∀ item ∈ (ran schedule).1, ∃ answer, item.2 = .ok answer) ∧
        (ran schedule).2.value.audit hash = .ok none) ∧
      ∀ one other, Interleaves programs one → Interleaves programs other →
        (∀ key, (ran one).2.value.find hash key = (ran other).2.value.find hash key) ∧
          (ran one).2.value.len = (ran other).2.value.len ∧
          ((∀ thread, ∀ call ∈ programs thread, ∃ key value, call = .insert key value) →
            (ran one).2.value.SameShape (ran other).2.value) := by
  intro perform ran
  have stands : StandsWithin hash bucketSize
      {key | key ∈ table.keys ∨ ∃ thread, key ∈ owned thread} table ⟨table.entries⟩ :=
    standsWithin_of_reached created hash before reached fun _ stored => .inl stored
  have within : ∀ thread, owned thread ⊆ {key | key ∈ table.keys ∨ ∃ thread, key ∈ owned thread} :=
    fun thread _ keyOwned => .inr ⟨thread, keyOwned⟩
  have ran_eq : ∀ schedule, ran schedule = _ := fun schedule => run_eq perform _ schedule
  constructor
  · intro schedule interleaves
    have keeps := keepsTo_of_interleaves interleaves keyed
    refine ⟨?_, keeps.answered stands thin shallow within handles⟩
    intro thread
    rw [ran_eq, ← interleaves thread]
    exact keeps.own_answers stands thin shallow within disjoint thread
  · intro one other interleaves otherInterleaves
    have samePrograms : ∀ thread, own thread one = own thread other := fun thread =>
      (interleaves thread).trans (otherInterleaves thread).symm
    obtain ⟨sameFind, sameLen⟩ := (keepsTo_of_interleaves interleaves keyed).find_eq_and_len_eq
      stands thin shallow within (keepsTo_of_interleaves otherInterleaves keyed) disjoint
      samePrograms
    rw [ran_eq, ran_eq]
    refine ⟨sameFind, sameLen, ?_⟩
    intro onlyInserts
    have throughTable : ∀ calls : List (Contents.Call κ ν),
        Run.finalState (Table.perform hash) table (calls.map (·.onTable)) =
          Run.finalState perform table calls :=
      Run.finalState_map (Table.perform hash) Contents.Call.onTable table
    have sameShape := sameShape_of_inserts created hash before
      (inserts_of_interleaves interleaves onlyInserts)
      (inserts_of_interleaves otherInterleaves onlyInserts)
    simp only [Run.finalState_append, ← reached, throughTable] at sameShape
    exact sameShape sameFind

/-- Two threads split two buckets, in either order.  The new buckets have other numbers then, but
the tables look the same. -/
theorem interleavings_agree_two_orders :
    let fresh : Table Nat Nat := { bucketSize := 1 }
    let plain : HashFunction Nat := fun key => UInt64.ofNat key
    let before : List (Call Nat Nat) := [.insert 0 5, .insert 1 6]
    let table := Run.finalState (perform plain) fresh before
    let programs : Bool → List (Contents.Call Nat Nat) := fun thread =>
      if thread then [.insert 3 8] else [.insert 2 7, .insert 0 9]
    let ran (schedule : List (Bool × Contents.Call Nat Nat)) :=
      run (fun call : Contents.Call Nat Nat => perform plain call.onTable) ⟨table, 2⟩ schedule
    let one := [(false, .insert 2 7), (true, .insert 3 8), (false, .insert 0 9)]
    let other := [(true, .insert 3 8), (false, .insert 2 7), (false, .insert 0 9)]
    create 1 = .ok fresh ∧ Interleaves programs one ∧ Interleaves programs other ∧
      (ran one).2.value.directory.toList ≠ (ran other).2.value.directory.toList ∧
      (∀ key, (ran one).2.value.find plain key = (ran other).2.value.find plain key) ∧
      (ran one).2.value.SameShape (ran other).2.value := by
  intro fresh plain before table programs ran one other
  have created : create 1 = .ok fresh := rfl
  let owned : Bool → Set Nat := fun thread => if thread then {3} else {0, 2}
  have keyed : ∀ thread, ∀ call ∈ programs thread, ∃ key ∈ owned thread,
      call.key? = some key := by
    intro thread
    cases thread <;> simp [programs, owned, Contents.Call.key?]
  have disjoint : ∀ one other, one ≠ other → Disjoint (owned one) (owned other) := by
    intro one other
    cases one <;> cases other <;> simp [owned]
  have stored : table.keys = [0, 1] := by decide +kernel
  have thin : Thin plain 2 1 {key | key ∈ table.keys ∨ ∃ thread, key ∈ owned thread} := by
    intro pattern
    rw [Nat.cast_one, Set.encard_le_one_iff]
    have listed : ∀ key, (key ∈ table.keys ∨ ∃ thread, key ∈ owned thread) →
        key ∈ [0, 1, 2, 3] := by
      simp [stored, owned]
      omega
    have apart : ∀ key ∈ [0, 1, 2, 3], ∀ sought ∈ [0, 1, 2, 3],
        (plain key).toNat % 2 ^ 2 = (plain sought).toNat % 2 ^ 2 → key = sought := by decide
    rintro key sought ⟨involved, ends⟩ ⟨soughtInvolved, soughtEnds⟩
    exact apart key (listed key involved) sought (listed sought soughtInvolved)
      (ends.trans soughtEnds.symm)
  have interleaves : Interleaves programs one := by
    intro thread
    cases thread <;> rfl
  have otherInterleaves : Interleaves programs other := by
    intro thread
    cases thread <;> rfl
  have agreed := (interleavings_agree created plain before rfl 2 keyed disjoint (by decide)
    thin).2 one other interleaves otherInterleaves
  refine ⟨created, interleaves, otherInterleaves, by decide +kernel, agreed.1, agreed.2.2 ?_⟩
  intro thread
  cases thread <;> simp [programs]

end Schedules

end PageBuffer.Table
