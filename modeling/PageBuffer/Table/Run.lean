import PageBuffer.Run
import PageBuffer.Table.Audit

/-!
Calls on a table and what they answer.
-/

namespace PageBuffer

namespace Table

inductive Call (κ ν : Type) where
  | insert (key : κ) (value : ν)
  | find (key : κ)
  | remove (key : κ)
  | len
  | isEmpty
  | globalDepth
  | bucketCount
  | localDepth (slot : Nat)
  | localDepths
  | check
  deriving DecidableEq, Repr

inductive Answer (ν : Type) where
  | done
  | found (value : Option ν)
  | removed (present : Bool)
  | number (value : Nat)
  | numbers (values : List Nat)
  | empty (flag : Bool)
  | audited (violation : Option Violation)
  deriving DecidableEq, Repr

variable {κ ν : Type} [DecidableEq κ]

/-- Performs a call under the hash function that is current.  A call that meets a fault changes
nothing. -/
def perform (hash : HashFunction κ) (call : Call κ ν) (table : Table κ ν) :
    Outcome (Table κ ν) Event (Except Fault (Answer ν)) :=
  let query (answer : Except Fault (Answer ν)) : Outcome (Table κ ν) Event _ := ⟨answer, table, []⟩
  match call with
  | .insert key value =>
      match table.insert hash key value with
      | .error fault => query (.error fault)
      | .ok (table, events) => ⟨.ok .done, table, events⟩
  | .find key => query ((table.find hash key).map .found)
  | .remove key =>
      match table.remove hash key with
      | .error fault => query (.error fault)
      | .ok (present, table) => ⟨.ok (.removed present), table, []⟩
  | .len => query (.ok (.number table.len))
  | .isEmpty => query (.ok (.empty table.isEmpty))
  | .globalDepth => query (.ok (.number table.globalDepth))
  | .bucketCount => query (.ok (.number table.bucketCount))
  | .localDepth slot => query ((table.localDepth slot).map .number)
  | .localDepths => query (table.localDepths.map .numbers)
  | .check => query ((table.audit hash).map .audited)

/-- A call together with the hash function that is current when it is made. -/
def performHashed (step : HashFunction κ × Call κ ν) (table : Table κ ν) :
    Outcome (Table κ ν) Event (Except Fault (Answer ν)) :=
  perform step.1 step.2 table

end Table

end PageBuffer
