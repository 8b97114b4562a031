import CausalReplica.Json.Shape

/-!
# Tallies

A replica counts what happens in it and times its resolutions. A recorder outside the program knows
the counters and the one distribution by names of their own.
-/

namespace CausalReplica

/-- What is counted. -/
inductive Counter where
  | received
  | accepted
  | rejected
  | malformed
  | detected
  | resolved
  | unresolved
  | scriptFailures
  | staleResults
  deriving DecidableEq, Repr

namespace Counter

def all : List Counter := [.received, .accepted, .rejected, .malformed, .detected, .resolved,
  .unresolved, .scriptFailures, .staleResults]

def name : Counter → String
  | .received => "replication.items.received"
  | .accepted => "replication.items.accepted"
  | .rejected => "replication.items.rejected"
  | .malformed => "replication.items.malformed"
  | .detected => "replication.conflicts.detected"
  | .resolved => "replication.conflicts.resolved"
  | .unresolved => "replication.conflicts.unresolved"
  | .scriptFailures => "replication.scripts.failed"
  | .staleResults => "replication.scripts.stale"

/-- What a counter counts. -/
def description : Counter → String
  | .received => "Items handed over by transport"
  | .accepted => "Items applied directly to storage"
  | .rejected => "Stale or duplicate items dropped"
  | .malformed => "Items rejected by validation"
  | .detected => "Items that opened or grew a conflict set"
  | .resolved => "Conflict sets collapsed by a resolution policy"
  | .unresolved => "Resolution attempts leaving the conflict recorded"
  | .scriptFailures => "Resolution scripts that failed or timed out"
  | .staleResults => "Script results discarded because the set changed"

/-- The name of a counter in a tally's JSON. -/
def field : Counter → String
  | .received => "items_received"
  | .accepted => "items_accepted"
  | .rejected => "items_rejected"
  | .malformed => "items_malformed"
  | .detected => "conflicts_detected"
  | .resolved => "conflicts_resolved"
  | .unresolved => "conflicts_unresolved"
  | .scriptFailures => "script_failures"
  | .staleResults => "stale_script_results"

end Counter

/-! ## Times -/

/-- A time in milliseconds, as the bits of a number in double precision. -/
structure Millis where
  bits : UInt64
  deriving DecidableEq

namespace Millis

/-- The bits stand for no number. -/
def isNaN (m : Millis) : Bool := 0x7ff0000000000000 < m.bits &&& 0x7fffffffffffffff

/-- The bits that stand for no number and raise no signal, with the same payload. -/
def quiet (m : Millis) : Millis := ⟨m.bits ||| 0x0008000000000000⟩

/-- The sum of two times. An operand that is no number is the sum; infinities of either sign
together have the negative sum that is no number. -/
def add (a b : Millis) : Millis :=
  if a.isNaN then a.quiet
  else if b.isNaN then b.quiet
  else
    let sum := Float.ofBits a.bits + Float.ofBits b.bits
    if sum.isNaN then ⟨0xfff8000000000000⟩ else ⟨sum.toBits⟩

end Millis

/-! ## Tallies -/

/-- The counters, and the number and sum of the timed resolutions. -/
structure Tally where
  received : Nat
  accepted : Nat
  rejected : Nat
  malformed : Nat
  detected : Nat
  resolved : Nat
  unresolved : Nat
  scriptFailures : Nat
  staleResults : Nat
  timed : Nat
  total : Millis

namespace Tally

def zero : Tally := ⟨0, 0, 0, 0, 0, 0, 0, 0, 0, 0, ⟨0⟩⟩

instance : Inhabited Tally := ⟨zero⟩

/-- The name of the distribution of resolution times outside the program. -/
def timingName : String := "replication.resolution.duration_ms"

def timingDescription : String := "Conflict resolution duration in milliseconds"

def count (t : Tally) : Counter → Nat
  | .received => t.received
  | .accepted => t.accepted
  | .rejected => t.rejected
  | .malformed => t.malformed
  | .detected => t.detected
  | .resolved => t.resolved
  | .unresolved => t.unresolved
  | .scriptFailures => t.scriptFailures
  | .staleResults => t.staleResults

def increment (t : Tally) : Counter → Tally
  | .received => { t with received := t.received + 1 }
  | .accepted => { t with accepted := t.accepted + 1 }
  | .rejected => { t with rejected := t.rejected + 1 }
  | .malformed => { t with malformed := t.malformed + 1 }
  | .detected => { t with detected := t.detected + 1 }
  | .resolved => { t with resolved := t.resolved + 1 }
  | .unresolved => { t with unresolved := t.unresolved + 1 }
  | .scriptFailures => { t with scriptFailures := t.scriptFailures + 1 }
  | .staleResults => { t with staleResults := t.staleResults + 1 }

def observe (t : Tally) (time : Millis) : Tally :=
  { t with timed := t.timed + 1, total := t.total.add time }

theorem count_increment (t : Tally) (c d : Counter) :
    (t.increment c).count d = t.count d + if d = c then 1 else 0 := by
  cases c <;> cases d <;> rfl

/-- The counts as the fields of an object, without the sum of the times. -/
def countFields (t : Tally) : List (String × Json) :=
  Counter.all.map (fun c ↦ (c.field, .nat (t.count c))) ++ [("resolutions_timed", .nat t.timed)]

end Tally

/-! ## Recorders -/

/-- What a recorder outside the program is told. -/
inductive Signal where
  | describeCounter (name description : String)
  | describeTiming (name description : String)
  | counter (name : String) (step : Nat)
  | timing (name : String) (time : Millis)

namespace Signal

/-- The descriptions of all counters and of the distribution. -/
def descriptions : List Signal :=
  Counter.all.map (fun c ↦ .describeCounter c.name c.description) ++
    [.describeTiming Tally.timingName Tally.timingDescription]

/-- One more of what a counter counts. -/
def ofCounter (c : Counter) : Signal := .counter c.name 1

/-- One timed resolution. -/
def ofTiming (time : Millis) : Signal := .timing Tally.timingName time

end Signal

end CausalReplica
