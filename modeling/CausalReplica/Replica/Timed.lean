import CausalReplica.Replica.Calls

/-!
# Calls in virtual time

A call may wait, and it may run under a limit. Calls with limits may be nested: the first deadline
that comes up while something waits cuts off the call it belongs to, with everything inside it. Of
equal deadlines the innermost counts. What does not wait is never cut off.
-/

namespace CausalReplica

/-- Virtual time, and the deadlines of the calls with limits, innermost first. -/
structure Timeline where
  /-- Nanoseconds since the start. -/
  clock : Nat
  deadlines : List Nat

/-- A call on some state in virtual time. When it is cut off, it gives the depth of the nested
limits whose deadline came up, the outermost one having depth one. -/
abbrev Timed (σ : Type) := ExceptT Nat (StateT σ (StateM Timeline))

namespace Timed

variable {σ α : Type}

def wait (s : Span) : Timed σ Unit := do
  let t ← getThe Timeline
  let finish := t.clock + s.nanos
  match t.deadlines.getLast? with
  | some deadline =>
    let clock := max t.clock deadline
    if clock < finish then
      modifyThe Timeline ({ · with clock := clock })
      throw (t.deadlines.countP (· ≤ clock))
    else modifyThe Timeline ({ · with clock := finish })
  | none => modifyThe Timeline ({ · with clock := finish })

/-- The run of a script under a limit. A run that is cut off takes longer than its limit. -/
def within (limit : Span) (call : Timed σ Script.Result) : Timed σ Script.Run := do
  let t ← getThe Timeline
  let leave : Timed σ Unit := modifyThe Timeline ({ · with deadlines := t.deadlines })
  modifyThe Timeline ({ · with deadlines := (t.clock + limit.nanos) :: t.deadlines })
  try
    let result ← call
    leave
    return ⟨⟨(← getThe Timeline).clock - t.clock⟩, result⟩
  catch depth =>
    leave
    if depth = t.deadlines.length + 1 then return ⟨limit + ⟨1⟩, .ok .noResult⟩
    else throw depth

/-- The result of a call that is inside no other, and the state after it. -/
def runAlone (call : Timed σ α) (s : σ) : Option α × σ :=
  let ((result, s), _) := (ExceptT.run call s).run ⟨0, []⟩
  (result.toOption, s)

end Timed

end CausalReplica
