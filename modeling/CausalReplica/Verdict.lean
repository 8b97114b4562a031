import CausalReplica.Conflict.Basic

/-!
# The verdict on an incoming version

A version that has seen all that is known of its document replaces it. One that brings nothing new
is rejected. Any other is in conflict with the known versions that it has not seen.

A replica reaches its verdicts with `attempt`, in steps that check what they rest on: the members of
a conflict are walked over once, a conflict of two versions is built as any other, and the last
member that is left of a conflict is taken out of it. `judge` gives the same verdict outright.
-/

namespace CausalReplica

/-- What a replica knows of one document. -/
inductive Known where
  /-- The stored version, if there is one. -/
  | clean (stored : Option Version)
  | conflicted (conflict : Conflict)

/-- Why a version brings nothing new. -/
inductive Rejection where
  /-- A known version has seen more. -/
  | dominated
  /-- A known version has seen exactly as much. -/
  | alreadyApplied
  deriving DecidableEq, Repr

namespace Rejection

def message : Rejection → String
  | .dominated => "dominated by local version"
  | .alreadyApplied => "already applied"

def name : Rejection → String
  | .dominated => "dominated"
  | .alreadyApplied => "already_applied"

def inspect : Rejection → String
  | .dominated => "Dominated"
  | .alreadyApplied => "AlreadyApplied"

end Rejection

/-- What becomes of an incoming version. -/
inductive Verdict where
  | accept (version : Version)
  | reject (reason : Rejection)
  | conflict (conflict : Conflict)

namespace Verdict

/-- The reason why a conflict's members leave nothing new to a version; an equal member decides. -/
def rejection? (c : Conflict) (incoming : Version) : Option Rejection :=
  if c.members.any fun m ↦ incoming.relate m = .equal then some .alreadyApplied
  else if c.members.any fun m ↦ incoming.relate m = .dominated then some .dominated
  else none

/-- The verdict on a version of a document whose versions are in conflict. -/
def amongConflict (c : Conflict) (incoming : Version) : Verdict :=
  match rejection? c incoming with
  | some reason => .reject reason
  | none =>
    match c.insert incoming with
    | .covered => .reject .dominated
    | .inserted _ grown => if 1 < grown.size then .conflict grown else .accept incoming

/-- The verdict on a version of a document of which `existing` is stored. -/
def againstStored (existing incoming : Version) : Verdict :=
  match incoming.relate existing with
  | .dominates => .accept incoming
  | .dominated => .reject .dominated
  | .equal => .reject .alreadyApplied
  | .concurrent => .conflict ⟨existing.id, [existing, incoming]⟩

/-- The verdict on an incoming version. -/
def judge (incoming : Version) : Known → Verdict
  | .clean none => .accept incoming
  | .clean (some existing) => againstStored existing incoming
  | .conflicted c => amongConflict c incoming

end Verdict

/-! ## Step by step -/

/-- Why no verdict is reached. -/
inductive VerdictFault where
  /-- Two versions cannot be put in conflict. -/
  | conflict (fault : ConflictFault)
  /-- A conflict has lost its members. -/
  | emptied (id : String)
  deriving DecidableEq

def VerdictFault.message : VerdictFault → String
  | .conflict fault => fault.message
  | .emptied id => "conflict set for " ++ id ++ " emptied"

namespace Verdict

/-- The reason that a walk over members finds against a version, when `reason` was found before. An
equal member ends the walk. -/
def scan (incoming : Version) (reason : Option Rejection) : List Version → Option Rejection
  | [] => reason
  | m :: rest =>
    match incoming.relate m with
    | .equal => some .alreadyApplied
    | .dominated => scan incoming (some .dominated) rest
    | _ => scan incoming reason rest

/-- The verdict that a conflict leads to after a version was inserted: a conflict is left, or its
last member is all that is left. -/
def ofGrown (grown : Conflict) : Except VerdictFault Verdict :=
  if 1 < grown.size then .ok (.conflict grown)
  else
    match grown.members.getLast? with
    | some v => .ok (.accept v)
    | none => .error (.emptied grown.id)

/-- The verdict on an incoming version, or the fault at which it ends. -/
def attempt (incoming : Version) : Known → Except VerdictFault Verdict
  | .clean none => .ok (.accept incoming)
  | .clean (some existing) =>
    match incoming.relate existing with
    | .dominates => .ok (.accept incoming)
    | .dominated => .ok (.reject .dominated)
    | .equal => .ok (.reject .alreadyApplied)
    | .concurrent => ((Conflict.pair existing incoming).mapError .conflict).map .conflict
  | .conflicted c =>
    match scan incoming none c.members with
    | some reason => .ok (.reject reason)
    | none =>
      match c.insert incoming with
      | .covered => .ok (.reject .dominated)
      | .inserted _ grown => ofGrown grown

end Verdict

/-! ## One after the other -/

/-- What is known after a verdict. -/
def Known.after (known : Known) : Verdict → Known
  | .accept v => .clean (some v)
  | .reject _ => known
  | .conflict c => .conflicted c

/-- The verdicts on versions that come in one after the other. -/
def Verdict.judgeEach (known : Known) : List Version → List Verdict
  | [] => []
  | v :: rest => judge v known :: judgeEach (known.after (judge v known)) rest

end CausalReplica
