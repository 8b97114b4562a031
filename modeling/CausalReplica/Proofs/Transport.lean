import CausalReplica.Proofs.Failure

/-!
# Versions in transit

Sending a version and reading it back gives the version itself exactly if it passes its check and no
counter is past the signed range. What has been read once is always so, and it does not depend on
how the sender wrote it down: the entries may stand in any order, and nodes without writes may be
among them.

So it makes no difference to a replica whether a version is handed to it or sent to it. Both calls
take the same first step, and everything that follows is decided by that step. Only for a version
that does not pass its check may they give different reasons, since reading looks at the vector
first.
-/

namespace CausalReplica

/-! ## Wire forms of one version -/

/-- The same wire form but for the order of its entries and for added nodes without writes. -/
structure WireVersion.Restates (raw raw' : WireVersion) : Prop where
  fields : raw' = { raw with vector := raw'.vector }
  entries : ∃ zeros : List WireEntry, (zeros.map (·.node)).Nodup ∧
    (∀ e ∈ zeros, e.counter = 0 ∧ e.node ∉ raw.vector.map (·.node)) ∧
    (raw.vector ++ zeros).Perm raw'.vector

namespace Version

variable {raw raw' : WireVersion} {u v : Version}

theorem ofWire_of_restates (h : ofWire raw = .ok v) (hraw : raw.Restates raw') :
    ofWire raw' = .ok v := by
  obtain ⟨hvec, hcheck, hfields⟩ := ofWire_eq_ok_iff.1 h
  obtain ⟨hne, hlists⟩ := VersionVector.ofWire_eq_ok_iff.1 hvec
  obtain ⟨zeros, hnodup, hzeros, hperm⟩ := hraw.entries
  have happend : ((raw.vector ++ zeros).map (·.node)).Nodup := by
    rw [List.map_append, List.nodup_append]
    refine ⟨hlists.nodup, hnodup, ?_⟩
    rintro n hn _ hn' rfl
    obtain ⟨e, he, rfl⟩ := List.mem_map.1 hn'
    exact (hzeros e he).2 hn
  have hlists' : VersionVector.Lists raw'.vector v.vector :=
    (hlists.append_zeros (fun e he ↦ (hzeros e he).1) happend).perm hperm
  have hvec' : VersionVector.ofWire raw'.vector = .ok v.vector :=
    VersionVector.ofWire_eq_ok_iff.2 ⟨hne, hlists'⟩
  refine ofWire_eq_ok_iff.2 ⟨hvec', hcheck, ?_⟩
  rw [hraw.fields]
  exact hfields

/-- If no counter is past the signed range, a version is read back as itself or not at all. -/
theorem eq_of_ofWire_toWire (h : v.vector.FitsWire) (hu : ofWire v.toWire = .ok u) : u = v := by
  obtain ⟨hvec, -, hfields⟩ := ofWire_eq_ok_iff.1 hu
  have hvector : u.vector = v.vector :=
    (VersionVector.ofWire_eq_ok_iff.1 hvec).2.unique h.lists_toWire
  rw [hfields, hvector]
  rfl

theorem ofWire_toWire_iff : ofWire v.toWire = .ok v ↔ v.check = .ok () ∧ v.vector.FitsWire := by
  constructor
  · intro h
    exact ⟨(check_of_ofWire h).1, fitsWire_of_ofWire h⟩
  · rintro ⟨hcheck, hfits⟩
    exact ofWire_toWire hcheck hfits

end Version

/-! ## Results without reasons -/

/-- The outcome without the text that says why a version is malformed. -/
def Outcome.withoutReason : Outcome → Outcome
  | .malformed _ => .malformed ""
  | o => o

/-- What a first step comes to, without the text that says why a version is malformed. -/
def Progress.withoutReason : Progress → Progress
  | .done result => .done (result.map Outcome.withoutReason)
  | .waiting p => .waiting p

namespace Replica

variable {r : Replica} {v : Version}

/-- First steps that differ in a reason only lead to calls that differ in it only. -/
theorem run_complete_withoutReason (on : Conditions) (script : Script.Request → Script.Run)
    {p q : Progress} (h : q.withoutReason = p.withoutReason) :
    let direct := ((Host.sequential on script).complete p).run r
    let sent := ((Host.sequential on script).complete q).run r
    sent.2 = direct.2 ∧
      sent.1.map Outcome.withoutReason = direct.1.map Outcome.withoutReason := by
  match p, q with
  | .done result, .done result' => exact ⟨rfl, Progress.done.inj h⟩
  | .waiting p, .waiting q =>
    obtain rfl := Progress.waiting.inj h
    exact ⟨rfl, rfl⟩
  | .done _, .waiting _ => exact Progress.noConfusion h
  | .waiting _, .done _ => exact Progress.noConfusion h

theorem receiveWire_toWire (on : Conditions) (r : Replica) (h : v.vector.FitsWire) :
    (r.receiveWire on v.toWire).1 = (r.receive on v).1 ∧
      (r.receiveWire on v.toWire).2.withoutReason = (r.receive on v).2.withoutReason := by
  cases hv : v.check with
  | ok =>
    rw [receiveWire, Version.ofWire_toWire hv h, receive, hv]
    exact ⟨rfl, rfl⟩
  | error e =>
    -- It is not read back, and both calls only count it.
    cases hraw : Version.ofWire v.toWire with
    | ok u =>
      obtain rfl := Version.eq_of_ofWire_toWire h hraw
      rw [(Version.check_of_ofWire hraw).1] at hv
      simp at hv
    | error e' =>
      rw [receiveWire, hraw, receive, hv]
      exact ⟨rfl, rfl⟩

/-! ## The wire form as a whole -/

/-- A version is read back from its wire form exactly if it passes its check and has no counter past
the signed range. A version that was read from the wire is read back from its own wire form, and
from every restatement of the form that it was read from. At every replica a version that fits the
wire does the same whether it is handed over or sent: its first step is the same, also among other
calls, and so is the whole call where no other call interrupts it, up to the reason why a version is
malformed. -/
theorem wire_forms_are_faithful :
    (∀ v : Version,
      Version.ofWire v.toWire = .ok v ↔ v.check = .ok () ∧ v.vector.FitsWire) ∧
    (∀ raw v, Version.ofWire raw = .ok v → Version.ofWire v.toWire = .ok v ∧
      ∀ raw', raw.Restates raw' → Version.ofWire raw' = .ok v) ∧
    ∀ (r : Replica) (v : Version) (on : Conditions), v.vector.FitsWire →
      ((r.receiveWire on v.toWire).1 = (r.receive on v).1 ∧
        (r.receiveWire on v.toWire).2.withoutReason = (r.receive on v).2.withoutReason) ∧
      ∀ script, let direct := ((Host.sequential on script).receive v).run r
        let sent := ((Host.sequential on script).receiveWire v.toWire).run r
        sent.2 = direct.2 ∧
          sent.1.map Outcome.withoutReason = direct.1.map Outcome.withoutReason := by
  refine ⟨fun v ↦ Version.ofWire_toWire_iff, fun raw v h ↦ ⟨?_, fun raw' hraw ↦ ?_⟩,
    fun r v on h ↦ ⟨receiveWire_toWire on r h, fun script ↦ ?_⟩⟩
  · exact Version.ofWire_toWire (Version.check_of_ofWire h).1 (Version.fitsWire_of_ofWire h)
  · exact Version.ofWire_of_restates h hraw
  · obtain ⟨hstate, hprogress⟩ := receiveWire_toWire on r h
    intro direct sent
    have hsent : sent = ((Host.sequential on script).complete (r.receiveWire on v.toWire).2).run
      (r.receiveWire on v.toWire).1 := rfl
    rw [hsent, hstate]
    exact run_complete_withoutReason on script hprogress

/-- A document with the greatest counter that the wire form has. -/
def sentForm : WireVersion :=
  ⟨"doc", "notes", [1], false, [⟨⟨1⟩, Int64.maxValue⟩, ⟨⟨2⟩, 1⟩], 5, none⟩

/-- The same document, with its entries in another order and a node that has not written. -/
def restatedForm : WireVersion :=
  { sentForm with vector := [⟨⟨2⟩, 1⟩, ⟨⟨7⟩, 0⟩, ⟨⟨1⟩, Int64.maxValue⟩] }

theorem wire_forms_are_faithful_sample : ∃ v, Version.ofWire sentForm = .ok v ∧
    v.vector.FitsWire ∧ Version.ofWire v.toWire = .ok v ∧ Version.ofWire restatedForm = .ok v := by
  have hrestates : sentForm.Restates restatedForm := by
    refine ⟨rfl, [⟨⟨7⟩, 0⟩], by decide, by decide, ?_⟩
    decide
  obtain ⟨v, hv⟩ : ∃ v, Version.ofWire sentForm = .ok v := ⟨_, rfl⟩
  obtain ⟨hown, hforms⟩ := wire_forms_are_faithful.2.1 sentForm v hv
  exact ⟨v, hv, (wire_forms_are_faithful.1 v).1 hown |>.2, hown, hforms _ hrestates⟩

end Replica

end CausalReplica
