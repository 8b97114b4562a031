import CausalReplica.Conflict.Json
import CausalReplica.History
import CausalReplica.Outcome
import CausalReplica.Proofs.Dict
import CausalReplica.Proofs.JsonShape
import CausalReplica.Proofs.NodeText
import CausalReplica.Proofs.Wire

/-!
# Values are read back from their JSON

A value is written as a record of its parts or as a choice with a tag, and both are read in the
parts they were written in. So what is left for every type is to read back its parts: names, numbers
and bytes are plain values, lists are read item by item, and a record within a record has been dealt
with before. The tag of a choice may have the name of a part of the choice that it holds, as it does
for the reason of an outcome: the inner choice is a value of its own, so the names never meet.

Vectors are the exception. They are written unsigned and read signed, and reading validates. A
vector is read back if it is not empty and its counters fit the signed range; and what is read as a
vector is listed by the entries that stand in the JSON.
-/

namespace CausalReplica

open Json (Part)

/-! ## Vectors -/

namespace NodeId

@[simp] theorem ofJson?_toJson (n : NodeId) : ofJson? n.toJson = some n := by
  rw [ofJson?, toJson, Json.asText, Option.bind_some, parse?_text]

end NodeId

namespace WireEntry

theorem ofJson?_toJson (e : WireEntry) : ofJson? e.toJson = some e := by
  have hparts : e.toJson.parts ["node", "etag"] =
      some [.held e.node.toJson, .held (.int e.counter.toInt)] :=
    Json.parts_object [] (by simp)
  rw [ofJson?, hparts]
  simp [Part.needed]

/-- An entry of a vector is written unsigned and read signed. -/
theorem ofJson?_entryToJson {e : NodeId × UInt64} (h : (e.2.toNat : ℤ) ≤ Int64.maxValue.toInt) :
    ofJson? (VersionVector.entryToJson e) = some (ofEntry e) := by
  have hcounter : (ofEntry e).counter.toInt = e.2.toNat := by rw [toInt_ofEntry, min_eq_left h]
  have hentry : VersionVector.entryToJson e = (ofEntry e).toJson := by
    rw [VersionVector.entryToJson, toJson, hcounter]
    rfl
  rw [hentry, ofJson?_toJson]

end WireEntry

namespace VersionVector

@[simp] theorem ofJson?_toJson {v : VersionVector} (hne : v ≠ ⊥) (h : v.FitsWire) :
    ofJson? v.toJson = some v := by
  have hentries : v.toJson.asList WireEntry.ofJson? = some v.toWire :=
    Json.asList_map fun e he ↦ WireEntry.ofJson?_entryToJson (fitsWire_iff.1 h e he)
  rw [ofJson?, hentries, Option.bind_eq_bind, Option.bind_some, ofWire_toWire hne h]
  rfl

/-- What is read as a vector is a list of entries, and the vector is not empty and listed by it. -/
theorem ofJson?_eq_some_iff {j : Json} {v : VersionVector} :
    ofJson? j = some v ↔
      v ≠ ⊥ ∧ ∃ entries, j.asList WireEntry.ofJson? = some entries ∧ Lists entries v := by
  have hread : ∀ entries, (ofWire entries).toOption = some v ↔ ofWire entries = .ok v := by
    intro entries
    cases ofWire entries <;> simp [Except.toOption]
  rw [ofJson?, Option.bind_eq_bind, Option.bind_eq_some_iff]
  constructor
  · rintro ⟨entries, hentries, h⟩
    obtain ⟨hne, hlists⟩ := ofWire_eq_ok_iff.1 ((hread entries).1 h)
    exact ⟨hne, entries, hentries, hlists⟩
  · rintro ⟨hne, entries, hentries, hlists⟩
    exact ⟨entries, hentries, (hread entries).2 (ofWire_eq_ok_iff.2 ⟨hne, hlists⟩)⟩

theorem entries_ne_nil {v : VersionVector} (h : v ≠ ⊥) : v.entries ≠ [] := by
  intro hnil
  exact h (ext_counts (Dict.ext_entries hnil))

end VersionVector

/-! ## Versions -/

namespace Version

theorem ofJson?_toJson {v : Version} (hne : v.vector ≠ ⊥) (h : v.vector.FitsWire) :
    ofJson? v.toJson = some v := by
  have hparts : v.toJson.parts partNames =
      some [.held (.text v.id), .held (.text v.collection), .held (.ofBytes v.payload),
        .held (.bool v.tombstone), .held v.vector.toJson, .held (.nat v.modified.toNat),
        .held v.origin.toJson] :=
    Json.parts_object [] (by simp)
  rw [ofJson?, hparts]
  simp [Part.needed, Part.withDefault, Json.asText, Json.asBool, VersionVector.ofJson?_toJson hne h]

end Version

namespace WireVersion

/-- The record of a version. A missing origin is left out, and found missing. -/
theorem parts_toJson (v : WireVersion) :
    ∃ origin : Part, origin.trailing NodeId.ofJson? = some v.origin ∧
      v.toJson.parts Version.partNames =
        some [.held (.text v.id), .held (.text v.collection), .held (.ofBytes v.payload),
          .held (.bool v.tombstone), .held (.list (v.vector.map WireEntry.toJson)),
          .held (.nat v.modified.toNat), origin] := by
  rcases v with ⟨id, collection, payload, tombstone, vector, modified, _ | node⟩
  · exact ⟨.unnamed, rfl, Json.parts_object ["origin"] (by simp)⟩
  · have hnode : Part.trailing NodeId.ofJson? (.held node.toJson) =
        (NodeId.ofJson? node.toJson).map some := rfl
    rw [NodeId.ofJson?_toJson, Option.map_some] at hnode
    exact ⟨.held node.toJson, hnode, Json.parts_object [] (by simp)⟩

theorem ofJson?_toJson (v : WireVersion) : ofJson? v.toJson = some v := by
  have hvector : (Json.list (v.vector.map WireEntry.toJson)).asList WireEntry.ofJson? =
      some v.vector := Json.asList_map_self fun e _ ↦ e.ofJson?_toJson
  obtain ⟨origin, horigin, hparts⟩ := v.parts_toJson
  rw [ofJson?, hparts]
  simp [Part.needed, Part.withDefault, Json.asText, Json.asBool, hvector, horigin]

end WireVersion

namespace Conflict

/-- Members whose vectors can be written are read back, whether or not they are concurrent. -/
theorem ofJson?_toJson {c : Conflict} (h : ∀ v ∈ c.members, v.vector ≠ ⊥ ∧ v.vector.FitsWire) :
    ofJson? c.toJson = some c := by
  have hmembers : (Json.list (c.members.map Version.toJson)).asList Version.ofJson? =
      some c.members := Json.asList_map_self fun v hv ↦ Version.ofJson?_toJson (h v hv).1 (h v hv).2
  have hparts : c.toJson.parts ["id", "members"] =
      some [.held (.text c.id), .held (.list (c.members.map Version.toJson))] :=
    Json.parts_object [] (by simp)
  rw [ofJson?, hparts]
  simp [Part.needed, Json.asText, hmembers]

end Conflict

/-! ## Outcomes -/

namespace Unresolved

/-- A reason is read back, whatever way of reading names is used that takes texts for themselves. -/
theorem ofJsonWith?_toJson {nameOf : Json → Option String} (h : ∀ s, nameOf (.text s) = some s)
    (u : Unresolved) : ofJsonWith? nameOf u.toJson = some u := by
  cases u <;>
    rw [toJson, ofJsonWith?, Json.choice?_object (by simp)] <;>
    simp [Json.parts, Json.lookup, Json.asText, Part.needed, h]

theorem ofJson?_toJson (u : Unresolved) : ofJson? u.toJson = some u :=
  ofJsonWith?_toJson (fun _ ↦ rfl) u

@[simp] theorem ofContent?_toJson (u : Unresolved) : ofContent? u.toJson = some u :=
  ofJsonWith?_toJson (fun _ ↦ rfl) u

end Unresolved

namespace Rejection

@[simp] theorem ofContent?_toJson (r : Rejection) : ofContent? (.text r.name) = some r := by
  cases r <;> rfl

end Rejection

namespace Outcome

/-- The number of members is below `2 ^ 64`. -/
def Sized : Outcome → Prop
  | .conflicted members _ => members < UInt64.size
  | _ => True

theorem ofJson?_toJson {o : Outcome} (h : o.Sized) : ofJson? o.toJson = some o := by
  cases o with
  | conflicted members reason =>
    have hparts : (Json.object (content (.conflicted members reason))).parts
        ["members", "reason"] = some [.held (.nat members), .held reason.toJson] :=
      Json.parts_object [] (by simp [content])
    rw [toJson, ofJson?, Json.choice?_object (by simp [content])]
    simp [name, Json.asText, hparts, Part.needed, Json.asNatBelow_nat h]
  | _ =>
    rw [toJson, ofJson?, Json.choice?_object (by simp [content])]
    simp [content, name, Json.parts, Json.lookup, Json.asText, Json.asBool, Part.needed]

end Outcome

namespace Report

theorem ofJson?_toJson {r : Report} (h : ∀ o ∈ r.outcomes, o.2.Sized) :
    ofJson? r.toJson = some r := by
  have hslot : ∀ o ∈ r.outcomes, Json.asPair Json.asText Outcome.ofJson?
      (.list [.text o.1, o.2.toJson]) = some o := by
    intro o ho
    rw [Json.asPair, Json.asText, Outcome.ofJson?_toJson (h o ho)]
    rfl
  have houtcomes : (Json.list (r.outcomes.map fun o ↦ .list [.text o.1, o.2.toJson])).asList
      (Json.asPair Json.asText Outcome.ofJson?) = some r.outcomes := Json.asList_map_self hslot
  have hparts : r.toJson.parts ["source", "outcomes"] = some [.held (.text r.source.text),
      .held (.list (r.outcomes.map fun o ↦ .list [.text o.1, o.2.toJson]))] :=
    Json.parts_object [] (by simp)
  rw [ofJson?, hparts]
  simp [Part.needed, Json.asText, NodeId.parse?_text, houtcomes]

end Report

/-! ## Overviews -/

namespace Attempt

theorem ofJson?_toJson (a : Attempt) : ofJson? a.toJson = some a := by
  cases a <;>
    rw [toJson, ofJson?, Json.choice?_object (by simp)] <;>
    simp [Json.parts, Json.lookup, Json.asText, Json.asBool, Part.needed]

end Attempt

namespace CollectionStatus

theorem ofJson?_toJson {s : CollectionStatus} (h : s.unresolved < UInt64.size) :
    ofJson? s.toJson = some s := by
  have hparts : s.toJson.parts ["collection", "unresolved", "last_outcome"] =
      some [.held (.text s.collection), .held (.nat s.unresolved),
        .held (.ofOption Attempt.toJson s.last)] :=
    Json.parts_object [] (by simp)
  have hlast : Part.optional Attempt.ofJson? (.held (.ofOption Attempt.toJson s.last)) =
      some s.last := by
    cases hs : s.last with
    | none => rfl
    | some a =>
      have ha : Part.optional Attempt.ofJson? (.held a.toJson) =
          (Attempt.ofJson? a.toJson).map some := by
        cases a <;> rfl
      rw [Json.ofOption, ha, Attempt.ofJson?_toJson, Option.map_some]
  rw [ofJson?, hparts]
  simp [Part.needed, Json.asText, Json.asNatBelow_nat h, hlast]

end CollectionStatus

namespace Overview

/-- All numbers of open conflicts are below `2 ^ 64`. -/
def Sized (o : Overview) : Prop :=
  o.unresolved < UInt64.size ∧ ∀ s ∈ o.rows, s.unresolved < UInt64.size

theorem ofJson?_toJson {o : Overview} (h : o.Sized) : ofJson? o.toJson = some o := by
  have hrows : (Json.list (o.rows.map CollectionStatus.toJson)).asList CollectionStatus.ofJson? =
      some o.rows := Json.asList_map_self fun s hs ↦ CollectionStatus.ofJson?_toJson (h.2 s hs)
  have hparts : o.toJson.parts ["unresolved_total", "collections"] =
      some [.held (.nat o.unresolved), .held (.list (o.rows.map CollectionStatus.toJson))] :=
    Json.parts_object [] (by simp)
  rw [ofJson?, hparts]
  simp [Part.needed, Json.asNatBelow_nat h.1, hrows]

end Overview

/-! ## Policies and answers -/

namespace Policy

theorem textsOfJson?_textsToJson (d : Dict String String) :
    textsOfJson? (textsToJson d) = some d := by
  have hentries : ∀ es : List (String × String),
      (es.map fun e ↦ (e.1, Json.text e.2)).mapM
        (fun f ↦ do return (f.1, ← f.2.asText) : String × Json → Option (String × String)) =
          some es := by
    intro es
    induction es with
    | nil => rfl
    | cons e es ih =>
      rw [List.map_cons, List.mapM_cons, ih]
      rfl
  rw [textsToJson, textsOfJson?, hentries, Option.bind_eq_bind, Option.bind_some,
    Dict.ofList_entries]
  rfl

theorem ofJson?_toJson (p : Policy) : ofJson? p.toJson = some p := by
  cases p with
  | scripts byCollection =>
    have hparts : (Json.object [("scripts", textsToJson byCollection)]).parts ["scripts"] =
        some [.held (textsToJson byCollection)] :=
      Json.parts_object [] (by simp)
    rw [toJson, ofJson?, Json.choice?_object (by simp)]
    simp [Json.asText, hparts, Part.withDefault, textsOfJson?_textsToJson]
  | _ => rfl

end Policy

namespace Script.Answer

theorem ofJson?_toJson (a : Answer) : ofJson? a.toJson = some a := by
  cases a with
  | document body =>
    have hbody : ofParts? Json.asBytes "document" (some (.ofBytes body)) =
        some (.document body) := by
      rw [ofParts?, Option.bind_some, Json.asBytes_ofBytes]
      rfl
    exact hbody
  | _ => rfl

end Script.Answer

/-! ## All forms -/

/-- Every value that is written as JSON is read back as it was: versions as they arrive, outcomes,
reports, reasons, attempts, overviews, policies, answers of scripts, vectors and versions. Numbers
of members and of open conflicts have to be within the range of machine words, counters within the
signed range. And whatever is read as a vector is not empty, has its nodes in increasing order with
positive counters, and is listed by the entries that were read. -/
theorem json_forms_read_back :
    (∀ v : WireVersion, WireVersion.ofJson? v.toJson = some v) ∧
    (∀ o : Outcome, o.Sized → Outcome.ofJson? o.toJson = some o) ∧
    (∀ r : Report, (∀ o ∈ r.outcomes, o.2.Sized) → Report.ofJson? r.toJson = some r) ∧
    (∀ u : Unresolved, Unresolved.ofJson? u.toJson = some u) ∧
    (∀ a : Attempt, Attempt.ofJson? a.toJson = some a) ∧
    (∀ o : Overview, o.Sized → Overview.ofJson? o.toJson = some o) ∧
    (∀ p : Policy, Policy.ofJson? p.toJson = some p) ∧
    (∀ a : Script.Answer, Script.Answer.ofJson? a.toJson = some a) ∧
    (∀ v : VersionVector, v ≠ ⊥ → v.FitsWire → VersionVector.ofJson? v.toJson = some v) ∧
    (∀ v : Version, v.vector ≠ ⊥ → v.vector.FitsWire → Version.ofJson? v.toJson = some v) ∧
    ∀ (j : Json) (v : VersionVector), VersionVector.ofJson? j = some v →
      v.entries ≠ [] ∧ v.entries.Pairwise (fun a b ↦ a.1.toNat < b.1.toNat) ∧
      (∀ e ∈ v.entries, 0 < e.2) ∧
      ∃ entries, j.asList WireEntry.ofJson? = some entries ∧ VersionVector.Lists entries v := by
  refine ⟨WireVersion.ofJson?_toJson, fun o ↦ Outcome.ofJson?_toJson,
    fun r ↦ Report.ofJson?_toJson, Unresolved.ofJson?_toJson, Attempt.ofJson?_toJson,
    fun o ↦ Overview.ofJson?_toJson, Policy.ofJson?_toJson, Script.Answer.ofJson?_toJson,
    fun v ↦ VersionVector.ofJson?_toJson, fun v ↦ Version.ofJson?_toJson, fun j v hv ↦ ?_⟩
  obtain ⟨hne, hlists⟩ := VersionVector.ofJson?_eq_some_iff.1 hv
  have hsorted : v.entries.Pairwise fun a b ↦ a.1.toNat < b.1.toNat :=
    v.counts.sorted.imp fun h ↦ Nat.compare_eq_lt.1 h
  exact ⟨VersionVector.entries_ne_nil hne, hsorted, v.positive, hlists⟩

/-- An outcome, a report, an overview, a version, and the JSON of its vector. -/
theorem json_forms_read_back_sample :
    let vector := VersionVector.authored (.ofByte 1)
    let version := Version.document "d" "Users" [1, 2] vector 7
    let outcome := Outcome.conflicted 2 (.scriptTimedOut "merge" 50)
    let report : Report := ⟨.ofByte 2, [("d", outcome), ("e", .superseded)]⟩
    let overview : Overview := ⟨1, [⟨"Users", 1, some (.unresolved "d" "manual" 7)⟩]⟩
    Outcome.ofJson? outcome.toJson = some outcome ∧
    Report.ofJson? report.toJson = some report ∧
    Overview.ofJson? overview.toJson = some overview ∧
    VersionVector.ofJson? vector.toJson = some vector ∧
    Version.ofJson? version.toJson = some version ∧ vector.entries ≠ [] := by
  intro vector version outcome report overview
  obtain ⟨-, houtcome, hreport, -, -, hoverview, -, -, hvector, hversion, hread⟩ :=
    json_forms_read_back
  have hne : vector ≠ ⊥ := by decide
  have hfits : vector.FitsWire := by decide
  have hsized : outcome.Sized := by
    change 2 < UInt64.size
    decide
  have hslots : ∀ o ∈ report.outcomes, o.2.Sized := by
    intro o ho
    rcases List.mem_pair.1 ho with rfl | rfl
    · exact hsized
    · trivial
  have hrows : overview.Sized := by
    refine ⟨by decide, fun s hs ↦ ?_⟩
    obtain rfl := List.mem_singleton.1 hs
    decide
  exact ⟨houtcome outcome hsized, hreport report hslots, hoverview overview hrows,
    hvector vector hne hfits, hversion version hne hfits, (hread _ _ (hvector vector hne hfits)).1⟩

end CausalReplica
