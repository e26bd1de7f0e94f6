import SocketInventory.Proofs.Json.RoundTrip
import SocketInventory.Proofs.Outcome
import SocketInventory.Render.Json

/-!
# Records are read back

A record that can be written at all is written as one object, in every layout that leaves the
characters as they are, and the record is read back from the members of that object. Only an
integer that no word holds keeps a list of records from being written.
-/

namespace SocketInventory

namespace Json

theorem fitItems_of_forall {items : List Json} (h : ∀ v ∈ items, Fits v) : FitItems items := by
  induction items with
  | nil => trivial
  | cons v items ih => exact ⟨h v (by simp), ih fun w hw => h w (by simp [hw])⟩

/-- The names of the members of an object, in their order. -/
def names : Json → List Text.Letters
  | .object members => members.map Prod.fst
  | _ => []

end Json

/-! ## What can be written -/

/-- A signed or an unsigned word of 64 bits holds the integer. -/
def FitsWord (n : Int) : Prop := -0x8000000000000000 ≤ n ∧ n < 0x10000000000000000

instance (n : Int) : Decidable (FitsWord n) :=
  inferInstanceAs (Decidable (_ ∧ _))

theorem FitsWord.natAbs_lt {n : Int} (h : FitsWord n) : n.natAbs < 10 ^ Text.digitLimit := by
  have hword : n.natAbs < 10 ^ 20 := by
    obtain ⟨hlow, hhigh⟩ := h
    omega
  exact hword.trans_le (Nat.pow_le_pow_right (by decide) (by decide))

/-- Words hold the integers of the record. -/
structure Record.InRange (r : Record) : Prop where
  localPort : ∀ n ∈ r.localEnd.port, FitsWord n
  remotePort : ∀ n ∈ r.remoteEnd.port, FitsWord n
  pid : FitsWord r.pid

namespace Render

open Json (Fits)

variable {v : Json} {e : Endpoint} {r : Record} {records : List Record}

/-! ## Objects -/

def endObject (e : Endpoint) : Json :=
  .object [("address", jsonText e.address), ("port", e.port.elim .null .int)]

def recordObject (r : Record) : Json :=
  .object
    [("protocol", .text r.protocol), ("local", endObject r.localEnd),
      ("remote", endObject r.remoteEnd), ("state", .text r.state), ("pid", .int r.pid),
      ("processName", jsonText r.processName)]

/-- Null is nothing, and any other value is read. -/
def optionOf? {α : Type} (read? : Json → Option α) : Json → Option (Option α)
  | .null => some none
  | v => (read? v).map some

def endOf? (v : Json) : Option Endpoint := do
  return ⟨← (v.member? "address").bind (optionOf? Json.text?),
    ← (v.member? "port").bind (optionOf? Json.int?)⟩

def recordOf? (v : Json) : Option Record := do
  return ⟨← (v.member? "protocol").bind Json.text?, ← (v.member? "local").bind endOf?,
    ← (v.member? "remote").bind endOf?, ← (v.member? "state").bind Json.text?,
    ← (v.member? "pid").bind Json.int?,
    ← (v.member? "processName").bind (optionOf? Json.text?)⟩

def recordsOf? (v : Json) : Option (List Record) := v.list?.bind fun items => items.mapM recordOf?

theorem optionOf?_text (x : Option String) :
    optionOf? Json.text? (jsonText x) = some x := by
  cases x with
  | none => rfl
  | some s =>
      change (Text.whole? (Text.letters s)).map some = some (some s)
      rw [Text.whole?_letters, Option.map_some]

theorem optionOf?_int (x : Option Int) : optionOf? Json.int? (x.elim .null .int) = some x := by
  cases x <;> rfl

@[simp] theorem member?_address (e : Endpoint) :
    (endObject e).member? "address" = some (jsonText e.address) :=
  rfl

@[simp] theorem member?_port (e : Endpoint) :
    (endObject e).member? "port" = some (e.port.elim .null .int) :=
  rfl

theorem endOf?_endObject (e : Endpoint) : endOf? (endObject e) = some e := by
  simp only [endOf?, member?_address, member?_port, Option.bind_some, optionOf?_text,
    optionOf?_int]
  rfl

/-- An absent address or port alone is null. -/
theorem endObject_null_iff (e : Endpoint) :
    ((endObject e).member? "address" = some .null ↔ e.address = none) ∧
      ((endObject e).member? "port" = some .null ↔ e.port = none) := by
  rw [member?_address, member?_port]
  constructor
  · cases e.address <;> simp [jsonText]
  · cases e.port <;> simp

theorem recordOf?_recordObject (r : Record) : recordOf? (recordObject r) = some r := by
  have hprotocol : (recordObject r).member? "protocol" = some (.text r.protocol) := rfl
  have hlocal : (recordObject r).member? "local" = some (endObject r.localEnd) := rfl
  have hremote : (recordObject r).member? "remote" = some (endObject r.remoteEnd) := rfl
  have hstate : (recordObject r).member? "state" = some (.text r.state) := rfl
  have hpid : (recordObject r).member? "pid" = some (.int r.pid) := rfl
  have hname : (recordObject r).member? "processName" = some (jsonText r.processName) := rfl
  simp only [recordOf?, hprotocol, hlocal, hremote, hstate, hpid, hname, Option.bind_some,
    endOf?_endObject, optionOf?_text, Json.text?, Json.int?, Text.whole?_letters]
  rfl

theorem recordsOf?_recordObjects (records : List Record) :
    recordsOf? (.list (records.map recordObject)) = some records := by
  rw [recordsOf?, Json.list?, Option.bind_some]
  induction records with
  | nil => rfl
  | cons r records ih =>
      rw [List.map_cons, List.mapM_cons, recordOf?_recordObject, ih]
      rfl

/-! ## Writing -/

theorem jsonInteger_eq_ok_iff {n : Int} : jsonInteger n = .ok v ↔ FitsWord n ∧ v = .int n := by
  rw [jsonInteger]
  split
  · rename_i hn
    simp only [Bool.and_eq_true, decide_eq_true_eq] at hn
    rw [Except.ok.injEq, eq_comm]
    exact (and_iff_right hn).symm
  · rename_i hn
    simp only [Bool.and_eq_true, decide_eq_true_eq] at hn
    exact iff_of_false (by rintro ⟨⟩) fun h => hn h.1

theorem jsonPort_eq_ok_iff {x : Option Int} :
    jsonPort x = .ok v ↔ (∀ n ∈ x, FitsWord n) ∧ v = x.elim .null .int := by
  cases x with
  | none =>
      rw [jsonPort, Except.ok.injEq, eq_comm]
      exact (and_iff_right (by simp)).symm
  | some n =>
      rw [jsonPort, jsonInteger_eq_ok_iff, Option.elim_some]
      simp

theorem jsonEnd_eq_ok_iff :
    jsonEnd e = .ok v ↔ (∀ n ∈ e.port, FitsWord n) ∧ v = endObject e := by
  constructor
  · intro h
    obtain ⟨port, hport, h⟩ := exists_of_bind_ok h
    obtain ⟨hword, rfl⟩ := jsonPort_eq_ok_iff.1 hport
    cases h
    exact ⟨hword, rfl⟩
  · rintro ⟨hword, rfl⟩
    rw [jsonEnd, jsonPort_eq_ok_iff.2 ⟨hword, rfl⟩]
    rfl

/-- Every integer of a record must be one that can be written. -/
theorem jsonRecord_eq_ok_iff : jsonRecord r = .ok v ↔ r.InRange ∧ v = recordObject r := by
  constructor
  · intro h
    obtain ⟨_, h₁, h⟩ := exists_of_bind_ok h
    obtain ⟨_, h₂, h⟩ := exists_of_bind_ok h
    obtain ⟨_, h₃, h⟩ := exists_of_bind_ok h
    cases h
    obtain ⟨hlocal, rfl⟩ := jsonEnd_eq_ok_iff.1 h₁
    obtain ⟨hremote, rfl⟩ := jsonEnd_eq_ok_iff.1 h₂
    obtain ⟨hpid, rfl⟩ := jsonInteger_eq_ok_iff.1 h₃
    exact ⟨⟨hlocal, hremote, hpid⟩, rfl⟩
  · rintro ⟨hr, rfl⟩
    rw [jsonRecord, jsonEnd_eq_ok_iff.2 ⟨hr.localPort, rfl⟩,
      jsonEnd_eq_ok_iff.2 ⟨hr.remotePort, rfl⟩, jsonInteger_eq_ok_iff.2 ⟨hr.pid, rfl⟩]
    rfl

theorem jsonRecords_eq_ok_iff : jsonRecords records = .ok v ↔
    (∀ r ∈ records, r.InRange) ∧ v = .list (records.map recordObject) := by
  have hitems {items : List Json} := @mapM_ok_iff _ _ _ jsonRecord records _ _
    (fun _ _ => jsonRecord_eq_ok_iff) items
  constructor
  · intro h
    obtain ⟨items, hread, h⟩ := exists_of_bind_ok h
    obtain ⟨hall, rfl⟩ := hitems.1 hread
    cases h
    exact ⟨hall, rfl⟩
  · rintro ⟨hall, rfl⟩
    rw [jsonRecords, hitems.2 ⟨hall, rfl⟩]
    rfl

/-! ## What keeps records from being written -/

/-- Nothing goes wrong but an integer that no word holds. -/
def RangeOnly {α : Type} (x : Except Error α) : Prop := ∀ f, x = .error f → f = .integerRange

namespace RangeOnly

variable {α β : Type}

theorem ok (a : α) : RangeOnly (.ok a) := by
  rintro f ⟨⟩

theorem bind {x : Except Error α} {f : α → Except Error β} (hx : RangeOnly x)
    (hf : ∀ a, RangeOnly (f a)) : RangeOnly (x >>= f) := by
  cases x with
  | ok a => exact hf a
  | error e =>
      rintro g ⟨⟩
      exact hx e rfl

theorem integer (n : Int) : RangeOnly (jsonInteger n) := by
  rw [jsonInteger]
  split
  · exact ok _
  · rintro f ⟨⟩
    rfl

theorem port (x : Option Int) : RangeOnly (jsonPort x) := by
  cases x with
  | none => exact ok _
  | some n => exact integer n

theorem endpoint (e : Endpoint) : RangeOnly (jsonEnd e) := (port e.port).bind fun _ => ok _

theorem record (r : Record) : RangeOnly (jsonRecord r) :=
  (endpoint r.localEnd).bind fun _ => (endpoint r.remoteEnd).bind fun _ =>
    (integer r.pid).bind fun _ => ok _

theorem list (records : List Record) : RangeOnly (jsonRecords records) := by
  refine bind (fun f hf => ?_) fun _ => ok _
  obtain ⟨_, r, _, -, -, hr⟩ := mapM_error_iff.1 hf
  exact record r f hr

end RangeOnly

/-! ## Texts -/

theorem fits_jsonText (x : Option String) : Fits (jsonText x) := by
  cases x with
  | none => trivial
  | some s => exact Json.isWhole_letters s

theorem fits_endObject (hport : ∀ n ∈ e.port, FitsWord n) : Fits (endObject e) := by
  refine ⟨Json.isWhole_letters _, fits_jsonText _, Json.isWhole_letters _, ?_, trivial⟩
  cases hp : e.port with
  | none => trivial
  | some n => exact (hport n hp).natAbs_lt

theorem fits_recordObject (hr : r.InRange) : Fits (recordObject r) :=
  ⟨Json.isWhole_letters _, Json.isWhole_letters _, Json.isWhole_letters _,
    fits_endObject hr.localPort, Json.isWhole_letters _, fits_endObject hr.remotePort,
    Json.isWhole_letters _, Json.isWhole_letters _, Json.isWhole_letters _, hr.pid.natAbs_lt,
    Json.isWhole_letters _, fits_jsonText _, trivial⟩

theorem fits_recordObjects (h : ∀ r ∈ records, r.InRange) :
    Fits (.list (records.map recordObject)) := by
  refine Json.fitItems_of_forall fun item hitem => ?_
  obtain ⟨r, hr, rfl⟩ := List.mem_map.1 hitem
  exact fits_recordObject (h r hr)

theorem json_eq (style : Json.Style) (records : List Record) :
    json style records = (jsonRecords records).map fun v => v.render style := by
  rw [json]
  cases jsonRecords records <;> rfl

/-- Records that can be written are read back, also from a line of their own. -/
theorem parse_json (style : Json.Style) (hs : style.asciiOnly = false) {records : List Record}
    (h : jsonRecords records = .ok v) : Json.parse (v.render style) = .ok v ∧
      Json.parse (v.render style ++ "\n") = .ok v := by
  obtain ⟨hall, rfl⟩ := jsonRecords_eq_ok_iff.1 h
  have hfits := fits_recordObjects hall
  exact ⟨Json.parse_render hs hfits, Json.parse_renderLine hs hfits⟩

/-- In every layout that leaves the characters as they are, records of any texts and of integers in
words are written as one list of objects, one for each record and in the order of the records, which
are read back from it. An integer beyond words keeps all of them from being written. -/
theorem json_lossless (style : Json.Style) (hs : style.asciiOnly = false) (records : List Record) :
    ((∀ r ∈ records, r.InRange) → ∃ text, json style records = .ok text ∧
      Json.parse text = .ok (.list (records.map recordObject)) ∧
      Json.parse (text ++ "\n") = .ok (.list (records.map recordObject))) ∧
    ((∃ r ∈ records, ¬ r.InRange) → json style records = .error .integerRange) ∧
    recordsOf? (.list (records.map recordObject)) = some records ∧
    (∀ r : Record, (recordObject r).names =
      ["protocol", "local", "remote", "state", "pid", "processName"].map Text.letters) ∧
    ∀ e : Endpoint, ((endObject e).member? "address" = some .null ↔ e.address = none) ∧
      ((endObject e).member? "port" = some .null ↔ e.port = none) := by
  rw [json_eq]
  refine ⟨fun hi => ?_, ?_, recordsOf?_recordObjects records, fun _ => rfl, endObject_null_iff⟩
  · have hwritten := jsonRecords_eq_ok_iff.2 ⟨hi, rfl⟩
    exact ⟨_, by rw [hwritten]; rfl, parse_json style hs hwritten⟩
  · rintro ⟨r, hr, hrange⟩
    cases hwritten : jsonRecords records with
    | ok v => exact absurd ((jsonRecords_eq_ok_iff.1 hwritten).1 r hr) hrange
    | error f =>
        rw [RangeOnly.list records f hwritten]
        rfl

/-- Two ends that differ in what is absent, empty or zero, and a name of characters that must be
escaped and of some of private planes. -/
def oddRecord : Record :=
  ⟨"tcp", ⟨none, some 0⟩, ⟨some "", none⟩, "", -1,
    some ("a\"\n\\é" ++ String.singleton (Char.ofNat 0xFD800))⟩

theorem json_lossless_odd :
    Json.Style.pretty.asciiOnly = false ∧ oddRecord.InRange ∧
    json .compact [oddRecord] = .ok ("[\x7b\"protocol\":\"tcp\",\"local\":\x7b\"address\":null," ++
      "\"port\":0\x7d,\"remote\":\x7b\"address\":\"\",\"port\":null\x7d,\"state\":\"\"," ++
      "\"pid\":-1,\"processName\":\"a\\\"\\n\\\\é" ++ String.singleton (Char.ofNat 0xFD800) ++
      "\"\x7d]") ∧
    (∃ text, json .pretty [oddRecord] = .ok text ∧
      Json.parse text = .ok (.list [recordObject oddRecord])) ∧
    recordsOf? (.list [recordObject oddRecord]) = some [oddRecord] := by
  have hrange : oddRecord.InRange := ⟨by decide, by decide, by decide⟩
  obtain ⟨hwritten, -, hread, -⟩ := json_lossless .pretty rfl [oddRecord]
  obtain ⟨text, htext, hparse, -⟩ := hwritten (by simpa using hrange)
  exact ⟨rfl, hrange, by decide +kernel, ⟨text, htext, hparse⟩, hread⟩

end Render

end SocketInventory
