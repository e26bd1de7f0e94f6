import SocketInventory.Proofs.Query.Derivation
import SocketInventory.Query.Eval

/-!
# Meaning of derivations

The meaning of a derivation as a proposition about a record: `or` is disjunction, `and` conjunction
and a negation denies the factor behind it. A comparison holds of what its field is read as; where
there is nothing to read, it does not hold. The evaluation of the query decides this meaning.
-/

namespace SocketInventory.Query

/-! ## Fields of a record -/

/-- The address at an end: the one held, or the wildcard of the protocol for an absent or empty
one. -/
inductive ReadsAddress (r : Record) (e : Endpoint) : String → Prop
  | held {a : String} (ha : e.address = some a) (hne : a ≠ "") : ReadsAddress r e a
  | wildcard6 (ha : e.address = none ∨ e.address = some "") (h6 : '6' ∈ r.protocol.toList) :
      ReadsAddress r e "[::]"
  | wildcard4 (ha : e.address = none ∨ e.address = some "") (h6 : '6' ∉ r.protocol.toList) :
      ReadsAddress r e "0.0.0.0"

/-- What a field of a record is read as, by its name in lower case. No rule reads an unknown name,
an absent port or an absent name of a process. -/
inductive Reads (r : Record) : String → Content → Prop
  | pid : Reads r "pid" (.number r.pid)
  | protocol {w : String} (hw : w ∈ ["proto", "protocol"]) : Reads r w (.text r.protocol)
  | state : Reads r "state" (.text r.state)
  | processName {w s : String} (hw : w ∈ ["process", "name", "processname"])
      (hs : r.processName = some s) : Reads r w (.text s)
  | localPort {w : String} {n : Int} (hw : w ∈ ["lport", "localport"])
      (hn : r.localEnd.port = some n) : Reads r w (.number n)
  | remotePort {w : String} {n : Int} (hw : w ∈ ["rport", "remoteport"])
      (hn : r.remoteEnd.port = some n) : Reads r w (.number n)
  | localAddress {w a : String} (hw : w ∈ ["laddr", "localaddress", "local"])
      (ha : ReadsAddress r r.localEnd a) : Reads r w (.text a)
  | remoteAddress {w a : String} (hw : w ∈ ["raddr", "remoteaddress", "remote"])
      (ha : ReadsAddress r r.remoteEnd a) : Reads r w (.text a)

theorem readsAddress_iff {r : Record} {e : Endpoint} {a : String} :
    ReadsAddress r e a ↔ addressContent r e = a := by
  constructor
  · rintro (⟨ha, hne⟩ | ⟨ha | ha, h6⟩ | ⟨ha | ha, h6⟩)
    · simp [addressContent, ha, hne]
    all_goals simp [addressContent, ha, wildcardAddress, h6]
  · rintro rfl
    have hwildcard : e.address = none ∨ e.address = some "" →
        ReadsAddress r e (wildcardAddress r) := by
      intro ha
      by_cases h6 : '6' ∈ r.protocol.toList
      · simpa [wildcardAddress, h6] using ReadsAddress.wildcard6 ha h6
      · simpa [wildcardAddress, h6] using ReadsAddress.wildcard4 ha h6
    cases ha : e.address with
    | none => simpa [addressContent, ha] using hwildcard (.inl ha)
    | some a =>
        by_cases hne : a = ""
        · subst hne
          simpa [addressContent, ha] using hwildcard (.inr ha)
        · simpa [addressContent, ha, hne] using ReadsAddress.held ha hne

theorem mem_fieldNames {name : String} {f : Field} (h : Field.ofName? name = some f) :
    (name, f) ∈ fieldNames := by
  obtain ⟨before, after, heq, -⟩ := List.lookup_eq_some_iff.1 h
  rw [heq]
  simp

theorem Reads.content?_eq {r : Record} {name : String} {c : Content} (h : Reads r name c) :
    Field.ofName? name >>= Field.content? r = some c := by
  have hread : ∀ {f : Field} {names : List String}, (∀ w ∈ names, Field.ofName? w = some f) →
      name ∈ names → f.content? r = some c → Field.ofName? name >>= Field.content? r = some c := by
    intro f names hf hw hc
    rw [hf name hw]
    exact hc
  cases h with
  | pid | state => rfl
  | protocol hw => exact @hread .protocol _ (by decide) hw rfl
  | processName hw hs =>
      exact @hread .processName _ (by decide) hw (by rw [Field.content?, hs]; rfl)
  | localPort hw hn => exact @hread .localPort _ (by decide) hw (by rw [Field.content?, hn]; rfl)
  | remotePort hw hn => exact @hread .remotePort _ (by decide) hw (by rw [Field.content?, hn]; rfl)
  | localAddress hw ha =>
      exact @hread .localAddress _ (by decide) hw (by rw [Field.content?, readsAddress_iff.1 ha])
  | remoteAddress hw ha =>
      exact @hread .remoteAddress _ (by decide) hw (by rw [Field.content?, readsAddress_iff.1 ha])

/-- The rules read exactly what the lookup of a field finds. -/
theorem reads_iff {r : Record} {name : String} {c : Content} :
    Reads r name c ↔ Field.ofName? name >>= Field.content? r = some c := by
  refine ⟨Reads.content?_eq, fun h => ?_⟩
  obtain ⟨f, hf, hc⟩ := Option.bind_eq_some_iff.1 h
  have hmem := mem_fieldNames hf
  cases f with
  | pid =>
      obtain rfl : name = "pid" := by simpa [fieldNames] using hmem
      cases hc
      exact .pid
  | protocol =>
      cases hc
      exact .protocol (by simpa [fieldNames] using hmem)
  | state =>
      obtain rfl : name = "state" := by simpa [fieldNames] using hmem
      cases hc
      exact .state
  | processName =>
      obtain ⟨s, hs, rfl⟩ := Option.map_eq_some_iff.1 hc
      exact .processName (by simpa [fieldNames] using hmem) hs
  | localPort =>
      obtain ⟨n, hn, rfl⟩ := Option.map_eq_some_iff.1 hc
      exact .localPort (by simpa [fieldNames] using hmem) hn
  | remotePort =>
      obtain ⟨n, hn, rfl⟩ := Option.map_eq_some_iff.1 hc
      exact .remotePort (by simpa [fieldNames] using hmem) hn
  | localAddress =>
      cases hc
      exact .localAddress (by simpa [fieldNames] using hmem) (readsAddress_iff.2 rfl)
  | remoteAddress =>
      cases hc
      exact .remoteAddress (by simpa [fieldNames] using hmem) (readsAddress_iff.2 rfl)

theorem Reads.unique {r : Record} {name : String} {c d : Content} (hc : Reads r name c)
    (hd : Reads r name d) : c = d :=
  Option.some.inj ((reads_iff.1 hc).symm.trans (reads_iff.1 hd))

/-! ## Derivations -/

mutual
def Disjunction.Holds (r : Record) : Disjunction → Prop
  | .last c => c.Holds r
  | .or c d => c.Holds r ∨ d.Holds r

def Conjunction.Holds (r : Record) : Conjunction → Prop
  | .last f => f.Holds r
  | .and f c => f.Holds r ∧ c.Holds r

def Factor.Holds (r : Record) : Factor → Prop
  | .group d => d.Holds r
  | .not f => ¬ f.Holds r
  | .comparison field op operand =>
      ∃ c, Reads r (fieldName field) c ∧ compare c op operand.value = true
end

theorem holds_comparison (r : Record) (field : String) (op : Op) (v : Value) :
    holds r (.comparison field op v) = true ↔ ∃ c, Reads r field c ∧ compare c op v = true := by
  simp only [reads_iff, holds]
  cases Field.ofName? field >>= Field.content? r <;> simp

mutual
theorem Disjunction.holds_query (r : Record) : (d : Disjunction) →
    (holds r d.query = true ↔ d.Holds r)
  | .last c => by simpa only [Disjunction.query, Disjunction.Holds] using c.holds_query r
  | .or c d => by
      simp only [Disjunction.query, Disjunction.Holds, holds, Bool.or_eq_true, c.holds_query r,
        d.holds_query r]

theorem Conjunction.holds_query (r : Record) : (c : Conjunction) →
    (holds r c.query = true ↔ c.Holds r)
  | .last f => by simpa only [Conjunction.query, Conjunction.Holds] using f.holds_query r
  | .and f c => by
      simp only [Conjunction.query, Conjunction.Holds, holds, Bool.and_eq_true, f.holds_query r,
        c.holds_query r]

theorem Factor.holds_query (r : Record) : (f : Factor) → (holds r f.query = true ↔ f.Holds r)
  | .group d => by simpa only [Factor.query, Factor.Holds, holds] using d.holds_query r
  | .not f => by
      rw [Factor.query, Factor.Holds, ← f.holds_query r, holds, Bool.not_eq_true', Bool.not_eq_true]
  | .comparison field op operand => holds_comparison r (fieldName field) op operand.value
end

end SocketInventory.Query
