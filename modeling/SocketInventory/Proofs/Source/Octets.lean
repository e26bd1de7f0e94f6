import Mathlib
import SocketInventory.Source.OwnerTable

/-!
# Octets of words

Words of 32 bits are kept lowest octet first, ports and the groups of an address highest octet
first. Each is read back from the octets that keep it.
-/

namespace SocketInventory.OwnerTable

/-! ## Words -/

/-- The number that octets make up, the lowest first. -/
def octetsValue : List UInt8 → Nat
  | [] => 0
  | b :: octets => b.toNat + 256 * octetsValue octets

theorem octetsValue_lt (octets : List UInt8) : octetsValue octets < 256 ^ octets.length := by
  induction octets with
  | nil => decide
  | cons b octets ih =>
      have hb := b.toNat_lt
      rw [octetsValue, List.length_cons, Nat.pow_succ]
      omega

theorem toNat_word {octets : List UInt8} (h : octets.length ≤ 4) :
    (word octets).toNat = octetsValue octets := by
  induction octets with
  | nil => rfl
  | cons b octets ih =>
      have hrest : (word octets).toNat = octetsValue octets := ih (Nat.le_of_succ_le h)
      have hbound : octetsValue octets < 2 ^ 24 :=
        Nat.lt_of_lt_of_le (octetsValue_lt octets)
          (Nat.pow_le_pow_right (by decide : 0 < 256) (Nat.le_of_succ_le_succ h))
      have hb : b.toNat < 2 ^ 8 := b.toNat_lt
      have hcons : word (b :: octets) = b.toUInt32 ||| (word octets <<< 8) := rfl
      have hshift : (word octets <<< 8).toNat = octetsValue octets <<< 8 := by
        rw [UInt32.toNat_shiftLeft, hrest, Nat.mod_eq_of_lt]
        · rfl
        · rw [Nat.shiftLeft_eq]
          simp only [UInt32.reduceToNat, Nat.reduceMod, Nat.reducePow]
          omega
      rw [hcons, UInt32.toNat_or, UInt8.toNat_toUInt32, hshift, Nat.or_comm,
        ← Nat.shiftLeft_add_eq_or_of_lt hb, Nat.shiftLeft_eq, octetsValue]
      omega

def wordOctets (w : UInt32) : List UInt8 :=
  [w.toUInt8, (w >>> 8).toUInt8, (w >>> 16).toUInt8, (w >>> 24).toUInt8]

@[simp] theorem length_wordOctets (w : UInt32) : (wordOctets w).length = 4 := by
  simp [wordOctets]

theorem octetsValue_wordOctets (w : UInt32) : octetsValue (wordOctets w) = w.toNat := by
  have hw := w.toNat_lt
  simp only [wordOctets, octetsValue, UInt32.toNat_toUInt8, UInt32.toNat_shiftRight,
    UInt32.reduceToNat, Nat.shiftRight_eq_div_pow, Nat.reduceMod, Nat.reducePow]
  omega

@[simp] theorem word_wordOctets (w : UInt32) : word (wordOctets w) = w := by
  rw [← UInt32.toNat_inj, toNat_word (by simp), octetsValue_wordOctets]

/-- Four octets of an IPv4 address in the order of memory. -/
theorem ofWord_word (a b c d : UInt8) : Address.ofWord (word [a, b, c, d]) = .v4 a b c d := by
  have hvalue : (word [a, b, c, d]).toNat =
      a.toNat + 256 * (b.toNat + 256 * (c.toNat + 256 * (d.toNat + 256 * 0))) :=
    toNat_word (by simp)
  have ha := a.toNat_lt
  have hb := b.toNat_lt
  have hc := c.toNat_lt
  have hd := d.toNat_lt
  simp only [Address.ofWord, Address.v4.injEq, ← UInt8.toNat_inj, UInt32.toNat_toUInt8,
    UInt32.toNat_shiftRight, UInt32.reduceToNat, Nat.shiftRight_eq_div_pow, Nat.reduceMod,
    Nat.reducePow, hvalue]
  omega

/-! ## Ports -/

/-- The octets of a number of sixteen bits in network order. -/
def networkOctets (n : UInt16) : List UInt8 := [(n >>> 8).toUInt8, n.toUInt8]

@[simp] theorem length_networkOctets (n : UInt16) : (networkOctets n).length = 2 := by
  simp [networkOctets]

theorem toNat_swapOctets (n : UInt16) :
    (swapOctets n).toNat = 256 * (n.toNat % 256) + n.toNat / 256 := by
  have hn := n.toNat_lt
  have hlow : n.toNat / 256 < 2 ^ 8 := by omega
  have hhigh : n.toNat <<< 8 % 2 ^ 16 = (n.toNat % 256) <<< 8 := by
    rw [Nat.shiftLeft_eq, Nat.shiftLeft_eq]
    omega
  have hleft : (n <<< 8).toNat = (n.toNat % 256) <<< 8 := by
    rw [UInt16.toNat_shiftLeft]
    exact hhigh
  have hright : (n >>> 8).toNat = n.toNat / 256 := by
    rw [UInt16.toNat_shiftRight]
    exact Nat.shiftRight_eq_div_pow _ _
  rw [swapOctets, UInt16.toNat_or, hleft, hright, ← Nat.shiftLeft_add_eq_or_of_lt hlow,
    Nat.shiftLeft_eq]
  omega

/-- A port is read from the low half of its word, whatever the high half holds. -/
theorem portOf_word (port : UInt16) (x y : UInt8) :
    portOf (word (networkOctets port ++ [x, y])) = port.toNat := by
  have hvalue : (word (networkOctets port ++ [x, y])).toNat =
      (port >>> 8).toUInt8.toNat + 256 * (port.toUInt8.toNat + 256 * (x.toNat + 256 *
        (y.toNat + 256 * 0))) :=
    toNat_word (by simp)
  have hport := port.toNat_lt
  simp only [UInt16.toNat_toUInt8, UInt16.toNat_shiftRight, UInt16.reduceToNat,
    Nat.shiftRight_eq_div_pow, Nat.reduceMod, Nat.reducePow] at hvalue
  have hlow : (word (networkOctets port ++ [x, y])).toNat % 2 ^ 16 =
      port.toNat / 256 + 256 * (port.toNat % 256) := by
    have hhigh : port.toNat / 256 < 256 := by omega
    have hrest : port.toNat % 256 < 256 := Nat.mod_lt _ (by decide)
    rw [hvalue, Nat.mod_eq_of_lt hhigh]
    generalize port.toNat / 256 = high at hhigh ⊢
    generalize port.toNat % 256 = rest at hrest ⊢
    omega
  rw [portOf, toNat_swapOctets, UInt32.toNat_toUInt16, hlow]
  omega

/-! ## Groups -/

/-- The sixteen octets of an IPv6 address in network order. -/
def groupOctets (groups : Groups) : List UInt8 := groups.list.flatMap networkOctets

theorem pairGroups_networkOctets (gs : List UInt16) :
    Address.pairGroups (gs.flatMap networkOctets) = gs := by
  have hjoin : ∀ g : UInt16,
      ((g >>> 8).toUInt8.toUInt16 <<< 8 ||| g.toUInt8.toUInt16) = g := by
    intro g
    have hg := g.toNat_lt
    have hlow : g.toNat % 2 ^ 8 < 2 ^ 8 := Nat.mod_lt _ (by decide)
    have hhigh : ((g >>> 8).toUInt8.toUInt16 <<< 8).toNat = (g.toNat / 256) <<< 8 := by
      rw [UInt16.toNat_shiftLeft, UInt8.toNat_toUInt16, UInt16.toNat_toUInt8,
        UInt16.toNat_shiftRight, Nat.shiftLeft_eq, Nat.shiftLeft_eq]
      simp only [UInt16.reduceToNat, Nat.shiftRight_eq_div_pow, Nat.reduceMod, Nat.reducePow]
      omega
    rw [← UInt16.toNat_inj, UInt16.toNat_or, hhigh, UInt8.toNat_toUInt16, UInt16.toNat_toUInt8,
      ← Nat.shiftLeft_add_eq_or_of_lt hlow, Nat.shiftLeft_eq]
    omega
  induction gs with
  | nil => rfl
  | cons g gs ih =>
      have hcons : (g :: gs).flatMap networkOctets =
          (g >>> 8).toUInt8 :: g.toUInt8 :: gs.flatMap networkOctets := rfl
      rw [hcons, Address.pairGroups, hjoin, ih]

@[simp] theorem length_groupOctets (groups : Groups) : (groupOctets groups).length = 16 := by
  simp [groupOctets, List.length_flatMap, networkOctets, groups.length_list]

theorem ofOctets?_groupOctets (groups : Groups) :
    Address.ofOctets? (groupOctets groups) = some (.v6 groups none) := by
  rw [Address.ofOctets?, if_pos (length_groupOctets groups), groupOctets,
    pairGroups_networkOctets, Groups.ofList?, dif_pos groups.length_list]
  rfl

end SocketInventory.OwnerTable
