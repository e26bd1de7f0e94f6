import SocketInventory.Address.Basic
import SocketInventory.Proofs.Text.Lines
import SocketInventory.Proofs.Text.Numeral

/-!
# Texts of addresses

The canonical text of an address without a zone is read back as that address, for each of the 2^32
and the 2^128 of them. The run of zero groups that is left out of an IPv6 text is found again by
what the groups on both sides lack.
-/

namespace SocketInventory.Address

/-! ## Dotted quads -/

theorem parseOctet?_decimalChars (n : UInt8) : parseOctet? (Text.decimalChars n.toNat) = some n := by
  have hall : ∀ n < 256, parseOctet? (Text.decimalChars n) = some (UInt8.ofNat n) := by
    decide +kernel
  rw [hall n.toNat n.toNat_lt, UInt8.ofNat_toNat]

theorem dot_notMem_decimalChars (n : Nat) : '.' ∉ Text.decimalChars n :=
  fun h => absurd (Text.isDigit_decimalChars _ h) (by decide)

theorem parseV4?_chars (a b c d : UInt8) : parseV4? (Address.v4 a b c d).chars = some (a, b, c, d) := by
  have hdot : ∀ piece ∈ [a, b, c, d].map fun octet => Text.decimalChars octet.toNat,
      '.' ∉ piece := by
    intro piece hp
    obtain ⟨octet, -, rfl⟩ := List.mem_map.1 hp
    exact dot_notMem_decimalChars _
  rw [parseV4?, chars, Text.splitAt_intercalate (by simp) hdot]
  simp [parseOctet?_decimalChars]

theorem parseV4?_eq_none {s : List Char} (h : '.' ∉ s) : parseV4? s = none := by
  rw [parseV4?, Text.splitAt_of_notMem h, List.map_singleton]
  cases parseOctet? s <;> rfl

/-! ## Groups -/

theorem notMem_hexChars {c : Char} (hc : ∀ d < 16, c ≠ d.digitChar) (n : Nat) :
    c ∉ Text.hexChars n := by
  intro h
  obtain ⟨d, hd, rfl⟩ := Text.mem_hexChars h
  exact hc d hd rfl

theorem colon_notMem_hexChars (n : Nat) : ':' ∉ Text.hexChars n := notMem_hexChars (by decide) n

theorem parseGroup?_hexChars (g : UInt16) : parseGroup? (Text.hexChars g.toNat) = some g := by
  have hne : Text.hexChars g.toNat ≠ [] := Nat.toDigits_ne_nil
  have hlength : (Text.hexChars g.toNat).length ≤ 4 :=
    (Nat.length_toDigits_le_iff (by decide) (by decide)).2 g.toNat_lt
  have hdigit : ∀ c ∈ Text.hexChars g.toNat, (Text.hexValue? c).isSome := by
    intro c hc
    obtain ⟨d, hd, rfl⟩ := Text.mem_hexChars hc
    rw [Text.hexValue?_digitChar d hd]
    rfl
  have hcond : ((Text.hexChars g.toNat).isEmpty || decide (4 < (Text.hexChars g.toNat).length) ||
      !(Text.hexChars g.toNat).all fun c => (Text.hexValue? c).isSome) = false := by
    simp only [Bool.or_eq_false_iff, List.isEmpty_eq_false_iff, decide_eq_false_iff_not,
      Bool.not_eq_false', List.all_eq_true]
    exact ⟨⟨hne, by omega⟩, hdigit⟩
  rw [parseGroup?, hcond, Text.ofHexDigits_hexChars, UInt16.ofNat_toNat]
  rfl

theorem parseParts?_hexChars (quad : Bool) (gs : List UInt16) :
    parseParts? quad (gs.map fun g => Text.hexChars g.toNat) = some gs := by
  induction gs with
  | nil => rfl
  | cons g gs ih =>
      rcases gs with _ | ⟨next, gs⟩
      · have hdot : (Text.hexChars g.toNat).contains '.' = false := by
          simpa using notMem_hexChars (by decide) g.toNat
        rw [List.map_singleton, parseParts?, hdot, Bool.and_false, if_neg (by simp),
          parseGroup?_hexChars]
        rfl
      · rw [List.map_cons, List.map_cons, parseParts?, parseGroup?_hexChars]
        · rw [List.map_cons] at ih
          rw [ih]
          rfl
        · simp

theorem groupChars_cons_cons (g next : UInt16) (gs : List UInt16) :
    groupChars (g :: next :: gs) = Text.hexChars g.toNat ++ ':' :: groupChars (next :: gs) := by
  simp [groupChars]

theorem parseGroups?_groupChars (quad : Bool) (gs : List UInt16) :
    parseGroups? quad (groupChars gs) = some gs := by
  rcases gs with _ | ⟨g, gs⟩
  · rfl
  · have hne : (groupChars (g :: gs)).isEmpty = false := by
      have hg : Text.hexChars g.toNat ≠ [] := Nat.toDigits_ne_nil
      rcases gs with _ | ⟨next, gs⟩
      · simpa [groupChars] using hg
      · simp [groupChars_cons_cons]
    have hcolon : ∀ piece ∈ (g :: gs).map fun g => Text.hexChars g.toNat, ':' ∉ piece := by
      intro piece hp
      obtain ⟨g', -, rfl⟩ := List.mem_map.1 hp
      exact colon_notMem_hexChars _
    rw [parseGroups?, hne, if_neg (by simp), groupChars,
      Text.splitAt_intercalate (by simp) hcolon, parseParts?_hexChars]

/-! ## The gap -/

theorem cutGap?_append {piece : List Char} (h : ':' ∉ piece) (rest : List Char) :
    cutGap? (piece ++ rest) = (cutGap? rest).map fun (left, right) => (piece ++ left, right) := by
  induction piece with
  | nil => simp
  | cons c piece ih =>
      obtain ⟨hc, hpiece⟩ := List.ne_and_not_mem_of_not_mem_cons h
      rw [List.cons_append, cutGap?, ih hpiece]
      · simp [Function.comp_def]
      · rintro _ rfl
        exact absurd rfl hc

/-- Groups with single colons between them hold no double colon. -/
theorem cutGap?_groupChars (gs : List UInt16) (rest : List Char) :
    cutGap? (groupChars gs ++ rest) =
      (cutGap? rest).map fun (left, right) => (groupChars gs ++ left, right) := by
  induction gs with
  | nil => simp [groupChars]
  | cons g gs ih =>
      rcases gs with _ | ⟨next, gs⟩
      · simpa [groupChars] using cutGap?_append (colon_notMem_hexChars g.toNat) rest
      · have hhead : ∀ t, groupChars (next :: gs) ++ rest ≠ ':' :: t := by
          intro t ht
          obtain ⟨c, digits, hnext⟩ :=
            List.exists_cons_of_ne_nil (Nat.toDigits_ne_nil (n := next.toNat) (b := 16))
          have hc : c ≠ ':' := by
            rintro rfl
            exact colon_notMem_hexChars next.toNat (by simp [Text.hexChars, hnext])
          rcases gs with _ | ⟨g', gs⟩
          · simp [groupChars, Text.hexChars, hnext, hc] at ht
          · simp [groupChars_cons_cons, Text.hexChars, hnext, hc] at ht
        rw [groupChars_cons_cons, List.append_assoc,
          cutGap?_append (colon_notMem_hexChars g.toNat), List.cons_append, cutGap?, ih]
        · simp [Function.comp_def]
        · intro t _
          exact hhead t

theorem replicate_takeWhile_zero (gs : List UInt16) :
    List.replicate (gs.takeWhile (· == 0)).length 0 ++ gs.drop (gs.takeWhile (· == 0)).length =
      gs := by
  induction gs with
  | nil => rfl
  | cons g gs ih =>
      by_cases hg : g = 0
      · simpa [hg, List.replicate_succ] using ih
      · simp [hg]

/-- The run that is found in a list of groups holds zeros only. -/
theorem zeroRun_zeros (gs : List UInt16) :
    gs.take (zeroRun gs).1 ++ (List.replicate (zeroRun gs).2 0 ++
      gs.drop ((zeroRun gs).1 + (zeroRun gs).2)) = gs := by
  induction gs with
  | nil => rfl
  | cons g gs ih =>
      rw [zeroRun]
      simp only
      split
      · simpa using replicate_takeWhile_zero (g :: gs)
      · rw [List.take_succ_cons, Nat.add_right_comm, List.drop_succ_cons, List.cons_append, ih]

theorem parseV6?_groupsChars (groups : Groups) :
    parseV6? (groupsChars groups.list) = some groups := by
  have hof : Groups.ofList? groups.list = some groups := dif_pos groups.length_list
  have hzeros := zeroRun_zeros groups.list
  rw [groupsChars]
  generalize hrun : zeroRun groups.list = run at hzeros ⊢
  obtain ⟨start, length⟩ := run
  simp only at hzeros ⊢
  split
  · have hgap := cutGap?_groupChars groups.list []
    rw [List.append_nil] at hgap
    simp [parseV6?, hgap, cutGap?, parseGroups?_groupChars, hof]
  · have hgap : cutGap? (groupChars (groups.list.take start) ++ [':', ':'] ++
        groupChars (groups.list.drop (start + length))) =
          some (groupChars (groups.list.take start),
            groupChars (groups.list.drop (start + length))) := by
      rw [List.append_assoc, cutGap?_groupChars]
      simp [cutGap?]
    have hcount := congrArg List.length hzeros
    simp only [List.length_append, List.length_replicate, groups.length_list] at hcount
    have hmissing : 8 - ((groups.list.take start).length +
        (groups.list.drop (start + length)).length) = length := by
      omega
    have hlist : groups.list.take start ++ List.replicate length 0 ++
        groups.list.drop (start + length) = groups.list := by
      rw [List.append_assoc, hzeros]
    simp only [parseV6?, hgap, parseGroups?_groupChars, Option.bind_eq_bind, Option.bind_some]
    rw [if_pos (by omega), hmissing, hlist, hof]

/-! ## Addresses -/

/-- The zone of an address; only IPv6 has one. -/
def zone? : Address → Option String
  | .v4 .. => none
  | .v6 _ zone => zone

theorem mem_groupChars {gs : List UInt16} {c : Char} (h : c ∈ groupChars gs) :
    c = ':' ∨ ∃ d < 16, c = d.digitChar := by
  rcases Text.mem_intercalate h with hsep | ⟨piece, hp, hc⟩
  · exact .inl hsep
  · obtain ⟨g, -, rfl⟩ := List.mem_map.1 hp
    exact .inr (Text.mem_hexChars hc)

theorem mem_groupsChars {gs : List UInt16} {c : Char} (h : c ∈ groupsChars gs) :
    c = ':' ∨ ∃ d < 16, c = d.digitChar := by
  rw [groupsChars] at h
  simp only at h
  split at h
  · exact mem_groupChars h
  · simp only [List.mem_append, List.mem_cons, List.not_mem_nil, or_false] at h
    rcases h with (h | h | h) | h
    · exact mem_groupChars h
    · exact .inl h
    · exact .inl h
    · exact mem_groupChars h

theorem mem_chars {a : Address} (hz : a.zone? = none) {c : Char} (h : c ∈ a.chars) :
    c = ':' ∨ c = '.' ∨ ∃ d < 16, c = d.digitChar := by
  cases a with
  | v4 a b c' d =>
      rcases Text.mem_intercalate h with hsep | ⟨piece, hp, hc⟩
      · exact .inr (.inl hsep)
      · obtain ⟨octet, -, rfl⟩ := List.mem_map.1 hp
        obtain ⟨d', hd, rfl⟩ := Text.eq_digitChar_of_isDigit (Text.isDigit_decimalChars c hc)
        exact .inr (.inr ⟨d', by omega, rfl⟩)
  | v6 groups zone =>
      cases hz
      rw [chars, List.append_nil] at h
      rcases mem_groupsChars h with hc | hd
      · exact .inl hc
      · exact .inr (.inr hd)

theorem notMem_chars {a : Address} (hz : a.zone? = none) {c : Char} (hcolon : c ≠ ':')
    (hdot : c ≠ '.') (hdigit : ∀ d < 16, c ≠ d.digitChar) : c ∉ a.chars := by
  intro h
  rcases mem_chars hz h with rfl | rfl | ⟨d, hd, rfl⟩
  · exact hcolon rfl
  · exact hdot rfl
  · exact hdigit d hd rfl

/-- An address is read back from its canonical text. -/
theorem parse?_chars {a : Address} (hz : a.zone? = none) : parse? a.chars = some a := by
  cases a with
  | v4 a b c d => rw [parse?, parseV4?_chars]
  | v6 groups zone =>
      cases hz
      have hchars : (Address.v6 groups none).chars = groupsChars groups.list := by
        rw [chars, List.append_nil]
      have hdot : '.' ∉ groupsChars groups.list := by
        intro h
        rcases mem_groupsChars h with hc | ⟨d, hd, hc⟩
        · exact absurd hc (by decide)
        · exact absurd hc (by revert d; decide)
      have hpercent : '%' ∉ groupsChars groups.list := by
        rw [← hchars]
        exact notMem_chars rfl (by decide) (by decide) (by decide)
      rw [hchars, parse?, parseV4?_eq_none hdot, Text.cutFirst?_eq_none_iff.2 hpercent]
      simp [parseV6?_groupsChars]

/-- A text without a percent sign names no zone. -/
theorem zone?_of_parse? {s : List Char} (hs : '%' ∉ s) {a : Address} (h : parse? s = some a) :
    a.zone? = none := by
  rw [parse?, Text.cutFirst?_eq_none_iff.2 hs] at h
  split at h
  · cases h
    rfl
  · obtain ⟨groups, -, rfl⟩ := Option.map_eq_some_iff.1 h
    rfl

end SocketInventory.Address
