import SocketInventory.Proofs.Json.Lexemes

/-!
# Reading back what was written

A value that is written in any layout, with the characters beyond ASCII as themselves, is read back
as the same value, as long as it has no fractions and its integers are not too long.
-/

namespace SocketInventory.Json

open Text (Letters)

/-! ## The reader, step by step -/

variable {level : Nat} {ls rest : List Lexeme} {v : Json}

/-- A value and what is left behind it. -/
def runValue (level : Nat) (ls : List Lexeme) : Except Fault (Json × List Lexeme) :=
  (readValue none level ls).map fun p => (p.1, p.2.val)

def runItems (level : Nat) (ls : List Lexeme) : Except Fault (List Json × List Lexeme) :=
  (readItems none level ls).map fun p => (p.1, p.2.val)

def runMembers (level : Nat) (ls : List Lexeme) :
    Except Fault (List (Letters × Json) × List Lexeme) :=
  (readMembers none level ls).map fun p => (p.1, p.2.val)

/-- What a step leaves, seen from the reader itself. -/
theorem exists_of_map_rest {α : Type} {x : Except Fault (α × Rest ls)} {a : α}
    (h : (x.map fun p => (p.1, p.2.val)) = .ok (a, rest)) : ∃ hr, x = .ok (a, ⟨rest, hr⟩) := by
  cases x with
  | error e => cases h
  | ok p =>
      obtain ⟨b, r, hr⟩ := p
      cases h
      exact ⟨hr, rfl⟩

theorem deeper_none (kind : Nesting) : deeper none kind level = .ok () := rfl

theorem runValue_atom : runValue level (.atom v :: rest) = .ok (v, rest) := by
  rw [runValue, readValue]
  rfl

theorem runValue_text (s : Letters) : runValue level (.text s :: rest) = .ok (.text s, rest) := by
  rw [runValue, readValue]
  rfl

theorem runValue_listEmpty :
    runValue level (.listStart :: .listEnd :: rest) = .ok (.list [], rest) := by
  rw [runValue, readValue, deeper_none]
  rfl

theorem runValue_objectEmpty :
    runValue level (.objectStart :: .objectEnd :: rest) = .ok (.object [], rest) := by
  rw [runValue, readValue, deeper_none]
  rfl

theorem runValue_list (hls : ∀ rest, ls ≠ .listEnd :: rest)
    {items : List Json} (hi : runItems (level + 1) ls = .ok (items, rest)) :
    runValue level (.listStart :: ls) = .ok (.list items, rest) := by
  obtain ⟨hr, hread⟩ := exists_of_map_rest hi
  rw [runValue, readValue, deeper_none, hread]
  · rfl
  · exact hls

theorem runValue_object (hls : ∀ rest, ls ≠ .objectEnd :: rest)
    {members : List (Letters × Json)} (hm : runMembers (level + 1) ls = .ok (members, rest)) :
    runValue level (.objectStart :: ls) = .ok (.object members, rest) := by
  obtain ⟨hr, hread⟩ := exists_of_map_rest hm
  rw [runValue, readValue, deeper_none, hread]
  · rfl
  · exact hls

theorem runItems_last (hv : runValue level ls = .ok (v, .listEnd :: rest)) :
    runItems level ls = .ok ([v], rest) := by
  obtain ⟨hr, hread⟩ := exists_of_map_rest hv
  rw [runItems, readItems, hread]
  rfl

theorem runItems_comma (hv : runValue level ls = .ok (v, .comma :: rest)) {items : List Json}
    {rest' : List Lexeme} (hi : runItems level rest = .ok (items, rest')) :
    runItems level ls = .ok (v :: items, rest') := by
  obtain ⟨hr, hread⟩ := exists_of_map_rest hv
  obtain ⟨hr', hread'⟩ := exists_of_map_rest hi
  rw [runItems, readItems, hread]
  simp only [bind, Except.bind, hread']
  rfl

theorem runMembers_last {name : Letters} (hv : runValue level ls = .ok (v, .objectEnd :: rest)) :
    runMembers level (.text name :: .colon :: ls) = .ok ([(name, v)], rest) := by
  obtain ⟨hr, hread⟩ := exists_of_map_rest hv
  rw [runMembers, readMembers, hread]
  rfl

theorem runMembers_comma {name : Letters} (hv : runValue level ls = .ok (v, .comma :: rest))
    {members : List (Letters × Json)} {rest' : List Lexeme}
    (hm : runMembers level rest = .ok (members, rest')) :
    runMembers level (.text name :: .colon :: ls) = .ok ((name, v) :: members, rest') := by
  obtain ⟨hr, hread⟩ := exists_of_map_rest hv
  obtain ⟨hr', hread'⟩ := exists_of_map_rest hm
  rw [runMembers, readMembers, hread]
  simp only [bind, Except.bind, hread']
  rfl

/-! ## Values -/

/-- A value starts with no end of a list. -/
theorem yield_append_ne (v : Json) (more rest : List Lexeme) :
    yield v ++ more ≠ .listEnd :: rest := by
  cases v with
  | list items => cases items <;> simp [yield]
  | object members => cases members <;> simp [yield]
  | _ => simp [yield]

mutual
/-- The lexemes of a value are read as the value. -/
theorem runValue_yield : (level : Nat) → (v : Json) → (rest : List Lexeme) → Fits v →
    runValue level (yield v ++ rest) = .ok (v, rest)
  | _, .null, _, _ => runValue_atom
  | _, .bool _, _, _ => runValue_atom
  | _, .int _, _, _ => runValue_atom
  | _, .text s, _, _ => runValue_text s
  | _, .list [], _, _ => runValue_listEmpty
  | level, .list (item :: items), rest, h => by
      obtain ⟨hitem, hitems⟩ := h
      have hfirst := runValue_yield (level + 1) item (yieldItems items ++ .listEnd :: rest) hitem
      have hread := runItems_yield (level + 1) items _ item rest hitems hfirst
      simp only [yield, List.cons_append, List.append_assoc, List.nil_append]
      exact runValue_list (yield_append_ne item _) hread
  | _, .object [], _, _ => runValue_objectEmpty
  | level, .object ((name, value) :: members), rest, h => by
      obtain ⟨-, hvalue, hmembers⟩ := h
      have hfirst := runValue_yield (level + 1) value (yieldMembers members ++ .objectEnd :: rest)
        hvalue
      have hread := runMembers_yield (level + 1) members name _ value rest hmembers hfirst
      simp only [yield, List.cons_append, List.append_assoc, List.nil_append]
      exact runValue_object (by simp) hread

/-- Where an item was read, the items behind it are read up to the end of the list. -/
theorem runItems_yield : (level : Nat) → (items : List Json) → (ls : List Lexeme) → (v : Json) →
    (rest : List Lexeme) → FitItems items →
    runValue level ls = .ok (v, yieldItems items ++ .listEnd :: rest) →
    runItems level ls = .ok (v :: items, rest)
  | _, [], _, _, _, _, hv => runItems_last hv
  | level, item :: items, _, _, rest, h, hv => by
      obtain ⟨hitem, hitems⟩ := h
      have hfirst := runValue_yield level item (yieldItems items ++ .listEnd :: rest) hitem
      have hread := runItems_yield level items _ item rest hitems hfirst
      simp only [yieldItems, List.cons_append, List.append_assoc] at hv
      exact runItems_comma hv hread

theorem runMembers_yield : (level : Nat) → (members : List (Letters × Json)) → (name : Letters) →
    (ls : List Lexeme) → (v : Json) → (rest : List Lexeme) → FitMembers members →
    runValue level ls = .ok (v, yieldMembers members ++ .objectEnd :: rest) →
    runMembers level (.text name :: .colon :: ls) = .ok ((name, v) :: members, rest)
  | _, [], _, _, _, _, _, hv => runMembers_last hv
  | level, (next, value) :: members, _, _, _, rest, h, hv => by
      obtain ⟨-, hvalue, hmembers⟩ := h
      have hfirst := runValue_yield level value (yieldMembers members ++ .objectEnd :: rest) hvalue
      have hread := runMembers_yield level members next _ value rest hmembers hfirst
      simp only [yieldMembers, List.cons_append, List.append_assoc] at hv
      exact runMembers_comma hv hread
end

/-- A written value is read back, whatever stands behind it that holds no lexeme. -/
theorem parse_write {style : Style} (hs : style.asciiOnly = false) {v : Json} (hv : Fits v)
    {rest : List Char} (hends : Ends rest) (hrest : lexemes rest = []) :
    parse (String.ofList (write style 0 v ++ rest)) = .ok v := by
  have hlexemes : lexemes (String.ofList (write style 0 v ++ rest)).toList = yield v ++ [] := by
    rw [String.toList_ofList, lexemes_write hs 0 v rest hv hends, hrest]
  have hvalue := runValue_yield 0 v [] hv
  rw [← hlexemes] at hvalue
  obtain ⟨hr, hread⟩ := exists_of_map_rest hvalue
  rw [parse, parseWithin, hread]
  rfl

theorem parse_render {style : Style} (hs : style.asciiOnly = false) {v : Json} (hv : Fits v) :
    parse (v.render style) = .ok v := by
  have hread := @parse_write style hs v hv [] (by rintro c ⟨⟩) (by rw [lexemes])
  rwa [List.append_nil] at hread

/-- A value is read back from a line of its own. -/
theorem parse_renderLine {style : Style} (hs : style.asciiOnly = false) {v : Json}
    (hv : Fits v) : parse (v.render style ++ "\n") = .ok v := by
  have hline : v.render style ++ "\n" = String.ofList (write style 0 v ++ ['\n']) := by
    rw [render, String.ofList_append]
  have hbreak : lexemes ['\n'] = [] := by
    rw [lexemes_space (by decide), lexemes]
  rw [hline]
  exact parse_write hs hv (ends_cons (by decide) []) hbreak

end SocketInventory.Json
