import SocketInventory.Proofs.Text.Lines
import SocketInventory.Proofs.Text.Percent
import SocketInventory.Web.Target

/-!
# Targets of requests for connections

Every preset and every filter can be asked for: with all of their octets escaped they make a target
that is read as this preset and this filter.
-/

namespace SocketInventory.Web

/-! ## Parameters -/

def parameterChars (p : String × String) : List Char :=
  Text.queryEncode p.1 ++ '=' :: Text.queryEncode p.2

theorem notMem_queryEncode {s : String} {c : Char} (hc : Text.isEscapeChar c = false) :
    c ∉ Text.queryEncode s := Text.notMem_percentEscape hc

theorem notMem_parameterChars {p : String × String} {c : Char} (hc : Text.isEscapeChar c = false)
    (he : c ≠ '=') : c ∉ parameterChars p := by
  simp [parameterChars, notMem_queryEncode hc, he]

theorem parameter_parameterChars (p : String × String) : parameter (parameterChars p) = p := by
  rw [parameter, parameterChars, cutAt, Text.cutFirst?_mid (notMem_queryEncode (by decide))]
  simp only [Option.getD_some, Text.queryDecode_queryEncode, String.ofList_toList]

theorem readParameters_intercalate (parameters : List (String × String)) :
    readParameters (['&'].intercalate (parameters.map parameterChars)) = parameters := by
  rcases parameters with _ | ⟨p, parameters⟩
  · rfl
  · have hpieces : ∀ piece ∈ (p :: parameters).map parameterChars,
        '&' ∉ piece ∧ (!piece.isEmpty) = true := by
      intro piece hpiece
      obtain ⟨q, -, rfl⟩ := List.mem_map.1 hpiece
      exact ⟨notMem_parameterChars (by decide) (by decide), by simp [parameterChars]⟩
    rw [readParameters, Text.splitAt_intercalate (by simp) fun piece h => (hpieces piece h).1,
      List.filter_eq_self.2 fun piece h => (hpieces piece h).2, List.map_map]
    conv_rhs => rw [← List.map_id (p :: parameters)]
    exact List.map_congr_left fun q _ => parameter_parameterChars q

/-! ## Targets -/

def connectionsPath : List Char := "/api/connections".toList

def targetChars (parameters : List (String × String)) : List Char :=
  connectionsPath ++ '?' :: ['&'].intercalate (parameters.map parameterChars)

theorem notMem_targetChars {parameters : List (String × String)} {c : Char}
    (hp : c ∉ connectionsPath) (hc : Text.isEscapeChar c = false) (hs : c ∉ ['?', '&', '=']) :
    c ∉ targetChars parameters := by
  simp only [List.mem_cons, List.not_mem_nil, or_false, not_or] at hs
  intro h
  rcases List.mem_append.1 h with h | h
  · exact hp h
  rcases List.mem_cons.1 h with h | h
  · exact hs.1 h
  · rcases Text.mem_intercalate h with h | ⟨piece, hpiece, h⟩
    · exact hs.2.1 h
    · obtain ⟨q, -, rfl⟩ := List.mem_map.1 hpiece
      exact notMem_parameterChars hc hs.2.2 h

theorem clean_targetChars (parameters : List (String × String)) :
    clean (targetChars parameters) = targetChars parameters := by
  have hstart : (targetChars parameters).dropWhile (·.toNat ≤ 0x20) = targetChars parameters :=
    Text.dropWhile_eq_self (by rintro c ⟨⟩; decide)
  rw [clean, hstart, List.filter_eq_self]
  intro c hc
  have hne : ∀ d, d ∉ connectionsPath → Text.isEscapeChar d = false → d ∉ ['?', '&', '='] →
      (c != d) = true := by
    rintro d hp he hs
    rw [bne_iff_ne]
    rintro rfl
    exact notMem_targetChars hp he hs hc
  rw [hne '\t' (by decide) (by decide) (by decide), hne '\r' (by decide) (by decide) (by decide),
    hne '\n' (by decide) (by decide) (by decide)]
  rfl

theorem dropOrigin_targetChars (parameters : List (String × String)) :
    dropOrigin (targetChars parameters) = targetChars parameters := by
  have hcolon : ':' ∉ targetChars parameters :=
    notMem_targetChars (by decide) (by decide) (by decide)
  rw [dropOrigin, Text.cutFirst?_eq_none_iff.2 hcolon]
  rfl

theorem parse_targetChars (parameters : List (String × String)) :
    Target.parse (String.ofList (targetChars parameters)) = ⟨connectionsPath, parameters⟩ := by
  have hhash : '#' ∉ targetChars parameters :=
    notMem_targetChars (by decide) (by decide) (by decide)
  have hpath : rooted (Text.percentDecode connectionsPath) = connectionsPath := by
    rw [Text.percentDecode_of_notMem (by decide)]
    rfl
  have hcut : cutAt '?' (targetChars parameters) =
      (connectionsPath, ['&'].intercalate (parameters.map parameterChars)) := by
    rw [cutAt, targetChars, Text.cutFirst?_mid (by decide), Option.getD_some]
  have hwhole : (cutAt '#' (targetChars parameters)).1 = targetChars parameters := by
    rw [cutAt, Text.cutFirst?_eq_none_iff.2 hhash, Option.getD_none]
  simp only [Target.parse, String.toList_ofList, clean_targetChars, dropOrigin_targetChars, hwhole,
    hcut, hpath, readParameters_intercalate]

/-- The target asks for the connections with a preset, if there is one, and a filter. -/
structure Target.Asks (t : Target) (preset : Option String) (filter : String) : Prop where
  path : t.path = connectionsPath
  preset : t.value? "preset" = preset
  filter : (t.value? "q").getD "" = filter

theorem exists_asks (preset : Option String) (filter : String) :
    ∃ target, (Target.parse target).Asks preset filter := by
  refine ⟨String.ofList (targetChars (("q", filter) :: preset.toList.map ("preset", ·))), ?_⟩
  rw [parse_targetChars]
  cases preset <;> exact ⟨rfl, rfl, rfl⟩

end SocketInventory.Web
