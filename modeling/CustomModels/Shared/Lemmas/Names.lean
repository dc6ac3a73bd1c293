import Mathlib.Tactic.Tauto
import CustomModels.Lib.Search
import CustomModels.Shared.Names

/-!
# The validators accept the grammars

`IsLogicalNameValid` and `IsDownloadUrlValid` search for separators by their offsets. What they find is what
the grammars say stands there.
-/

namespace CustomModels.Shared
open CustomModels.Lib

/-! ## Path segments -/

theorem findByte_eq_none {text : ByteString} {value : UInt8} {offset : Nat} :
    findByte text value offset = none ↔ value ∉ text.drop offset := by
  simp only [findByte, Option.map_eq_none_iff, List.findIdx?_eq_none_iff, beq_eq_false_iff_ne]
  exact ⟨fun h hm => h value hm rfl, fun h x hx hxv => h (hxv ▸ hx)⟩

theorem findByte_eq_some {text : ByteString} {value : UInt8} {offset index : Nat}
    (h : findByte text value offset = some index) :
    ∃ front back, text.drop offset = front ++ value :: back ∧ index = offset + front.length ∧ value ∉ front := by
  obtain ⟨length, hfound, rfl⟩ := Option.map_eq_some_iff.mp h
  obtain ⟨front, hit, back, htext, rfl, hhit, hfront⟩ := findIdx?_eq_some_iff_append.mp hfound
  refine ⟨front, back, by rw [htext, beq_iff_eq.mp hhit], rfl, fun hm => ?_⟩
  simpa using hfront value hm

/-- The scan sees the segments from its offset on, each once, and ends. -/
theorem hasInvalidPathSegmentFrom_eq (name : ByteString) {fuel offset : Nat} (ho : offset ≤ name.length)
    (hf : name.length < fuel + offset) :
    hasInvalidPathSegmentFrom name fuel offset =
      some (((name.drop offset).splitOn slash).any isInvalidSegment) := by
  induction fuel generalizing offset with
  | zero => omega
  | succ fuel ih =>
      rw [hasInvalidPathSegmentFrom, if_pos ho]
      cases hs : findByte name slash offset with
      | none =>
          -- the last segment
          have hsegment : substr name offset (name.length - offset) = name.drop offset := by
            rw [substr, List.take_of_length_le (List.length_drop ▸ Nat.le_refl _)]
          rw [List.splitOn_eq_singleton (findByte_eq_none.mp hs)]
          simp only [hsegment, List.any_cons, List.any_nil, Bool.or_false, isInvalidSegment]
          split
          · rename_i hinvalid
            rw [hinvalid]
          · rename_i hvalid
            rw [Bool.eq_false_iff.mpr hvalid]
      | some index =>
          obtain ⟨front, back, htext, rfl, hfront⟩ := findByte_eq_some hs
          have hsegment : substr name offset (offset + front.length - offset) = front := by
            rw [substr, htext, Nat.add_sub_cancel_left, List.take_left]
          have hback : name.drop (offset + front.length + 1) = back := by
            rw [Nat.add_assoc, ← List.drop_drop, htext, ← List.drop_drop, List.drop_left, List.drop_one, List.tail_cons]
          have hlength := congrArg List.length htext
          simp only [List.length_drop, List.length_append, List.length_cons] at hlength
          have hrest := @ih (offset + front.length + 1) (by omega) (by omega)
          rw [htext, List.splitOn_append_cons_self_of_not_mem hfront, List.any_cons, ← hback]
          simp only [hsegment, hrest, isInvalidSegment]
          split
          · rename_i hinvalid
            rw [hinvalid, Bool.true_or]
          · rename_i hvalid
            rw [Bool.eq_false_iff.mpr hvalid, Bool.false_or]

theorem hasInvalidPathSegment_eq (name : ByteString) :
    hasInvalidPathSegment name = (name.splitOn slash).any isInvalidSegment := by
  rw [hasInvalidPathSegment, hasInvalidPathSegmentFrom_eq name (Nat.zero_le _) (Nat.lt_succ_self _)]
  rfl

/-! ## Logical names -/

theorem isAsciiIdentifierByte_iff {byte : UInt8} :
    isAsciiIdentifierByte byte = true ↔ SegmentByte byte ∨ byte = slash := by
  simp only [isAsciiIdentifierByte, isAlnum, SegmentByte, Bool.or_eq_true, Bool.and_eq_true, decide_eq_true_eq,
    beq_iff_eq]
  tauto

theorem segmentByte_ne_slash {byte : UInt8} (h : SegmentByte byte) : byte ≠ slash := by
  rintro rfl
  revert h
  simp only [SegmentByte]
  decide

theorem isInvalidSegment_eq_false {segment : ByteString} :
    isInvalidSegment segment = false ↔ segment ≠ [] ∧ segment ≠ [dot] ∧ segment ≠ [dot, dot] := by
  simp only [isInvalidSegment, Bool.or_eq_false_iff, List.isEmpty_eq_false_iff, beq_eq_false_iff_ne, and_assoc]

/-- Such a name neither starts nor ends with a separator: there would be an empty segment. -/
theorem not_boundary_of_segments {name : ByteString}
    (h : ∀ segment ∈ name.splitOn slash, isInvalidSegment segment = false) :
    name.head? ≠ some slash ∧ name.getLast? ≠ some slash := by
  constructor
  · intro hhead
    obtain ⟨rest, rfl⟩ := List.head?_eq_some_iff.mp hhead
    rw [List.splitOn_cons_eq_if_modifyHead, if_pos (beq_self_eq_true slash)] at h
    exact absurd (h [] List.mem_cons_self) (by decide)
  · intro hlast
    obtain ⟨front, rfl⟩ := List.getLast?_eq_some_iff.mp hlast
    rw [List.splitOn_append_cons_self] at h
    exact absurd (h [] (by simp)) (by decide)

/-- A name is valid exactly if it has the length and its pieces are segments. -/
theorem isLogicalNameValid_iff_pieces (name : ByteString) :
    isLogicalNameValid name = true ↔
      1 ≤ name.length ∧ name.length ≤ 96 ∧ ∀ segment ∈ name.splitOn slash, PathSegment segment := by
  have hpieces : hasInvalidPathSegment name = false ↔
      ∀ segment ∈ name.splitOn slash, isInvalidSegment segment = false := by
    rw [hasInvalidPathSegment_eq, List.any_eq_false]
    simp only [Bool.not_eq_true]
  constructor
  · intro h
    rw [isLogicalNameValid] at h
    split at h
    · cases h
    · rename_i hlength
      simp only [Bool.or_eq_true, not_or, List.isEmpty_iff, decide_eq_true_eq, Nat.not_lt] at hlength
      rw [Bool.and_eq_true, List.all_eq_true, Bool.not_eq_true', hpieces] at h
      refine ⟨List.length_pos_iff.mpr hlength.1.1.1, hlength.1.1.2, fun segment hs => ?_⟩
      obtain ⟨hnonempty, hcurrent, hparent⟩ := isInvalidSegment_eq_false.mp (h.2 segment hs)
      refine ⟨hnonempty, fun byte hb => ?_, hcurrent, hparent⟩
      rw [List.splitOn_eq_splitOnP] at hs
      obtain ⟨hmem, hne⟩ := of_mem_splitOnP hs byte hb
      exact (isAsciiIdentifierByte_iff.mp (h.1 byte hmem)).resolve_right (by simpa using hne)
  · rintro ⟨hpos, hmax, hsegments⟩
    have hvalid : ∀ segment ∈ name.splitOn slash, isInvalidSegment segment = false := fun segment hs =>
      isInvalidSegment_eq_false.mpr
        ⟨(hsegments segment hs).nonempty, (hsegments segment hs).notCurrent, (hsegments segment hs).notParent⟩
    obtain ⟨hhead, hlast⟩ := not_boundary_of_segments hvalid
    have hne : name ≠ [] := List.length_pos_iff.mp hpos
    have hlength : name.length ≤ kMaximumLogicalNameLength := hmax
    rw [isLogicalNameValid, if_neg (by simp [hne, hhead, hlast, hlength]), Bool.and_eq_true, List.all_eq_true,
      Bool.not_eq_true', hpieces]
    refine ⟨fun byte hb => isAsciiIdentifierByte_iff.mpr ?_, hvalid⟩
    by_cases hseparator : byte = slash
    · exact .inr hseparator
    · obtain ⟨segment, hs, hmem⟩ := exists_mem_splitOnP (p := (· == slash)) hb (by simp [hseparator])
      rw [← List.splitOn_eq_splitOnP] at hs
      exact .inl ((hsegments segment hs).bytes byte hmem)

/-! ## Download URLs -/

/-- A text that starts with a byte that does not occur before is found where it stands. -/
theorem findText_of_not_mem {front back needle : ByteString} {first : UInt8} (h : first ∉ front) :
    findText (front ++ (first :: needle) ++ back) (first :: needle) = some front.length := by
  have hfound : (first :: needle).isPrefixOf ((front ++ (first :: needle) ++ back).drop front.length) = true := by
    rw [List.append_assoc, List.drop_left, List.isPrefixOf_iff_prefix]
    exact List.prefix_append _ _
  rw [findText, List.find?_range_eq_some]
  refine ⟨hfound, ?_, fun index hindex => ?_⟩
  · rw [List.mem_range, List.length_append, List.length_append]
    omega
  rw [Bool.not_eq_true', Bool.eq_false_iff, ne_eq, List.isPrefixOf_iff_prefix]
  rintro ⟨rest, hrest⟩
  -- the byte at the index is one of those in front
  rw [List.append_assoc, List.drop_append_of_le_length (Nat.le_of_lt hindex),
    List.drop_eq_getElem_cons hindex] at hrest
  have hfirst : first = front[index] := (List.cons.inj hrest).1
  exact h (hfirst ▸ List.getElem_mem hindex)

/-- A lower case letter is the only thing that case folding makes. -/
theorem eq_of_toLower {byte folded : UInt8} (h : toLower byte = folded) (hf : folded < 97) : byte = folded := by
  unfold toLower at h
  split at h
  · rename_i hupper
    simp only [Bool.and_eq_true, decide_eq_true_eq, UInt8.le_iff_toNat_le] at hupper
    rw [← h, UInt8.lt_iff_toNat_lt, UInt8.toNat_add] at hf
    simp only [UInt8.reduceToNat] at hupper hf
    omega
  · exact h

theorem startsWithCaseInsensitive_iff {value pre : ByteString} :
    startsWithCaseInsensitive value pre = true ↔
      ∃ front back, value = front ++ back ∧ front.map toLower = pre.map toLower := by
  rw [startsWithCaseInsensitive, Bool.and_eq_true, decide_eq_true_eq, beq_iff_eq]
  constructor
  · intro ⟨_, h⟩
    exact ⟨_, _, (List.take_append_drop pre.length value).symm, h⟩
  · rintro ⟨front, back, rfl, h⟩
    have hlength : front.length = pre.length := by simpa using congrArg List.length h
    exact ⟨by simp [hlength], by rw [← hlength, List.take_left, h]⟩

theorem startsWith_scheme_iff {url : ByteString} :
    (startsWithCaseInsensitive url httpPrefix = true ∨ startsWithCaseInsensitive url httpsPrefix = true) ↔
      ∃ scheme tail, url = scheme ++ schemeSeparator ++ tail ∧ IsScheme scheme := by
  have hseparator : ∀ text : ByteString, text.map toLower = schemeSeparator ↔ text = schemeSeparator := by
    intro text
    constructor
    · intro h
      obtain ⟨colon, rest, rfl, hcolon, hrest⟩ := List.map_eq_cons_iff.mp h
      obtain ⟨first, rest, rfl, hfirst, hrest⟩ := List.map_eq_cons_iff.mp hrest
      obtain ⟨second, rest, rfl, hsecond, hrest⟩ := List.map_eq_cons_iff.mp hrest
      rw [eq_of_toLower hcolon (by decide), eq_of_toLower hfirst (by decide), eq_of_toLower hsecond (by decide),
        List.map_eq_nil_iff.mp hrest]
      rfl
    · rintro rfl
      decide
  have hprefix : ∀ name : ByteString, (∃ front back, url = front ++ back ∧
      front.map toLower = name ++ schemeSeparator) ↔
        ∃ scheme tail, url = scheme ++ schemeSeparator ++ tail ∧ scheme.map toLower = name := by
    intro name
    constructor
    · rintro ⟨front, back, rfl, h⟩
      obtain ⟨scheme, separator, rfl, hname, hsep⟩ := List.map_eq_append_iff.mp h
      exact ⟨scheme, back, by rw [(hseparator separator).mp hsep], hname⟩
    · rintro ⟨scheme, tail, rfl, rfl⟩
      exact ⟨_, _, rfl, by rw [List.map_append, (hseparator _).mpr rfl]⟩
  have hhttp : httpPrefix.map toLower = httpScheme ++ schemeSeparator := by decide
  have hhttps : httpsPrefix.map toLower = httpsScheme ++ schemeSeparator := by decide
  rw [startsWithCaseInsensitive_iff, startsWithCaseInsensitive_iff, hhttp, hhttps, hprefix, hprefix]
  simp only [IsScheme, and_or_left, exists_or]

theorem urlChecks_iff {url authority : ByteString} :
    (if authority.isEmpty || authority.contains 64 || url.contains 92 || url.contains 35 then false
      else url.all fun byte => 0x21 ≤ byte && byte ≤ 0x7E) = true ↔
        (∀ byte ∈ url, UrlByte byte) ∧ authority ≠ [] ∧ 64 ∉ authority := by
  simp only [Bool.if_false_left, Bool.decide_eq_true, Bool.and_eq_true, Bool.not_eq_true', Bool.or_eq_false_iff,
    List.isEmpty_eq_false_iff, List.contains_eq_mem, decide_eq_false_iff_not, List.all_eq_true, decide_eq_true_eq]
  constructor
  · rintro ⟨⟨⟨⟨hne, hat⟩, hbackslash⟩, hhash⟩, hall⟩
    refine ⟨fun byte hb => ⟨(hall byte hb).1, (hall byte hb).2, ?_, ?_⟩, hne, hat⟩
    · rintro rfl
      exact hbackslash hb
    · rintro rfl
      exact hhash hb
  · rintro ⟨hbytes, hne, hat⟩
    exact ⟨⟨⟨⟨hne, hat⟩, fun hb => (hbytes 92 hb).2.2.1 rfl⟩, fun hb => (hbytes 35 hb).2.2.2 rfl⟩,
      fun byte hb => ⟨(hbytes byte hb).1, (hbytes byte hb).2.1⟩⟩

/-- Behind the scheme, the authority reaches up to the first delimiter. -/
theorem isDownloadUrlValid_parts {scheme tail : ByteString} (hscheme : IsScheme scheme) :
    isDownloadUrlValid (scheme ++ schemeSeparator ++ tail) = true ↔
      (scheme ++ schemeSeparator ++ tail).length ≤ 2048 ∧
        (∀ byte ∈ scheme ++ schemeSeparator ++ tail, UrlByte byte) ∧
        tail.takeWhile (!authorityEnds.contains ·) ≠ [] ∧ 64 ∉ tail.takeWhile (!authorityEnds.contains ·) := by
  have hstarts := startsWith_scheme_iff.mpr ⟨scheme, tail, rfl, hscheme⟩
  have hcolon : (58 : UInt8) ∉ scheme := by
    intro hmem
    have hfolded : toLower 58 ∈ scheme.map toLower := List.mem_map_of_mem hmem
    rcases hscheme with h | h
    all_goals
      rw [h] at hfolded
      exact absurd hfolded (by decide)
  have hfound : findText (scheme ++ schemeSeparator ++ tail) schemeSeparator = some scheme.length :=
    findText_of_not_mem hcolon
  have hdrop : (scheme ++ schemeSeparator ++ tail).drop (scheme.length + 3) = tail :=
    List.drop_left' (by simp [schemeSeparator])
  have hempty : (scheme ++ schemeSeparator ++ tail).isEmpty = false := by simp [schemeSeparator]
  have hrest : (scheme ++ schemeSeparator ++ tail).length - (scheme.length + 3) = tail.length := by
    rw [← List.length_drop, hdrop]
  generalize scheme ++ schemeSeparator ++ tail = url at *
  have hunstarted : ¬ ((!startsWithCaseInsensitive url httpPrefix && !startsWithCaseInsensitive url httpsPrefix) =
      true) := by
    rcases hstarts with h | h
    · simp [h]
    · simp [h]
  rw [isDownloadUrlValid, hempty, Bool.false_or]
  by_cases hlong : kMaximumUrlLength < url.length
  · rw [if_pos (decide_eq_true hlong)]
    exact iff_of_false Bool.false_ne_true fun h => absurd h.1 (Nat.not_le.mpr hlong)
  · rw [if_neg (by simpa using Nat.not_lt.mp hlong), if_neg hunstarted, hfound]
    refine Iff.trans ?_ (and_iff_right (Nat.not_lt.mp hlong)).symm
    rw [← take_findIdx?]
    simp only [findFirstOf, hdrop]
    cases tail.findIdx? (authorityEnds.contains ·) with
    | none =>
        simp only [Option.map_none, Option.elim_none, substr, hdrop, hrest, List.take_length]
        exact urlChecks_iff
    | some index =>
        simp only [Option.map_some, Option.elim_some, substr, hdrop, Nat.add_sub_cancel_left]
        exact urlChecks_iff

theorem isScheme_of_valid {url : ByteString} (h : isDownloadUrlValid url = true) :
    ∃ scheme tail, url = scheme ++ schemeSeparator ++ tail ∧ IsScheme scheme := by
  rw [← startsWith_scheme_iff]
  by_contra hneither
  obtain ⟨hhttp, hhttps⟩ := not_or.mp hneither
  rw [isDownloadUrlValid] at h
  split at h
  · cases h
  · rw [if_pos (by simp [hhttp, hhttps])] at h
    cases h

theorem authorityEnds_contains_iff {byte : UInt8} (hu : UrlByte byte) :
    authorityEnds.contains byte = true ↔ EndsAuthority byte := by
  simp only [authorityEnds, List.contains_eq_mem, decide_eq_true_eq, List.mem_cons, List.not_mem_nil, or_false,
    EndsAuthority]
  exact ⟨fun h => h.imp_right fun h => h.resolve_right hu.2.2.2, fun h => h.imp_right .inl⟩

/-- A valid URL can be cut into its parts. -/
theorem downloadUrl_of_valid {url : ByteString} (h : isDownloadUrlValid url = true) : DownloadUrl url := by
  obtain ⟨scheme, tail, rfl, hscheme⟩ := isScheme_of_valid h
  obtain ⟨hlength, hbytes, hne, hat⟩ := (isDownloadUrlValid_parts hscheme).mp h
  have htail : ∀ byte ∈ tail, UrlByte byte := fun byte hb => hbytes byte (List.mem_append_right _ hb)
  refine ⟨hlength, hbytes, scheme, _, tail.dropWhile (!authorityEnds.contains ·), ?_, hscheme, hne, hat, ?_, ?_⟩
  · rw [List.append_assoc (scheme ++ schemeSeparator), List.takeWhile_append_dropWhile]
  · intro byte hb hend
    have hnot := List.mem_takeWhile_imp hb
    rw [(authorityEnds_contains_iff (htail byte (List.takeWhile_subset _ hb))).mpr hend] at hnot
    cases hnot
  · intro byte hb
    have hmem : byte ∈ tail := List.dropWhile_subset _ (List.mem_of_mem_head? hb)
    have hhead := List.head?_dropWhile_not (!authorityEnds.contains ·) tail
    rw [Option.mem_def.mp hb] at hhead
    rw [← authorityEnds_contains_iff (htail byte hmem)]
    simpa using hhead

theorem isDownloadUrlValid_of_parts {url scheme authority rest : ByteString} (hlength : url.length ≤ 2048)
    (hbytes : ∀ byte ∈ url, UrlByte byte) (h : UrlParts url scheme authority rest) :
    isDownloadUrlValid url = true := by
  have hurl := h.parts
  rw [List.append_assoc (scheme ++ schemeSeparator)] at hurl
  subst hurl
  have hmem : ∀ byte ∈ authority ++ rest, UrlByte byte := fun byte hb => hbytes byte (List.mem_append_right _ hb)
  have hcut : (authority ++ rest).takeWhile (!authorityEnds.contains ·) = authority := by
    refine (takeWhile_dropWhile_of_head (fun byte hb => ?_) fun byte hb => ?_).1
    · have hnot := mt (authorityEnds_contains_iff (hmem byte (List.mem_append_left _ hb))).mp (h.maximal byte hb)
      simpa using hnot
    · have hends := h.rest byte hb
      rw [← authorityEnds_contains_iff (hmem byte (List.mem_append_right _ (List.mem_of_mem_head? hb)))] at hends
      simpa using hends
  rw [isDownloadUrlValid_parts h.scheme, hcut]
  exact ⟨hlength, hbytes, h.nonempty, h.credentials⟩

end CustomModels.Shared
