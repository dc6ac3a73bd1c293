import CustomModels.Shared.Lemmas.Hex
import CustomModels.Server.ConfigGrammar
import CustomModels.Server.Lemmas.Loading

/-!
# Lines of the configuration

The extractions take a line apart by its fields: a word is the next field, and a number is the front of one.
-/

namespace CustomModels.Server
open CustomModels.Shared CustomModels.Lib

variable {text rest field word : ByteString} {fields : List ByteString} {values value : Nat}

/-! ## Words -/

theorem extractWord_eq_some_iff :
    extractWord text = some (field, rest) ↔
      text.dropWhile isSpace = field ++ rest ∧ field ≠ [] ∧ (∀ byte ∈ field, isSpace byte = false) ∧
        ∀ byte ∈ rest.head?, isSpace byte = true := by
  have hspan : ∀ {field rest : ByteString}, (text.dropWhile isSpace).span (!isSpace ·) = (field, rest) ↔
      text.dropWhile isSpace = field ++ rest ∧ (∀ byte ∈ field, isSpace byte = false) ∧
        ∀ byte ∈ rest.head?, isSpace byte = true := by
    intro field rest
    rw [span_eq_iff]
    simp only [Bool.not_eq_true', Bool.not_eq_false']
  simp only [extractWord]
  constructor
  · intro h
    split at h
    · cases h
    · rename_i hne
      obtain ⟨first, back, hd, hfirst, hspace, hback⟩ :=
        exists_field (List.isEmpty_eq_false_iff.mp (by simpa using hne))
      rw [hspan.mpr ⟨hd, hspace, hback⟩] at h
      cases h
      exact ⟨hd, hfirst, hspace, hback⟩
  · rintro ⟨hd, hne, hfield, hrest⟩
    rw [if_neg (by simp [hd, hne]), hspan.mpr ⟨hd, hfield, hrest⟩]

theorem extractWord_fields :
    (∃ rest, extractWord text = some (field, rest) ∧ fieldsOf rest = fields) ↔ fieldsOf text = field :: fields := by
  simp only [fieldsOf, fieldsOnP_eq_cons_iff, extractWord_eq_some_iff, and_assoc]

theorem extractWord_isSome_iff : (extractWord text).isSome = true ↔ fieldsOf text ≠ [] := by
  rw [fieldsOf, ne_eq, fieldsOnP_eq_nil_iff]
  simp only [extractWord]
  split <;> simp_all

/-! ## Numbers -/

theorem isSpace_of_isDigit {byte : UInt8} (h : isDigit byte = true) : isSpace byte = false := by
  simp only [isDigit, isSpace, Bool.and_eq_true, Bool.or_eq_false_iff, Bool.and_eq_false_iff, decide_eq_true_eq,
    decide_eq_false_iff_not, beq_eq_false_iff_ne, UInt8.le_iff_toNat_le] at h ⊢
  have hfirst : (48 : UInt8).toNat = 48 := rfl
  have hlast : (13 : UInt8).toNat = 13 := rfl
  refine ⟨?_, .inr (by omega)⟩
  rintro rfl
  exact absurd h.1 (by decide)

/-- The digits that a text starts with, and what is made of their value. -/
theorem digits_iff (f : Nat → Nat) :
    (if (text.takeWhile isDigit).isEmpty || values ≤ decimalValue (text.takeWhile isDigit) then none
        else some (f (decimalValue (text.takeWhile isDigit)), text.dropWhile isDigit)) = some (value, rest) ↔
      ∃ digits n, Digits values digits n ∧ f n = value ∧ text = digits ++ rest ∧
        ∀ byte ∈ rest.head?, isDigit byte = false := by
  constructor
  · intro h
    split at h
    · cases h
    · rename_i hd
      simp only [Bool.or_eq_true, not_or, decide_eq_true_eq, List.isEmpty_iff, Nat.not_le] at hd
      obtain ⟨rfl, rfl⟩ := Prod.mk.inj (Option.some.inj h)
      obtain ⟨heq, hdigits, hrest⟩ := span_eq_iff.mp (List.span_eq_takeWhile_dropWhile isDigit text)
      exact ⟨_, _, ⟨hd.1, hdigits, rfl, hd.2⟩, rfl, heq, hrest⟩
  · rintro ⟨digits, n, ⟨hne, hdigits, rfl, hlt⟩, rfl, rfl, hrest⟩
    obtain ⟨htake, hdrop⟩ := takeWhile_dropWhile_of_head hdigits hrest
    rw [htake, hdrop, if_neg]
    simp [hne, hlt]

theorem Digits.isDigit_first {number : ByteString} {first : UInt8} (h : Digits values number value)
    (heq : first :: text = number ++ rest) : isDigit first = true := by
  cases number with
  | nil => exact absurd rfl h.1
  | cons digit number =>
      cases heq
      exact h.2.1 _ List.mem_cons_self

/-- The digits that an extraction reads are all that there are: a number is not followed by a digit. -/
theorem extractUnsigned_eq_some_iff :
    extractUnsigned values text = some (value, rest) ↔
      ∃ number, (Digits values number value ∨ Signed values number value) ∧
        text.dropWhile isSpace = number ++ rest ∧ ∀ byte ∈ rest.head?, isDigit byte = false := by
  simp only [extractUnsigned, List.span_eq_takeWhile_dropWhile]
  generalize text.dropWhile isSpace = text
  cases text with
  | nil =>
      refine iff_of_false (by simp) ?_
      rintro ⟨number, h | h, heq, -⟩
      · exact h.1 (List.append_eq_nil_iff.mp heq.symm).1
      · cases h with
        | plus h => cases heq
        | minus h => cases heq
  | cons first text =>
      by_cases hminus : first = 45
      · subst hminus
        simp only [List.head?_cons, beq_self_eq_true, Bool.true_or, ↓reduceIte, List.tail_cons,
          digits_iff fun n => (values - n) % values]
        constructor
        · rintro ⟨digits, n, h, rfl, rfl, hrest⟩
          exact ⟨45 :: digits, .inr (.minus h), rfl, hrest⟩
        · rintro ⟨number, h | h, heq, hrest⟩
          · exact absurd (h.isDigit_first heq) (by decide)
          · cases h with
            | plus h => cases heq
            | minus h =>
                cases heq
                exact ⟨_, _, h, rfl, rfl, hrest⟩
      · by_cases hplus : first = 43
        · subst hplus
          have hminus : ((some 43 : Option UInt8) == some 45) = false := rfl
          simp only [List.head?_cons, hminus, beq_self_eq_true, Bool.or_true, ↓reduceIte, List.tail_cons,
            Bool.false_eq_true, digits_iff fun n => n]
          constructor
          · rintro ⟨digits, n, h, rfl, rfl, hrest⟩
            exact ⟨43 :: digits, .inr (.plus h), rfl, hrest⟩
          · rintro ⟨number, h | h, heq, hrest⟩
            · exact absurd (h.isDigit_first heq) (by decide)
            · cases h with
              | plus h =>
                  cases heq
                  exact ⟨_, _, h, rfl, rfl, hrest⟩
              | minus h => cases heq
        · have hno : ∀ sign, first ≠ sign → ((some first : Option UInt8) == some sign) = false := by simp
          simp only [List.head?_cons, hno 45 hminus, hno 43 hplus, Bool.or_false, Bool.false_eq_true, ↓reduceIte,
            digits_iff fun n => n]
          constructor
          · rintro ⟨digits, n, h, rfl, heq, hrest⟩
            exact ⟨digits, .inl h, heq, hrest⟩
          · rintro ⟨number, h | h, heq, hrest⟩
            · exact ⟨number, value, h, rfl, heq, hrest⟩
            · cases h with
              | plus h => exact absurd (List.cons.inj heq).1 hplus
              | minus h => exact absurd (List.cons.inj heq).1 hminus

theorem number_bytes {number : ByteString} (h : Digits values number value ∨ Signed values number value) :
    number ≠ [] ∧ (∀ byte ∈ number, isSpace byte = false) ∧ value < values := by
  have hdigits : ∀ {digits n}, Digits values digits n → ∀ byte ∈ digits, isSpace byte = false :=
    fun h byte hb => isSpace_of_isDigit (h.2.1 byte hb)
  have hsign : ∀ sign, isSpace sign = false → ∀ {digits n}, Digits values digits n →
      sign :: digits ≠ [] ∧ ∀ byte ∈ sign :: digits, isSpace byte = false := by
    intro sign hs digits n h
    refine ⟨List.cons_ne_nil _ _, fun byte hb => ?_⟩
    rcases List.mem_cons.mp hb with rfl | hb
    · exact hs
    · exact hdigits h byte hb
  rcases h with h | h
  · exact ⟨h.1, hdigits h, h.2.2.2⟩
  · cases h with
    | plus h =>
        obtain ⟨hne, hbytes⟩ := hsign 43 (by decide) h
        exact ⟨hne, hbytes, h.2.2.2⟩
    | minus h =>
        obtain ⟨hne, hbytes⟩ := hsign 45 (by decide) h
        exact ⟨hne, hbytes, Nat.mod_lt _ (Nat.zero_lt_of_lt h.2.2.2)⟩

theorem front_iff {front : List ByteString} :
    Separate values value word front ∨ Irregular values value word front ↔
      ∃ number, (Digits values number value ∨ Signed values number value) ∧
        (front = [number, word] ∨
          front = [number ++ word] ∧ ∃ first, word.head? = some first ∧ isDigit first = false) := by
  constructor
  · rintro (⟨number, h, rfl⟩ | h)
    · exact ⟨number, .inl h, .inl rfl⟩
    · cases h with
      | signed h => exact ⟨_, .inr h, .inl rfl⟩
      | joined h hfirst hdigit => exact ⟨_, h, .inr ⟨rfl, _, hfirst, hdigit⟩⟩
  · rintro ⟨number, h, rfl | ⟨rfl, first, hfirst, hdigit⟩⟩
    · rcases h with h | h
      · exact .inl ⟨number, h, rfl⟩
      · exact .inr (.signed h)
    · exact .inr (.joined h hfirst hdigit)

/-- A number is taken off the front of the fields, and the word that is found behind it is the next field or the rest
of the same one. -/
theorem extractUnsigned_fields :
    (∃ rest, extractUnsigned values text = some (value, rest) ∧ fieldsOf rest = word :: fields) ↔
      ∃ front, (Separate values value word front ∨ Irregular values value word front) ∧
        fieldsOf text = front ++ fields := by
  simp only [front_iff, extractUnsigned_eq_some_iff]
  constructor
  · rintro ⟨rest, ⟨number, hn, hd, hrest⟩, hf⟩
    obtain ⟨hne, hbytes, -⟩ := number_bytes hn
    by_cases hspace : ∀ byte ∈ rest.head?, isSpace byte = true
    · refine ⟨_, ⟨number, hn, .inl rfl⟩, ?_⟩
      exact fieldsOnP_eq_cons_iff.mpr ⟨rest, hd, hne, hbytes, hspace, hf⟩
    · simp only [not_forall, Bool.not_eq_true] at hspace
      obtain ⟨first, hfirst, hspace⟩ := hspace
      obtain ⟨back, hback, hword, hwbytes, hhead, hfields⟩ := fieldsOnP_eq_cons_iff.mp hf
      have hrest' : rest = word ++ back := by
        rw [← hback]
        cases rest with
        | nil => rfl
        | cons byte rest =>
            cases hfirst
            rw [List.dropWhile_cons_of_neg (by simp [hspace])]
      subst hrest'
      have hwfirst : word.head? = some first := by
        cases word with
        | nil => exact absurd rfl hword
        | cons byte word => exact hfirst
      refine ⟨_, ⟨number, hn, .inr ⟨rfl, first, hwfirst, hrest first hfirst⟩⟩, ?_⟩
      refine fieldsOnP_eq_cons_iff.mpr ⟨back, by rw [hd, List.append_assoc], by simp [hne], ?_, hhead, hfields⟩
      intro byte hb
      exact (List.mem_append.mp hb).elim (hbytes byte) (hwbytes byte)
  · rintro ⟨front, ⟨number, hn, rfl | ⟨rfl, first, hfirst, hdigit⟩⟩, hf⟩
    · obtain ⟨rest, hd, -, -, hspace, hrest⟩ := fieldsOnP_eq_cons_iff.mp hf
      refine ⟨rest, ⟨number, hn, hd, fun byte hb => ?_⟩, hrest⟩
      have hs := hspace byte hb
      by_contra hdigit
      rw [isSpace_of_isDigit (by simpa using hdigit)] at hs
      cases hs
    · obtain ⟨rest, hd, -, hbytes, hspace, hrest⟩ := fieldsOnP_eq_cons_iff.mp hf
      have hword : word ≠ [] := by
        rintro rfl
        cases hfirst
      refine ⟨word ++ rest, ⟨number, hn, by rw [hd, List.append_assoc], ?_⟩, ?_⟩
      · cases word with
        | nil => exact absurd rfl hword
        | cons byte word =>
            cases hfirst
            rintro _ ⟨⟩
            exact hdigit
      · rw [fieldsOf, fieldsOnP_append hword (fun byte hb => hbytes byte (List.mem_append_right _ hb)) hspace]
        exact congrArg _ hrest

/-! ## Lines -/

/-- The chain of extractions, from its last link to its first. -/
theorem extractFields_eq_some_iff {line : ByteString} {found : ConfigFields} :
    extractFields line = some found ↔ ∃ front back,
      (Separate UInt32.size found.assetId.toNat found.type front ∨
          Irregular UInt32.size found.assetId.toNat found.type front) ∧
        (Separate UInt64.size found.fileSize.toNat found.sha256 back ∨
          Irregular UInt64.size found.fileSize.toNat found.sha256 back) ∧
        fieldsOf line = front ++ [found.logicalName, found.url] ++ back := by
  simp only [extractFields, Option.bind_eq_bind, Option.bind_eq_some_iff, Prod.exists]
  constructor
  · rintro ⟨assetId, afterId, hid, type, afterType, htype, name, afterName, hname, url, afterUrl, hurl, size,
      afterSize, hsize, sha256, afterSha256, hsha256, h⟩
    split at h
    · cases h
    · rename_i hend
      cases h
      rw [extractWord_isSome_iff, not_not] at hend
      have hlast := extractWord_fields.mp ⟨_, hsha256, hend⟩
      obtain ⟨back, hback, hurlFields⟩ := extractUnsigned_fields.mp ⟨_, hsize, hlast⟩
      have hnameFields := extractWord_fields.mp ⟨_, hurl, hurlFields⟩
      have htypeFields := extractWord_fields.mp ⟨_, hname, hnameFields⟩
      have hidFields := extractWord_fields.mp ⟨_, htype, htypeFields⟩
      obtain ⟨front, hfront, hline⟩ := extractUnsigned_fields.mp ⟨_, hid, hidFields⟩
      obtain ⟨_, hnumber, -⟩ := front_iff.mp hfront
      obtain ⟨_, hsizeNumber, -⟩ := front_iff.mp hback
      refine ⟨front, back, ?_, ?_, ?_⟩
      · rwa [UInt32.toNat_ofNat_of_lt' (number_bytes hnumber).2.2]
      · rwa [UInt64.toNat_ofNat_of_lt' (number_bytes hsizeNumber).2.2]
      · rw [hline]
        simp
  · rintro ⟨front, back, hfront, hback, hline⟩
    rw [List.append_assoc] at hline
    obtain ⟨afterId, hid, hidFields⟩ := extractUnsigned_fields.mpr ⟨front, hfront, hline⟩
    obtain ⟨afterType, htype, htypeFields⟩ := extractWord_fields.mpr hidFields
    obtain ⟨afterName, hname, hnameFields⟩ := extractWord_fields.mpr htypeFields
    obtain ⟨afterUrl, hurl, hurlFields⟩ := extractWord_fields.mpr hnameFields
    obtain ⟨afterSize, hsize, hsizeFields⟩ :=
      extractUnsigned_fields.mpr ⟨back, hback, hurlFields.trans (List.append_nil back).symm⟩
    obtain ⟨afterSha256, hsha256, hend⟩ := extractWord_fields.mpr hsizeFields
    refine ⟨_, _, hid, _, _, htype, _, _, hname, _, _, hurl, _, _, hsize, _, _, hsha256, ?_⟩
    rw [if_neg (by rw [extractWord_isSome_iff, not_not]; exact hend), UInt32.ofNat_toNat, UInt64.ofNat_toNat]

theorem isSpace_of_trimmed {byte : UInt8} (h : trimmedBytes.contains byte = true) : isSpace byte = true := by
  rw [List.contains_iff_mem] at h
  simp only [trimmedBytes, List.mem_cons, List.not_mem_nil, or_false] at h
  rcases h with rfl | rfl | rfl | rfl
  all_goals rfl

/-- What is trimmed is white space around the fields. -/
theorem fieldsOf_trim (line : ByteString) : fieldsOf (trim line) = fieldsOf line := by
  have hspaces : ∀ text : ByteString, ∀ byte ∈ text.takeWhile (trimmedBytes.contains ·), isSpace byte = true :=
    fun text byte hb => isSpace_of_trimmed (by simpa using List.mem_takeWhile_imp hb)
  have hleft := fieldsOnP_append_left (hspaces line) (line.dropWhile (trimmedBytes.contains ·))
  rw [List.takeWhile_append_dropWhile] at hleft
  let text := (line.dropWhile (trimmedBytes.contains ·)).reverse
  have hright := fieldsOnP_append_right (fun byte hb => hspaces text byte (List.mem_reverse.mp hb))
    (text.dropWhile (trimmedBytes.contains ·)).reverse
  rw [← List.reverse_append, List.takeWhile_append_dropWhile, List.reverse_reverse] at hright
  exact hright.symm.trans hleft.symm

theorem parseLine_eq_ok_iff {line : ByteString} {asset : AssetDescription} :
    parseLine line = .ok asset ↔
      (asset.type = .dff ∨ asset.type = .txd) ∧
        extractFields line = some ⟨asset.assetId, typeName asset.type, asset.logicalName, asset.downloadUrl,
          asset.fileSize, sha256Hex asset.sha256⟩ := by
  obtain ⟨assetId, type, logicalName, url, fileSize, sha256⟩ := asset
  unfold parseLine
  constructor
  · intro h
    split at h
    · cases h
    · rename_i found hx
      obtain ⟨foundId, foundType, foundName, foundUrl, foundSize, foundSha256⟩ := found
      split at h
      · cases h
      · rename_i digest hs
        cases parseSha256Hex_eq_some_iff.mp hs
        split at h
        · rename_i ht
          cases h
          cases ht
          exact ⟨.inl rfl, hx⟩
        · split at h
          · rename_i ht
            cases h
            cases ht
            exact ⟨.inr rfl, hx⟩
          · cases h
  · rintro ⟨ht, hx⟩
    have hne : txdName ≠ dffName := by decide
    rw [hx]
    simp only [parseSha256Hex_sha256Hex]
    rcases ht with ht | ht
    · cases ht
      rfl
    · cases ht
      exact if_neg hne

/-- What the code makes of a line, by its fields: the documented spelling and the deviating ones. -/
theorem yields_iff {line : ByteString} {asset : AssetDescription} :
    Yields line asset ↔ Documented line asset ∨ Deviating line asset := by
  have hvalid : isAssetDescriptionValid asset = true → asset.type = .dff ∨ asset.type = .txd := by
    intro h
    simp only [isAssetDescriptionValid, isAssetTypeValid, Bool.and_eq_true, Bool.or_eq_true, beq_iff_eq] at h
    exact h.1.1.1.1.2
  rw [Yields, parseLine_eq_ok_iff, extractFields_eq_some_iff, fieldsOf_trim]
  constructor
  · rintro ⟨⟨-, front, back, hfront, hback, hline⟩, hv⟩
    rcases hfront with hfront | hfront
    · rcases hback with ⟨size, hsize, rfl⟩ | hback
      · obtain ⟨number, hnumber, rfl⟩ := hfront
        exact .inl ⟨hv, number, size, hline, hnumber, hsize⟩
      · exact .inr ⟨hv, front, back, hline, .inr ⟨hfront, hback⟩⟩
    · exact .inr ⟨hv, front, back, hline, .inl ⟨hfront, hback⟩⟩
  · rintro (⟨hv, assetId, fileSize, hline, hid, hsize⟩ | ⟨hv, front, back, hline, h⟩)
    · exact ⟨⟨hvalid hv, _, _, .inl ⟨assetId, hid, rfl⟩, .inl ⟨fileSize, hsize, rfl⟩, hline⟩, hv⟩
    · rcases h with ⟨hfront, hback⟩ | ⟨hfront, hback⟩
      · exact ⟨⟨hvalid hv, front, back, .inr hfront, hback, hline⟩, hv⟩
      · exact ⟨⟨hvalid hv, front, back, .inl hfront, .inr hback, hline⟩, hv⟩

theorem Digits.not_signed {number : ByteString} {other : Nat} (h : Digits values number value) :
    ¬ Signed values number other := by
  intro hs
  cases hs with
  | plus _ => exact absurd (h.2.1 43 List.mem_cons_self) (by decide)
  | minus _ => exact absurd (h.2.1 45 List.mem_cons_self) (by decide)

theorem length_le_two {back : List ByteString}
    (h : Separate values value word back ∨ Irregular values value word back) : back.length ≤ 2 := by
  obtain ⟨number, -, rfl | ⟨rfl, -⟩⟩ := front_iff.mp h
  · exact Nat.le_refl 2
  · exact Nat.le_succ 1

/-- A documented line has no sign in its numbers and no field that is missing, so it is not read in any other way. -/
theorem Documented.not_deviating {line : ByteString} {asset other : AssetDescription} (h : Documented line asset) :
    ¬ Deviating line other := by
  obtain ⟨-, assetId, fileSize, hline, hid, hsize⟩ := h
  rintro ⟨-, front, back, hother, h⟩
  rw [hline] at hother
  have hlength := congrArg List.length hother
  simp only [List.length_append, List.length_cons, List.length_nil] at hlength
  rcases h with ⟨hfront, hback⟩ | ⟨⟨number, -, rfl⟩, hback⟩
  · cases hfront with
    | signed hs =>
        obtain ⟨rfl, -⟩ := List.cons.inj hother
        exact hid.not_signed hs
    | joined _ _ _ =>
        have hle := length_le_two hback
        simp only [List.length_cons, List.length_nil] at hlength
        omega
  · cases hback with
    | signed hs =>
        simp only [List.cons_append, List.nil_append, List.cons.injEq] at hother
        obtain ⟨-, -, -, -, rfl, -⟩ := hother
        exact hsize.not_signed hs
    | joined _ _ _ => simp at hlength

end CustomModels.Server
