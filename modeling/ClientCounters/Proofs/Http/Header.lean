/-
# The text of a header

The first field with the name of a header decides its value, whatever comes after it.  A value is
read as a text only if that text is within ASCII, where every character is one byte; the bytes of
any other text are read as no text.
-/
import ClientCounters.Proofs.Http.Field
import ClientCounters.Proofs.Text.ByteOrder

namespace ClientCounters

/-! ## Bytes of texts within ASCII -/

namespace Text

lemma bytes_injective {s t : String} (h : bytes s = bytes t) : s = t :=
  String.toByteArray_inj.1 (ByteArray.ext (Array.toList_inj.1 h))

/-- Within ASCII every character is one byte. -/
lemma bytes_of_ascii {s : String} (h : IsAscii s.toList) :
    bytes s = s.toList.map Char.toUInt8 := by
  rw [bytes_eq_flatMap, List.map_eq_flatMap]
  refine List.flatMap_congr fun c hc => ?_
  exact forall_ascii (P := fun c => String.utf8EncodeChar c = [c.toUInt8]) (by decide) c (h c hc)

end Text

namespace Http

open Text (IsAscii forall_ascii sameIgnoringCase)

/-! ## Values as texts -/

lemma forall_byte {P : UInt8 → Prop} (h : ∀ n < 256, P (UInt8.ofNat n)) (b : UInt8) : P b := by
  have hb := h b.toNat b.toNat_lt
  rwa [UInt8.ofNat_toNat] at hb

/-- The bytes of text are those of a value that are within ASCII. -/
lemma isTextByte_iff {b : UInt8} :
    isTextByte b = true ↔ isValueByte b = true ∧ b.toNat < 128 :=
  forall_byte (P := fun b => isTextByte b = true ↔ isValueByte b = true ∧ b.toNat < 128)
    (by decide +kernel) b

lemma toUInt8_ofNat {b : UInt8} (h : b.toNat < 128) : (Char.ofNat b.toNat).toUInt8 = b :=
  forall_byte (P := fun b => b.toNat < 128 → (Char.ofNat b.toNat).toUInt8 = b)
    (by decide +kernel) b h

lemma toNat_toUInt8 {c : Char} (h : c.toNat < 128) : c.toUInt8.toNat = c.toNat :=
  forall_ascii (P := fun c => c.toUInt8.toNat = c.toNat) (by decide) c h

lemma toNat_ofNat {b : UInt8} (h : b.toNat < 128) : (Char.ofNat b.toNat).toNat = b.toNat :=
  forall_byte (P := fun b => b.toNat < 128 → (Char.ofNat b.toNat).toNat = b.toNat)
    (by decide +kernel) b h

variable {f : Field} {r : Request} {name s : String} {value value' : List UInt8}

/-- A value is read as the text that its bytes encode, within ASCII and not beyond it. -/
lemma Field.text?_eq_some_iff (hvalid : f.isValid = true) :
    f.text? = some s ↔ Text.bytes s = f.value ∧ IsAscii s.toList := by
  have hvalue := List.all_eq_true.1 (Bool.and_eq_true_iff.1 hvalid).2
  rw [Field.text?]
  constructor
  · intro htext
    split at htext
    · next hall =>
      have hbyte : ∀ b ∈ f.value, b.toNat < 128 := fun b hb =>
        (isTextByte_iff.1 (List.all_eq_true.1 hall b hb)).2
      obtain rfl := Option.some.inj htext
      have hascii : IsAscii (String.ofList (f.value.map fun b => Char.ofNat b.toNat)).toList := by
        rw [String.toList_ofList]
        intro c hc
        obtain ⟨b, hb, rfl⟩ := List.mem_map.1 hc
        rw [toNat_ofNat (hbyte b hb)]
        exact hbyte b hb
      refine ⟨?_, hascii⟩
      rw [Text.bytes_of_ascii hascii, String.toList_ofList, List.map_map]
      exact (List.map_congr_left fun b hb => toUInt8_ofNat (hbyte b hb)).trans (List.map_id _)
    · cases htext
  · rintro ⟨hbytes, hascii⟩
    have hmap : f.value = s.toList.map Char.toUInt8 :=
      hbytes.symm.trans (Text.bytes_of_ascii hascii)
    have hall : f.value.all isTextByte = true := by
      refine List.all_eq_true.2 fun b hb => isTextByte_iff.2 ⟨hvalue b hb, ?_⟩
      rw [hmap] at hb
      obtain ⟨c, hc, rfl⟩ := List.mem_map.1 hb
      rw [toNat_toUInt8 (hascii c hc)]
      exact hascii c hc
    have hchars : f.value.map (fun b => Char.ofNat b.toNat) = s.toList := by
      rw [hmap, List.map_map]
      refine (List.map_congr_left fun c hc => ?_).trans (List.map_id _)
      show Char.ofNat c.toUInt8.toNat = c
      rw [toNat_toUInt8 (hascii c hc), Char.ofNat_toNat]
    rw [if_pos hall, hchars, String.ofList_toList]

/-! ## The first field of a name -/

/-- The first field with a name has this value; the case of ASCII letters does not matter. -/
def Request.FirstHeader (r : Request) (name : String) (value : List UInt8) : Prop :=
  ∃ before f after, r.fields = before ++ f :: after ∧ sameIgnoringCase f.name name = true ∧
    (∀ g ∈ before, sameIgnoringCase g.name name = false) ∧ f.value = value

namespace Request

lemma firstHeader_iff : r.FirstHeader name value ↔
    ∃ f, r.fields.find? (fun f => sameIgnoringCase f.name name) = some f ∧ f.value = value := by
  simp only [List.find?_eq_some_iff_append, FirstHeader]
  constructor
  · rintro ⟨before, f, after, hfields, hf, hbefore, hvalue⟩
    exact ⟨f, ⟨hf, before, after, hfields, by simpa using hbefore⟩, hvalue⟩
  · rintro ⟨f, ⟨hf, before, after, hfields, hbefore⟩, hvalue⟩
    exact ⟨before, f, after, hfields, hf, by simpa using hbefore, hvalue⟩

lemma FirstHeader.unique (h : r.FirstHeader name value) (h' : r.FirstHeader name value') :
    value = value' := by
  obtain ⟨f, hf, rfl⟩ := firstHeader_iff.1 h
  obtain ⟨f', hf', rfl⟩ := firstHeader_iff.1 h'
  rw [Option.some.inj (hf.symm.trans hf')]

/-- A header is the text that its first value encodes, within ASCII and not beyond it. -/
lemma header?_eq_some_iff {method target : String} {fields : List Field}
    (hmake : make? method target fields = some r) :
    r.header? name = some s ↔ r.FirstHeader name (Text.bytes s) ∧ IsAscii s.toList := by
  have hvalid : ∀ f ∈ r.fields, f.isValid = true := by
    rw [make?] at hmake
    split at hmake
    · next hvalid =>
      obtain ⟨t, -, rfl⟩ := Option.map_eq_some_iff.1 hmake
      exact List.all_eq_true.1 (Bool.and_eq_true_iff.1 hvalid).2
    · cases hmake
  rw [header?, Option.bind_eq_some_iff, firstHeader_iff]
  constructor
  · rintro ⟨f, hfind, htext⟩
    obtain ⟨hbytes, hascii⟩ :=
      (Field.text?_eq_some_iff (hvalid f (List.mem_of_find?_eq_some hfind))).1 htext
    exact ⟨⟨f, hfind, hbytes.symm⟩, hascii⟩
  · rintro ⟨⟨f, hfind, hvalue⟩, hascii⟩
    exact ⟨f, hfind, (Field.text?_eq_some_iff (hvalid f (List.mem_of_find?_eq_some hfind))).2
      ⟨hvalue.symm, hascii⟩⟩

end Request

end Http

end ClientCounters
