/-
# The snapshot of the counters can be read back

What the endpoint for counters answers is JSON for one value, an object with a member for each
counter: the names behind the prefix, in the order of the counters and with their values.  Nothing
is lost, since quotes, backslashes and control characters are escaped, since the prefix keeps names
apart and in order, and since all digits of a value are written.
-/
import ClientCounters.Proofs.Counter.Registry
import ClientCounters.Proofs.Json.Determined
import ClientCounters.Proofs.Text.ByteOrder
import ClientCounters.Service.Snapshot

namespace ClientCounters.Snapshot

open Json (Value Token ItemText ItemsText Spells StringText TokenText NumberText Rendered
  tokensBehindMember)

variable {name other : String} {value : UInt64} {row : List (String × UInt64)}
  {r : CounterRegistry}

/-! ## The members -/

/-- The prefix keeps names in order. -/
lemma prefixed_lt (h : name < other) : memberPrefix ++ name < memberPrefix ++ other := by
  rw [String.lt_iff, String.toList_append, String.toList_append]
  exact List.append_left_lt (String.lt_iff.1 h)

/-- A member whose name is behind all others goes to the end. -/
lemma insertMember_of_forall_lt (h : ∀ m ∈ row, m.1 < name) (value : UInt64) :
    insertMember name value row = row ++ [(name, value)] := by
  induction row with
  | nil => rfl
  | cons m row ih =>
    have hlt : m.1 < name := h m List.mem_cons_self
    have hne : name ≠ m.1 := fun heq => String.lt_irrefl name (heq ▸ hlt)
    rw [insertMember, if_neg (String.lt_asymm hlt), if_neg hne,
      ih fun m hm => h m (List.mem_cons_of_mem _ hm)]
    rfl

/-- Members that come in order stay as they are. -/
lemma foldl_insertMember {ms : List (String × UInt64)} (h : Ascending (row ++ ms)) :
    ms.foldl (fun row m => insertMember m.1 m.2 row) row = row ++ ms := by
  induction ms generalizing row with
  | nil => simp
  | cons m ms ih =>
    have hlast := insertMember_of_forall_lt
      (fun n hn => (List.pairwise_append.1 h).2.2 n hn m List.mem_cons_self) m.2
    have hassoc : row ++ m :: ms = row ++ [m] ++ ms := by simp
    rw [List.foldl_cons, hlast, hassoc]
    exact ih (hassoc ▸ h)

lemma ascending_prefixed (r : CounterRegistry) : Ascending (r.snapshot.map prefixed) :=
  List.pairwise_map.2 (r.ascending.imp prefixed_lt)

/-- There is a member for each counter, in the order of the counters. -/
lemma members_eq (r : CounterRegistry) : members r = r.snapshot.map prefixed :=
  foldl_insertMember (ascending_prefixed r)

/-! ## Strings -/

lemma hexDigits4_of_lt {n : Nat} (h : n < 0x20) :
    hexDigits4 n = ['0', '0', (n / 16).digitChar, (n % 16).digitChar] := by
  have hall : ∀ n : Fin 0x20, hexDigits4 n = ['0', '0', (n / 16 : Nat).digitChar,
      (n % 16 : Nat).digitChar] := by decide
  exact hall ⟨n, h⟩

/-- An item that stands for a character, as it is written. -/
def WritesChar (c : Char) (cs : List Char) : Prop :=
  ∃ item, ItemText item cs ∧
    ∀ {items text}, Spells items text → Spells (item :: items) (c :: text)

lemma writesChar_letter {e c d : Char} (h : c = d) (hmem : (e, d) ∈ Json.escapes) :
    WritesChar c ['\\', e] := by
  subst h
  exact ⟨.char c, .letter hmem, .char c⟩

lemma writesChar_unit {c : Char} (h : c.toNat < 0x20) :
    WritesChar c ('\\' :: 'u' :: hexDigits4 c.toNat) := by
  have hzero : Json.HexDigit 0 '0' := ⟨by decide, .inl rfl⟩
  have hhigh : Json.HexDigit (c.toNat / 16) (c.toNat / 16).digitChar := ⟨by omega, .inl rfl⟩
  have hlow : Json.HexDigit (c.toNat % 16) (c.toNat % 16).digitChar := ⟨by omega, .inl rfl⟩
  have hitem := ItemText.unit hzero hzero hhigh hlow
  have hvalue : ((0 * 16 + 0) * 16 + c.toNat / 16) * 16 + c.toNat % 16 = c.toNat := by omega
  rw [hvalue] at hitem
  rw [hexDigits4_of_lt h]
  exact ⟨.unit c.toNat, hitem, .unit c (by omega)⟩

/-- Every character is written so that it stands for itself. -/
lemma writesChar_escapedChar (c : Char) : WritesChar c (escapedChar c) := by
  rw [escapedChar]
  split_ifs with hquote hescape hb hf hn hr ht hcontrol
  · exact writesChar_letter hquote (by decide)
  · exact writesChar_letter hescape (by decide)
  · exact writesChar_letter hb (by decide)
  · exact writesChar_letter hf (by decide)
  · exact writesChar_letter hn (by decide)
  · exact writesChar_letter hr (by decide)
  · exact writesChar_letter ht (by decide)
  · exact writesChar_unit hcontrol
  · refine ⟨.char c, .plain ?_, .char c⟩
    simp only [Json.isPlain, Bool.and_eq_true, bne_iff_ne, decide_eq_true_iff]
    exact ⟨⟨hquote, hescape⟩, Nat.le_of_not_lt hcontrol⟩

lemma stringText_escaped (s : String) : StringText (some s) (s.toList.flatMap escapedChar) := by
  suffices ∃ items, ItemsText items (s.toList.flatMap escapedChar) ∧ Spells items s.toList by
    obtain ⟨items, hitems, hspells⟩ := this
    exact .spelled hitems hspells
  induction s.toList with
  | nil => exact ⟨[], .nil, .nil⟩
  | cons c cs ih =>
    obtain ⟨item, hitem, hspells⟩ := writesChar_escapedChar c
    obtain ⟨items, hitems, hrest⟩ := ih
    exact ⟨item :: items, .cons hitem hitems, hspells hrest⟩

/-! ## The object -/

/-- A natural number as a JSON number, by its decimal digits. -/
def numeral (n : Nat) : NumberText :=
  ⟨false, Nat.toDigits 10 n, [], none⟩

/-- A member of a JSON object: a name with a natural number. -/
def memberValue (m : String × Nat) : Option String × Value :=
  (some m.1, .number (numeral m.2))

/-- The members of the answer with their values as natural numbers. -/
def shown (r : CounterRegistry) : List (String × Nat) :=
  (members r).map fun m => (m.1, m.2.toNat)

lemma rendered_member (m : String × UInt64) {ts : List Token} {rest : List Char}
    (h : Rendered ts rest) :
    Rendered (.string (some m.1) :: .colon :: .number (numeral m.2.toNat) :: ts)
      (memberText m ++ rest) := by
  have hnumber := Rendered.next (.number (NumberText.written_toDigits m.2.toNat)) h
  have hcolon := Rendered.next .colon hnumber
  have hname := Rendered.next (.string (stringText_escaped m.1)) hcolon
  simpa [memberText, jsonString, numeral] using hname

/-- Members in a row are written with commas between them. -/
lemma rendered_members (m : String × UInt64) (ms : List (String × UInt64)) :
    Rendered (.string (some m.1) :: .colon :: .number (numeral m.2.toNat) ::
        tokensBehindMember (ms.map fun m => memberValue (m.1, m.2.toNat)))
      ([','].intercalate ((m :: ms).map memberText) ++ ['\x7d']) := by
  induction ms generalizing m with
  | nil =>
    have hclose : Rendered [.closeObject] (['\x7d'] ++ []) := .next .closeObject (.nil nofun)
    simpa [tokensBehindMember, List.intercalate_singleton] using rendered_member m hclose
  | cons n ms ih =>
    have hmore := rendered_member m (Rendered.next .comma (ih n))
    simpa [tokensBehindMember, memberValue, Value.tokens, List.intercalate_cons_cons] using hmore

/-- The answer is JSON for the object of its members. -/
lemma rendering_body (r : CounterRegistry) :
    (Value.object ((shown r).map memberValue)).Rendering (body r) := by
  rw [Value.Rendering, body, String.toList_ofList, shown]
  cases members r with
  | nil =>
    have hclose : Rendered [.closeObject] (['\x7d'] ++ []) := .next .closeObject (.nil nofun)
    exact Rendered.next .openObject hclose
  | cons m ms =>
    have hopen := Rendered.next .openObject (rendered_members m ms)
    simpa [memberValue, Value.tokens, Function.comp_def] using hopen

/-! ## Reading back -/

/-- A text is JSON for an object with these members, and for nothing else. -/
def Decodes (text : String) (ms : List (String × Nat)) : Prop :=
  ∀ v : Value, v.Rendering text ↔ v = .object (ms.map memberValue)

/-- A text shows counters: as JSON it has a member for each of them, under its name behind the
prefix and with its value, and no other members.  The bytes of the names ascend, so that no name
comes twice. -/
structure Shows (text : String) (counters : CounterRegistry) (ms : List (String × Nat)) : Prop where
  decodes : Decodes text ms
  mem_iff : ∀ member value, (member, value) ∈ ms ↔ ∃ name,
    counters.contains name = true ∧ member = "counter." ++ name ∧
      value = (counters.get name).toNat
  ascending : ms.Pairwise fun a b => Text.bytes a.1 < Text.bytes b.1

/-- The answer shows the counters. -/
lemma shows_body (r : CounterRegistry) : Shows (body r) r (shown r) where
  decodes v := ⟨fun h => h.unique (rendering_body r), fun h => h ▸ rendering_body r⟩
  mem_iff member value := by
    rw [shown, members_eq, List.map_map, List.mem_map]
    constructor
    · rintro ⟨⟨name, v⟩, hmem, heq⟩
      obtain ⟨rfl, rfl⟩ := Prod.mk.inj heq
      obtain ⟨hcontains, rfl⟩ := CounterRegistry.mem_snapshot_iff.1 hmem
      exact ⟨name, hcontains, rfl, rfl⟩
    · rintro ⟨name, hcontains, rfl, rfl⟩
      exact ⟨(name, r.get name), CounterRegistry.mem_snapshot_iff.2 ⟨hcontains, rfl⟩, rfl⟩
  ascending := by
    rw [shown, members_eq, List.pairwise_map]
    exact (ascending_prefixed r).imp Text.bytes_lt_of_lt

end ClientCounters.Snapshot
