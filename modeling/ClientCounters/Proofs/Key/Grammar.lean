/-
# The grammar of key expressions

A key expression is a row of pieces with plus signs between them, each piece, white space around it
apart, spelling one term.  Reading accepts these texts and no others, and finds the terms; there is
one way only to take a text apart like this (`read_eq_ok_iff`).
-/
import Mathlib.Data.List.Basic
import Mathlib.Data.List.Forall2
import ClientCounters.Proofs.Key.Pieces

namespace ClientCounters.KeyExpression

variable {source : String} {cs : List Char} {x : String} {t : Term}

/-! ## The grammar -/

/-- A text between two quotes of one kind that does not occur in it. -/
def IsLiteral (x : String) (cs : List Char) : Prop :=
  ∃ q, isQuote q = true ∧ q ∉ x.toList ∧ cs = q :: (x.toList ++ [q])

/-- A row of letters, digits and underscores that holds at least one. -/
def IsWord (s : String) : Prop :=
  s.toList ≠ [] ∧ ∀ c ∈ s.toList, c.isAlphanum = true ∨ c = '_'

/-- What stands between the brackets of a call: a literal, if the call carries an argument. -/
def IsArgument : Option String → List Char → Prop
  | none, cs => cs = []
  | some x, cs => IsLiteral x cs

/-- How a term is written. -/
inductive Spells : Term → List Char → Prop where
  /-- A text between quotes. -/
  | literal {x : String} {cs : List Char} (h : IsLiteral x cs) : Spells (.literal x) cs
  /-- A path of words with dots between them. -/
  | descriptor {path : List String} (hne : path ≠ []) (hwords : ∀ s ∈ path, IsWord s) :
    Spells (.descriptor path) ("#this.".toList ++ ['.'].intercalate (path.map String.toList))
  /-- A call, with its argument if it carries one, and white space around it. -/
  | request {call : RequestCall} {ws arg ws' : List Char} (hws : Text.AllBlank ws)
    (harg : IsArgument call.argument? arg) (hws' : Text.AllBlank ws') :
    Spells (.request call) ("@currentRequest.".toList ++
      (call.callee.name.toList ++ '(' :: (ws ++ arg ++ ws' ++ [')'])))
  /-- Any other name, without white space at its end, whose quotes all close. -/
  | component {name : String} (hne : name.toList ≠ [])
    (hend : ∀ c ∈ name.toList.getLast?, Text.isBlank c = false)
    (hrequest : ¬ "currentRequest.".toList <+: name.toList) (hbalanced : Balanced name.toList) :
    Spells (.component name) ('@' :: name.toList)

/-- A piece of an expression: how a term is written, with white space around it. -/
def SpellsPadded (t : Term) (piece : List Char) : Prop :=
  ∃ ws core ws', Text.AllBlank ws ∧ Text.AllBlank ws' ∧ piece = ws ++ core ++ ws' ∧ Spells t core

/-- The terms of an expression, with the pieces that spell them. -/
structure Spelled (source : String) (terms : List Term) (pieces : List (List Char)) : Prop where
  ne_nil : terms ≠ []
  spells : List.Forall₂ SpellsPadded terms pieces
  joined : source.toList = ['+'].intercalate pieces

/-! ## One reading after another -/

lemma bind_eq_ok_iff {α β ε : Type} {x : Except ε α} {f : α → Except ε β} {b : β} :
    x >>= f = .ok b ↔ ∃ a, x = .ok a ∧ f a = .ok b := by
  cases x with
  | error e =>
    constructor
    · intro h
      cases h
    · rintro ⟨a, ha, -⟩
      cases ha
  | ok a =>
    constructor
    · intro h
      exact ⟨a, rfl, h⟩
    · rintro ⟨a', ha, h⟩
      obtain rfl := Except.ok.inj ha
      exact h

lemma mapM_eq_ok_iff {α β ε : Type} {f : α → Except ε β} {as : List α} {bs : List β} :
    as.mapM f = .ok bs ↔ List.Forall₂ (fun a b => f a = .ok b) as bs := by
  induction as generalizing bs with
  | nil =>
    rw [List.mapM_nil, List.forall₂_nil_left_iff]
    exact ⟨fun h => (Except.ok.inj h).symm, fun h => congrArg _ h.symm⟩
  | cons a as ih =>
    rw [List.mapM_cons, List.forall₂_cons_left_iff, bind_eq_ok_iff]
    refine exists_congr fun b => ?_
    rw [bind_eq_ok_iff]
    constructor
    · rintro ⟨hb, bs', hbs', h⟩
      exact ⟨bs', hb, ih.1 hbs', (Except.ok.inj h).symm⟩
    · rintro ⟨bs', hb, hbs', rfl⟩
      exact ⟨hb, bs', ih.2 hbs', rfl⟩

/-! ## Literals, paths and arguments -/

lemma quotedContent?_eq_some_iff {content : List Char} :
    quotedContent? cs = some content ↔ IsLiteral (String.ofList content) cs := by
  rw [IsLiteral, String.toList_ofList]
  cases cs with
  | nil => simp [quotedContent?]
  | cons q rest =>
    rw [quotedContent?]
    split
    · next hq =>
      rw [Option.filter_eq_some_iff, List.isSuffixOf?_eq_some_iff_append_eq, Bool.not_eq_true',
        Bool.eq_false_iff, ne_eq, List.contains_iff_mem]
      constructor
      · rintro ⟨rfl, hmem⟩
        exact ⟨q, hq, hmem, rfl⟩
      · rintro ⟨q', -, hmem, heq⟩
        obtain ⟨rfl, rfl⟩ := List.cons.inj heq
        exact ⟨rfl, hmem⟩
    · next hq =>
      refine ⟨nofun, ?_⟩
      rintro ⟨q', hq', -, heq⟩
      rw [(List.cons.inj heq).1] at hq
      exact absurd hq' hq

lemma isIdentifier_iff {s : String} : isIdentifier s.toList = true ↔ IsWord s := by
  simp [isIdentifier, isIdentifierChar, IsWord]

lemma not_mem_of_isWord {s : String} (hs : IsWord s) : '.' ∉ s.toList := by
  intro hmem
  rcases hs.2 _ hmem with h | h <;> cases h

lemma readPath?_eq_some_iff {path : List String} : readPath? cs = some path ↔
    path ≠ [] ∧ (∀ s ∈ path, IsWord s) ∧ cs = ['.'].intercalate (path.map String.toList) := by
  have hwords (segments : List (List Char)) : segments.all isIdentifier = true ↔
      ∀ s ∈ segments.map String.ofList, IsWord s := by
    simp only [List.all_eq_true, List.forall_mem_map, ← isIdentifier_iff, String.toList_ofList]
  rw [readPath?]
  constructor
  · intro h
    obtain ⟨hall, h⟩ := Option.ite_none_right_eq_some.1 h
    obtain rfl := Option.some.inj h
    refine ⟨?_, (hwords _).1 hall, ?_⟩
    · rw [ne_eq, List.map_eq_nil_iff]
      exact List.splitOn_ne_nil _ _
    · rw [List.map_map]
      simp [Function.comp_def, List.intercalate_splitOn]
  · rintro ⟨hne, hall, rfl⟩
    -- no word holds a dot, so that the dots of the path are those between the words
    have hsplit : (['.'].intercalate (path.map String.toList)).splitOn '.' =
        path.map String.toList := by
      refine List.splitOn_intercalate _ ?_ (by simpa using hne)
      rw [List.forall_mem_map]
      exact fun s hs => not_mem_of_isWord (hall s hs)
    have hback : (path.map String.toList).map String.ofList = path := by
      simp [Function.comp_def]
    rw [hsplit, if_pos ((hwords _).2 (hback.symm ▸ hall)), hback]

lemma isLiteral_iff : IsLiteral x cs ↔ quotedContent? cs = some x.toList := by
  rw [quotedContent?_eq_some_iff, String.ofList_toList]

lemma readArgument_eq_ok_iff {call : List Char} {argument : Option String} :
    readArgument call cs = .ok argument ↔ IsArgument argument cs := by
  rw [readArgument]
  split
  · next hempty =>
    rw [List.isEmpty_iff] at hempty
    subst hempty
    cases argument with
    | none => exact ⟨fun _ => rfl, fun _ => rfl⟩
    | some x =>
      refine ⟨nofun, ?_⟩
      rintro ⟨q, -, -, heq⟩
      cases heq
  · next hne =>
    rw [List.isEmpty_iff] at hne
    cases argument with
    | none =>
      refine ⟨fun h => ?_, fun h => absurd h hne⟩
      split at h <;> cases h
    | some x =>
      rw [IsArgument, isLiteral_iff]
      constructor
      · intro h
        split at h
        · next content hcontent =>
          obtain rfl := Option.some.inj (Except.ok.inj h)
          rw [hcontent, String.toList_ofList]
        · cases h
      · intro h
        simp only [h, String.ofList_toList]

/-! ## What the written terms have in common -/

lemma isPlain_of_isWord {s : String} (hs : IsWord s) {c : Char} (hc : c ∈ s.toList) :
    IsPlain c ∧ Text.isBlank c = false := by
  have hquote : isQuote c = true → c = '\'' ∨ c = '"' := by simp [isQuote]
  rcases hs.2 c hc with h | rfl
  · refine ⟨⟨?_, ?_⟩, Text.not_isBlank_of_isAlphanum h⟩
    · rintro rfl
      cases h
    · rw [Bool.eq_false_iff]
      intro hq
      rcases hquote hq with rfl | rfl <;> cases h
  · exact ⟨⟨by decide, rfl⟩, rfl⟩

lemma mem_intercalate {sep c : Char} {ls : List (List Char)} (h : c ∈ [sep].intercalate ls) :
    c = sep ∨ ∃ l ∈ ls, c ∈ l := by
  induction ls with
  | nil => cases h
  | cons l ls ih =>
    cases ls with
    | nil => exact .inr ⟨l, List.mem_cons_self, by simpa using h⟩
    | cons l' ls =>
      rw [List.intercalate_cons_cons, List.mem_append, List.mem_append, List.mem_singleton] at h
      rcases h with (h | h) | h
      · exact .inr ⟨l, List.mem_cons_self, h⟩
      · exact .inl h
      · rcases ih h with h | ⟨l'', hl, h⟩
        · exact .inl h
        · exact .inr ⟨l'', List.mem_cons_of_mem _ hl, h⟩

/-- The characters of a written path are plain, and no white space. -/
lemma isPlain_of_mem_path {path : List String} (hwords : ∀ s ∈ path, IsWord s) {c : Char}
    (hc : c ∈ "#this.".toList ++ ['.'].intercalate (path.map String.toList)) :
    IsPlain c ∧ Text.isBlank c = false := by
  have hprefix : "#this.".toList.all (fun c => IsPlain c ∧ Text.isBlank c = false) = true := by
    decide
  rcases List.mem_append.1 hc with hc | hc
  · exact of_decide_eq_true (List.all_eq_true.1 hprefix c hc)
  · rcases mem_intercalate hc with rfl | ⟨l, hl, hcl⟩
    · exact ⟨⟨by decide, rfl⟩, rfl⟩
    · obtain ⟨s, hs, rfl⟩ := List.mem_map.1 hl
      exact isPlain_of_isWord (hwords s hs) hcl

lemma not_isBlank_of_isQuote {q : Char} (hq : isQuote q = true) : Text.isBlank q = false := by
  rw [Bool.eq_false_iff]
  intro hblank
  have hplain := (isPlain_of_isBlank hblank).2
  rw [hq] at hplain
  cases hplain

lemma IsLiteral.trimmed (h : IsLiteral x cs) : Text.Trimmed cs := by
  obtain ⟨q, hq, -, rfl⟩ := h
  exact Text.trimmed_cons_concat (not_isBlank_of_isQuote hq) (not_isBlank_of_isQuote hq) _

lemma IsLiteral.balanced (h : IsLiteral x cs) : Balanced cs := by
  obtain ⟨q, hq, hx, rfl⟩ := h
  exact balanced_literal hq hx

lemma IsArgument.trimmed {argument : Option String} (h : IsArgument argument cs) :
    Text.Trimmed cs := by
  cases argument with
  | none =>
    obtain rfl : cs = [] := h
    exact Text.trimmed_of_forall nofun
  | some x => exact IsLiteral.trimmed h

lemma IsArgument.balanced {argument : Option String} (h : IsArgument argument cs) :
    Balanced cs := by
  cases argument with
  | none =>
    obtain rfl : cs = [] := h
    exact .nil
  | some x => exact IsLiteral.balanced h

lemma Spells.ne_nil (h : Spells t cs) : cs ≠ [] := by
  cases h with
  | literal h =>
    obtain ⟨q, -, -, rfl⟩ := h
    exact List.cons_ne_nil _ _
  | descriptor _ _ => simp
  | request _ _ _ => simp
  | component _ _ _ _ => exact List.cons_ne_nil _ _

lemma Spells.trimmed (h : Spells t cs) : Text.Trimmed cs := by
  cases h with
  | literal h => exact h.trimmed
  | descriptor _ hwords =>
    exact Text.trimmed_of_forall fun c hc => (isPlain_of_mem_path hwords hc).2
  | @request call ws arg ws' _ _ _ =>
    have heq : "@currentRequest.".toList ++
        (call.callee.name.toList ++ '(' :: (ws ++ arg ++ ws' ++ [')'])) =
        '@' :: ("currentRequest.".toList ++ call.callee.name.toList ++
          '(' :: (ws ++ arg ++ ws') ++ [')']) := by simp
    rw [heq]
    exact Text.trimmed_cons_concat rfl rfl _
  | component hne hend _ _ =>
    constructor
    · rintro c ⟨⟩
      rfl
    · intro c hc
      rw [List.getLast?_cons_of_ne_nil hne] at hc
      exact hend c hc

lemma Spells.balanced (h : Spells t cs) : Balanced cs := by
  cases h with
  | literal h => exact h.balanced
  | descriptor _ hwords => exact balanced_of_plain fun c hc => (isPlain_of_mem_path hwords hc).1
  | @request call ws arg ws' hws harg hws' =>
    -- the argument is the only part that can hold quotes or plus signs
    have hopen : Balanced ("@currentRequest.".toList ++ call.callee.name.toList ++ ['(']) := by
      refine balanced_of_all ?_
      cases call.callee <;> decide
    have hclose : Balanced [')'] := balanced_of_all (by decide)
    have hinner : Balanced (ws ++ arg ++ ws') := (balanced_padded hws hws').2 harg.balanced
    have hall := (hopen.append hinner).append hclose
    simpa using hall
  | component _ _ _ hbalanced => exact .plain (by decide) rfl hbalanced

/-! ## Reading one term -/

lemma readCall_eq_ok {call : RequestCall} {ws arg ws' : List Char} (hws : Text.AllBlank ws)
    (harg : IsArgument call.argument? arg) (hws' : Text.AllBlank ws') :
    readCall source (call.callee.name.toList ++ '(' :: (ws ++ arg ++ ws' ++ [')'])) =
      .ok (.request call) := by
  have hname : '(' ∉ call.callee.name.toList ∧ isIdentifier call.callee.name.toList = true := by
    cases call.callee <;> decide
  have hcut : Text.cut? '(' (call.callee.name.toList ++ '(' :: (ws ++ arg ++ ws' ++ [')'])) =
      some (call.callee.name.toList, ws ++ arg ++ ws' ++ [')']) :=
    Text.cut?_eq_some_iff.2 ⟨hname.1, rfl⟩
  have hsuffix : [')'].isSuffixOf? (ws ++ arg ++ ws' ++ [')']) = some (ws ++ arg ++ ws') :=
    List.isSuffixOf?_eq_some_iff_append_eq.2 rfl
  have hmethod : RequestMethod.ofName? (String.ofList call.callee.name.toList) =
      some call.callee := by rw [String.ofList_toList, RequestMethod.ofName?_name]
  have hmake : RequestCall.make? call.callee call.argument? = some call :=
    RequestCall.make?_eq_some_iff.2 ⟨rfl, rfl⟩
  simp only [readCall, hcut, hsuffix, hname.2, hmethod,
    Text.trimChars_padded hws harg.trimmed hws', Bool.not_true, Bool.false_eq_true, if_false]
  refine bind_eq_ok_iff.2 ⟨call.argument?, readArgument_eq_ok_iff.2 harg, ?_⟩
  simp only [hmake]
  rfl

lemma spells_of_readCall (h : readCall source cs = .ok t) :
    Spells t ("@currentRequest.".toList ++ cs) := by
  rw [readCall] at h
  split at h
  · next name rest hcut =>
    split at h
    · next inner hinner =>
      obtain ⟨-, rfl⟩ := Text.cut?_eq_some_iff.1 hcut
      obtain rfl := List.isSuffixOf?_eq_some_iff_append_eq.1 hinner
      cases hid : isIdentifier name with
      | false =>
        rw [hid] at h
        cases h
      | true =>
        simp only [hid, Bool.not_true, Bool.false_eq_true, if_false] at h
        split at h
        · next m hm =>
          obtain ⟨argument, harg, h⟩ := bind_eq_ok_iff.1 h
          split at h
          · next call hcall =>
            obtain rfl := Except.ok.inj h
            obtain ⟨rfl, rfl⟩ := RequestCall.make?_eq_some_iff.1 hcall
            have hname : name = call.callee.name.toList := by
              rw [← RequestMethod.ofName?_eq_some_iff.1 hm, String.toList_ofList]
            obtain ⟨-, ws, ws', hws, hws', hpadded⟩ := Text.trimChars_eq_iff.1 (Eq.refl
              (Text.trimChars inner))
            rw [hname, hpadded]
            exact .request hws (readArgument_eq_ok_iff.1 harg) hws'
          · cases h
        · cases h
    · cases h
  · cases h

/-- A name after the sign of a component is none of a call. -/
lemma isPrefixOf?_request_eq_none_iff : "@currentRequest.".toList.isPrefixOf? ('@' :: cs) = none ↔
    ¬ "currentRequest.".toList <+: cs := by
  rw [← not_iff_not, not_not, ← ne_eq, Option.ne_none_iff_exists']
  constructor
  · rintro ⟨rest, h⟩
    rw [List.isPrefixOf?_eq_some_iff_append_eq] at h
    exact ⟨rest, (List.cons.inj h).2⟩
  · rintro ⟨rest, rfl⟩
    exact ⟨rest, List.isPrefixOf?_eq_some_iff_append_eq.2 rfl⟩

/-- A written term is read back. -/
lemma readTerm_eq_ok (h : Spells t cs) : readTerm source cs = .ok t := by
  cases h with
  | literal h => simp only [readTerm, isLiteral_iff.1 h, String.ofList_toList]
  | @descriptor path hne hwords =>
    have hquoted : quotedContent? ("#this.".toList ++
        ['.'].intercalate (path.map String.toList)) = none := rfl
    have hprefix : "#this.".toList.isPrefixOf? ("#this.".toList ++
        ['.'].intercalate (path.map String.toList)) =
          some (['.'].intercalate (path.map String.toList)) :=
      List.isPrefixOf?_eq_some_iff_append_eq.2 rfl
    simp only [readTerm, hquoted, hprefix, readPath?_eq_some_iff.2 ⟨hne, hwords, rfl⟩]
  | @request call ws arg ws' hws harg hws' =>
    have hquoted : quotedContent? ("@currentRequest.".toList ++
        (call.callee.name.toList ++ '(' :: (ws ++ arg ++ ws' ++ [')']))) = none := rfl
    have hthis : "#this.".toList.isPrefixOf? ("@currentRequest.".toList ++
        (call.callee.name.toList ++ '(' :: (ws ++ arg ++ ws' ++ [')']))) = none := rfl
    have hprefix : "@currentRequest.".toList.isPrefixOf? ("@currentRequest.".toList ++
        (call.callee.name.toList ++ '(' :: (ws ++ arg ++ ws' ++ [')']))) =
          some (call.callee.name.toList ++ '(' :: (ws ++ arg ++ ws' ++ [')'])) :=
      List.isPrefixOf?_eq_some_iff_append_eq.2 rfl
    simp only [readTerm, hquoted, hthis, hprefix, readCall_eq_ok hws harg hws']
  | @component name hne hend hrequest hbalanced =>
    have hquoted : quotedContent? ('@' :: name.toList) = none := rfl
    have hthis : "#this.".toList.isPrefixOf? ('@' :: name.toList) = none := rfl
    obtain ⟨c, rest, hname⟩ := List.exists_cons_of_ne_nil hne
    have hback : String.ofList (c :: rest) = name := by rw [← hname, String.ofList_toList]
    simp only [readTerm, hquoted, hthis, isPrefixOf?_request_eq_none_iff.2 hrequest]
    rw [hname]
    show Except.ok (Term.component (String.ofList (c :: rest))) = _
    rw [hback]

/-- A term that is read is written like this. -/
lemma spells_of_readTerm (hbalanced : Balanced cs) (htrimmed : Text.Trimmed cs)
    (h : readTerm source cs = .ok t) : Spells t cs := by
  unfold readTerm at h
  split at h
  · next content hcontent =>
    obtain rfl := Except.ok.inj h
    exact .literal (quotedContent?_eq_some_iff.1 hcontent)
  · -- the prefixes are tried in turn, so that a component's name begins none of a call
    split at h
    · next path hpath =>
      obtain rfl := List.isPrefixOf?_eq_some_iff_append_eq.1 hpath
      split at h
      · next segments hsegments =>
        obtain rfl := Except.ok.inj h
        obtain ⟨hne, hwords, rfl⟩ := readPath?_eq_some_iff.1 hsegments
        exact .descriptor hne hwords
      · cases h
    · split at h
      · next call hcall =>
        obtain rfl := List.isPrefixOf?_eq_some_iff_append_eq.1 hcall
        exact spells_of_readCall h
      · next hrequest =>
        split at h
        · next c name _ _ =>
          obtain rfl := Except.ok.inj h
          have hspells : Spells (.component (String.ofList (c :: name)))
              ('@' :: (String.ofList (c :: name)).toList) := by
            refine .component ?_ ?_ ?_ ?_ <;> rw [String.toList_ofList (l := c :: name)]
            · exact List.cons_ne_nil _ _
            · exact fun d hd => htrimmed.2 d (by rwa [List.getLast?_cons_cons])
            · exact isPrefixOf?_request_eq_none_iff.1 hrequest
            · exact (balanced_plain (by decide) rfl).1 hbalanced
          rwa [String.toList_ofList] at hspells
        · cases h

/-! ## Reading an expression -/

variable {terms : List Term} {pieces ps : List (List Char)}

lemma operands?_eq_some_iff : operands? source = some ps ↔ [] ∉ ps ∧
    ∃ pieces, pieces? none source.toList = some pieces ∧ pieces.map Text.trimChars = ps := by
  rw [operands?, Option.filter_eq_some_iff, Option.map_eq_some_iff, Bool.not_eq_true',
    Bool.eq_false_iff, ne_eq, List.contains_iff_mem, and_comm]

lemma read_eq_ok_iff_operands {e : KeyExpression} : read source = .ok e ↔ e.source = source ∧
    ∃ ps, operands? source = some ps ∧ ps.mapM (readTerm source) = .ok e.terms := by
  rw [read]
  cases operands? source with
  | none =>
    constructor
    · rintro ⟨⟩
    · rintro ⟨-, ps, hps, -⟩
      cases hps
  | some ps =>
    show (ps.mapM (readTerm source)).map _ = _ ↔ _
    constructor
    · intro h
      cases hterms : ps.mapM (readTerm source) with
      | error err =>
        rw [hterms] at h
        cases h
      | ok terms =>
        rw [hterms] at h
        obtain rfl := Except.ok.inj h
        exact ⟨rfl, ps, rfl, hterms⟩
    · rintro ⟨rfl, ps', hps, hterms⟩
      obtain rfl := Option.some.inj hps
      rw [hterms]
      rfl

/-- A piece spells a term if its quotes all close, no plus sign stands outside them, and what
is left of it by trimming is read as the term. -/
lemma spellsPadded_iff (source : String) {piece : List Char} :
    SpellsPadded t piece ↔ Balanced piece ∧ Text.trimChars piece ≠ [] ∧
      readTerm source (Text.trimChars piece) = .ok t := by
  constructor
  · rintro ⟨ws, core, ws', hws, hws', rfl, hspells⟩
    rw [Text.trimChars_padded hws hspells.trimmed hws']
    exact ⟨(balanced_padded hws hws').2 hspells.balanced, hspells.ne_nil, readTerm_eq_ok hspells⟩
  · rintro ⟨hbalanced, -, hread⟩
    obtain ⟨htrimmed, ws, ws', hws, hws', hpadded⟩ := Text.trimChars_eq_iff.1
      (Eq.refl (Text.trimChars piece))
    rw [hpadded, balanced_padded hws hws'] at hbalanced
    exact ⟨ws, _, ws', hws, hws', hpadded, spells_of_readTerm hbalanced htrimmed hread⟩

/-- The same for a row of pieces. -/
lemma forall₂_spellsPadded_iff (source : String) : List.Forall₂ SpellsPadded terms pieces ↔
    (∀ piece ∈ pieces, Balanced piece) ∧ [] ∉ pieces.map Text.trimChars ∧
      (pieces.map Text.trimChars).mapM (readTerm source) = .ok terms := by
  have hnil : [] ∉ pieces.map Text.trimChars ↔ ∀ piece ∈ pieces, Text.trimChars piece ≠ [] := by
    simp
  have hflip : List.Forall₂ SpellsPadded terms pieces ↔
      List.Forall₂ (fun piece t => SpellsPadded t piece) pieces terms :=
    ⟨List.Forall₂.flip, List.Forall₂.flip⟩
  rw [hflip, hnil, mapM_eq_ok_iff, List.forall₂_map_left_iff]
  simp only [spellsPadded_iff source, List.forall₂_and_left]

/-- A text spells the terms that are read, and the pieces are those of the scan. -/
lemma spelled_iff : Spelled source terms pieces ↔ pieces? none source.toList = some pieces ∧
    [] ∉ pieces.map Text.trimChars ∧
      (pieces.map Text.trimChars).mapM (readTerm source) = .ok terms := by
  rw [pieces?_none_eq_some_iff]
  constructor
  · intro h
    obtain ⟨hbalanced, hnil, hread⟩ := (forall₂_spellsPadded_iff source).1 h.spells
    refine ⟨⟨?_, hbalanced, h.joined⟩, hnil, hread⟩
    rintro rfl
    exact h.ne_nil (List.forall₂_nil_right_iff.1 h.spells)
  · rintro ⟨⟨hne, hbalanced, hjoined⟩, hnil, hread⟩
    have hspells := (forall₂_spellsPadded_iff source).2 ⟨hbalanced, hnil, hread⟩
    refine ⟨?_, hspells, hjoined⟩
    rintro rfl
    exact hne (List.forall₂_nil_left_iff.1 hspells)

/-- Reading accepts the texts that spell terms and no others, and finds the terms.  A text spells
one row of terms at most, with one row of pieces; no quote is open at the end of a piece, so that a
plus sign between quotes is no end of one. -/
theorem read_eq_ok_iff (source : String) :
    (∀ e : KeyExpression, read source = .ok e ↔
      e.source = source ∧ ∃ pieces, Spelled source e.terms pieces) ∧
    (∀ terms terms' pieces pieces', Spelled source terms pieces → Spelled source terms' pieces' →
      terms = terms' ∧ pieces = pieces') ∧
    ∀ terms pieces, Spelled source terms pieces → ∀ piece ∈ pieces, Balanced piece := by
  refine ⟨fun e => ?_, ?_, ?_⟩
  · rw [read_eq_ok_iff_operands]
    refine and_congr_right fun _ => ?_
    simp only [operands?_eq_some_iff, spelled_iff]
    constructor
    · rintro ⟨-, ⟨hnil, pieces, hpieces, rfl⟩, hread⟩
      exact ⟨pieces, hpieces, hnil, hread⟩
    · rintro ⟨pieces, hpieces, hnil, hread⟩
      exact ⟨_, ⟨hnil, pieces, hpieces, rfl⟩, hread⟩
  · intro terms terms' pieces pieces' h h'
    obtain ⟨hpieces, -, hread⟩ := spelled_iff.1 h
    obtain ⟨hpieces', -, hread'⟩ := spelled_iff.1 h'
    obtain rfl := Option.some.inj (hpieces.symm.trans hpieces')
    exact ⟨Except.ok.inj (hread.symm.trans hread'), rfl⟩
  · intro terms pieces h
    exact ((forall₂_spellsPadded_iff source).1 h.spells).1

/-- A quoted plus sign, and a quoted quote of the other kind, in a text of two terms. -/
theorem read_of_quoted_plus :
    read "'+' + @currentRequest.getHeader( \"a+'\" )" = .ok
      ⟨"'+' + @currentRequest.getHeader( \"a+'\" )", [.literal "+", .request (.header "a+'")]⟩ ∧
    Spelled "'+' + @currentRequest.getHeader( \"a+'\" )"
      [.literal "+", .request (.header "a+'")]
      ["'+' ".toList, " @currentRequest.getHeader( \"a+'\" )".toList] ∧
    Balanced "'+' ".toList := by
  have hspelled : Spelled "'+' + @currentRequest.getHeader( \"a+'\" )"
      [.literal "+", .request (.header "a+'")]
      ["'+' ".toList, " @currentRequest.getHeader( \"a+'\" )".toList] :=
    spelled_iff.2 ⟨by decide, by decide, by rfl⟩
  have hiff := read_eq_ok_iff "'+' + @currentRequest.getHeader( \"a+'\" )"
  exact ⟨(hiff.1 _).2 ⟨rfl, _, hspelled⟩, hspelled,
    hiff.2.2 _ _ hspelled _ List.mem_cons_self⟩

end ClientCounters.KeyExpression
