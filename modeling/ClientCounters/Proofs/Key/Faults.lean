/-
# Which fault of a key expression is reported

A text can have several faults at once.  An open quote and a blank piece come before all others;
otherwise the leftmost piece that spells no term decides.  Such a piece is reported as a call of a
method that does not exist, as a call with a wrong argument, or, when it is no call at all, with
the whole text.  A text compiles, or it has one fault that comes first, and this fault is what
reading answers (`read_eq_error_iff`).
-/
import ClientCounters.Proofs.Key.Grammar

namespace ClientCounters.KeyExpression

variable {source : String} {cs core : List Char} {pieces : List (List Char)}
  {e e' : ResolutionError}

/-! ## Open quotes and blank pieces -/

/-- Read from the left, past the texts between quotes, there is a quote that nothing closes. -/
inductive LeavesOpen : List Char → Prop where
  | opened {q : Char} {cs : List Char} (hq : isQuote q = true) (hcs : q ∉ cs) :
    LeavesOpen (q :: cs)
  | plain {c : Char} {cs : List Char} (hc : isQuote c = false) (h : LeavesOpen cs) :
    LeavesOpen (c :: cs)
  | quoted {q : Char} {x cs : List Char} (hq : isQuote q = true) (hx : q ∉ x)
    (h : LeavesOpen cs) : LeavesOpen (q :: (x ++ q :: cs))

/-- The pieces of a text: the parts between the plus signs outside quotes. -/
structure IsCut (cs : List Char) (pieces : List (List Char)) : Prop where
  ne_nil : pieces ≠ []
  balanced : ∀ piece ∈ pieces, Balanced piece
  joined : cs = ['+'].intercalate pieces

/-- A quote is left open, or a piece is blank. -/
def Malformed (source : String) : Prop :=
  LeavesOpen source.toList ∨
    ∃ pieces, IsCut source.toList pieces ∧ ∃ piece ∈ pieces, Text.AllBlank piece

/-- What stands behind an open quote leaves it open, or leaves another one open behind its end. -/
def LeavesOpenFrom : Option Char → List Char → Prop
  | none, cs => LeavesOpen cs
  | some q, cs => q ∉ cs ∨ ∃ x rest, q ∉ x ∧ cs = x ++ q :: rest ∧ LeavesOpen rest

lemma not_leavesOpen_nil : ¬ LeavesOpen [] := by
  intro h
  cases h

lemma leavesOpen_open {q : Char} (hq : isQuote q = true) :
    LeavesOpen (q :: cs) ↔ LeavesOpenFrom (some q) cs := by
  constructor
  · intro h
    cases h with
    | opened _ hcs => exact .inl hcs
    | plain hc _ => simp [hq] at hc
    | quoted _ hx h => exact .inr ⟨_, _, hx, rfl, h⟩
  · rintro (hcs | ⟨x, rest, hx, rfl, h⟩)
    · exact .opened hq hcs
    · exact .quoted hq hx h

lemma leavesOpen_plain {c : Char} (hc : isQuote c = false) :
    LeavesOpen (c :: cs) ↔ LeavesOpen cs := by
  constructor
  · intro h
    cases h with
    | opened hq _ => simp [hc] at hq
    | plain _ h => exact h
    | quoted hq _ _ => simp [hc] at hq
  · intro h
    exact .plain hc h

lemma leavesOpenFrom_close {q : Char} : LeavesOpenFrom (some q) (q :: cs) ↔ LeavesOpen cs := by
  constructor
  · rintro (hmem | ⟨x, rest, hx, heq, h⟩)
    · simp at hmem
    · cases x with
      | nil =>
        obtain ⟨-, rfl⟩ := List.cons.inj heq
        exact h
      | cons d x =>
        obtain ⟨rfl, -⟩ := List.cons.inj heq
        simp at hx
  · intro h
    exact .inr ⟨[], cs, by simp, rfl, h⟩

lemma leavesOpenFrom_inside {q c : Char} (hc : c ≠ q) :
    LeavesOpenFrom (some q) (c :: cs) ↔ LeavesOpenFrom (some q) cs := by
  constructor
  · rintro (hmem | ⟨x, rest, hx, heq, h⟩)
    · exact .inl fun hq => hmem (List.mem_cons_of_mem _ hq)
    · cases x with
      | nil => exact absurd (List.cons.inj heq).1 hc
      | cons d x =>
        obtain ⟨rfl, rfl⟩ := List.cons.inj heq
        exact .inr ⟨x, rest, fun hq => hx (List.mem_cons_of_mem _ hq), rfl, h⟩
  · rintro (hmem | ⟨x, rest, hx, rfl, h⟩)
    · exact .inl (by simp [hc.symm, hmem])
    · exact .inr ⟨c :: x, rest, by simp [hc.symm, hx], rfl, h⟩

/-- The scan finds no pieces if and only if a quote is left open. -/
lemma pieces?_eq_none_iff {quote : Option Char} :
    pieces? quote cs = none ↔ LeavesOpenFrom quote cs := by
  -- the open quote changes along the scan
  induction cs generalizing quote with
  | nil =>
    cases quote with
    | none => simp [pieces?, LeavesOpenFrom, not_leavesOpen_nil]
    | some q => simp [pieces?, LeavesOpenFrom]
  | cons c cs ih =>
    cases quote with
    | some q =>
      rw [pieces?, Option.map_eq_none_iff, ih]
      by_cases hc : c = q
      · subst hc
        rw [if_pos rfl, leavesOpenFrom_close]
        rfl
      · rw [if_neg hc, leavesOpenFrom_inside hc]
    | none =>
      show _ ↔ LeavesOpen (c :: cs)
      by_cases hplus : c = '+'
      · subst hplus
        rw [pieces?, if_pos rfl, Option.map_eq_none_iff, ih, leavesOpen_plain rfl]
        rfl
      · rw [pieces?, if_neg hplus, Option.map_eq_none_iff, ih]
        cases hquote : isQuote c with
        | true =>
          rw [if_pos rfl, leavesOpen_open hquote]
        | false =>
          rw [if_neg Bool.false_ne_true, leavesOpen_plain hquote]
          rfl

lemma pieces?_eq_some_iff_isCut : pieces? none cs = some pieces ↔ IsCut cs pieces := by
  rw [pieces?_none_eq_some_iff]
  exact ⟨fun ⟨hne, hbalanced, hjoined⟩ => ⟨hne, hbalanced, hjoined⟩,
    fun h => ⟨h.ne_nil, h.balanced, h.joined⟩⟩

lemma nil_mem_map_trimChars :
    [] ∈ pieces.map Text.trimChars ↔ ∃ piece ∈ pieces, Text.AllBlank piece := by
  simp [List.mem_map, Text.trimChars_eq_nil_iff, Text.AllBlank]

/-- There are no operands if and only if the text is malformed. -/
lemma operands?_eq_none_iff : operands? source = none ↔ Malformed source := by
  rw [operands?, Malformed]
  cases hpieces : pieces? none source.toList with
  | none =>
    have hopen : LeavesOpen source.toList := pieces?_eq_none_iff.1 hpieces
    simp [hopen]
  | some pieces =>
    have hopen : ¬ LeavesOpen source.toList := by
      intro hopen
      have hnone : pieces? none source.toList = none := pieces?_eq_none_iff.2 hopen
      simp [hpieces] at hnone
    have hcut (pieces' : List (List Char)) : IsCut source.toList pieces' ↔ pieces' = pieces := by
      rw [← pieces?_eq_some_iff_isCut, hpieces, Option.some_inj, eq_comm]
    simp only [hopen, hcut, false_or, exists_eq_left, ← nil_mem_map_trimChars]
    simp [Option.filter_eq_none_iff]

/-! ## Faulty pieces -/

/-- A call as it is written behind `@currentRequest.`, whether there is such a method or not. -/
def callText (name : String) (inner : List Char) : List Char :=
  name.toList ++ '(' :: (inner ++ [')'])

/-- A piece calls something that is no method of requests, whatever stands between the brackets. -/
def CallsUnknown (core : List Char) (name : String) : Prop :=
  IsWord name ∧ (∀ m : RequestMethod, name ≠ m.name) ∧
    ∃ inner, core = "@currentRequest.".toList ++ callText name inner

/-- What is wrong with the text between the brackets of a call: it is something else than a literal,
or it is there for a method that takes none, or missing for one that takes one. -/
def WrongArgument (m : RequestMethod) (arg : List Char) (reason : String) : Prop :=
  (arg ≠ [] ∧ (∀ x, ¬ IsLiteral x arg) ∧ reason = notOneLiteral) ∨
    ∃ argument, IsArgument argument arg ∧ argument.isSome ≠ m.takesArgument ∧
      reason = wrongArity m

/-- A piece calls a method of requests with a wrong argument. -/
def CallsWrongly (core : List Char) (call reason : String) : Prop :=
  ∃ (m : RequestMethod) (inner : List Char),
    core = "@currentRequest.".toList ++ callText m.name inner ∧
    call = String.ofList (callText m.name inner) ∧ WrongArgument m (Text.trimChars inner) reason

/-- The error of a piece that spells no term: the first two kinds exactly for the faulty calls, the
third for all other pieces. -/
def PieceFault (source : String) (core : List Char) : ResolutionError → Prop
  | .unknownMethod name => CallsUnknown core name
  | .invalidCall call reason => CallsWrongly core call reason
  | .unsupportedGrammar expression =>
    expression = source ∧ (∀ name, ¬ CallsUnknown core name) ∧
      ∀ call reason, ¬ CallsWrongly core call reason
  | _ => False

lemma isWord_name (m : RequestMethod) : IsWord m.name := by
  rw [← isIdentifier_iff]
  cases m <;> decide

lemma cut?_callText {name : String} (hname : IsWord name) (inner : List Char) :
    Text.cut? '(' (callText name inner) = some (name.toList, inner ++ [')']) := by
  refine Text.cut?_eq_some_iff.2 ⟨?_, rfl⟩
  intro hmem
  rcases hname.2 _ hmem with h | h <;> cases h

/-- A call is written in one way only. -/
lemma callText_inj {name name' : String} {inner inner' : List Char} (hname : IsWord name)
    (hname' : IsWord name')
    (h : "@currentRequest.".toList ++ callText name inner =
      "@currentRequest.".toList ++ callText name' inner') : name = name' ∧ inner = inner' := by
  have hcut : some (name.toList, inner ++ [')']) = some (name'.toList, inner' ++ [')']) := by
    rw [← cut?_callText hname, ← cut?_callText hname', List.append_cancel_left h]
  simpa [String.toList_inj] using hcut

lemma CallsUnknown.of_callText {name name' : String} {inner : List Char}
    (h : CallsUnknown ("@currentRequest.".toList ++ callText name inner) name')
    (hname : IsWord name) : name' = name ∧ ∀ m : RequestMethod, name ≠ m.name := by
  obtain ⟨hname', hno, inner', heq⟩ := h
  obtain ⟨rfl, -⟩ := callText_inj hname hname' heq
  exact ⟨rfl, hno⟩

lemma CallsWrongly.of_callText {name call reason : String} {inner : List Char}
    (h : CallsWrongly ("@currentRequest.".toList ++ callText name inner) call reason)
    (hname : IsWord name) : ∃ m : RequestMethod, name = m.name ∧
      call = String.ofList (callText name inner) ∧
      WrongArgument m (Text.trimChars inner) reason := by
  obtain ⟨m, inner', heq, rfl, hwrong⟩ := h
  obtain ⟨rfl, rfl⟩ := callText_inj hname (isWord_name m) heq
  exact ⟨m, rfl, rfl, hwrong⟩

lemma name_inj {m m' : RequestMethod} (h : m.name = m'.name) : m = m' := by
  have hsome : some m = some m' := by
    rw [← RequestMethod.ofName?_name m, h, RequestMethod.ofName?_name]
  exact Option.some.inj hsome

lemma WrongArgument.unique {m : RequestMethod} {arg : List Char} {reason reason' : String}
    (h : WrongArgument m arg reason) (h' : WrongArgument m arg reason') : reason = reason' := by
  have hnot (hne : arg ≠ []) (hliteral : ∀ x, ¬ IsLiteral x arg) (argument : Option String) :
      ¬ IsArgument argument arg := by
    intro harg
    cases argument with
    | none => exact hne harg
    | some x => exact hliteral x harg
  rcases h with ⟨hne, hliteral, rfl⟩ | ⟨argument, harg, -, rfl⟩ <;>
    rcases h' with ⟨hne', hliteral', rfl⟩ | ⟨argument', harg', -, rfl⟩
  · rfl
  · exact absurd harg' (hnot hne hliteral argument')
  · exact absurd harg (hnot hne' hliteral' argument)
  · rfl

/-- A piece has one fault at most. -/
lemma PieceFault.unique (h : PieceFault source core e) (h' : PieceFault source core e') :
    e = e' := by
  have hunknown {name call reason : String} (hu : CallsUnknown core name)
      (hw : CallsWrongly core call reason) : False := by
    obtain ⟨hname, hno, inner, rfl⟩ := hu
    obtain ⟨m, hm, -⟩ := hw.of_callText hname
    exact hno m hm
  cases e with
  | unknownMethod name =>
    cases e' with
    | unknownMethod name' =>
      obtain ⟨hname, -, inner, rfl⟩ := h
      rw [(CallsUnknown.of_callText h' hname).1]
    | invalidCall call reason => exact (hunknown h h').elim
    | unsupportedGrammar expression => exact absurd h (h'.2.1 name)
    | _ => cases h'
  | invalidCall call reason =>
    cases e' with
    | unknownMethod name => exact (hunknown h' h).elim
    | invalidCall call' reason' =>
      obtain ⟨m, inner, rfl, rfl, hwrong⟩ := h
      obtain ⟨m', hm, rfl, hwrong'⟩ := CallsWrongly.of_callText h' (isWord_name m)
      rw [← name_inj hm] at hwrong'
      rw [hwrong.unique hwrong']
    | unsupportedGrammar expression => exact absurd h (h'.2.2 call reason)
    | _ => cases h'
  | unsupportedGrammar expression =>
    cases e' with
    | unknownMethod name => exact absurd h' (h.2.1 name)
    | invalidCall call reason => exact absurd h' (h.2.2 call reason)
    | unsupportedGrammar expression' => rw [h.1, h'.1]
    | _ => cases h'
  | _ => cases h

/-- A piece that is no call is reported with the whole text. -/
lemma pieceFault_of_no_call
    (h : ∀ name inner, IsWord name → core ≠ "@currentRequest.".toList ++ callText name inner) :
    PieceFault source core (.unsupportedGrammar source) := by
  refine ⟨rfl, ?_, ?_⟩
  · rintro name ⟨hname, -, inner, heq⟩
    exact h name inner hname heq
  · rintro call reason ⟨m, inner, heq, -⟩
    exact h m.name inner (isWord_name m) heq

lemma pieceFault_of_not_prefix (h : ¬ "@currentRequest.".toList <+: core) :
    PieceFault source core (.unsupportedGrammar source) := by
  refine pieceFault_of_no_call fun name inner _ heq => h ?_
  rw [heq]
  exact List.prefix_append _ _

lemma bind_eq_error_iff {α β ε : Type} {x : Except ε α} {f : α → Except ε β} {err : ε} :
    x >>= f = .error err ↔ x = .error err ∨ ∃ a, x = .ok a ∧ f a = .error err := by
  cases x with
  | error err' =>
    constructor
    · intro h
      exact .inl (congrArg _ (Except.error.inj h))
    · rintro (h | ⟨a, ha, -⟩)
      · obtain rfl := Except.error.inj h
        rfl
      · cases ha
  | ok a =>
    constructor
    · intro h
      exact .inr ⟨a, rfl, h⟩
    · rintro (h | ⟨a', ha, h⟩)
      · cases h
      · obtain rfl := Except.ok.inj ha
        exact h

lemma readArgument_eq_error_iff {call arg : List Char} : readArgument call arg = .error e ↔
    arg ≠ [] ∧ (∀ x, ¬ IsLiteral x arg) ∧
      e = .invalidCall (String.ofList call) notOneLiteral := by
  simp only [isLiteral_iff, readArgument]
  cases arg with
  | nil => simp
  | cons c arg =>
    cases quotedContent? (c :: arg) with
    | none => simp [eq_comm]
    | some content =>
      constructor
      · intro h
        cases h
      · rintro ⟨-, hliteral, -⟩
        exact absurd (by simp) (hliteral (String.ofList content))

lemma make?_eq_none_iff {m : RequestMethod} {argument : Option String} :
    RequestCall.make? m argument = none ↔ argument.isSome ≠ m.takesArgument := by
  cases m <;> cases argument <;> simp [RequestCall.make?, RequestMethod.takesArgument]

/-- A call with a method's name fails through its argument only. -/
lemma wrongArgument_of_error {m : RequestMethod} {call arg : List Char}
    (h : (readArgument call arg >>= fun argument =>
      match RequestCall.make? m argument with
      | some c => (pure (.request c) : Except ResolutionError Term)
      | none => throw (.invalidCall (String.ofList call) (wrongArity m))) = .error e) :
    ∃ reason, e = .invalidCall (String.ofList call) reason ∧ WrongArgument m arg reason := by
  rcases bind_eq_error_iff.1 h with harg | ⟨argument, harg, h⟩
  · obtain ⟨hne, hliteral, rfl⟩ := readArgument_eq_error_iff.1 harg
    exact ⟨_, rfl, .inl ⟨hne, hliteral, rfl⟩⟩
  · split at h
    · cases h
    · next hmake =>
      obtain rfl := Except.error.inj h
      have harity := make?_eq_none_iff.1 hmake
      exact ⟨_, rfl, .inr ⟨argument, readArgument_eq_ok_iff.1 harg, harity, rfl⟩⟩

lemma pieceFault_of_readCall {call : List Char} (h : readCall source call = .error e) :
    PieceFault source ("@currentRequest.".toList ++ call) e := by
  -- as long as the call has not the form of one, its text is not that of any
  have hnot (hno : ∀ name inner, IsWord name → call ≠ callText name inner) :
      PieceFault source ("@currentRequest.".toList ++ call) (.unsupportedGrammar source) :=
    pieceFault_of_no_call fun name inner hname heq =>
      hno name inner hname (List.append_cancel_left heq)
  rw [readCall] at h
  split at h
  · next name rest hcut =>
    split at h
    · next inner hinner =>
      obtain rfl := List.isSuffixOf?_eq_some_iff_append_eq.1 hinner
      cases hword : isIdentifier name with
      | false =>
        rw [hword] at h
        obtain rfl := Except.error.inj h
        refine hnot fun name' inner' hname' heq => ?_
        rw [heq, cut?_callText hname'] at hcut
        obtain ⟨rfl, -⟩ := Prod.mk.inj (Option.some.inj hcut)
        rw [isIdentifier_iff.2 hname'] at hword
        cases hword
      | true =>
        simp only [hword, Bool.not_true, Bool.false_eq_true, if_false] at h
        obtain ⟨-, rfl⟩ := Text.cut?_eq_some_iff.1 hcut
        obtain ⟨name, rfl⟩ : ∃ s : String, name = s.toList := ⟨String.ofList name, by simp⟩
        have hname : IsWord name := isIdentifier_iff.1 hword
        rw [String.ofList_toList] at h
        split at h
        · next m hm =>
          obtain rfl := RequestMethod.ofName?_eq_some_iff.1 hm
          obtain ⟨reason, rfl, hwrong⟩ := wrongArgument_of_error h
          exact ⟨m, inner, rfl, rfl, hwrong⟩
        · next hnone =>
          obtain rfl := Except.error.inj h
          refine ⟨hname, ?_, inner, rfl⟩
          rintro m rfl
          exact hnone m (RequestMethod.ofName?_name m)
    · next hsuffix =>
      obtain rfl := Except.error.inj h
      refine hnot fun name' inner' hname' heq => ?_
      rw [heq, cut?_callText hname'] at hcut
      obtain ⟨-, rfl⟩ := Prod.mk.inj (Option.some.inj hcut)
      exact hsuffix inner' (List.isSuffixOf?_eq_some_iff_append_eq.2 rfl)
  · next hcut =>
    obtain rfl := Except.error.inj h
    refine hnot fun name' inner' hname' heq => ?_
    rw [heq] at hcut
    exact hcut _ _ (cut?_callText hname' inner')

/-- The error of a piece is the one for its fault. -/
lemma pieceFault_of_readTerm (h : readTerm source core = .error e) :
    PieceFault source core e := by
  unfold readTerm at h
  split at h
  · cases h
  · split at h
    · next path hpath =>
      obtain rfl := List.isPrefixOf?_eq_some_iff_append_eq.1 hpath
      split at h
      · cases h
      · obtain rfl := Except.error.inj h
        refine pieceFault_of_not_prefix ?_
        rintro ⟨rest, heq⟩
        cases (List.cons.inj heq).1
    · split at h
      · next call hcall =>
        obtain rfl := List.isPrefixOf?_eq_some_iff_append_eq.1 hcall
        exact pieceFault_of_readCall h
      · next hrequest =>
        split at h
        · cases h
        · obtain rfl := Except.error.inj h
          refine pieceFault_of_not_prefix ?_
          rintro ⟨rest, rfl⟩
          rw [List.isPrefixOf?_eq_some_iff_append_eq.2 rfl] at hrequest
          cases hrequest

/-! ## The leftmost faulty piece -/

lemma mapM_eq_error_iff {α β ε : Type} {f : α → Except ε β} {as : List α} {err : ε} :
    as.mapM f = .error err ↔ ∃ before a after bs, as = before ++ a :: after ∧
      before.mapM f = .ok bs ∧ f a = .error err := by
  constructor
  · intro h
    induction as with
    | nil => cases h
    | cons a as ih =>
      rw [List.mapM_cons, bind_eq_error_iff] at h
      rcases h with ha | ⟨b, ha, h⟩
      · exact ⟨[], a, as, [], rfl, rfl, ha⟩
      · rcases bind_eq_error_iff.1 h with hrest | ⟨bs, -, h⟩
        · obtain ⟨before, a', after, bs, rfl, hbefore, herr⟩ := ih hrest
          refine ⟨a :: before, a', after, b :: bs, rfl, ?_, herr⟩
          rw [List.mapM_cons, ha, hbefore]
          rfl
        · cases h
  · rintro ⟨before, a, after, bs, rfl, hbefore, herr⟩
    rw [List.mapM_append, List.mapM_cons, hbefore, herr]
    rfl

/-- The leftmost piece that spells no term: all pieces in front of it do. -/
def LeftmostFaulty (source : String) (piece : List Char) : Prop :=
  ∃ before after terms, IsCut source.toList (before ++ piece :: after) ∧
    List.Forall₂ SpellsPadded terms before ∧ ∀ t, ¬ SpellsPadded t piece

/-- The fault of a text that comes first.  If the text is malformed, nothing else matters. -/
inductive FirstFault (source : String) : ResolutionError → Prop where
  | malformed (h : Malformed source) : FirstFault source (.unsupportedGrammar source)
  | piece {piece : List Char} {e : ResolutionError} (hwell : ¬ Malformed source)
    (hpiece : LeftmostFaulty source piece) (h : PieceFault source (Text.trimChars piece) e) :
    FirstFault source e

lemma read_eq_error_iff_operands : read source = .error e ↔
    (operands? source = none ∧ e = .unsupportedGrammar source) ∨
      ∃ ps, operands? source = some ps ∧ ps.mapM (readTerm source) = .error e := by
  rw [read]
  cases operands? source with
  | none =>
    constructor
    · intro h
      exact .inl ⟨rfl, (Except.error.inj h).symm⟩
    · rintro (⟨-, rfl⟩ | ⟨ps, hps, -⟩)
      · rfl
      · cases hps
  | some ps =>
    have hmap : (ps.mapM (readTerm source)).map (fun terms => (⟨source, terms⟩ : KeyExpression)) =
        .error e ↔ ps.mapM (readTerm source) = .error e := by
      cases ps.mapM (readTerm source) with
      | error err => simp [Except.map]
      | ok terms => simp [Except.map]
    simp [hmap]

/-- Among pieces that are not blank, the first one that is not read is the leftmost faulty one. -/
lemma mapM_readTerm_eq_error_iff (hcut : IsCut source.toList pieces)
    (hblank : [] ∉ pieces.map Text.trimChars) :
    (pieces.map Text.trimChars).mapM (readTerm source) = .error e ↔
      ∃ piece, LeftmostFaulty source piece ∧ PieceFault source (Text.trimChars piece) e := by
  have hspells {piece : List Char} (hpiece : piece ∈ pieces) (t : Term) :
      SpellsPadded t piece ↔ readTerm source (Text.trimChars piece) = .ok t := by
    have hne : Text.trimChars piece ≠ [] := fun h => hblank (List.mem_map.2 ⟨piece, hpiece, h⟩)
    simp [spellsPadded_iff source, hcut.balanced piece hpiece, hne]
  rw [List.mapM_map, mapM_eq_error_iff]
  constructor
  · rintro ⟨before, piece, after, terms, rfl, hbefore, herr⟩
    refine ⟨piece, ⟨before, after, terms, hcut, ?_, ?_⟩, pieceFault_of_readTerm herr⟩
    · refine (forall₂_spellsPadded_iff source).2 ⟨?_, ?_, ?_⟩
      · intro p hp
        exact hcut.balanced p (by simp [hp])
      · intro hmem
        exact hblank (by simp [hmem])
      · rw [List.mapM_map]
        exact hbefore
    · intro t ht
      cases herr.symm.trans ((hspells (by simp) t).1 ht)
  · rintro ⟨piece, ⟨before, after, terms, hcut', hbefore, hno⟩, hfault⟩
    obtain rfl : pieces = before ++ piece :: after := by
      rw [← pieces?_eq_some_iff_isCut] at hcut hcut'
      exact Option.some.inj (hcut.symm.trans hcut')
    refine ⟨before, piece, after, terms, rfl, ?_, ?_⟩
    · rw [← List.mapM_map]
      exact ((forall₂_spellsPadded_iff source).1 hbefore).2.2
    · show readTerm source (Text.trimChars piece) = .error e
      cases hread : readTerm source (Text.trimChars piece) with
      | ok t => exact absurd ((hspells (by simp) t).2 hread) (hno t)
      | error err => rw [(pieceFault_of_readTerm hread).unique hfault]

/-- **The order of faults.**  A text does not compile if and only if it has a fault that comes
first, and this fault is the error.  No text has two. -/
theorem read_eq_error_iff (source : String) :
    (∀ e, read source = .error e ↔ FirstFault source e) ∧
    ((∀ k, read source ≠ .ok k) ↔ ∃ e, FirstFault source e) ∧
    ∀ e e', FirstFault source e → FirstFault source e' → e = e' := by
  have hfault (e : ResolutionError) : read source = .error e ↔ FirstFault source e := by
    rw [read_eq_error_iff_operands, operands?_eq_none_iff]
    constructor
    · rintro (⟨hmalformed, rfl⟩ | ⟨ps, hps, herr⟩)
      · exact .malformed hmalformed
      · obtain ⟨hblank, pieces, hpieces, rfl⟩ := operands?_eq_some_iff.1 hps
        obtain ⟨piece, hpiece, h⟩ :=
          (mapM_readTerm_eq_error_iff (pieces?_eq_some_iff_isCut.1 hpieces) hblank).1 herr
        refine .piece ?_ hpiece h
        rw [← operands?_eq_none_iff, hps]
        simp
    · intro h
      cases h with
      | malformed h => exact .inl ⟨h, rfl⟩
      | @piece piece e hwell hpiece h =>
        rw [← operands?_eq_none_iff, ← ne_eq, Option.ne_none_iff_exists'] at hwell
        obtain ⟨ps, hps⟩ := hwell
        obtain ⟨hblank, pieces, hpieces, rfl⟩ := operands?_eq_some_iff.1 hps
        exact .inr ⟨_, hps, (mapM_readTerm_eq_error_iff (pieces?_eq_some_iff_isCut.1 hpieces)
          hblank).2 ⟨piece, hpiece, h⟩⟩
  refine ⟨hfault, ?_, ?_⟩
  · simp only [← hfault]
    cases read source <;> simp
  · intro e e' he he'
    exact Except.error.inj (((hfault e).2 he).symm.trans ((hfault e').2 he'))

/-- Three faulty pieces, the first of which has a wrong argument as well. -/
example : read "#this.name + @currentRequest.getCookie('a' 'b') + @currentRequest.getHeader() + #" =
    .error (.unknownMethod "getCookie") := by
  rfl

end ClientCounters.KeyExpression
