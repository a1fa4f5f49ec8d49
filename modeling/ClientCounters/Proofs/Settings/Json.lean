/-
# Settings are read as they are written

An object may name the fields of settings in any order and leave some of them out, and what else it
holds makes no difference.  While the members are read the settings are those of the fields seen so
far (`only`), the others still having their defaults; so what comes out is decided by the fields
that are there.  A list gives the fields in their own order.  Nothing is read where a field is given
twice or the time limit is no duration, since each member that is read leaves just what follows it
(`takeField_rest`), whatever its value is.
-/
import Mathlib.Data.List.Forall2
import Mathlib.Data.List.Nodup
import ClientCounters.Proofs.Json.Lexing
import ClientCounters.Proofs.Json.Skip
import ClientCounters.Settings.Json

namespace ClientCounters

open Json (Value Token tokensBehindItem tokensBehindMember)

/-- A member of an object: its name, if it is a text, and its value. -/
abbrev Member := Option String × Value

namespace Settings

/-- Settings of which some fields are given; the others have their defaults. -/
def only (s : Settings) (given : List Field) : Settings where
  keys := if .keys ∈ given then s.keys else []
  space := if .space ∈ given then s.space else "user-agent"
  headerName := if .headerName ∈ given then s.headerName else "User-Agent"
  capacity := if .capacity ∈ given then s.capacity else 1024
  parseTimeout := if .parseTimeout ∈ given then s.parseTimeout else none

/-- The names that the fields have in an object. -/
def memberNames : List (String × Field) :=
  [("keys", .keys), ("prefix", .space), ("header_name", .headerName),
    ("cache_capacity", .capacity), ("parse_timeout", .parseTimeout)]

/-- The values that describe a field.  The capacity is written by its decimal digits, and the time
limit by any text that is read as it. -/
def Describes (s : Settings) : Field → Value → Prop
  | .keys, v => v = .list (s.keys.map fun key => .string (some key))
  | .space, v => v = .string (some s.space)
  | .headerName, v => v = .string (some s.headerName)
  | .capacity, v => v = .number ⟨false, Nat.toDigits 10 s.capacity, [], none⟩
  | .parseTimeout, v =>
    match s.parseTimeout with
    | none => v = .null
    | some d => ∃ text, Duration.read? text = some d ∧ v = .string (some text)

/-- The field that a member gives, if its name is known. -/
def fieldOf? (m : Member) : Option Field :=
  m.1.bind fun name => memberNames.lookup name

/-- The fields that some members give, in order. -/
def givenBy (members : List Member) : List Field :=
  members.filterMap fieldOf?

/-- Members that describe settings: each known field is given at most once, by a value that
describes it.  Members with other names may have any values. -/
structure DescribedBy (s : Settings) (members : List Member) : Prop where
  /-- The names are texts. -/
  named : ∀ m ∈ members, m.1.isSome
  described : ∀ m ∈ members, ∀ f ∈ fieldOf? m, s.Describes f m.2
  nodup : (givenBy members).Nodup

variable {s s' : Settings} {f : Field} {v : Value} {m : Member} {given seen : List Field}
  {members : List Member} {ts rest : List Token}

/-! ## Fields -/

/-- The names that are known are those of the fields. -/
lemma ofName?_eq_lookup (name : String) : Field.ofName? name = memberNames.lookup name := by
  simp only [Field.ofName?, Field.all, List.find?_cons, List.find?_nil, Field.name, memberNames,
    List.lookup_cons, List.lookup_nil, BEq.comm (a := name)]

lemma fieldOf?_some (name : String) (v : Value) : fieldOf? (some name, v) = Field.ofName? name :=
  (ofName?_eq_lookup name).symm

lemma only_nil : s.only [] = {} :=
  rfl

lemma only_congr {given' : List Field} (h : ∀ f, f ∈ given ↔ f ∈ given') :
    s.only given = s.only given' := by
  simp [only, h]

lemma only_eq_self (h : ∀ f, f ∈ given) : s.only given = s := by
  simp [only, h]

/-- The strings behind the first one are read up to the end of their list. -/
lemma takeMoreTexts_append (ss : List String) (ts : List Token) :
    takeMoreTexts (tokensBehindItem (ss.map fun s => .string (some s)) ++ ts) = .ok (ss, ts) := by
  induction ss with
  | nil => rfl
  | cons s ss ih =>
    rw [List.map_cons, Json.tokensBehindItem_append, Value.tokens, List.singleton_append,
      takeMoreTexts, ih]
    rfl

lemma takeTexts_append (ss : List String) (ts : List Token) :
    takeTexts ((Value.list (ss.map fun s => .string (some s))).tokens ++ ts) = .ok (ss, ts) := by
  cases ss with
  | nil => rfl
  | cons s ss =>
    rw [List.map_cons, Json.tokens_list_append, Value.tokens, List.singleton_append, takeTexts,
      takeMoreTexts_append]
    rfl

lemma takeTimeout_text (text : String) (ts : List Token) :
    takeTimeout (.string (some text) :: ts) =
      match Duration.read? text with
      | some d => .ok (some d, ts)
      | none => .error (.badTimeout text) :=
  (rfl)

/-- A value that describes a field is read up to its end, and gives the field. -/
lemma takeField_append (hcapacity : s.capacity < 2 ^ 64) (h : s.Describes f v)
    (given : List Field) (ts : List Token) :
    takeField (s.only given) (v.tokens ++ ts) f = .ok (s.only (f :: given), ts) := by
  cases f with
  | keys =>
    obtain rfl := h
    rw [takeField, takeTexts_append]
    simp [Except.map, only]
  | space =>
    obtain rfl := h
    simp [takeField, Value.tokens, takeText, Except.map, only]
  | headerName =>
    obtain rfl := h
    simp [takeField, Value.tokens, takeText, Except.map, only]
  | capacity =>
    obtain rfl := h
    simp [takeField, Value.tokens, takeCapacity, Json.NumberText.word?_toDigits hcapacity,
      Except.map, only]
  | parseTimeout =>
    rw [Describes] at h
    split at h
    · next hnone =>
      subst h
      have hread : takeTimeout (Value.null.tokens ++ ts) = .ok (none, ts) := rfl
      simp [takeField, hread, Except.map, only, hnone]
    · next d hsome =>
      obtain ⟨text, hread, rfl⟩ := h
      simp [takeField, Value.tokens, takeTimeout_text, hread, Except.map, only, hsome]

/-! ## Objects -/

/-- What a member adds to the fields seen before it. -/
def seenWith (m : Member) (seen : List Field) : List Field :=
  (fieldOf? m).toList ++ seen

/-- Members that go on with a description of settings in which some fields have been given. -/
structure Continues (s : Settings) (seen : List Field) (members : List Member) : Prop
    extends s.DescribedBy members where
  fresh : ∀ f ∈ givenBy members, f ∉ seen

lemma givenBy_cons (m : Member) (members : List Member) :
    givenBy (m :: members) = (fieldOf? m).toList ++ givenBy members := by
  rw [givenBy, List.filterMap_cons]
  cases fieldOf? m <;> rfl

lemma Continues.tail (h : s.Continues seen (m :: members)) :
    s.Continues (seenWith m seen) members := by
  obtain ⟨⟨hnamed, hdescribed, hnodup⟩, hfresh⟩ := h
  rw [givenBy_cons] at hnodup hfresh
  obtain ⟨-, hnodup, hapart⟩ := List.nodup_append.1 hnodup
  refine ⟨⟨fun m' hm' => hnamed m' (List.mem_cons_of_mem _ hm'),
    fun m' hm' => hdescribed m' (List.mem_cons_of_mem _ hm'), hnodup⟩, fun f hf hseen => ?_⟩
  rcases List.mem_append.1 hseen with hm | hseen
  · exact hapart f hm f hf rfl
  · exact hfresh f (List.mem_append_right _ hf) hseen

/-- A member of a description is read up to its end. -/
lemma takeMember_append (hcapacity : s.capacity < 2 ^ 64) {name : String}
    (h : s.Continues seen ((some name, v) :: members)) (ts : List Token) :
    takeMember (s.only seen) seen name (.colon :: (v.tokens ++ ts)) =
      .ok (s.only (seenWith (some name, v) seen), seenWith (some name, v) seen, ts) := by
  have hfield := fieldOf?_some name v
  rw [takeMember, seenWith, hfield]
  cases hname : Field.ofName? name with
  | none =>
    -- the value is passed over, whatever it is
    simp [Json.skipValue?_append]
  | some f =>
    have hgiven : f ∈ givenBy ((some name, v) :: members) := by
      simp [givenBy_cons, hfield, hname]
    have hvalue : s.Describes f v :=
      h.described _ List.mem_cons_self f (hfield.trans hname)
    simp [h.fresh f hgiven, takeField_append hcapacity hvalue, Except.map]

lemma reverse_givenBy_cons (m : Member) (members : List Member) (seen : List Field) :
    (givenBy (m :: members)).reverse ++ seen = (givenBy members).reverse ++ seenWith m seen := by
  rw [givenBy_cons, seenWith]
  cases fieldOf? m <;> simp

lemma takeMembers_eq (hcapacity : s.capacity < 2 ^ 64) (h : s.Continues seen members)
    {fuel : Nat} (hfuel : members.length < fuel) :
    takeMembers fuel (s.only seen) seen (tokensBehindMember members) =
      .ok (s.only ((givenBy members).reverse ++ seen), []) := by
  induction members generalizing seen fuel with
  | nil =>
    cases fuel with
    | zero => cases hfuel
    | succ fuel => rfl
  | cons m members ih =>
    cases fuel with
    | zero => cases hfuel
    | succ fuel =>
      obtain ⟨_ | name, v⟩ := m
      · cases h.named _ List.mem_cons_self
      · rw [tokensBehindMember, takeMembers, takeMember_append hcapacity h,
          reverse_givenBy_cons]
        exact ih h.tail (Nat.lt_of_succ_lt_succ hfuel)

lemma length_lt_tokens (members : List Member) :
    members.length < (tokensBehindMember members).length := by
  induction members with
  | nil => simp [tokensBehindMember]
  | cons m members ih =>
    obtain ⟨name, v⟩ := m
    simp only [tokensBehindMember, List.length_cons, List.length_append]
    omega

/-- An object that describes settings is read as the settings of the fields that it gives. -/
lemma take_object (hcapacity : s.capacity < 2 ^ 64) (h : s.DescribedBy members) :
    take (Value.object members).tokens = .ok (s.only (givenBy members), []) := by
  have hstart : s.Continues [] members := ⟨h, fun _ _ => List.not_mem_nil⟩
  have hgiven : s.only ((givenBy members).reverse ++ []) = s.only (givenBy members) :=
    only_congr fun f => by simp
  rw [← hgiven]
  rcases members with _ | ⟨⟨_ | name, v⟩, members⟩
  · rfl
  · cases h.named _ List.mem_cons_self
  · have hfuel := length_lt_tokens members
    rw [Value.tokens, take, ← only_nil (s := s), takeMember_append hcapacity hstart,
      reverse_givenBy_cons]
    refine takeMembers_eq hcapacity hstart.tail ?_
    simp only [List.length_cons, List.length_append]
    omega

/-! ## Lists -/

/-- No comma, and no end of the list, stands in front of a value. -/
lemma takeList_first (s : Settings) (v : Value) (ts : List Token) (f : Field)
    (fields : List Field) :
    takeList s true (v.tokens ++ ts) (f :: fields) =
      match takeField s (v.tokens ++ ts) f with
      | .ok (s, rest) => takeList s false rest fields
      | .error e => .error e := by
  obtain ⟨t, us, hv, ht⟩ := v.exists_cons
  rw [hv, List.cons_append]
  cases t <;> first | rfl | exact absurd rfl ht

lemma takeList_eq (hcapacity : s.capacity < 2 ^ 64) {fields : List Field}
    {items : List Value} (h : List.Forall₂ s.Describes fields items) (given later : List Field) :
    takeList (s.only given) false (tokensBehindItem items) (fields ++ later) =
      .ok (s.only (fields.reverse ++ given), []) := by
  induction h generalizing given with
  | nil => cases later <;> rfl
  | @cons f v fields items hv h ih =>
    rw [tokensBehindItem, List.cons_append, takeList, takeField_append hcapacity hv,
      List.reverse_cons, List.append_assoc]
    exact ih (f :: given)

/-- A list whose values describe the first fields is read as the settings of these fields. -/
lemma take_list (hcapacity : s.capacity < 2 ^ 64) {fields : List Field} {items : List Value}
    (hfields : fields <+: Field.all) (h : List.Forall₂ s.Describes fields items) :
    take (Value.list items).tokens = .ok (s.only fields, []) := by
  obtain ⟨later, hall⟩ := hfields
  cases h with
  | nil => rfl
  | @cons f v fields items hv h =>
    rw [Value.tokens, take, ← hall, List.cons_append, takeList_first, ← only_nil (s := s),
      takeField_append hcapacity hv]
    have hrest := takeList_eq hcapacity h [f] later
    have hsame : s.only (f :: fields) = s.only (fields.reverse ++ [f]) :=
      only_congr fun g => by simp [or_comm]
    rw [hsame]
    exact hrest

/-! ## Refused texts -/

/-- A time limit that is no duration. -/
def Refused (f : Field) (v : Value) : Prop :=
  f = .parseTimeout ∧ ∃ text, v = .string (some text) ∧ Duration.read? text = none

lemma exists_of_map_eq_ok {ε α β : Type} {x : Except ε α} {g : α → β} {b : β}
    (h : x.map g = .ok b) : ∃ a, x = .ok a ∧ g a = b := by
  cases x with
  | error e => cases h
  | ok a => exact ⟨a, rfl, Except.ok.inj h⟩

/-- What becomes of a value that was taken makes no difference to the tokens behind it. -/
lemma exists_taken {α β : Type} {x : Taken α} {g : α × List Token → β × List Token} {b : β}
    (h : x.map g = .ok (b, rest)) (hg : ∀ p, (g p).2 = p.2) : ∃ a, x = .ok (a, rest) := by
  obtain ⟨⟨a, more⟩, rfl, heq⟩ := exists_of_map_eq_ok h
  have hrest : rest = more := by simpa [heq] using hg (a, more)
  exact ⟨a, by rw [hrest]⟩

lemma takeText_rest {x : String} (h : takeText (v.tokens ++ ts) = .ok (x, rest)) : rest = ts := by
  rcases v with _ | _ | _ | ⟨_ | text⟩ | ⟨_ | ⟨v, vs⟩⟩ | ⟨_ | ⟨⟨name, v⟩, ms⟩⟩ <;>
    simp_all [Value.tokens, takeText]

lemma takeMoreTexts_rest {items : List Value} {ss : List String}
    (h : takeMoreTexts (tokensBehindItem items ++ ts) = .ok (ss, rest)) : rest = ts := by
  induction items generalizing ss with
  | nil => simp_all [tokensBehindItem, takeMoreTexts]
  | cons v items ih =>
    rw [Json.tokensBehindItem_append] at h
    rcases v with _ | _ | _ | ⟨_ | text⟩ | ⟨_ | ⟨v, vs⟩⟩ | ⟨_ | ⟨⟨name, v⟩, ms⟩⟩
    case string.some =>
      obtain ⟨ss, hmore⟩ := exists_taken h fun _ => rfl
      exact ih hmore
    all_goals cases h

lemma takeTexts_rest {ss : List String} (h : takeTexts (v.tokens ++ ts) = .ok (ss, rest)) :
    rest = ts := by
  rcases v with _ | _ | _ | _ | ⟨_ | ⟨v, vs⟩⟩ | ⟨_ | ⟨⟨name, v⟩, ms⟩⟩
  case list.nil => simp_all [Value.tokens, takeTexts]
  case list.cons =>
    rw [Json.tokens_list_append] at h
    rcases v with _ | _ | _ | ⟨_ | text⟩ | ⟨_ | ⟨v, vs⟩⟩ | ⟨_ | ⟨⟨name, v⟩, ms⟩⟩
    case string.some =>
      obtain ⟨ss, hmore⟩ := exists_taken h fun _ => rfl
      exact takeMoreTexts_rest hmore
    all_goals cases h
  all_goals cases h

lemma takeCapacity_rest {n : Nat} (h : takeCapacity (v.tokens ++ ts) = .ok (n, rest)) :
    rest = ts := by
  rcases v with _ | _ | w | _ | ⟨_ | ⟨v, vs⟩⟩ | ⟨_ | ⟨⟨name, v⟩, ms⟩⟩
  case number => cases hw : w.word? <;> simp_all [Value.tokens, takeCapacity]
  all_goals cases h

/-- Where a time limit is read it is a duration or null. -/
lemma takeTimeout_rest {d : Option Duration} (h : takeTimeout (v.tokens ++ ts) = .ok (d, rest)) :
    rest = ts ∧ ∀ text, v = .string (some text) → Duration.read? text ≠ none := by
  rcases v with _ | _ | _ | ⟨_ | text⟩ | ⟨_ | ⟨v, vs⟩⟩ | ⟨_ | ⟨⟨name, v⟩, ms⟩⟩
  case null =>
    cases h
    exact ⟨rfl, nofun⟩
  case string.some =>
    rw [Value.tokens, List.singleton_append, takeTimeout_text] at h
    split at h
    next limit hread =>
      cases h
      refine ⟨rfl, ?_⟩
      rintro _ ⟨⟩
      simp [hread]
    next => cases h
  all_goals cases h

/-- What is read as a field is a whole value, and no time limit that is no duration. -/
lemma takeField_rest (h : takeField s (v.tokens ++ ts) f = .ok (s', rest)) :
    rest = ts ∧ ¬ Refused f v := by
  cases f with
  | keys =>
    obtain ⟨ss, hread⟩ := exists_taken h fun _ => rfl
    exact ⟨takeTexts_rest hread, nofun⟩
  | space | headerName =>
    obtain ⟨text, hread⟩ := exists_taken h fun _ => rfl
    exact ⟨takeText_rest hread, nofun⟩
  | capacity =>
    obtain ⟨n, hread⟩ := exists_taken h fun _ => rfl
    exact ⟨takeCapacity_rest hread, nofun⟩
  | parseTimeout =>
    obtain ⟨d, hread⟩ := exists_taken h fun _ => rfl
    obtain ⟨hrest, hduration⟩ := takeTimeout_rest hread
    refine ⟨hrest, ?_⟩
    rintro ⟨-, text, hv, hnone⟩
    exact hduration text hv hnone

lemma takeMember_rest {name : String} {seen' : List Field}
    (h : takeMember s seen name (.colon :: (v.tokens ++ ts)) = .ok (s', seen', rest)) :
    rest = ts ∧ seen' = seenWith (some name, v) seen ∧
      ∀ f ∈ fieldOf? (some name, v), f ∉ seen ∧ ¬ Refused f v := by
  have hfield := fieldOf?_some name v
  rw [takeMember] at h
  rw [seenWith, hfield]
  cases hname : Field.ofName? name with
  | none =>
    simp only [hname, Json.skipValue?_append] at h
    cases h
    simp
  | some f =>
    simp only [hname] at h
    split at h
    · cases h
    next hseen =>
    obtain ⟨⟨_, more⟩, hread, heq⟩ := exists_of_map_eq_ok h
    cases heq
    obtain ⟨rfl, hvalue⟩ := takeField_rest hread
    refine ⟨rfl, rfl, fun f' hf' => ?_⟩
    obtain rfl := Option.some.inj hf'
    exact ⟨by simpa using hseen, hvalue⟩

lemma nodup_seenWith (hseen : seen.Nodup) (hm : ∀ f ∈ fieldOf? m, f ∉ seen) :
    (seenWith m seen).Nodup := by
  rw [seenWith]
  cases hfield : fieldOf? m with
  | none => exact hseen
  | some f => exact List.nodup_cons.2 ⟨hm f hfield, hseen⟩

/-- Where all members are read each field is given once, and no time limit is refused. -/
lemma takeMembers_accepts {fuel : Nat} {r : Settings × List Token} (hseen : seen.Nodup)
    (h : takeMembers fuel s seen (tokensBehindMember members) = .ok r) :
    ((givenBy members).reverse ++ seen).Nodup ∧
      ∀ m ∈ members, ∀ f ∈ fieldOf? m, ¬ Refused f m.2 := by
  induction members generalizing fuel s seen with
  | nil => exact ⟨by simpa [givenBy] using hseen, nofun⟩
  | cons m members ih =>
    obtain ⟨name, v⟩ := m
    cases fuel with
    | zero => cases h
    | succ fuel =>
      rw [tokensBehindMember] at h
      cases name with
      | none => cases h
      | some name =>
        rw [takeMembers] at h
        split at h
        next s' seen' rest hmember =>
          obtain ⟨rfl, rfl, hfield⟩ := takeMember_rest hmember
          obtain ⟨hnodup, hall⟩ := ih (nodup_seenWith hseen fun f hf => (hfield f hf).1) h
          rw [reverse_givenBy_cons]
          exact ⟨hnodup, List.forall_mem_cons.2 ⟨fun f hf => (hfield f hf).2, hall⟩⟩
        next => cases h

lemma take_object_accepts {r : Settings × List Token}
    (h : take (Value.object members).tokens = .ok r) :
    (givenBy members).Nodup ∧ ∀ m ∈ members, ∀ f ∈ fieldOf? m, ¬ Refused f m.2 := by
  rcases members with _ | ⟨⟨_ | name, v⟩, members⟩
  · exact ⟨List.nodup_nil, nofun⟩
  · cases h
  · rw [Value.tokens, take] at h
    split at h
    next s' seen' rest hmember =>
      obtain ⟨rfl, rfl, hfield⟩ := takeMember_rest hmember
      have hone := nodup_seenWith List.nodup_nil fun f hf => (hfield f hf).1
      obtain ⟨hnodup, hall⟩ := takeMembers_accepts hone h
      rw [← reverse_givenBy_cons, List.append_nil, List.nodup_reverse] at hnodup
      exact ⟨hnodup, List.forall_mem_cons.2 ⟨fun f hf => (hfield f hf).2, hall⟩⟩
    next => cases h

/-- Where all values of a list are read no time limit is refused. -/
lemma takeList_accepts {items : List Value} {fields : List Field} {r : Settings × List Token}
    (h : takeList s false (tokensBehindItem items) fields = .ok r) :
    ∀ p ∈ fields.zip items, ¬ Refused p.1 p.2 := by
  induction items generalizing fields s with
  | nil => simp
  | cons v items ih =>
    cases fields with
    | nil => simp
    | cons f fields =>
      rw [tokensBehindItem, takeList] at h
      split at h
      next s' rest hfield =>
        obtain ⟨rfl, hv⟩ := takeField_rest hfield
        exact List.forall_mem_cons.2 ⟨hv, ih h⟩
      next => cases h

lemma take_list_accepts {items : List Value} {r : Settings × List Token}
    (h : take (Value.list items).tokens = .ok r) :
    ∀ p ∈ Field.all.zip items, ¬ Refused p.1 p.2 := by
  cases items with
  | nil => simp
  | cons v items =>
    rw [Value.tokens, take, Field.all, takeList_first] at h
    split at h
    next s' rest hfield =>
      obtain ⟨rfl, hv⟩ := takeField_rest hfield
      exact List.forall_mem_cons.2 ⟨hv, takeList_accepts h⟩
    next => cases h

/-! ## Texts -/

lemma ofJson_of_take {text : String} (hv : v.Rendering text) (h : take v.tokens = .ok (s, [])) :
    ofJson text = .ok s := by
  rw [ofJson, hv.tokens_eq, h]

/-- A text is refused if its value is not read. -/
lemma ofJson_eq_error {text : String} (hv : v.Rendering text)
    (h : ∀ r, take v.tokens ≠ .ok r) : ∃ e, ofJson text = .error e := by
  rw [ofJson, hv.tokens_eq]
  cases htake : take v.tokens with
  | error e => exact ⟨e, rfl⟩
  | ok r => exact absurd htake (h r)

/-- **Settings are read as they are written.**  An object may give the fields in any order, with any
white space and any escapes, and may have other members anywhere, also several of one name, whatever
their values are; a field that is not given has its default.  A list that gives the first fields
comes to the same as an object that gives them.  A text is refused if it gives a field twice,
whatever else it holds, or if its time limit is a string but no duration. -/
theorem json_faithful (hcapacity : s.capacity < 2 ^ 64) :
    (∀ members text, (Value.object members).Rendering text → s.DescribedBy members →
      ofJson text = .ok (s.only (givenBy members)) ∧
      ((∀ f, f ∈ givenBy members) → ofJson text = .ok s)) ∧
    (∀ fields items text, fields <+: [.keys, .space, .headerName, .capacity, .parseTimeout] →
      (Value.list items).Rendering text → List.Forall₂ s.Describes fields items →
      ofJson text = .ok (s.only fields) ∧
      ∀ members text', (Value.object members).Rendering text' → s.DescribedBy members →
        (∀ f, f ∈ givenBy members ↔ f ∈ fields) → ofJson text' = ofJson text) ∧
    (∀ members text, (Value.object members).Rendering text → ¬ (givenBy members).Nodup →
      ∃ e, ofJson text = .error e) ∧
    (∀ members text limit, (Value.object members).Rendering text →
      (some "parse_timeout", .string (some limit)) ∈ members → Duration.read? limit = none →
      ∃ e, ofJson text = .error e) ∧
    ∀ items text limit, (Value.list items).Rendering text →
      items[4]? = some (.string (some limit)) → Duration.read? limit = none →
      ∃ e, ofJson text = .error e := by
  refine ⟨fun members text htext h => ?_, fun fields items text hfields htext h => ?_,
    fun members text htext h => ?_, fun members text limit htext hm h => ?_,
    fun items text limit htext hv h => ?_⟩
  · have hgiven := ofJson_of_take htext (take_object hcapacity h)
    exact ⟨hgiven, fun hall => by rw [hgiven, only_eq_self hall]⟩
  · have hgiven := ofJson_of_take htext (take_list hcapacity hfields h)
    refine ⟨hgiven, fun members text' htext' h' hsame => ?_⟩
    rw [hgiven, ofJson_of_take htext' (take_object hcapacity h'), only_congr hsame]
  · exact ofJson_eq_error htext fun r hr => h (take_object_accepts hr).1
  · refine ofJson_eq_error htext fun r hr => ?_
    exact (take_object_accepts hr).2 _ hm .parseTimeout rfl ⟨rfl, limit, rfl, h⟩
  · refine ofJson_eq_error htext fun r hr => ?_
    have hmem : (Field.parseTimeout, Value.string (some limit)) ∈ Field.all.zip items :=
      List.mem_of_getElem? (List.getElem?_zip_eq_some.2 ⟨rfl, hv⟩)
    exact take_list_accepts hr _ hmem ⟨rfl, limit, rfl, h⟩

lemma rendering_of_rendered {v : Value} {cs : List Char} {text : String}
    (h : Json.Rendered v.tokens cs) (htext : cs = text.toList) : v.Rendering text := by
  rw [Value.Rendering, ← htext]
  exact h

/-- The name of the keys, with an escape in it. -/
lemma stringText_keys :
    Json.StringText (some "keys") ['k', '\\', 'u', '0', '0', '6', '5', 'y', 's'] := by
  have hdigit {n : Nat} {c : Char} (h : n < 16 ∧ c = n.digitChar) : Json.HexDigit n c :=
    ⟨h.1, .inl h.2⟩
  have hescape := Json.ItemText.unit (hdigit (by decide : 0 < 16 ∧ '0' = Nat.digitChar 0))
    (hdigit (by decide : 0 < 16 ∧ '0' = Nat.digitChar 0))
    (hdigit (by decide : 6 < 16 ∧ '6' = Nat.digitChar 6))
    (hdigit (by decide : 5 < 16 ∧ '5' = Nat.digitChar 5))
  exact .spelled (.cons (.plain rfl) (.cons hescape (.cons (.plain rfl) (.cons (.plain rfl) .nil))))
    (.char 'k' (.unit 'e' (by decide) (.char 'y' (.char 's' .nil))))

/-- All fields are given, none of them by its default: by an object with the fields in an order of
their own, a member of another name in front and an escape in the name of the keys, and by a
list. -/
theorem json_faithful_of_escaped_name :
    let s : Settings := ⟨["a"], "p", "X-Client", 7, some (.ofMilliseconds 5000)⟩
    let object := "\x7b\"x\":[\x7b\x7d] ,\"k\\u0065ys\": [\"a\"],\"cache_capacity\":7," ++
      "\"parse_timeout\":\"5s\",\"prefix\":\"p\",\"header_name\":\"X-Client\"\x7d"
    let list := "[[\"a\"],\"p\",\"X-Client\",7,\"5s\"]"
    s.capacity < 2 ^ 64 ∧ ofJson object = .ok s ∧ ofJson list = .ok s := by
  intro s object list
  let number : Json.NumberText := ⟨false, Nat.toDigits 10 7, [], none⟩
  let members : List Member :=
    [(some "x", .list [.object []]), (some "keys", .list [.string (some "a")]),
      (some "cache_capacity", .number number), (some "parse_timeout", .string (some "5s")),
      (some "prefix", .string (some "p")), (some "header_name", .string (some "X-Client"))]
  let items : List Value := [.list [.string (some "a")], .string (some "p"),
    .string (some "X-Client"), .number number, .string (some "5s")]
  have hcapacity : s.capacity < 2 ^ 64 := by decide
  have htimeout : s.Describes .parseTimeout (.string (some "5s")) :=
    ⟨"5s", by decide +kernel, rfl⟩
  have hnumber : Json.TokenText (.number number) (Nat.toDigits 10 7) :=
    .number (Json.NumberText.written_toDigits 7)
  have hplain (t : String) (h : t.toList.all Json.isPlain) :=
    Json.TokenText.string (Json.stringText_plain h)
  have ha := hplain "a" rfl
  have hp := hplain "p" rfl
  have hclient := hplain "X-Client" rfl
  have hfive := hplain "5s" rfl
  have hlisted : (Value.list items).Rendering list := by
    have hend : Json.Rendered [.closeList] [']'] := .next .closeList (.nil nofun)
    have hall := hend.next hfive |>.next .comma |>.next hnumber |>.next .comma |>.next hclient
      |>.next .comma |>.next hp |>.next .comma |>.next .closeList |>.next ha |>.next .openList
      |>.next .openList
    exact rendering_of_rendered hall (by decide +kernel +zetaReduce)
  have hwritten : (Value.object members).Rendering object := by
    have hspace : Json.Blank [' '] := by simp [Json.Blank]
    have hend : Json.Rendered [.closeObject] ['\x7d'] := .next .closeObject (.nil nofun)
    have htail := hend.next hclient |>.next .colon |>.next (hplain "header_name" rfl)
      |>.next .comma |>.next hp |>.next .colon |>.next (hplain "prefix" rfl)
      |>.next .comma |>.next hfive |>.next .colon |>.next (hplain "parse_timeout" rfl)
      |>.next .comma |>.next hnumber |>.next .colon |>.next (hplain "cache_capacity" rfl)
    have hall := htail.next .comma |>.next .closeList |>.next ha |>.next .openList
      |>.behindBlank hspace |>.next .colon |>.next (.string stringText_keys) |>.next .comma
      |>.behindBlank hspace |>.next .closeList |>.next .closeObject |>.next .openObject
      |>.next .openList |>.next .colon |>.next (hplain "x" rfl) |>.next .openObject
    exact rendering_of_rendered hall (by decide +kernel +zetaReduce)
  have hfield {name : String} {v : Value} {f g : Field} (hf : f ∈ fieldOf? (some name, v))
      (hg : memberNames.lookup name = some g) : g = f := Option.some.inj (hg.symm.trans hf)
  have hdescribed : s.DescribedBy members := by
    refine ⟨by simp [members], ?_, by decide +zetaReduce⟩
    simp only [members, List.forall_mem_cons]
    refine ⟨nofun, ?_, ?_, ?_, ?_, ?_, nofun⟩
    · exact fun f hf => hfield hf rfl ▸ rfl
    · exact fun f hf => hfield hf rfl ▸ rfl
    · exact fun f hf => hfield hf rfl ▸ htimeout
    · exact fun f hf => hfield hf rfl ▸ rfl
    · exact fun f hf => hfield hf rfl ▸ rfl
  obtain ⟨hobject, hlist, -⟩ := json_faithful hcapacity
  refine ⟨hcapacity, (hobject members object hwritten hdescribed).1, ?_⟩
  have hitems : List.Forall₂ s.Describes [.keys, .space, .headerName, .capacity, .parseTimeout]
      items := .cons rfl (.cons rfl (.cons rfl (.cons rfl (.cons htimeout .nil))))
  exact (hlist _ items list List.prefix_rfl hlisted hitems).1

end Settings

end ClientCounters
