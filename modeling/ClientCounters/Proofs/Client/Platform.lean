/-
# Which operating system a text names

Seven markers name the operating systems, in a fixed order.  The first marker of the order that
stands anywhere in a text decides, and the leftmost place where it stands gives the version; a text
without a marker names no system (`systems_detected`).  Where a marker stands is said without the
functions that look for it.
-/
import ClientCounters.Proofs.Client.Classification

namespace ClientCounters

/-! ## Patterns -/

namespace Pattern

variable {read : List Char → Option (List Char)} {Reads : List Char → List Char → Prop}
  {word : String} {p : Char → Bool} {cs rest v : List Char}

/-- A version is read at the leftmost place where one is read.  A place is given by what stands
there, so that the leftmost one has the longest text. -/
def IsLeftmost (Reads : List Char → List Char → Prop) (cs v : List Char) : Prop :=
  ∃ behind, behind <:+ cs ∧ Reads behind v ∧
    ∀ longer, longer <:+ cs → behind.length < longer.length → ∀ v', ¬ Reads longer v'

/-- A search finds what is read at the leftmost place. -/
lemma search_eq_some_iff (h : ∀ cs v, read cs = some v ↔ Reads cs v) :
    search read cs = some v ↔ IsLeftmost Reads cs v := by
  have hnone (cs : List Char) : (∀ v, ¬ Reads cs v) ↔ read cs = none := by
    simp only [← h, Option.eq_none_iff_forall_ne_some, ne_eq]
  simp only [IsLeftmost, hnone]
  simp only [← h]
  induction cs with
  | nil => simp [search]
  | cons c cs ih =>
    rw [search]
    split
    · next w hread =>
      constructor
      · rintro ⟨⟩
        refine ⟨c :: cs, List.suffix_rfl, hread, fun longer hlonger hlt => ?_⟩
        exact absurd hlonger.length_le (Nat.not_le_of_lt hlt)
      · rintro ⟨behind, hbehind, hv, hfirst⟩
        rcases List.suffix_cons_iff.1 hbehind with rfl | hbehind
        · exact hread.symm.trans hv
        · have hlt : behind.length < (c :: cs).length := Nat.lt_succ_of_le hbehind.length_le
          cases hread.symm.trans (hfirst _ List.suffix_rfl hlt)
    · next hread =>
      refine ih.trans ⟨?_, ?_⟩
      · rintro ⟨behind, hbehind, hv, hfirst⟩
        refine ⟨behind, hbehind.trans (List.suffix_cons c cs), hv, fun longer hlonger hlt => ?_⟩
        rcases List.suffix_cons_iff.1 hlonger with rfl | hlonger
        · exact hread
        · exact hfirst longer hlonger hlt
      · rintro ⟨behind, hbehind, hv, hfirst⟩
        rcases List.suffix_cons_iff.1 hbehind with rfl | hbehind
        · cases hread.symm.trans hv
        · exact ⟨behind, hbehind, hv, fun longer hlonger =>
            hfirst longer (hlonger.trans (List.suffix_cons c cs))⟩

/-- A run of characters of a class is as long as it can be. -/
def IsRun (p : Char → Bool) (taken rest : List Char) : Prop :=
  (∀ c ∈ taken, p c = true) ∧ ∀ c ∈ rest.head?, p c = false

/-- A space that may be missing is taken where it stands. -/
def IsGap (gap rest : List Char) : Prop :=
  gap = [' '] ∨ gap = [] ∧ rest.head? ≠ some ' '

/-- A word stands at the front, and no version with it. -/
def Bare (word : String) (cs v : List Char) : Prop :=
  v = [] ∧ word.toList <+: cs

/-- A word stands at the front, with a version behind it that may be missing. -/
def Versioned (word : String) (p : Char → Bool) (cs v : List Char) : Prop :=
  ∃ gap rest, cs = word.toList ++ (gap ++ (v ++ rest)) ∧ IsGap gap (v ++ rest) ∧ IsRun p v rest

/-- One of some devices stands at the front, then a word, and a version behind it. -/
def Numbered (devices : List String) (word : String) (p : Char → Bool) (cs v : List Char) : Prop :=
  ∃ device ∈ devices, ∃ rest, cs = device.toList ++ (word.toList ++ (v ++ rest)) ∧ v ≠ [] ∧
    IsRun p v rest

/-- A word stands at the front, with two numbers behind it that have a dot between them. -/
def Released (word : String) (cs v : List Char) : Prop :=
  ∃ major minor rest, cs = word.toList ++ (major ++ '.' :: (minor ++ rest)) ∧
    v = major ++ '.' :: minor ∧ major ≠ [] ∧ (∀ c ∈ major, c.isDigit = true) ∧ minor ≠ [] ∧
    IsRun Char.isDigit minor rest

lemma bare_iff : ((behind? word cs).map fun _ => []) = some v ↔ Bare word cs v := by
  simp only [Option.map_eq_some_iff, behind?_eq_some_iff, Bare, List.IsPrefix]
  constructor
  · rintro ⟨rest, rfl, rfl⟩
    exact ⟨rfl, rest, rfl⟩
  · rintro ⟨rfl, rest, rfl⟩
    exact ⟨rest, rfl, rfl⟩

lemma skipSpace_eq_iff : skipSpace cs = rest ↔ ∃ gap, cs = gap ++ rest ∧ IsGap gap rest := by
  constructor
  · rintro rfl
    unfold skipSpace
    split
    · next rest => exact ⟨[' '], rfl, .inl rfl⟩
    · next hspace =>
      refine ⟨[], rfl, .inr ⟨rfl, fun hhead => ?_⟩⟩
      obtain ⟨rest, rfl⟩ := List.head?_eq_some_iff.1 hhead
      exact hspace rest rfl
  · rintro ⟨gap, rfl, rfl | ⟨rfl, hhead⟩⟩
    · rfl
    · rw [List.nil_append]
      unfold skipSpace
      split
      · exact absurd rfl hhead
      · rfl

lemma versioned_iff : ((behind? word cs).map fun rest => (skipSpace rest).takeWhile p) = some v ↔
    Versioned word p cs v := by
  simp only [Option.map_eq_some_iff, behind?_eq_some_iff]
  constructor
  · rintro ⟨behind, rfl, rfl⟩
    obtain ⟨gap, hbehind, hgap⟩ := skipSpace_eq_iff.1 (Eq.refl (skipSpace behind))
    obtain ⟨hsplit, hrun⟩ := Text.takeWhile_dropWhile_iff.1
      ⟨Eq.refl ((skipSpace behind).takeWhile p), Eq.refl ((skipSpace behind).dropWhile p)⟩
    refine ⟨gap, (skipSpace behind).dropWhile p, ?_, ?_, hrun⟩ <;> rw [← hsplit]
    · rw [← hbehind]
    · exact hgap
  · rintro ⟨gap, rest, rfl, hgap, hrun⟩
    refine ⟨_, rfl, ?_⟩
    rw [skipSpace_eq_iff.2 ⟨gap, rfl, hgap⟩]
    exact (Text.takeWhile_dropWhile_iff.2 ⟨rfl, hrun⟩).1

lemma windows?_eq_some_iff : windows? cs = some v ↔ Released "Windows NT " cs v := by
  simp only [windows?, Option.bind_eq_bind, Option.bind_eq_some_iff, behind?_eq_some_iff,
    Prod.exists, run?_eq_some_iff]
  constructor
  · rintro ⟨_, rfl, major, _, ⟨rfl, hmajor, hdigits, -⟩, _, rfl, minor, rest, ⟨rfl, hminor, hrun⟩,
      heq⟩
    exact ⟨major, minor, rest, rfl, (Option.some.inj heq).symm, hmajor, hdigits, hminor, hrun⟩
  · rintro ⟨major, minor, rest, rfl, rfl, hmajor, hdigits, hminor, hrun⟩
    refine ⟨_, rfl, major, _, ⟨rfl, hmajor, hdigits, ?_⟩, _, rfl, minor, rest, ⟨rfl, hminor, hrun⟩,
      rfl⟩
    rintro c ⟨⟩
    rfl

lemma phone?_eq_some_iff : phone? cs = some v ↔
    Numbered ["iPhone", "CPU"] " OS " (fun c => c.isDigit || c == '_') cs v := by
  have hdevice : ∀ behind, (behind? "iPhone" cs).or (behind? "CPU" cs) = some behind ↔
      ∃ device ∈ ["iPhone", "CPU"], cs = device.toList ++ behind := by
    intro behind
    rw [Option.or_eq_some_iff, behind?_eq_some_iff, behind?_eq_some_iff]
    simp only [List.mem_cons, List.not_mem_nil, or_false, exists_eq_or_imp, exists_eq_left]
    constructor
    · exact Or.imp_right And.right
    · rintro (h | rfl)
      · exact .inl h
      · exact .inr ⟨rfl, rfl⟩
  simp only [phone?, Option.bind_eq_bind, Option.bind_eq_some_iff, hdevice, behind?_eq_some_iff,
    Prod.exists, run?_eq_some_iff]
  constructor
  · rintro ⟨_, ⟨device, hmem, rfl⟩, _, rfl, version, rest, ⟨rfl, hne, hrun⟩, heq⟩
    obtain rfl := Option.some.inj heq
    exact ⟨device, hmem, rest, rfl, hne, hrun⟩
  · rintro ⟨device, hmem, rest, rfl, hne, hrun⟩
    exact ⟨_, ⟨device, hmem, rfl⟩, _, rfl, v, rest, ⟨rfl, hne, hrun⟩, rfl⟩

end Pattern

/-! ## Markers -/

/-- What names an operating system. -/
inductive SystemMarker where
  | windowsPhone
  | windowsNt
  | phone
  | android
  | chromeOs
  | mac
  | linux
deriving DecidableEq

namespace SystemMarker

open Pattern

/-- The markers in the order in which they decide. -/
def all : List SystemMarker :=
  [windowsPhone, windowsNt, phone, android, chromeOs, mac, linux]

/-- The place of a marker in the order. -/
def rank (m : SystemMarker) : Nat :=
  all.idxOf m

/-- A marker stands at the front of a text, with a version. -/
def Reads : SystemMarker → List Char → List Char → Prop
  | windowsPhone => Bare "Windows Phone"
  | windowsNt => Released "Windows NT "
  | phone => Numbered ["iPhone", "CPU"] " OS " fun c => c.isDigit || c == '_'
  | android => Versioned "Android" fun c => c.isDigit || c == '.'
  | chromeOs => Bare "CrOS"
  | mac => Versioned "Mac OS X" fun c => c.isDigit || c == '_' || c == '.'
  | linux => Bare "Linux"

/-- A marker stands somewhere in a text. -/
def StandsIn (m : SystemMarker) (cs : List Char) : Prop :=
  ∃ behind v, behind <:+ cs ∧ m.Reads behind v

/-- A marker stands in a text and none that comes before it in the order does. -/
def Wins (m : SystemMarker) (cs : List Char) : Prop :=
  m.StandsIn cs ∧ ∀ m' : SystemMarker, m'.rank < m.rank → ¬ m'.StandsIn cs

/-- The names of the Windows releases that are known by their versions. -/
def windowsReleases : List (String × String) :=
  [("10.0", "Windows 10"), ("6.3", "Windows 8.1"), ("6.2", "Windows 8"), ("6.1", "Windows 7"),
    ("6.0", "Windows Vista"), ("5.1", "Windows XP"), ("5.2", "Windows XP")]

/-- The name of a system by its marker and its version. -/
def name : SystemMarker → String → String
  | windowsPhone, _ => "Windows Phone"
  | windowsNt, version => (windowsReleases.lookup version).getD ("Windows NT " ++ version)
  | phone, _ => "iOS"
  | android, _ => "Android"
  | chromeOs, _ => "Chrome OS"
  | mac, _ => "OS X"
  | linux, _ => "Linux"

/-- The family of a system by its marker. -/
def family : SystemMarker → String
  | windowsPhone | windowsNt => "Windows"
  | phone => "iOS"
  | android => "Android"
  | chromeOs => "Chrome OS"
  | mac => "OS X"
  | linux => "Linux"

/-- A version as it is shown, with dots for its underscores. -/
def shown (v : List Char) : String :=
  String.ofList (v.map fun c => if c = '_' then '.' else c)

/-- The system that a marker names with the version that it reads. -/
def system (m : SystemMarker) (v : List Char) : OperatingSystem :=
  ⟨m.name (shown v), m.family, shown v⟩

/-- The pattern that looks for a marker. -/
def read? : SystemMarker → List Char → Option (List Char)
  | windowsPhone, cs => (behind? "Windows Phone" cs).map fun _ => []
  | windowsNt, cs => windows? cs
  | phone, cs => phone? cs
  | android, cs => android? cs
  | chromeOs, cs => (behind? "CrOS" cs).map fun _ => []
  | mac, cs => mac? cs
  | linux, cs => (behind? "Linux" cs).map fun _ => []

variable {m : SystemMarker} {cs v : List Char}

lemma read?_eq_some_iff (m : SystemMarker) (cs v : List Char) :
    m.read? cs = some v ↔ m.Reads cs v := by
  cases m with
  | windowsPhone => exact bare_iff
  | windowsNt => exact windows?_eq_some_iff
  | phone => exact phone?_eq_some_iff
  | android => exact versioned_iff
  | chromeOs => exact bare_iff
  | mac => exact versioned_iff
  | linux => exact bare_iff

lemma search_read?_eq_some_iff : search m.read? cs = some v ↔ IsLeftmost m.Reads cs v :=
  search_eq_some_iff m.read?_eq_some_iff

lemma search_read?_eq_none_iff : search m.read? cs = none ↔ ¬ m.StandsIn cs := by
  rw [← Option.not_isSome_iff_eq_none, search_isSome_iff, StandsIn]
  simp only [Option.isSome_iff_exists, read?_eq_some_iff, exists_and_left]

/-! ## Versions -/

/-- The characters of a version; only two markers read underscores. -/
lemma mem_of_reads (h : m.Reads cs v) : ∀ c ∈ v,
    c.isDigit = true ∨ c = '.' ∨ c = '_' ∧ (m = phone ∨ m = mac) := by
  cases m with
  | windowsPhone | chromeOs | linux =>
    obtain ⟨rfl, -⟩ := h
    exact nofun
  | windowsNt =>
    obtain ⟨major, minor, rest, -, rfl, -, hmajor, -, hminor, -⟩ := h
    intro c hc
    rw [List.mem_append, List.mem_cons] at hc
    rcases hc with hc | rfl | hc
    · exact .inl (hmajor c hc)
    · exact .inr (.inl rfl)
    · exact .inl (hminor c hc)
  | phone =>
    obtain ⟨device, -, rest, -, -, hrun, -⟩ := h
    intro c hc
    have hclass := hrun c hc
    rw [Bool.or_eq_true, beq_iff_eq] at hclass
    exact hclass.imp_right fun hc => .inr ⟨hc, .inl rfl⟩
  | android =>
    obtain ⟨gap, rest, -, -, hrun, -⟩ := h
    intro c hc
    have hclass := hrun c hc
    rw [Bool.or_eq_true, beq_iff_eq] at hclass
    exact hclass.imp_right .inl
  | mac =>
    obtain ⟨gap, rest, -, -, hrun, -⟩ := h
    intro c hc
    have hclass := hrun c hc
    rw [Bool.or_eq_true, Bool.or_eq_true, beq_iff_eq, beq_iff_eq] at hclass
    rcases hclass with (hc | hc) | hc
    · exact .inl hc
    · exact .inr (.inr ⟨hc, .inr rfl⟩)
    · exact .inr (.inl hc)

lemma dotted_eq_shown (v : List Char) : OperatingSystem.dotted v = shown v :=
  rfl

lemma shown_eq_ofList (h : '_' ∉ v) : shown v = String.ofList v := by
  have hmap : v.map (fun c => if c = '_' then '.' else c) = v.map id :=
    List.map_congr_left fun c hc => if_neg fun heq => h (Eq.subst heq hc)
  rw [shown, hmap, List.map_id]

lemma windowsName_eq (version : String) :
    OperatingSystem.windowsName version = windowsNt.name version := by
  unfold OperatingSystem.windowsName
  split <;> simp_all [name, windowsReleases, List.lookup_cons, beq_false_of_ne]

/-! ## The marker that decides -/

lemma occurs_eq_isSome (word : String) (cs : List Char) : occurs word cs =
    (search (fun cs => (behind? word cs).map fun _ => ([] : List Char)) cs).isSome := by
  rw [Bool.eq_iff_iff, occurs, search_isSome_iff, search_isSome_iff]
  simp only [Option.isSome_map]
  rfl

/-- Windows and Android have no underscores in their versions. -/
lemma shown_of_search (hm : m = windowsNt ∨ m = android) (h : search m.read? cs = some v) :
    shown v = String.ofList v := by
  obtain ⟨behind, -, hreads, -⟩ := search_read?_eq_some_iff.1 h
  refine shown_eq_ofList fun hmem => ?_
  have hchar := mem_of_reads hreads _ hmem
  rcases hm with rfl | rfl <;> simp at hchar

/-- No version is read with a marker that is a word alone. -/
lemma eq_nil_of_search (hm : m = windowsPhone ∨ m = chromeOs ∨ m = linux)
    (h : search m.read? cs = some v) : v = [] := by
  obtain ⟨behind, -, hreads, -⟩ := search_read?_eq_some_iff.1 h
  rcases hm with rfl | rfl | rfl <;> exact hreads.1

/-- The markers are looked for in their order. -/
lemma detect_eq (cs : List Char) : OperatingSystem.detect cs =
    ((all.findSome? fun m => (search m.read? cs).map m.system).getD .unknown) := by
  have hmobile : occurs "Windows Phone" cs = (search windowsPhone.read? cs).isSome :=
    occurs_eq_isSome _ cs
  have hwindows : search windows? cs = search windowsNt.read? cs := rfl
  have hphone : search phone? cs = search phone.read? cs := rfl
  have handroid : search android? cs = search android.read? cs := rfl
  have hchrome : occurs "CrOS" cs = (search chromeOs.read? cs).isSome := occurs_eq_isSome _ cs
  have hmac : search mac? cs = search mac.read? cs := rfl
  have hlinux : occurs "Linux" cs = (search linux.read? cs).isSome := occurs_eq_isSome _ cs
  rw [OperatingSystem.detect, hmobile, hwindows, hphone, handroid, hchrome, hmac, hlinux]
  simp only [all, List.findSome?_cons, List.findSome?_nil, dotted_eq_shown]
  cases h : search windowsPhone.read? cs with
  | some v =>
    obtain rfl := eq_nil_of_search (.inl rfl) h
    rfl
  | none =>
  cases h : search windowsNt.read? cs with
  | some v =>
    have hshown := shown_of_search (.inl rfl) h
    show OperatingSystem.mk _ _ _ = windowsNt.system v
    rw [system, hshown, windowsName_eq]
    rfl
  | none =>
  cases h : search phone.read? cs with
  | some v => rfl
  | none =>
  cases h : search android.read? cs with
  | some v =>
    have hshown := shown_of_search (.inr rfl) h
    show OperatingSystem.mk _ _ _ = android.system v
    rw [system, hshown]
    rfl
  | none =>
  cases h : search chromeOs.read? cs with
  | some v =>
    obtain rfl := eq_nil_of_search (.inr (.inl rfl)) h
    rfl
  | none =>
  cases h : search mac.read? cs with
  | some v => rfl
  | none =>
  cases h : search linux.read? cs with
  | some v =>
    obtain rfl := eq_nil_of_search (.inr (.inr rfl)) h
    rfl
  | none => rfl

/-- The first marker of the order names the system. -/
lemma detect_of_wins (hwins : m.Wins cs) (hv : IsLeftmost m.Reads cs v) :
    OperatingSystem.detect cs = m.system v := by
  have hsplit : all = all.take m.rank ++ m :: all.drop (m.rank + 1) := by cases m <;> rfl
  have hbefore : ∀ m' ∈ all.take m.rank, m'.rank < m.rank := by cases m <;> decide
  have hfind : all.findSome? (fun m => (search m.read? cs).map m.system) = some (m.system v) := by
    refine List.findSome?_eq_some_iff.2 ⟨_, m, _, hsplit, ?_, fun m' hm' => ?_⟩
    · rw [search_read?_eq_some_iff.2 hv, Option.map_some]
    · rw [search_read?_eq_none_iff.2 (hwins.2 m' (hbefore m' hm')), Option.map_none]
  rw [detect_eq, hfind, Option.getD_some]

lemma detect_of_none (h : ∀ m : SystemMarker, ¬ m.StandsIn cs) :
    OperatingSystem.detect cs = .unknown := by
  have hfind : all.findSome? (fun m => (search m.read? cs).map m.system) = none := by
    refine List.findSome?_eq_none_iff.2 fun m _ => ?_
    rw [search_read?_eq_none_iff.2 (h m), Option.map_none]
  rw [detect_eq, hfind, Option.getD_none]

lemma exists_leftmost (h : m.StandsIn cs) : ∃ v, IsLeftmost m.Reads cs v := by
  simp only [← search_read?_eq_some_iff, ← Option.ne_none_iff_exists']
  exact mt search_read?_eq_none_iff.1 (not_not.2 h)

/-- Of the markers in a text one comes first in the order. -/
lemma exists_wins (h : m.StandsIn cs) : ∃ m' : SystemMarker, m'.Wins cs ∧ m'.rank ≤ m.rank := by
  induction hrank : m.rank using Nat.strongRecOn generalizing m with
  | _ n ih =>
    subst hrank
    by_cases hfirst : ∃ m' : SystemMarker, m'.rank < m.rank ∧ m'.StandsIn cs
    · obtain ⟨m', hlt, hm'⟩ := hfirst
      obtain ⟨w, hw, hle⟩ := ih _ hlt hm' rfl
      exact ⟨w, hw, Nat.le_trans hle (Nat.le_of_lt hlt)⟩
    · exact ⟨m, ⟨h, fun m' hlt hm' => hfirst ⟨m', hlt, hm'⟩⟩, Nat.le_refl _⟩

end SystemMarker

/-! ## Names -/

/-- The names of the systems with their families.  A release of Windows that is not known by its
version has no name among them. -/
def fixedNames : List (String × String) :=
  [("Windows Phone", "Windows"), ("Windows 10", "Windows"), ("Windows 8.1", "Windows"),
    ("Windows 8", "Windows"), ("Windows 7", "Windows"), ("Windows Vista", "Windows"),
    ("Windows XP", "Windows"), ("iOS", "iOS"), ("Android", "Android"), ("Chrome OS", "Chrome OS"),
    ("OS X", "OS X"), ("Linux", "Linux"), ("Unknown", "Unknown")]

namespace SystemMarker

variable {m : SystemMarker} {cs v : List Char}

/-- A release of Windows has a name of its own, or it is called by its version. -/
lemma name_windowsNt_cases (version : String) :
    (∃ r ∈ windowsReleases, windowsNt.name version = r.2) ∨
      windowsReleases.lookup version = none ∧
        windowsNt.name version = "Windows NT " ++ version := by
  rw [name]
  cases hlookup : windowsReleases.lookup version with
  | none => exact .inr ⟨rfl, rfl⟩
  | some release =>
    obtain ⟨before, after, hsplit, -⟩ := List.lookup_eq_some_iff.1 hlookup
    have hmem : (version, release) ∈ windowsReleases :=
      hsplit ▸ List.mem_append_right _ List.mem_cons_self
    exact .inl ⟨_, hmem, rfl⟩

lemma name_mem_or (m : SystemMarker) (version : String) :
    (m.name version, m.family) ∈ fixedNames ∨ m = windowsNt ∧
      windowsReleases.lookup version = none ∧ m.name version = "Windows NT " ++ version := by
  cases m with
  | windowsNt =>
    have hfixed : ∀ r ∈ windowsReleases, (r.2, "Windows") ∈ fixedNames := by decide
    rcases name_windowsNt_cases version with ⟨r, hr, hname⟩ | ⟨hlookup, hname⟩
    · rw [hname]
      exact .inl (hfixed r hr)
    · exact .inr ⟨rfl, hlookup, hname⟩
  | windowsPhone | phone | android | chromeOs | mac | linux =>
    refine .inl ?_
    rw [name]
    decide

/-- The ninth character of a name tells the releases of Windows from the other systems. -/
lemma name_windowsNt_ne (hm : m ≠ windowsNt) (version version' : String) :
    windowsNt.name version ≠ m.name version' := by
  have hrelease : (windowsNt.name version).toList[8]? ∈
      ['N', '1', '8', '7', 'V', 'X'].map some := by
    have hfixed : ∀ r ∈ windowsReleases,
      r.2.toList[8]? ∈ ['N', '1', '8', '7', 'V', 'X'].map some := by decide
    rcases name_windowsNt_cases version with ⟨r, hr, hname⟩ | ⟨-, hname⟩ <;> rw [hname]
    · exact hfixed r hr
    · rw [String.toList_append, List.getElem?_append_left (by decide)]
      decide
  have hother : (m.name version').toList[8]? ∉ ['N', '1', '8', '7', 'V', 'X'].map some := by
    cases m with
    | windowsNt => exact absurd rfl hm
    | windowsPhone | phone | android | chromeOs | mac | linux => rw [name]; decide
  exact fun heq => hother (heq ▸ hrelease)

lemma eq_of_name_eq {m' : SystemMarker} {version version' : String}
    (h : m.name version = m'.name version') : m = m' := by
  by_cases hm : m = windowsNt
  · by_contra hne
    exact name_windowsNt_ne (fun hm' => hne (hm.trans hm'.symm)) version version' (hm ▸ h)
  by_cases hm' : m' = windowsNt
  · exact absurd (hm' ▸ h).symm (name_windowsNt_ne hm version' version)
  cases m <;> cases m' <;> first | rfl | contradiction | exact absurd h (by simp [name])

lemma family_ne_unknown (m : SystemMarker) : m.family ≠ "Unknown" := by
  cases m <;> simp [family]

end SystemMarker

open SystemMarker

/-- What the operating system of a text is. -/
structure Detected (cs : List Char) (os : OperatingSystem) : Prop where
  /-- The first marker of the order that stands in the text decides, by the leftmost place where it
  stands. -/
  decided : ∀ m : SystemMarker, m.Wins cs → ∀ v, Pattern.IsLeftmost m.Reads cs v → os = m.system v
  /-- Wherever a marker stands, one that comes no later in the order decides, and it has a leftmost
  place. -/
  deciding : ∀ m : SystemMarker, m.StandsIn cs → ∃ m' : SystemMarker, m'.Wins cs ∧
    m'.rank ≤ m.rank ∧ ∃ v, Pattern.IsLeftmost m'.Reads cs v
  /-- No marker is overruled by a later one. -/
  overruled : ∀ m m' : SystemMarker, m.StandsIn cs → m.rank < m'.rank →
    ∀ version, os.name ≠ m'.name version
  /-- The system is not known where no marker stands, and only there. -/
  unknown : os = ⟨"Unknown", "Unknown", ""⟩ ↔ ∀ m : SystemMarker, ¬ m.StandsIn cs
  /-- A version consists of digits and dots. -/
  clean : ∀ c ∈ os.version.toList, c.isDigit = true ∨ c = '.'
  /-- Markers that are words alone give no version. -/
  versionless : ∀ m ∈ [windowsPhone, chromeOs, linux], m.Wins cs → os.version = ""
  /-- The name and the family are one of the fixed pairs, except for a release of Windows that is
  not known by its version. -/
  named : (os.name, os.family) ∈ fixedNames ∨ windowsNt.Wins cs ∧
    Pattern.IsLeftmost windowsNt.Reads cs os.version.toList ∧
    windowsReleases.lookup os.version = none ∧
    os.name = "Windows NT " ++ os.version ∧ os.family = "Windows"

lemma clean_system {m : SystemMarker} {cs v : List Char} (h : m.Reads cs v) :
    ∀ c ∈ (m.system v).version.toList, c.isDigit = true ∨ c = '.' := by
  intro c hc
  rw [system, shown, String.toList_ofList, List.mem_map] at hc
  obtain ⟨a, ha, rfl⟩ := hc
  split
  · exact .inr rfl
  · next hunderscore =>
    exact (mem_of_reads h a ha).imp_right fun hrest =>
      hrest.resolve_right fun hc => hunderscore hc.1

lemma detect_cases (cs : List Char) :
    (∃ m : SystemMarker, ∃ v, m.Wins cs ∧ Pattern.IsLeftmost m.Reads cs v ∧
      OperatingSystem.detect cs = m.system v) ∨
    (∀ m : SystemMarker, ¬ m.StandsIn cs) ∧ OperatingSystem.detect cs = .unknown := by
  by_cases hsome : ∃ m : SystemMarker, m.StandsIn cs
  · obtain ⟨m, hm⟩ := hsome
    obtain ⟨m', hwins, -⟩ := exists_wins hm
    obtain ⟨v, hv⟩ := exists_leftmost hwins.1
    exact .inl ⟨m', v, hwins, hv, detect_of_wins hwins hv⟩
  · have hnone := not_exists.1 hsome
    exact .inr ⟨hnone, detect_of_none hnone⟩

lemma detected_detect (cs : List Char) : Detected cs (.detect cs) where
  decided m hm v hv := detect_of_wins hm hv
  deciding m hm := by
    obtain ⟨m', hwins, hle⟩ := exists_wins hm
    exact ⟨m', hwins, hle, exists_leftmost hwins.1⟩
  overruled m m' hm hlt version heq := by
    obtain ⟨w, hwins, hle⟩ := exists_wins hm
    obtain ⟨v, hv⟩ := exists_leftmost hwins.1
    rw [detect_of_wins hwins hv] at heq
    obtain rfl := eq_of_name_eq heq
    exact absurd hlt (Nat.not_lt_of_le hle)
  unknown := by
    refine ⟨fun heq m hm => ?_, detect_of_none⟩
    obtain ⟨m', hwins, -⟩ := exists_wins hm
    obtain ⟨v, hv⟩ := exists_leftmost hwins.1
    exact m'.family_ne_unknown (congrArg OperatingSystem.family
      ((detect_of_wins hwins hv).symm.trans heq))
  clean := by
    rcases detect_cases cs with ⟨m, v, -, ⟨behind, -, hreads, -⟩, heq⟩ | ⟨-, heq⟩ <;> rw [heq]
    · exact clean_system hreads
    · exact nofun
  versionless m hm hwins := by
    obtain ⟨v, hv⟩ := exists_leftmost hwins.1
    rw [detect_of_wins hwins hv, system]
    obtain rfl := eq_nil_of_search (by simpa using hm) (search_read?_eq_some_iff.2 hv)
    rfl
  named := by
    rcases detect_cases cs with ⟨m, v, hwins, hv, heq⟩ | ⟨-, heq⟩ <;> rw [heq]
    · refine (m.name_mem_or _).imp_right ?_
      rintro ⟨rfl, hlookup, hname⟩
      have hshown := shown_of_search (.inl rfl) (search_read?_eq_some_iff.2 hv)
      refine ⟨hwins, ?_, hlookup, hname, rfl⟩
      rw [system, hshown, String.toList_ofList]
      exact hv
    · exact .inl (by decide)

/-- **Operating systems are recognized exactly.**  Of the markers of operating systems in a text the
first one of the order decides, wherever they stand: the leftmost place where it stands gives the
version, with dots for its underscores, and a text has no known system exactly if no marker stands
in it.  A marker stands where its pattern matches, the version that it cannot do without included.
That is the system of every client recognized by the text. -/
theorem systems_detected (u : String) :
    Detected (Text.trimChars u.toList) (.detect (Text.trimChars u.toList)) ∧
    ∀ d, Recognition.recognize u = .ok d →
      Detected (Text.trimChars u.toList) d.operatingSystem := by
  refine ⟨detected_detect _, fun d hd => ?_⟩
  obtain ⟨a, -, rfl⟩ := Recognition.recognize_eq_ok_iff.1 hd
  exact detected_detect _

example : OperatingSystem.detect "CPU OS 9_3 like Mac OS X; Android 4".toList =
    ⟨"iOS", "iOS", "9.3"⟩ := by
  decide +kernel

end ClientCounters
