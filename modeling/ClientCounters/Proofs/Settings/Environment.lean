/-
# Keys from the environment

A variable lists its keys with commas between them, and with white space and blank items wherever
one likes.  The list is cut at its commas before anything is known of the keys, so that it takes
keys without commas to read them back: one text may list one key with a comma and two without
(`two_keys_of_environment`).
-/
import ClientCounters.Proofs.Settings.Validation
import ClientCounters.Proofs.Text.Blank
import ClientCounters.Settings.Environment

namespace ClientCounters.Settings

variable {items : List (List Char)} {keys : List String} {text : String}

/-- The items of a text list some keys: one item for each key, in order and with any white space
around it, and blank items anywhere. -/
inductive Lists : List (List Char) → List String → Prop
  | nil : Lists [] []
  | blank {items : List (List Char)} {keys : List String} {ws : List Char} :
      Text.AllBlank ws → Lists items keys → Lists (ws :: items) keys
  | key {items : List (List Char)} {keys : List String} {ws ws' : List Char} (key : String) :
      Text.AllBlank ws → Text.AllBlank ws' → Lists items keys →
      Lists ((ws ++ key.toList ++ ws') :: items) (key :: keys)

/-! ## Reading the items -/

/-- The key in an item, if it is not blank. -/
def itemKey? (item : List Char) : Option String :=
  if (Text.trimChars item).isEmpty then none else some (String.ofList (Text.trimChars item))

lemma keysOfText_eq : keysOfText text = (text.toList.splitOn ',').filterMap itemKey? :=
  List.filterMap_map

lemma itemKey?_of_blank {ws : List Char} (hws : Text.AllBlank ws) : itemKey? ws = none :=
  if_pos (List.isEmpty_iff.2 (Text.trimChars_eq_nil_iff.2 hws))

lemma itemKey?_padded {ws ws' : List Char} {key : String} (hws : Text.AllBlank ws)
    (hws' : Text.AllBlank ws') (htrimmed : Text.Trimmed key.toList) (hne : key ≠ "") :
    itemKey? (ws ++ key.toList ++ ws') = some key := by
  have hkey : ¬ key.toList.isEmpty = true := by simpa using hne
  rw [itemKey?, Text.trimChars_padded hws htrimmed hws', if_neg hkey, String.ofList_toList]

/-- Items that list some keys give these keys. -/
lemma Lists.filterMap_itemKey? (h : Lists items keys)
    (htrimmed : ∀ key ∈ keys, Text.Trimmed key.toList) (hne : ∀ key ∈ keys, key ≠ "") :
    items.filterMap itemKey? = keys := by
  induction h with
  | nil => rfl
  | blank hws _ ih =>
    rw [List.filterMap_cons_none (itemKey?_of_blank hws)]
    exact ih htrimmed hne
  | key key hws hws' _ ih =>
    rw [List.forall_mem_cons] at htrimmed hne
    rw [List.filterMap_cons_some (itemKey?_padded hws hws' htrimmed.1 hne.1),
      ih htrimmed.2 hne.2]

/-! ## Commas -/

lemma comma_not_mem_of_blank {ws : List Char} (hws : Text.AllBlank ws) : ',' ∉ ws := by
  intro hmem
  have hcomma : Text.isBlank ',' = false := by decide
  rw [hws _ hmem] at hcomma
  cases hcomma

/-- An item holds a comma only if its key does. -/
lemma Lists.comma_not_mem (h : Lists items keys) (hcomma : ∀ key ∈ keys, ',' ∉ key.toList) :
    ∀ item ∈ items, ',' ∉ item := by
  induction h with
  | nil => exact nofun
  | blank hws _ ih => exact List.forall_mem_cons.2 ⟨comma_not_mem_of_blank hws, ih hcomma⟩
  | key key hws hws' _ ih =>
    rw [List.forall_mem_cons] at hcomma
    refine List.forall_mem_cons.2 ⟨?_, ih hcomma.2⟩
    rw [List.mem_append, List.mem_append, not_or, not_or]
    exact ⟨⟨comma_not_mem_of_blank hws, hcomma.1⟩, comma_not_mem_of_blank hws'⟩

/-! ## The variable -/

variable {env : Environment}

lemma keys_ofEnvironment (henv : env "USER_AGENT_METRIC_KEYS" = some text) :
    (ofEnvironment env).keys = keysOfText text := by
  rw [ofEnvironment, henv]
  rfl

lemma ne_empty_of_compiles {key : String} (h : Compiles key) : key ≠ "" := by
  rintro rfl
  revert h
  decide

/-- **Keys without commas come back from the environment.**  Some keys compile, have no white space
at either end and hold no comma.  A variable lists them, with commas between the items, with white
space around the keys and with blank items as one likes.  Then the keys in force are these keys, in
this order. -/
theorem keys_of_environment (hne : keys ≠ []) (hcompiles : ∀ key ∈ keys, Compiles key)
    (htrimmed : ∀ key ∈ keys, Text.Trimmed key.toList) (hcomma : ∀ key ∈ keys, ',' ∉ key.toList)
    (hlists : Lists items keys) (htext : text.toList = [','].intercalate items)
    (henv : env "USER_AGENT_METRIC_KEYS" = some text) :
    (ofEnvironment env).effectiveKeys = keys := by
  have hitems : items ≠ [] := by
    rintro rfl
    cases hlists
    exact hne rfl
  have hsplit : text.toList.splitOn ',' = items := by
    rw [htext]
    exact List.splitOn_intercalate _ (hlists.comma_not_mem hcomma) hitems
  have hkeys : (ofEnvironment env).keys = keys := by
    rw [keys_ofEnvironment henv, keysOfText_eq, hsplit]
    exact hlists.filterMap_itemKey? htrimmed fun key hmem =>
      ne_empty_of_compiles (hcompiles key hmem)
  rw [effectiveKeys, hkeys, if_neg (mt List.isEmpty_iff.1 hne)]

/-- Two keys with white space around them, behind a blank item and in front of an empty one. -/
theorem keys_of_environment_of_blank_items :
    let env : Environment := fun name =>
      if name = "USER_AGENT_METRIC_KEYS" then some " ,\t#this.name , @a + 'x y'," else none
    (ofEnvironment env).effectiveKeys = ["#this.name", "@a + 'x y'"] := by
  intro env
  have hspace : Text.AllBlank [' '] := List.all_eq_true.1 (by decide)
  have htab : Text.AllBlank ['\t'] := List.all_eq_true.1 (by decide)
  have hlists : Lists _ ["#this.name", "@a + 'x y'"] :=
    .blank hspace (.key _ htab hspace (.key _ hspace Text.allBlank_nil
      (.blank Text.allBlank_nil .nil)))
  have htrim : ∀ key ∈ ["#this.name", "@a + 'x y'"], Text.trimChars key.toList = key.toList := by
    decide
  exact keys_of_environment (by decide) (by decide)
    (fun key hmem => (Text.trimChars_eq_iff.1 (htrim key hmem)).1) (by decide) hlists rfl rfl

/-- A component may have a comma in its name.  Then a text lists one usable key and two as well, and
it is the two that come back. -/
theorem two_keys_of_environment :
    let env : Environment := fun name =>
      if name = "USER_AGENT_METRIC_KEYS" then some "@a,@b" else none
    (∀ key ∈ ["@a,@b", "@a", "@b"], Compiles key ∧ Text.Trimmed key.toList) ∧
    Lists ["@a,@b".toList] ["@a,@b"] ∧
    [','].intercalate ["@a,@b".toList] = "@a,@b".toList ∧
    Lists ["@a".toList, "@b".toList] ["@a", "@b"] ∧
    [','].intercalate ["@a".toList, "@b".toList] = "@a,@b".toList ∧
    (ofEnvironment env).effectiveKeys = ["@a", "@b"] ∧
    (ofEnvironment env).effectiveKeys ≠ ["@a,@b"] := by
  have hall : ∀ key ∈ ["@a,@b", "@a", "@b"],
      Compiles key ∧ Text.trimChars key.toList = key.toList := by decide
  have hkey (key : String) {items : List (List Char)} {keys : List String} (h : Lists items keys) :
      Lists (key.toList :: items) (key :: keys) := by
    have hlists := Lists.key key Text.allBlank_nil Text.allBlank_nil h
    rwa [List.nil_append, List.append_nil] at hlists
  refine ⟨fun key hmem => ?_, hkey _ .nil, rfl, hkey _ (hkey _ .nil), rfl, by decide, by decide⟩
  exact (hall key hmem).imp_right fun htrim => (Text.trimChars_eq_iff.1 htrim).1

end ClientCounters.Settings
