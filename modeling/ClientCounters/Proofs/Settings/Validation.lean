/-
# What validation finds

Settings are checked one by one, the keys last and in order.  Settings are valid when every check
passes; they have an invalid key when only the keys fail, and then the first one that does not
compile is reported, with its place and the error of compiling it.
-/
import Mathlib.Tactic.Common
import ClientCounters.Settings.Basic

namespace ClientCounters

/-- A key is an expression. -/
def Compiles (key : String) : Prop :=
  ∃ e, KeyExpression.read key = .ok e

instance (key : String) : Decidable (Compiles key) :=
  match h : KeyExpression.read key with
  | .ok e => isTrue ⟨e, h⟩
  | .error e => isFalse fun ⟨e', h'⟩ => by rw [h] at h'; cases h'

lemma not_compiles_iff {key : String} :
    ¬ Compiles key ↔ ∃ e, KeyExpression.read key = .error e := by
  rw [Compiles]
  cases KeyExpression.read key with
  | ok e => simp
  | error e => simp

namespace Settings

variable {s : Settings} {keys : List String} {i j : Nat} {e : ResolutionError}

/-! ## The keys -/

lemma firstInvalidKey?_eq_none_iff :
    firstInvalidKey? i keys = none ↔ ∀ key ∈ keys, Compiles key := by
  induction keys generalizing i with
  | nil => simp [firstInvalidKey?]
  | cons key keys ih =>
    rw [firstInvalidKey?, List.forall_mem_cons]
    cases hread : KeyExpression.read key with
    | error e =>
      have hkey : ¬ Compiles key := not_compiles_iff.2 ⟨e, hread⟩
      simp [hkey]
    | ok e =>
      have hkey : Compiles key := ⟨e, hread⟩
      simp only [hkey, true_and]
      exact ih

/-- The key that is reported does not compile, and all keys in front of it do. -/
lemma firstInvalidKey?_eq_some_iff : firstInvalidKey? i keys = some (j, e) ↔
    ∃ front key back, keys = front ++ key :: back ∧ j = i + front.length ∧
      (∀ k ∈ front, Compiles k) ∧ KeyExpression.read key = .error e := by
  induction keys generalizing i with
  | nil => simp [firstInvalidKey?]
  | cons key keys ih =>
    rw [firstInvalidKey?]
    cases hread : KeyExpression.read key with
    | error e' =>
      constructor
      · intro h
        obtain ⟨rfl, rfl⟩ := Prod.mk.inj (Option.some.inj h)
        exact ⟨[], key, keys, rfl, rfl, by simp, hread⟩
      · rintro ⟨front, k, back, hkeys, rfl, hfront, hk⟩
        cases front with
        | nil =>
          obtain ⟨rfl, rfl⟩ := List.cons.inj hkeys
          rw [hread] at hk
          obtain rfl := Except.error.inj hk
          rfl
        | cons k' front =>
          -- the key at the front would have to compile
          obtain ⟨rfl, -⟩ := List.cons.inj hkeys
          exact absurd (hfront _ List.mem_cons_self) (not_compiles_iff.2 ⟨e', hread⟩)
    | ok expression =>
      dsimp only
      rw [ih]
      constructor
      · rintro ⟨front, k, back, rfl, rfl, hfront, hk⟩
        refine ⟨key :: front, k, back, rfl, ?_, ?_, hk⟩
        · rw [List.length_cons]
          omega
        · exact List.forall_mem_cons.2 ⟨⟨expression, hread⟩, hfront⟩
      · rintro ⟨front, k, back, hkeys, rfl, hfront, hk⟩
        cases front with
        | nil =>
          obtain ⟨rfl, -⟩ := List.cons.inj hkeys
          rw [hread] at hk
          cases hk
        | cons k' front =>
          obtain ⟨rfl, rfl⟩ := List.cons.inj hkeys
          refine ⟨front, k, back, rfl, ?_, (List.forall_mem_cons.1 hfront).2, hk⟩
          rw [List.length_cons]
          omega

/-- The key that is reported stands in the place that is reported. -/
lemma getElem?_of_firstInvalidKey? (h : firstInvalidKey? 0 keys = some (j, e)) :
    ∃ key, keys[j]? = some key ∧ (∀ k ∈ keys.take j, Compiles k) ∧
      KeyExpression.read key = .error e := by
  obtain ⟨front, key, back, rfl, hj, hfront, hread⟩ := firstInvalidKey?_eq_some_iff.1 h
  rw [Nat.zero_add] at hj
  subst hj
  refine ⟨key, ?_, ?_, hread⟩
  · simp
  · rw [List.take_left']
    · exact hfront
    · rfl

/-! ## All settings -/

/-- What is valid about settings whose only fault, if any, is in the keys. -/
structure FrameValid (s : Settings) : Prop where
  space : Text.isBlankText s.space = false
  headerName : Http.isHeaderName s.headerName = true
  capacity : s.capacity ≠ 0

lemma validate_eq_ok_iff : s.validate = .ok () ↔
    s.FrameValid ∧ ∀ key ∈ s.effectiveKeys, Compiles key := by
  rw [← firstInvalidKey?_eq_none_iff (i := 0)]
  constructor
  · intro h
    unfold validate at h
    split_ifs at h with hspace hheader hcapacity
    split at h
    · cases h
    · next hnone =>
      exact ⟨⟨by simpa using hspace, by simpa using hheader, hcapacity⟩, hnone⟩
  · rintro ⟨⟨hspace, hheader, hcapacity⟩, hnone⟩
    simp [validate, hspace, hheader, hcapacity, hnone]

lemma validate_eq_invalidKey_iff : s.validate = .error (.invalidKey i e) ↔
    s.FrameValid ∧ firstInvalidKey? 0 s.effectiveKeys = some (i, e) := by
  constructor
  · intro h
    unfold validate at h
    split_ifs at h with hspace hheader hcapacity
    -- the first three faults are none of a key
    · cases h
    · cases h
    · cases h
    · split at h
      · next index cause hsome =>
        obtain ⟨rfl, rfl⟩ := SettingsError.invalidKey.inj (Except.error.inj h)
        exact ⟨⟨by simpa using hspace, by simpa using hheader, hcapacity⟩, hsome⟩
      · cases h
  · rintro ⟨⟨hspace, hheader, hcapacity⟩, hsome⟩
    simp [validate, hspace, hheader, hcapacity, hsome]

end Settings

end ClientCounters
