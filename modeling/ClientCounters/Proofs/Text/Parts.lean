/-
# Parts of a text

Where a text is taken apart: behind a run of characters of one class, and in front of a character
that does not occur in the first part.
-/
import Mathlib.Tactic.Common

namespace ClientCounters.Text

variable {α : Type} {p : α → Bool} {cs a b front rest : List α} {c : α}

/-- A run is as long as it can be: the rest does not go on with a character of the class. -/
lemma takeWhile_dropWhile_iff : cs.takeWhile p = a ∧ cs.dropWhile p = b ↔
    cs = a ++ b ∧ (∀ c ∈ a, p c = true) ∧ ∀ c ∈ b.head?, p c = false := by
  constructor
  · rintro ⟨rfl, rfl⟩
    refine ⟨List.takeWhile_append_dropWhile.symm, List.all_eq_true.1 List.all_takeWhile, ?_⟩
    intro c hc
    have hhead := List.head?_dropWhile_not p cs
    simpa [Option.mem_def.1 hc] using hhead
  · rintro ⟨rfl, ha, hb⟩
    rw [List.takeWhile_append_of_pos ha, List.dropWhile_append_of_pos ha]
    cases b with
    | nil => simp
    | cons c b => simp [hb c rfl]

/-- A run in the first part ends in it or goes to its end, if the second part does not go on with
it. -/
lemma takeWhile_dropWhile_append (hb : ∀ c ∈ b.head?, p c = false) :
    (a ++ b).takeWhile p = a.takeWhile p ∧ (a ++ b).dropWhile p = a.dropWhile p ++ b := by
  obtain ⟨ha, hrun, hend⟩ :=
    takeWhile_dropWhile_iff.1 ⟨Eq.refl (a.takeWhile p), Eq.refl (a.dropWhile p)⟩
  refine takeWhile_dropWhile_iff.2 ⟨?_, hrun, ?_⟩
  · rw [← List.append_assoc, ← ha]
  · intro c hc
    cases hdrop : a.dropWhile p with
    | nil =>
      rw [hdrop, List.nil_append] at hc
      exact hb c hc
    | cons d rest =>
      rw [hdrop] at hc hend
      exact hend c hc

/-- A first part that does not hold a character ends in front of it. -/
lemma exists_of_append_eq (hfront : c ∉ front) (h : front ++ rest = a ++ c :: b) :
    ∃ rest', a = front ++ rest' ∧ rest = rest' ++ c :: b := by
  rcases List.append_eq_append_iff.1 h with ⟨rest', ha, hrest⟩ | ⟨back, hback, hrest⟩
  · exact ⟨rest', ha, hrest⟩
  · cases back with
    | nil => exact ⟨[], by simpa using hback.symm, by simpa using hrest.symm⟩
    | cons d back =>
      obtain ⟨rfl, -⟩ := List.cons.inj hrest
      simp [hback] at hfront

/-- No piece of a text that is cut at every separator holds one. -/
lemma not_mem_of_mem_splitOn [DecidableEq α] {sep : α} {piece : List α}
    (h : piece ∈ cs.splitOn sep) : sep ∉ piece := by
  induction cs generalizing piece with
  | nil =>
    rw [List.splitOn_eq_singleton List.not_mem_nil, List.mem_singleton] at h
    exact h ▸ List.not_mem_nil
  | cons c cs ih =>
    rw [List.splitOn_cons_eq_if_modifyHead] at h
    split at h
    · rcases List.mem_cons.1 h with rfl | h
      · exact List.not_mem_nil
      · exact ih h
    · next hc =>
      obtain ⟨first, others, hsplit⟩ := List.exists_cons_of_ne_nil (List.splitOn_ne_nil sep cs)
      rw [hsplit] at h ih
      rcases List.mem_cons.1 h with rfl | h
      · rw [List.mem_cons, not_or]
        exact ⟨fun heq => hc (beq_iff_eq.2 heq.symm), ih List.mem_cons_self⟩
      · exact ih (List.mem_cons_of_mem _ h)

end ClientCounters.Text
