/-
# Cutting a text at its first separator

`cut?` gives what stands before and after the first separator.  Cutting at every separator is
`List.splitOn`.
-/
namespace ClientCounters.Text

variable {α : Type} [DecidableEq α]

/-- What stands before and after the first separator, if there is one. -/
def cut? (sep : α) : List α → Option (List α × List α)
  | [] => none
  | c :: cs =>
    if c = sep then some ([], cs)
    else (cut? sep cs).map fun (before, after) => (c :: before, after)

theorem cut?_eq_some_iff {sep : α} {cs before after : List α} :
    cut? sep cs = some (before, after) ↔ sep ∉ before ∧ cs = before ++ sep :: after := by
  induction cs generalizing before with
  | nil => simp [cut?]
  | cons c cs ih =>
    unfold cut?
    split
    · next h =>
      subst h
      cases before <;> simp_all
    · next h =>
      cases before with
      | nil => simp [h]
      | cons d ds =>
        simp only [Option.map_eq_some_iff, Prod.mk.injEq, List.cons.injEq, Prod.exists,
          List.mem_cons, not_or, List.cons_append]
        constructor
        · rintro ⟨b, a, hb, ⟨rfl, rfl⟩, rfl⟩
          have := ih.1 hb
          exact ⟨⟨fun h' => h h'.symm, this.1⟩, rfl, this.2⟩
        · rintro ⟨⟨_, hd⟩, rfl, hcs⟩
          exact ⟨ds, after, ih.2 ⟨hd, hcs⟩, ⟨rfl, rfl⟩, rfl⟩

theorem cut?_eq_none_iff {sep : α} {cs : List α} : cut? sep cs = none ↔ sep ∉ cs := by
  induction cs with
  | nil => simp [cut?]
  | cons c cs ih =>
    unfold cut?
    split
    · next h => simp [h]
    · next h => simp [ih, Ne.symm h]

end ClientCounters.Text
