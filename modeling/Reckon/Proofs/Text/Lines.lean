import Reckon.Text.Blank

/-!
# Cutting a text into lines

No line holds a line feed, and lines that are joined with a carriage return and a line feed are cut
apart where they were joined (`lines_intercalate`). A line feed alone would not do: a line may end in
a carriage return of its own.
-/

namespace Reckon.Text

/-- A character before the first break belongs to the first line. -/
theorem splitLines_cons {c : Char} {cs line : List Char} {rest : List (List Char)} (hc : c ≠ '\n')
    (hbreak : ∀ cs', cs = '\n' :: cs' → c ≠ '\r') (h : splitLines cs = line :: rest) :
    splitLines (c :: cs) = (c :: line) :: rest := by
  rw [splitLines, h]
  · exact hc
  · intro cs' hc' hcs'
    exact hbreak cs' hcs' hc'

theorem splitLines_of_notMem {cs : List Char} (h : '\n' ∉ cs) : splitLines cs = [cs] := by
  induction cs with
  | nil => rfl
  | cons c cs ih =>
    simp only [List.mem_cons, not_or] at h
    refine splitLines_cons (Ne.symm h.1) ?_ (ih h.2)
    rintro cs' rfl
    exact absurd List.mem_cons_self h.2

theorem splitLines_append {cs : List Char} (h : '\n' ∉ cs) (after : List Char) :
    splitLines (cs ++ '\r' :: '\n' :: after) = cs :: splitLines after := by
  induction cs with
  | nil => rfl
  | cons c cs ih =>
    simp only [List.mem_cons, not_or] at h
    refine splitLines_cons (Ne.symm h.1) ?_ (ih h.2)
    intro cs' hcs
    -- what follows `c` starts with a character of the line or with the carriage return
    rcases cs with _ | ⟨d, cs⟩
    · cases hcs
    · obtain ⟨rfl, -⟩ := List.cons.inj hcs
      exact absurd List.mem_cons_self h.2

theorem splitLines_ne_nil (cs : List Char) : splitLines cs ≠ [] := by
  fun_cases splitLines cs <;> simp_all

/-- The characters of a line are characters of the text, and no line feeds. -/
theorem mem_of_mem_splitLines {cs line : List Char} (h : line ∈ splitLines cs) :
    ∀ c ∈ line, c ∈ cs ∧ c ≠ '\n' := by
  fun_induction splitLines cs generalizing line with
  | case1 => simp at h; simp [h]
  | case2 cs ih | case3 cs ih =>
    intro c hc
    rcases List.mem_cons.mp h with rfl | h
    · cases hc
    · have hmem := ih h c hc
      exact ⟨by simp [hmem.1], hmem.2⟩
  | case4 d cs hd hbreak first rest hsplit ih =>
    intro c hc
    rw [hsplit] at ih
    rcases List.mem_cons.mp h with rfl | h
    · rcases List.mem_cons.mp hc with rfl | hc
      · exact ⟨List.mem_cons_self, hd⟩
      · have hmem := ih List.mem_cons_self c hc
        exact ⟨List.mem_cons_of_mem _ hmem.1, hmem.2⟩
    · have hmem := ih (List.mem_cons_of_mem _ h) c hc
      exact ⟨List.mem_cons_of_mem _ hmem.1, hmem.2⟩
  | case5 d cs _ _ hsplit => exact absurd hsplit (splitLines_ne_nil cs)

theorem notMem_of_mem_lines {text line : String} (h : line ∈ lines text) : '\n' ∉ line.toList := by
  obtain ⟨cs, hcs, rfl⟩ := List.mem_map.mp h
  intro hmem
  rw [String.toList_ofList] at hmem
  exact (mem_of_mem_splitLines hcs _ hmem).2 rfl

theorem splitLines_intercalate {ls : List (List Char)} (hne : ls ≠ []) (h : ∀ l ∈ ls, '\n' ∉ l) :
    splitLines (List.intercalate ['\r', '\n'] ls) = ls := by
  induction ls with
  | nil => exact absurd rfl hne
  | cons l rest ih =>
    have hl := h l List.mem_cons_self
    cases rest with
    | nil =>
      rw [List.intercalate_singleton]
      exact splitLines_of_notMem hl
    | cons l' rest =>
      have hrest := ih (by simp) fun l hl => h l (List.mem_cons_of_mem _ hl)
      rw [List.intercalate_cons_cons, List.append_assoc]
      exact (splitLines_append hl _).trans (congrArg _ hrest)

/-- **Joined lines are cut apart where they were joined.** -/
theorem lines_intercalate {ls : List String} (hne : ls ≠ []) (h : ∀ l ∈ ls, '\n' ∉ l.toList) :
    lines ("\r\n".intercalate ls) = ls := by
  have hsplit : splitLines (List.intercalate ['\r', '\n'] (ls.map String.toList)) =
      ls.map String.toList := by
    refine splitLines_intercalate (by simpa using hne) ?_
    intro l hl
    obtain ⟨line, hline, rfl⟩ := List.mem_map.mp hl
    exact h line hline
  unfold lines
  rw [String.toList_intercalate]
  refine (congrArg (List.map String.ofList) hsplit).trans ?_
  rw [List.map_map]
  refine (List.map_congr_left fun l _ => ?_).trans (List.map_id ls)
  exact String.ofList_toList

/-- A blank text has blank lines only. -/
theorem isBlankText_of_mem_lines {text line : String} (h : isBlankText text = true)
    (hline : line ∈ lines text) : isBlankText line = true := by
  obtain ⟨cs, hcs, rfl⟩ := List.mem_map.mp hline
  unfold isBlankText at h ⊢
  rw [List.all_eq_true] at h ⊢
  intro c hc
  rw [String.toList_ofList] at hc
  exact h c (mem_of_mem_splitLines hcs c hc).1

end Reckon.Text
