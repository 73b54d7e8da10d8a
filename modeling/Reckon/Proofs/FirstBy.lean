import Reckon.Catalog

/-!
# The first element for each key

`firstBy key xs` has, of the elements with the same key, the first one. It keeps the order of a list
and represents every element by one that is not later (`exists_mem_firstBy`). Loops that go through
a list with the keys seen so far compute it (`newByKey_eq`).
-/

namespace Reckon

/-- Of the elements with the same key, the first one. -/
def firstBy {α : Type} (key : α → String) : List α → List α
  | [] => []
  | x :: xs => x :: (firstBy key xs).filter fun y => key y != key x

section FirstBy

variable {α β : Type} {key : α → String} {x : α} {xs : List α}

theorem firstBy_sublist : (firstBy key xs).Sublist xs := by
  induction xs with
  | nil => exact .slnil
  | cons x xs ih => exact ((List.filter_sublist ..).trans ih).cons_cons x

theorem nodup_firstBy : ((firstBy key xs).map key).Nodup := by
  induction xs with
  | nil => exact List.nodup_nil
  | cons x xs ih =>
    rw [firstBy, List.map_cons, List.nodup_cons]
    refine ⟨fun h => ?_, ih.sublist ((List.filter_sublist ..).map key)⟩
    obtain ⟨y, hy, hkey⟩ := List.mem_map.mp h
    simp [hkey] at hy

/-- Elements can be dropped by their key before or after. -/
theorem firstBy_filter (p : String → Bool) :
    firstBy key (xs.filter fun x => p (key x)) = (firstBy key xs).filter fun x => p (key x) := by
  induction xs with
  | nil => rfl
  | cons x xs ih =>
    cases hx : p (key x) with
    | true =>
      rw [List.filter_cons_of_pos (p := fun x => p (key x)) hx, firstBy, firstBy,
        List.filter_cons_of_pos (p := fun x => p (key x)) hx, ih, List.filter_filter,
        List.filter_filter]
      simp only [Bool.and_comm]
    | false =>
      rw [List.filter_cons_of_neg (by simp [hx]), firstBy, List.filter_cons_of_neg (by simp [hx]),
        ih, List.filter_filter]
      refine List.filter_congr fun y _ => ?_
      -- what passes has another key than `x`
      cases hy : p (key y) with
      | true =>
        have hne : key y ≠ key x := fun h => by simp [← h, hy] at hx
        simpa using hne
      | false => rfl

theorem firstBy_append (ys : List α) :
    firstBy key (firstBy key xs ++ ys) = firstBy key (xs ++ ys) := by
  induction xs with
  | nil => rfl
  | cons x xs ih =>
    -- both sides start with `x`, and what follows is decided by the other keys alone
    have hdrop : ∀ l : List α, (firstBy key l).filter (fun y => key y != key x) =
        firstBy key (l.filter fun y => key y != key x) := fun _ =>
      (firstBy_filter (· != key x)).symm
    rw [firstBy, List.cons_append, List.cons_append, firstBy, firstBy, ← ih, hdrop (_ ++ ys),
      hdrop (_ ++ ys), List.filter_append, List.filter_append, List.filter_filter]
    simp only [Bool.and_self]

theorem firstBy_map (f : β → α) (l : List β) :
    firstBy key (l.map f) = (firstBy (fun b => key (f b)) l).map f := by
  induction l with
  | nil => rfl
  | cons b l ih => rw [List.map_cons, firstBy, firstBy, List.map_cons, ih, List.filter_map]; rfl

/-- In a list that is in order, every element is represented by one that is not later. -/
theorem exists_mem_firstBy {R : α → α → Prop} (hrefl : ∀ a, R a a) (hordered : xs.Pairwise R)
    (hx : x ∈ xs) : ∃ y ∈ firstBy key xs, key y = key x ∧ R y x := by
  induction hordered with
  | nil => cases hx
  | @cons z xs hz _ ih =>
    by_cases hkey : key x = key z
    · refine ⟨z, List.mem_cons_self, hkey.symm, ?_⟩
      rcases List.mem_cons.mp hx with rfl | hx
      · exact hrefl x
      · exact hz x hx
    · have hmem : x ∈ xs := (List.mem_cons.mp hx).resolve_left fun h => hkey (congrArg key h)
      obtain ⟨y, hy, hyx, hbefore⟩ := ih hmem
      refine ⟨y, List.mem_cons_of_mem _ (List.mem_filter.mpr ⟨hy, ?_⟩), hyx, hbefore⟩
      simpa [hyx] using hkey

/-- What is missing from the first elements of a list in order comes after all of them. -/
theorem mem_take_or_full {R : α → α → Prop} (hordered : xs.Pairwise R) (n : Nat) (hx : x ∈ xs) :
    x ∈ xs.take n ∨ (xs.take n).length = n ∧ ∀ y ∈ xs.take n, R y x := by
  rw [← List.take_append_drop n xs] at hordered hx
  rcases List.mem_append.mp hx with hx | hx
  · exact .inl hx
  · have hlong : 0 < (xs.drop n).length := List.length_pos_of_mem hx
    rw [List.length_drop] at hlong
    have hfull : (xs.take n).length = n := by
      rw [List.length_take]
      omega
    exact .inr ⟨hfull, fun y hy => (List.pairwise_append.mp hordered).2.2 y hy x hx⟩

end FirstBy

/-! ### Loops with a list of seen keys -/

section Seen

variable {α β : Type}

/-- What a loop over seen keys leaves out, it leaves out for good. -/
theorem filter_unseen_cons {key : α → String} {x : α} {seen : List String} (xs : List α) :
    (xs.filter fun y => key y != key x).filter (fun y => !seen.contains (key y)) =
      xs.filter fun y => !(key x :: seen).contains (key y) := by
  rw [List.filter_filter]
  refine List.filter_congr fun y _ => ?_
  rw [List.contains_cons, Bool.not_or, Bool.and_comm]
  rfl

/-- A key that has been seen may as well be left out first. -/
theorem filter_unseen_of_seen {key : α → String} {x : α} {seen : List String}
    (h : seen.contains (key x) = true) (xs : List α) :
    (xs.filter fun y => key y != key x).filter (fun y => !seen.contains (key y)) =
      xs.filter fun y => !seen.contains (key y) := by
  rw [List.filter_filter]
  refine List.filter_congr fun y _ => ?_
  cases hy : seen.contains (key y) with
  | true => rfl
  | false =>
    have hne : key y ≠ key x := fun heq => by rw [heq, h] at hy; cases hy
    simpa using hne

theorem newByKey_eq {xs : List (String × α)} : ∀ {seen : List String},
    newByKey seen xs = (firstBy (·.1) xs).filter fun x => !seen.contains x.1 := by
  induction xs with
  | nil => exact rfl
  | cons x xs ih =>
    intro seen
    rw [newByKey, firstBy]
    split
    · rename_i hseen
      rw [ih, List.filter_cons_of_neg (by simpa using hseen), filter_unseen_of_seen hseen]
    · rename_i hseen
      rw [ih, List.filter_cons_of_pos (by simpa using hseen), filter_unseen_cons]

theorem mem_of_mem_firstByKey {x : String × α} {xs : List (String × α)} (h : x ∈ firstByKey xs) :
    x ∈ xs := by
  rw [firstByKey, newByKey_eq] at h
  exact firstBy_sublist.subset (List.mem_filter.mp h).1

theorem firstByKey_map {key : β → String} {f : β → α} (l : List β) :
    firstByKey (l.map fun b => (key b, f b)) = (firstBy key l).map fun b => (key b, f b) := by
  rw [firstByKey, newByKey_eq, firstBy_map]
  exact List.filter_eq_self.mpr fun _ _ => rfl

end Seen

end Reckon
