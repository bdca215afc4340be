/-!
# Cutting a text at a class of characters

The library cuts texts with the slices of the standard library and reasons about the lists of their
characters. The statements here carry one to the other:

* `toList_dropWhile`, `toList_takeWhile`: a cut from the front is the cut of the list;
* `toList_dropEndWhile`: a cut from the end is a cut from the front of the reversed list.
-/

namespace StoreLink.Text

/-- A list is determined by a first part inside the class and a rest that starts outside of it. -/
theorem dropWhile_eq_of_append {α : Type} (p : α → Bool) {l rest : List α} (front : List α)
    (h : front ++ rest = l) (hfront : front.all p = true) (hrest : rest.head?.any p = false) :
    l.dropWhile p = rest := by
  subst h
  induction front with
  | nil =>
    cases rest with
    | nil => rfl
    | cons x xs =>
      have hx : p x = false := by simpa using hrest
      simp [hx]
  | cons y ys ih =>
    have hy : p y = true ∧ ys.all p = true := by simpa using hfront
    rw [List.cons_append, List.dropWhile_cons, if_pos hy.1]
    exact ih hy.2

/-- **Dropping from the front of a slice drops from the front of its characters.** -/
theorem toList_dropWhile (p : Char → Bool) (s : String.Slice) :
    (s.dropWhile p).copy.toList = s.copy.toList.dropWhile p := by
  refine (dropWhile_eq_of_append p (s.takeWhile p).copy.toList ?_ ?_ ?_).symm
  · rw [← String.toList_append, String.Slice.takeWhile_append_dropWhile]
  · rw [← String.Slice.all_bool_eq]
    exact String.Slice.all_takeWhile
  · have h : (s.dropWhile p).startsWith p = false := String.Slice.startsWith_dropWhile
    rw [String.Slice.startsWith_bool_eq_head?] at h
    exact h

/-- Taking from the front of a slice takes from the front of its characters. -/
theorem toList_takeWhile (p : Char → Bool) (s : String.Slice) :
    (s.takeWhile p).copy.toList = s.copy.toList.takeWhile p := by
  have h₁ : (s.takeWhile p).copy.toList ++ (s.dropWhile p).copy.toList = s.copy.toList := by
    rw [← String.toList_append, String.Slice.takeWhile_append_dropWhile]
  have h₂ := List.takeWhile_append_dropWhile (p := p) (l := s.copy.toList)
  rw [toList_dropWhile] at h₁
  exact List.append_cancel_right (h₁.trans h₂.symm)

/-- **Dropping from the end of a slice drops from the end of its characters.** -/
theorem toList_dropEndWhile (p : Char → Bool) (s : String.Slice) :
    (s.dropEndWhile p).copy.toList = (s.copy.toList.reverse.dropWhile p).reverse := by
  rw [eq_comm, List.reverse_eq_iff]
  refine dropWhile_eq_of_append p (s.takeEndWhile p).copy.toList.reverse ?_ ?_ ?_
  · rw [← List.reverse_append, ← String.toList_append,
      String.Slice.dropEndWhile_append_takeEndWhile]
  · rw [List.all_reverse, ← String.Slice.revAll_bool_eq]
    exact String.Slice.revAll_takeEndWhile
  · have h : (s.dropEndWhile p).endsWith p = false := String.Slice.endsWith_dropEndWhile
    rw [String.Slice.endsWith_bool_eq_getLast?] at h
    rw [List.head?_reverse]
    exact h

end StoreLink.Text
