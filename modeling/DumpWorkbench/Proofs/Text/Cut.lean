import Mathlib.Data.List.TakeWhile

namespace DumpWorkbench.Text

variable {α : Type} {p q : α → Bool} {as bs cs ds before after : List α}

theorem dropWhile_append_of_head (has : ∀ a ∈ as, p a = true) (hbs : ∀ b ∈ bs.head?, p b = false) :
    (as ++ bs).dropWhile p = bs := by
  rw [List.dropWhile_append_of_pos has]
  cases bs with
  | nil => rfl
  | cons b bs => exact List.dropWhile_cons_of_neg (Bool.eq_false_iff.1 (hbs b rfl))

theorem takeWhile_append_of_head (has : ∀ a ∈ as, p a = true) (hbs : ∀ b ∈ bs.head?, p b = false) :
    (as ++ bs).takeWhile p = as := by
  have hcut := List.takeWhile_append_dropWhile (p := p) (l := as ++ bs)
  rw [dropWhile_append_of_head has hbs] at hcut
  exact List.append_cancel_right hcut

/-- A list is cut in one way. -/
theorem cut_inj (has : ∀ a ∈ as, p a = true) (hbs : ∀ b ∈ bs.head?, p b = false)
    (hcs : ∀ c ∈ cs, p c = true) (hds : ∀ d ∈ ds.head?, p d = false)
    (h : as ++ bs = cs ++ ds) : as = cs ∧ bs = ds := by
  have htail : bs = ds := by
    rw [← dropWhile_append_of_head has hbs, h, dropWhile_append_of_head hcs hds]
  subst htail
  exact ⟨List.append_cancel_right h, rfl⟩

theorem rdropWhile_append_of_last (hbs : ∀ b ∈ bs, q b = true)
    (has : ∀ a ∈ as.getLast?, q a = false) : ((as ++ bs).reverse.dropWhile q).reverse = as := by
  have hback : ∀ b ∈ bs.reverse, q b = true := fun b hb => hbs b (List.mem_reverse.1 hb)
  rw [List.reverse_append, dropWhile_append_of_head hback, List.reverse_reverse]
  rwa [List.head?_reverse]

theorem eq_between (hcs : cs = before ++ (as ++ after)) (hbefore : ∀ a ∈ before, p a = true)
    (hafter : ∀ a ∈ after, q a = true) (hqp : ∀ a, q a = true → p a = true)
    (hfirst : ∀ a ∈ as.head?, p a = false) (hlast : ∀ a ∈ as.getLast?, q a = false) :
    ((cs.dropWhile p).reverse.dropWhile q).reverse = as := by
  subst hcs
  cases as with
  | nil =>
    have hall : (before ++ ([] ++ after)).dropWhile p = [] := by
      rw [List.dropWhile_eq_nil_iff]
      intro a ha
      rw [List.nil_append] at ha
      exact (List.mem_append.1 ha).elim (hbefore a) fun ha => hqp a (hafter a ha)
    rw [hall]
    rfl
  | cons a as =>
    rw [dropWhile_append_of_head hbefore, rdropWhile_append_of_last hafter hlast]
    exact hfirst

end DumpWorkbench.Text
