import DumpWorkbench.Proofs.DumpName

namespace DumpWorkbench.DumpName

open DumpWorkbench.Path (segments separator)

variable {name t : String} {cs : List Char} {r : Refusal}

theorem plain_iff_pieces : Plain cs ↔
    (∀ s ∈ (cs.splitOn separator).head?, s ≠ [] ∧ s ≠ ['.']) ∧
      ['.', '.'] ∉ cs.splitOn separator := by
  rw [← Path.segments_eq_splitOn]
  exact ⟨fun h => ⟨h.head, h.inner⟩, fun h => ⟨h.1, h.2⟩⟩

theorem eq_of_check_error (h : check name = .error r) :
    r = if Text.trim name = "" then .empty else .outside name := by
  have hempty : (Text.trim name).isEmpty = true ↔ Text.trim name = "" := by simp
  unfold check at h
  simp only [hempty] at h
  split at h
  · rename_i hnil
    rw [if_pos hnil]
    exact (Except.error.inj h).symm
  · rename_i hne
    rw [if_neg hne]
    split at h
    · cases h
    · exact (Except.error.inj h).symm

theorem parse_eq_ok : parse name = .ok t ↔ check name = .ok () ∧ t = Text.trim name := by
  rw [parse, map_eq_ok]
  constructor
  · rintro ⟨_, hcheck, rfl⟩
    exact ⟨hcheck, rfl⟩
  · rintro ⟨hcheck, rfl⟩
    exact ⟨(), hcheck, rfl⟩

theorem parse_of_parse (h : parse name = .ok t) : parse t = .ok t := by
  have hcheck := check_of_parse h
  obtain ⟨-, rfl⟩ := parse_eq_ok.1 h
  exact parse_eq_ok.2 ⟨hcheck, (trim_trim name).symm⟩

/-- A name is admitted if and only if, without the space around it, it is not empty, does not begin
with an empty piece or a `.`, and has no piece `..`. What is taken of an admitted name is the name
without that space, and that is taken again as it is. -/
theorem admitted_by_pieces (name : String) :
    let trimmed := Text.trim name
    let pieces := trimmed.toList.splitOn '/'
    (check name = .ok () ↔ trimmed ≠ "" ∧ (∀ s ∈ pieces.head?, s ≠ [] ∧ s ≠ ['.']) ∧
      ['.', '.'] ∉ pieces) ∧
    (∀ r, check name = .error r → r = if trimmed = "" then .empty else .outside name) ∧
    (∀ t, parse name = .ok t ↔ check name = .ok () ∧ t = trimmed) ∧
    ∀ t, parse name = .ok t → parse t = .ok t := by
  intro trimmed pieces
  refine ⟨?_, fun r => eq_of_check_error, fun t => parse_eq_ok, fun t => parse_of_parse⟩
  constructor
  · intro h
    exact ⟨(check_eq_ok.1 h).1, plain_iff_pieces.1 (check_iff_plain.1 h)⟩
  · rintro ⟨-, hpieces⟩
    exact check_iff_plain.2 (plain_iff_pieces.2 hpieces)

/-- Empty and `.` pieces may follow the first one. -/
example : check " a//./b/ " = .ok () := by decide

end DumpWorkbench.DumpName
