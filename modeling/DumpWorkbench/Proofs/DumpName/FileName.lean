import DumpWorkbench.Proofs.DumpName
import Mathlib.Data.List.TakeWhile

namespace DumpWorkbench.DumpName

open DumpWorkbench.Path (Component ending separator component? splitName stepsOf trailing?)

variable {a b name ext stem e n : String} {p : Path} {s t : List Char}

theorem toList_dotted (stem e : String) : (stem ++ "." ++ e).toList = stem.toList ++ dotted e := by
  simp [dotted]

theorem ofList_dotted (s : List Char) (e : String) :
    String.ofList (s ++ dotted e) = String.ofList s ++ "." ++ e := by
  apply String.toList_injective
  rw [toList_dotted, String.toList_ofList, String.toList_ofList]

theorem splitName_dotted (he : '.' ∉ e.toList) (stem : String) :
    splitName (stem ++ "." ++ e) =
      if stem = "" then (stem ++ "." ++ e, none) else (stem, some e) := by
  have hrun :
      ((stem.toList ++ '.' :: e.toList).reverse.takeWhile (· ≠ '.')).reverse = e.toList := by
    have htail : e.toList.reverse.takeWhile (· ≠ '.') = e.toList.reverse := by
      rw [List.takeWhile_eq_self_iff]
      intro c hc
      have hne : c ≠ '.' := fun h => he (h ▸ List.mem_reverse.1 hc)
      simpa using hne
    have hreverse : (stem.toList ++ '.' :: e.toList).reverse =
        e.toList.reverse ++ '.' :: stem.toList.reverse := by simp
    rw [hreverse, List.takeWhile_append, htail]
    simp
  have hstem : (stem.toList ++ '.' :: e.toList).take
      ((stem.toList ++ '.' :: e.toList).length - e.toList.length - 1) = stem.toList := by
    have hlength : (stem.toList ++ '.' :: e.toList).length - e.toList.length - 1 =
        stem.toList.length := by
      rw [List.length_append, List.length_cons]
      omega
    rw [hlength, List.take_left']
    rfl
  have hdot : (stem.toList ++ '.' :: e.toList).contains '.' = true := by simp
  have hnil : stem.toList = [] ↔ stem = "" := by simp
  unfold splitName
  simp only [toList_dotted, dotted, hrun, hstem, hdot, String.ofList_toList, ne_eq, hnil, true_and]
  by_cases hs : stem = ""
  · rw [if_pos hs, if_neg (not_not_intro hs)]
  · rw [if_neg hs, if_pos hs]

theorem splitName_dotless (h : '.' ∉ n.toList) : splitName n = (n, none) := by
  have hdot : n.toList.contains '.' = false := by simpa using h
  unfold splitName
  dsimp only
  rw [hdot, if_neg fun hboth => Bool.false_ne_true hboth.1]

theorem toLower_eq_dot {c : Char} (h : c.toLower = '.') : c = '.' := by
  unfold Char.toLower at h
  split at h
  · -- A lower case letter is no dot.
    rename_i hupper
    have hval : (c.val + 32).toNat = 46 := congrArg (fun d : Char => d.val.toNat) h
    have hlow : 65 ≤ c.val.toNat := hupper.1
    have hhigh : c.val.toNat ≤ 90 := hupper.2
    have hshift : (32 : UInt32).toNat = 32 := rfl
    rw [UInt32.toNat_add, hshift] at hval
    omega
  · exact h

theorem dot_not_mem_of_lowerAscii (h : lowerAscii e = lowerAscii ext) (hext : '.' ∉ ext.toList) :
    '.' ∉ e.toList := by
  intro he
  have hmem : '.' ∈ lowerAscii ext := h ▸ List.mem_map_of_mem (f := Char.toLower) he
  obtain ⟨c, hc, hlower⟩ := List.mem_map.1 hmem
  rw [toLower_eq_dot hlower] at hc
  exact hext hc

/-- The last component of a name is a stem with the extension behind it, in any case. -/
def Carries (name ext : String) : Prop :=
  ∃ stem e : String, (Path.mk name).components.getLast? = some (.name (stem ++ "." ++ e)) ∧
    stem ≠ "" ∧ stem ≠ "." ∧ stem ≠ ".." ∧ lowerAscii e = lowerAscii ext

theorem fileName?_eq_some :
    p.fileName? = some n ↔ p.components.getLast? = some (.name n) := by
  unfold Path.fileName?
  split
  · rename_i m h
    rw [h]
    simp
  · rename_i h
    simp only [reduceCtorEq, false_iff]
    exact h n

theorem hasExtension_dotted (hfile : (Path.mk name).fileName? = some (stem ++ "." ++ e))
    (he : '.' ∉ e.toList) : hasExtension name ext = true ↔
      stem ≠ "" ∧ stem ≠ "." ∧ stem ≠ ".." ∧ lowerAscii e = lowerAscii ext := by
  simp only [hasExtension, Path.stem?, Path.extension?, hfile, Option.map_some, Option.bind_some,
    splitName_dotted he]
  by_cases hs : stem = ""
  · simp [hs]
  · simp [hs, and_assoc]

theorem exists_dotted_of_hasExtension (h : hasExtension name ext = true) :
    ∃ stem e, (Path.mk name).fileName? = some (stem ++ "." ++ e) ∧ '.' ∉ e.toList := by
  cases hfile : (Path.mk name).fileName? with
  | none => simp [hasExtension, Path.stem?, hfile] at h
  | some n =>
    by_cases hdot : '.' ∈ n.toList
    · obtain ⟨s, t, hn, ht⟩ := Path.exists_cut_last hdot
      refine ⟨String.ofList s, String.ofList t, ?_, ?_⟩
      · rw [← ofList_dotted, dotted, String.toList_ofList, ← hn, String.ofList_toList]
      · rwa [String.toList_ofList]
    · simp [hasExtension, Path.stem?, Path.extension?, hfile, splitName_dotless hdot] at h

theorem hasExtension_iff_carries (hext : '.' ∉ ext.toList) :
    hasExtension name ext = true ↔ Carries name ext := by
  constructor
  · intro h
    obtain ⟨stem, e, hfile, he⟩ := exists_dotted_of_hasExtension h
    exact ⟨stem, e, fileName?_eq_some.1 hfile, (hasExtension_dotted hfile he).1 h⟩
  · rintro ⟨stem, e, hlast, hstem⟩
    have he := dot_not_mem_of_lowerAscii hstem.2.2.2 hext
    exact (hasExtension_dotted (fileName?_eq_some.2 hlast) he).2 hstem

theorem hasExtension_congr (ha : Plain a.toList) (hb : Plain b.toList)
    (h : stepsOf a.toList = stepsOf b.toList) (ext : String) :
    hasExtension a ext = hasExtension b ext := by
  have hcomponents : (Path.mk a).components = (Path.mk b).components := by
    rw [Path.components, Path.components, ha.componentsOf_eq, hb.componentsOf_eq, h]
  simp only [hasExtension, Path.stem?, Path.extension?, Path.fileName?, hcomponents]

theorem component?_eq_name :
    component? stem.toList = some (.name stem) ↔ stem ≠ "" ∧ stem ≠ "." ∧ stem ≠ ".." := by
  have htext (t : String) : stem.toList = t.toList ↔ stem = t := String.toList_inj
  have hempty : stem.toList = [] ↔ stem = "" := htext ""
  have hcurrent : stem.toList = ['.'] ↔ stem = "." := htext "."
  have hparent : stem.toList = ['.', '.'] ↔ stem = ".." := htext ".."
  unfold component?
  rw [String.ofList_toList, ne_eq, ne_eq, ne_eq, ← hempty, ← hcurrent, ← hparent]
  split_ifs with hskip hup
  · simp only [false_iff]
    tauto
  · simp [hup]
  · simp only [true_iff]
    tauto

theorem hasExtension_iff_stem (hname : Plain name.toList) (hext : '.' ∉ ext.toList)
    {before : List Component}
    (hsteps : stepsOf name.toList = before ++ [.name (stem ++ "." ++ ext)]) :
    hasExtension name ext = true ↔ component? stem.toList = some (.name stem) := by
  have hfile : (Path.mk name).fileName? = some (stem ++ "." ++ ext) := by
    rw [fileName?_eq_some, Path.components, hname.componentsOf_eq, hsteps, List.getLast?_concat]
  rw [hasExtension_dotted hfile hext, component?_eq_name]
  simp

/-- A name to which the extension is appended has it if and only if nothing trails behind the last
step of the name. -/
theorem hasExtension_appended (hname : Plain name.toList) (hne : ext ≠ "")
    (hext : ∀ c ∈ ext.toList, c ≠ '.' ∧ c ≠ separator) :
    hasExtension (name ++ "." ++ ext) ext = true ↔ trailing? name.toList = none := by
  obtain ⟨hsep, hnil, hlast⟩ := dotted_spec hne hext
  have hplain : Plain (name ++ "." ++ ext).toList := by
    rw [toList_dotted]
    exact hname.append hsep hlast
  have hsteps := stepsOf_appended hsep hnil hlast name.toList
  rw [ofList_dotted, ← toList_dotted] at hsteps
  rw [hasExtension_iff_stem hplain (fun hmem => (hext _ hmem).1 rfl) hsteps, String.toList_ofList]
  -- The last segment is a name or nothing, for a plain text never goes up.
  have hinner : ending name.toList ≠ ['.', '.'] := by
    intro h
    apply hname.inner
    rw [Path.segments_eq_concat, h]
    exact List.mem_append_right _ List.mem_cons_self
  unfold trailing? component?
  rw [if_neg hinner]
  split_ifs <;> simp

end DumpWorkbench.DumpName
