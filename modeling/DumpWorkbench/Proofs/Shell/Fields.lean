import DumpWorkbench.Proofs.Shell.Tokens
import DumpWorkbench.Shell.Expansion

namespace DumpWorkbench.Shell

variable {m : Type → Type} [Monad m]
variable {c : Char} {cs : List Char} {w value : Word} {n : String} {ws : List Word}
  {words : List String}

def Part.item : Part → Item
  | .plain c => .char c false false
  | .quoted c => .char c true false
  | _ => .keep

def Word.marks (w : Word) : List Marked := w.filterMap (·.item.marked?)

theorem process_bind [LawfulMonad m] (x : Action m α) : (process >>= fun _ => x) = x := by
  apply ExceptT.ext
  funext s
  have hget : ExceptT.run (get : Action m Machine) s = pure (Except.ok s, s) := pure_bind _ _
  simp only [process, bind_assoc, pure_bind, ExceptT.run_bind]
  exact (congrArg (· >>= _) hget).trans (pure_bind _ _)

theorem partItems_inert [Files m] (capture : Capture m) (joins : Bool) {p : Part} (hp : p.Inert) :
    partItems capture joins false p = pure [p.item] := by
  cases p with
  | plain c | quoted c | quotes =>
    rw [partItems]
    rfl
  | _ => exact hp.elim

variable [LawfulMonad m] [Files m]

theorem partsItems_inert (capture : Capture m) (joins : Bool) (hw : ∀ p ∈ w, p.Inert) :
    partsItems capture joins false w = pure (w.map Part.item) := by
  induction w with
  | nil =>
    rw [partsItems]
    rfl
  | cons p w ih =>
    obtain ⟨hp, hw⟩ := List.forall_mem_cons.1 hw
    rw [partsItems, partItems_inert capture joins hp, ih hw, pure_bind, pure_bind]
    rfl

theorem char?_item (p : Part) : p.item.char? = p.char? := by cases p <;> rfl

theorem textOf_items (w : Word) :
    textOf (w.map Part.item) = String.ofList (w.filterMap Part.char?) := by
  rw [textOf, List.filterMap_map]
  exact congrArg (fun f => String.ofList (w.filterMap f)) (funext char?_item)

theorem plainText_marks (w : Word) :
    plainText w.marks = String.ofList (w.filterMap Part.char?) := by
  rw [plainText, Word.marks, List.map_filterMap]
  congr 2
  funext p
  cases p <;> rfl

theorem withHome_inert (p : Process) (inValue : Bool) (hw : ∀ x ∈ w, x.Inert) :
    p.withHome inValue w = w := by
  unfold Process.withHome
  split
  · exact absurd (by decide : '~' ∈ active) (hw _ List.mem_cons_self)
  · rfl

theorem withHomes_inert (p : Process) (fuel : Nat) (hw : ∀ x ∈ w, x.Inert) :
    p.withHomes fuel w = w := by
  induction fuel generalizing w with
  | zero => rfl
  | succ fuel ih =>
    rw [Process.withHomes, withHome_inert p true hw]
    split
    · rfl
    · rename_i c r hdrop
      have hr : ∀ x ∈ r, x.Inert := fun x hx =>
        hw x (List.mem_of_mem_drop (hdrop ▸ List.mem_cons_of_mem c hx))
      rw [ih hr, ← hdrop]
      exact List.prefix_iff_eq_append.1 (List.takeWhile_prefix _)

theorem foldl_add_growing (separators : List Char) (done : List (List Marked)) (w : Word)
    (g : List Marked) :
    (w.map Part.item).foldl (Fields.add separators) ⟨done, some g, false⟩ =
      ⟨done, some (w.marks.reverse ++ g), false⟩ := by
  induction w generalizing g with
  | nil => rfl
  | cons p w ih =>
    cases p <;> simp [Part.item, Fields.add, Word.marks, Item.marked?, ih]

theorem fieldsOf_items (separators : List Char) (hne : w ≠ []) :
    fieldsOf separators (w.map Part.item) = [w.marks] := by
  obtain ⟨p, w, rfl⟩ := List.exists_cons_of_ne_nil hne
  have hfirst : Fields.add separators {} p.item = ⟨[], some (Word.marks [p]), false⟩ := by
    cases p <;> rfl
  have hmarks : Word.marks (p :: w) = Word.marks [p] ++ Word.marks w :=
    List.filterMap_append (l := [p])
  have hreverse : (Word.marks [p]).reverse = Word.marks [p] := by cases p <;> rfl
  rw [fieldsOf, List.map_cons, List.foldl_cons, hfirst, foldl_add_growing, hmarks]
  simp [Fields.close, hreverse]

theorem glyphs_inert (hw : ∀ p ∈ w, p.Inert) (fuel : Nat) :
    ∀ g ∈ glyphs fuel w.marks, ∃ c, g = .char c := by
  induction w generalizing fuel with
  | nil => cases fuel <;> exact List.forall_mem_nil _
  | cons p w ih =>
    obtain ⟨hp, htail⟩ := List.forall_mem_cons.1 hw
    cases fuel with
    | zero => exact List.forall_mem_nil _
    | succ fuel =>
      cases p with
      | plain c =>
        have hne {d : Char} (hd : d ∈ active) : c ≠ d := ne_of_not_active hp hd
        have hmarks : Word.marks (.plain c :: w) = (c, false) :: Word.marks w := rfl
        rw [hmarks, glyphs, if_neg Bool.false_ne_true, if_neg (hne (by decide)),
          if_neg (hne (by decide)), if_neg (hne (by decide))]
        exact List.forall_mem_cons.2 ⟨⟨c, rfl⟩, ih htail fuel⟩
      | quoted c => exact List.forall_mem_cons.2 ⟨⟨c, rfl⟩, ih htail fuel⟩
      | quotes => exact ih htail _
      | _ => exact hp.elim

theorem isPatterned_marks (hw : ∀ p ∈ w, p.Inert) : isPatterned w.marks = false := by
  rw [isPatterned, List.any_eq_false]
  intro g hg
  obtain ⟨c, rfl⟩ := glyphs_inert hw _ g hg
  exact Bool.false_ne_true

theorem holdsArguments_inert (hw : ∀ p ∈ w, p.Inert) : holdsArguments w = false := by
  rw [holdsArguments, List.any_eq_false]
  intro p hp
  split
  · exact (hw _ hp).elim
  · exact Bool.false_ne_true

theorem expand_spelled (capture : Capture m) (h : Spells w cs) (hne : w ≠ []) :
    expand capture w = pure [String.ofList cs] := by
  have hglobbed : globbed w.marks = (pure [String.ofList cs] : Action m (List String)) := by
    simp only [globbed, isPatterned_marks h.inert, Bool.not_false, Bool.or_true, if_true,
      process_bind, plainText_marks, h.chars]
  simp only [expand, withHome_inert _ false h.inert, partsItems_inert capture false h.inert,
    holdsArguments_inert h.inert, Bool.and_false, if_neg Bool.false_ne_true, pure_bind,
    fieldsOf_items _ hne, process_bind, List.mapM_cons, List.mapM_nil, hglobbed]
  rfl

theorem expandValue_spelled (capture : Capture m) (h : Spells w cs) :
    expandValue capture w = pure (String.ofList cs) := by
  simp only [expandValue, withHomes_inert _ _ h.inert, partsItems_inert capture true h.inert,
    pure_bind, process_bind, textOf_items, h.chars]

theorem mapM_plain?_eq_some_iff : w.mapM Part.plain? = some cs ↔ w = cs.map .plain := by
  induction w generalizing cs with
  | nil => cases cs <;> simp
  | cons p w ih =>
    rw [List.mapM_cons]
    cases p with
    | plain c =>
      cases cs with
      | nil => simp [Part.plain?, Option.bind_eq_some_iff]
      | cons d cs => simp [Part.plain?, Option.bind_eq_some_iff, ih, and_comm]
    | _ => cases cs <;> simp [Part.plain?]

theorem plain?_eq_some_iff : w.plain? = some n ↔ w = n.toList.map .plain := by
  rw [Word.plain?, Option.map_eq_some_iff]
  simp only [mapM_plain?_eq_some_iff]
  constructor
  · rintro ⟨cs, rfl, rfl⟩
    rw [String.toList_ofList]
  · exact fun h => ⟨n.toList, h, String.ofList_toList⟩

theorem assignment?_eq_some_iff : w.assignment? = some (n, value) ↔
    w = n.toList.map .plain ++ .plain '=' :: value ∧ isName n = true := by
  unfold Word.assignment?
  constructor
  · intro h
    have hw := List.prefix_iff_eq_append.1 (List.takeWhile_prefix (l := w)
      fun p => p.plain?.any isNameChar)
    dsimp only at h
    split at h
    · rename_i name value' hname hdrop
      rw [hdrop] at hw
      split_ifs at h with hvalid
      obtain ⟨rfl, rfl⟩ := Prod.mk.inj (Option.some.inj h)
      rw [← plain?_eq_some_iff.1 hname]
      exact ⟨hw.symm, hvalid⟩
    · cases h
  · rintro ⟨rfl, hvalid⟩
    have hchars : ∀ c ∈ n.toList, isNameChar c = true := by
      unfold isName at hvalid
      simp only [Bool.and_eq_true, List.all_eq_true] at hvalid
      exact hvalid.2
    have hname : (n.toList.map Part.plain ++ .plain '=' :: value).takeWhile
        (fun p => p.plain?.any isNameChar) = n.toList.map Part.plain := by
      rw [List.takeWhile_append_of_pos (by simpa [Part.plain?] using hchars),
        List.takeWhile_cons_of_neg (by decide), List.append_nil]
    rw [hname]
    dsimp only
    rw [List.drop_left, plain?_eq_some_iff.2 rfl]
    exact if_pos hvalid

theorem Spells.assignedValue (h : Spells w cs) (hw : w.assignment? = some (n, value)) :
    ∃ ds, Spells value ds ∧ n ++ "=" ++ String.ofList ds = String.ofList cs := by
  obtain ⟨rfl, -⟩ := assignment?_eq_some_iff.1 hw
  refine ⟨_, ⟨rfl, fun p hp => h.inert p (by simp [hp])⟩, ?_⟩
  rw [← h.chars, ← String.toList_inj]
  simp [Part.char?, List.filterMap_append, List.filterMap_map, Function.comp_def]

theorem commandFields_spelled (capture : Capture m)
    (h : List.Forall₂ (fun w text => Spells w text.toList ∧ w ≠ []) ws words)
    (fields : List String) : commandFields capture fields ws = pure (fields ++ words) := by
  induction h generalizing fields with
  | nil => rw [commandFields, List.append_nil]
  | @cons w text ws words hw _ ih =>
    rw [commandFields]
    have hgo : commandFields capture (fields ++ [text]) ws = pure (fields ++ text :: words) := by
      rw [ih, List.append_assoc, List.singleton_append]
    split
    · rename_i n value heq
      split_ifs at heq
      obtain ⟨ds, hvalue, htext⟩ := hw.1.assignedValue heq
      rw [expandValue_spelled _ hvalue, pure_bind, pure_bind, htext, String.ofList_toList]
      exact hgo
    · rw [expand_spelled _ hw.1 hw.2, pure_bind, String.ofList_toList]
      exact hgo

end DumpWorkbench.Shell
