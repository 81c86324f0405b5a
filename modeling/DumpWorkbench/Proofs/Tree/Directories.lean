import DumpWorkbench.Proofs.Path.Spelled
import DumpWorkbench.Proofs.Text.Cut
import DumpWorkbench.Proofs.Text.Utf8
import DumpWorkbench.Proofs.Tree.Changes
import Mathlib.Data.List.Induction

namespace DumpWorkbench

open DumpWorkbench.Path (Component Front Written spell)

namespace Location

def enter (l : Location) : Component → Location
  | .parent => l.dropLast
  | .name s => l ++ [s]
  | _ => l

def along (l : Location) (ns : List Component) : Location := ns.foldl enter l

/-- All locations that steps come to, the last one included. -/
def way (l : Location) : List Component → List Location
  | [] => []
  | c :: ns => l.enter c :: (l.enter c).way ns

variable {l x : Location} {ns : List Component} {c : Component}

theorem along_concat (l : Location) (ns : List Component) (c : Component) :
    l.along (ns ++ [c]) = (l.along ns).enter c := by
  simp [along]

theorem mem_way_append {ms : List Component} :
    x ∈ l.way (ns ++ ms) ↔ x ∈ l.way ns ∨ x ∈ (l.along ns).way ms := by
  induction ns generalizing l with
  | nil => exact (or_iff_right List.not_mem_nil).symm
  | cons c ns ih =>
    rw [List.cons_append, way, List.mem_cons, ih, way, List.mem_cons, or_assoc]
    rfl

theorem mem_way_concat : x ∈ l.way (ns ++ [c]) ↔ x ∈ l.way ns ∨ x = l.along (ns ++ [c]) := by
  rw [mem_way_append, along_concat, way, way, List.mem_singleton]

/-- A way comes to where its beginnings lead. -/
theorem mem_way_iff : x ∈ l.way ns ↔ ∃ ms, ms <+: ns ∧ ms ≠ [] ∧ l.along ms = x := by
  induction ns using List.reverseRecOn with
  | nil => simp [way]
  | append_singleton ns c ih =>
    rw [mem_way_concat, ih]
    constructor
    · rintro (⟨ms, hms, hne, hx⟩ | hx)
      · exact ⟨ms, hms.trans (List.prefix_append ns [c]), hne, hx⟩
      · exact ⟨ns ++ [c], List.prefix_rfl, by simp, hx.symm⟩
    · rintro ⟨ms, hms, hne, hx⟩
      obtain rfl | hms := List.prefix_concat_iff.1 hms
      · exact .inr hx.symm
      · exact .inl ⟨ms, hms, hne, hx⟩

theorem along_mem_way (hns : ns ≠ []) : l.along ns ∈ l.way ns := by
  obtain ⟨ms, c, rfl⟩ := (List.eq_nil_or_concat' ns).resolve_left hns
  exact mem_way_concat.2 (.inr rfl)

end Location

/-- A path without a zero byte, and with neither too long a text nor too long a name. -/
structure Path.Usable (p : Path) : Prop where
  nonzero : p.text.toList.any Tree.isZero = false
  length : (Utf8.encodeChars p.text.toList).length ≤ Tree.maxPath
  segment : ∀ s ∈ Path.segments p.text.toList, (Utf8.encodeChars s).length ≤ Tree.maxName

namespace Tree

/-- A tree of directories, each of them in a directory. -/
structure Hollow (t : Tree) : Prop where
  directory : ∀ l node, t.get? l = some node → node = .directory
  parent : ∀ l node, t.get? l = some node → t.get? l.dropLast = some .directory

/-- A tree in which everything is in a directory. -/
structure Rooted (t : Tree) : Prop where
  parent : ∀ l node, t.get? l = some node → t.get? l.dropLast = some .directory

def Free (t : Tree) (ls : List Location) : Prop :=
  ∀ l ∈ ls, t.get? l = some .directory ∨ t.get? l = none

def origin (directory : Location) (f : Front) : Location := if f = .root then [] else directory

variable {t t' t'' : Tree} {l directory : Location} {ls ms : List Location} {f : Front}
  {ns : List Component} {c : Component} {s : String}

theorem Hollow.directory_or_missing (h : t.Hollow) (l : Location) :
    t.get? l = some .directory ∨ t.get? l = none := by
  cases hl : t.get? l with
  | none => exact .inr rfl
  | some node => exact .inl (congrArg some (h.directory l node hl))

theorem Hollow.rooted (h : t.Hollow) : t.Rooted := ⟨h.parent⟩

theorem Hollow.free (h : t.Hollow) (ls : List Location) : t.Free ls :=
  fun l _ => h.directory_or_missing l

theorem rooted_of_nodes (h : ∀ x ∈ t.nodes, t.get? x.1.dropLast = some .directory) :
    t.Rooted := by
  refine ⟨fun l node hl => ?_⟩
  by_cases hroot : l = []
  · subst hroot
    rfl
  · have hlookup : t.nodes.lookup l = some node := by rw [← hl, get?, if_neg hroot]
    obtain ⟨before, after, hnodes, -⟩ := List.lookup_eq_some_iff.1 hlookup
    exact h (l, node) (hnodes ▸ List.mem_append_right before List.mem_cons_self)

theorem Free.init (h : t.Free (l.way (ns ++ [c]))) : t.Free (l.way ns) :=
  fun x hx => h x (Location.mem_way_concat.2 (.inl hx))

theorem step_of_directory (hl : t.get? l = some .directory)
    (hc : Path.component? c.text = some c) (hshort : (Utf8.encodeChars c.text).length ≤ maxName) :
    t.step l c.text = .ok (l.enter c) := by
  have hskip : ¬ (c.text = [] ∨ c.text = ['.']) := by
    rintro (h | h) <;> (rw [h] at hc; cases hc)
  unfold step
  rw [hl]
  dsimp only
  rw [if_neg hskip]
  cases c with
  | root => cases Path.component?_ne_root hc rfl
  | current => cases Path.component?_ne_current hc rfl
  | parent => rfl
  | name s =>
    have hdots : Component.text (.name s) ≠ ['.', '.'] := by
      intro h
      rw [h] at hc
      cases hc
    rw [if_neg hdots, if_neg (Nat.not_lt.2 hshort)]
    exact congrArg (fun n => Except.ok (l ++ [n])) String.ofList_toList

/-- A way without files is followed to its end if all before that are directories. -/
theorem follow_concat (hfree : t.Free (l.way ns)) (hl : t.get? l = some .directory)
    (hwritten : Written (ns ++ [c]))
    (hshort : ∀ d ∈ ns ++ [c], (Utf8.encodeChars d.text).length ≤ maxName) :
    t.follow l ((ns ++ [c]).map Component.text) =
      if ∀ x ∈ l.way ns, t.get? x = some .directory then .ok (l.along (ns ++ [c]))
      else .error .noEntry := by
  induction ns generalizing l with
  | nil =>
    have hstep := step_of_directory hl (hwritten c List.mem_cons_self).1
      (hshort c List.mem_cons_self)
    have hnone : ∀ x ∈ l.way [], t.get? x = some .directory :=
      fun _ hx => absurd hx List.not_mem_nil
    rw [if_pos hnone, List.nil_append, List.map_singleton, follow, hstep]
    rfl
  | cons d ns ih =>
    have hstep := step_of_directory hl (hwritten d List.mem_cons_self).1
      (hshort d List.mem_cons_self)
    rw [List.cons_append, List.map_cons, follow, hstep]
    dsimp only
    obtain hnext | hnext := hfree (l.enter d) List.mem_cons_self
    · rw [ih (fun x hx => hfree x (List.mem_cons_of_mem _ hx)) hnext
        (fun e he => hwritten e (List.mem_cons_of_mem d he))
        fun e he => hshort e (List.mem_cons_of_mem d he)]
      refine if_congr ?_ rfl rfl
      rw [Location.way, List.forall_mem_cons]
      exact ⟨fun hall => ⟨hnext, hall⟩, And.right⟩
    · -- The step after a missing directory fails.
      have hmissing : ¬ ∀ x ∈ l.way (d :: ns), t.get? x = some .directory := by
        intro hall
        have hd := hall _ List.mem_cons_self
        rw [hnext] at hd
        cases hd
      obtain ⟨e, es, hes⟩ := List.exists_cons_of_ne_nil (List.append_ne_nil_of_right_ne_nil ns
        (List.cons_ne_nil c []))
      rw [if_neg hmissing, hes, List.map_cons, follow, step, hnext]

theorem follow_front (hl : t.get? l = some .directory) (f : Front) (ss : List (List Char)) :
    t.follow l (f.segments ++ ss) = t.follow l ss := by
  cases f with
  | bare => rfl
  | root =>
    have hstep : t.step l [] = .ok l := by rw [step, hl]; rfl
    rw [Front.segments, List.singleton_append, follow, hstep]
  | current =>
    have hstep : t.step l ['.'] = .ok l := by rw [step, hl]; rfl
    rw [Front.segments, List.singleton_append, follow, hstep]

theorem locate_spell (hwritten : Written ns) (hns : ns ≠ []) (husable : (spell f ns).Usable)
    (hstart : t.get? (origin directory f) = some .directory) :
    t.locate directory (spell f ns) =
      (t.follow (origin directory f) (ns.map Component.text)).map (⟨·, false⟩) := by
  have hlast := Path.getLast?_spell f hwritten hns
  have hsegments := Path.segments_spell f hwritten hns
  have hnil : (spell f ns).text.toList ≠ [] := by
    simpa using Path.spell_text_ne f hwritten hns
  have hstart' : (if (spell f ns).isAbsolute then [] else directory) = origin directory f :=
    if_congr (Path.isAbsolute_spell f hwritten) rfl rfl
  -- No separator ends the path, so nothing is cut off.
  have htrim : ((spell f ns).text.toList.reverse.dropWhile (· = Path.separator)).reverse =
      (spell f ns).text.toList := by
    have hend : ∀ c ∈ (spell f ns).text.toList.getLast?, decide (c = Path.separator) = false := by
      intro c hc
      apply decide_eq_false
      rintro rfl
      exact hlast hc
    have hcut := Text.rdropWhile_append_of_last (List.forall_mem_nil _) hend
    rwa [List.append_nil] at hcut
  unfold locate
  dsimp only
  rw [husable.nonzero, if_neg Bool.false_ne_true, if_neg hnil,
    if_neg (Nat.not_lt.2 husable.length), htrim, hsegments, hstart',
    follow_front hstart, decide_eq_false (Nat.lt_irrefl _)]

theorem short_of_usable (hwritten : Written ns) (husable : (spell f ns).Usable) :
    ∀ d ∈ ns, (Utf8.encodeChars d.text).length ≤ maxName := by
  intro d hd
  refine husable.segment d.text ?_
  rw [Path.segments_spell f hwritten (List.ne_nil_of_mem hd)]
  exact List.mem_append_right _ (List.mem_map_of_mem hd)

theorem locate_concat (hfree : t.Free ((origin directory f).way ns))
    (hwritten : Written (ns ++ [c])) (husable : (spell f (ns ++ [c])).Usable)
    (hstart : t.get? (origin directory f) = some .directory) :
    t.locate directory (spell f (ns ++ [c])) =
      if ∀ x ∈ (origin directory f).way ns, t.get? x = some .directory then
        .ok ⟨(origin directory f).along (ns ++ [c]), false⟩
      else .error .noEntry := by
  have hne : ns ++ [c] ≠ [] := List.append_ne_nil_of_right_ne_nil ns (List.cons_ne_nil c [])
  rw [locate_spell hwritten hne husable hstart,
    follow_concat hfree hstart hwritten (short_of_usable hwritten husable)]
  split <;> rfl

/-- A way leads to a directory if all that it comes to are directories. -/
theorem follow_directory_iff (hl : t.get? l = some .directory) (hwritten : Written ns)
    (hshort : ∀ d ∈ ns, (Utf8.encodeChars d.text).length ≤ maxName) :
    (∃ l', t.follow l (ns.map Component.text) = .ok l' ∧ t.get? l' = some .directory) ↔
      ∀ x ∈ l.way ns, t.get? x = some .directory := by
  induction ns generalizing l with
  | nil => exact iff_of_true ⟨l, rfl, hl⟩ fun _ hx => absurd hx List.not_mem_nil
  | cons d ns ih =>
    have hstep := step_of_directory hl (hwritten d List.mem_cons_self).1
      (hshort d List.mem_cons_self)
    rw [List.map_cons, follow, hstep, Location.way, List.forall_mem_cons]
    dsimp only
    by_cases hnext : t.get? (l.enter d) = some .directory
    · rw [ih hnext (fun e he => hwritten e (List.mem_cons_of_mem d he))
        fun e he => hshort e (List.mem_cons_of_mem d he)]
      exact ⟨fun hall => ⟨hnext, hall⟩, And.right⟩
    · refine iff_of_false ?_ fun hall => hnext hall.1
      rintro ⟨l', hfollow, hl'⟩
      -- From what is no directory no step is taken.
      cases ns with
      | nil =>
        obtain rfl := Except.ok.inj hfollow
        exact hnext hl'
      | cons e es =>
        rw [List.map_cons, follow] at hfollow
        cases hstep : t.step (l.enter d) e.text with
        | ok next => exact hnext (directory_of_step hstep)
        | error e =>
          rw [hstep] at hfollow
          cases hfollow

theorem isDirectory_spell_iff (hwritten : Written ns) (hns : ns ≠ [])
    (husable : (spell f ns).Usable) (hstart : t.get? (origin directory f) = some .directory) :
    t.isDirectory directory (spell f ns) = true ↔
      ∀ x ∈ (origin directory f).way ns, t.get? x = some .directory := by
  have hlocate := locate_spell hwritten hns husable hstart
  rw [← follow_directory_iff hstart hwritten (short_of_usable hwritten husable)]
  constructor
  · intro h
    obtain ⟨place, hplace, hnode⟩ := find_eq_ok (find_of_isDirectory h)
    obtain ⟨l', hfollow, rfl⟩ := map_eq_ok.1 (hlocate.symm.trans hplace)
    exact ⟨l', hfollow, hnode⟩
  · rintro ⟨l', hfollow, hnode⟩
    rw [hfollow] at hlocate
    unfold isDirectory find
    rw [hlocate]
    dsimp only [Except.map]
    rw [hnode]

/-- The second tree has directories at some locations and is the first one elsewhere. -/
structure Gains (t : Tree) (ls : List Location) (t' : Tree) : Prop where
  rooted : t'.Rooted
  get : ∀ l, t'.get? l = if l ∈ ls then some .directory else t.get? l

/-- Likewise, without files. -/
structure Adds (t : Tree) (ls : List Location) (t' : Tree) : Prop where
  hollow : t'.Hollow
  get : ∀ l, t'.get? l = if l ∈ ls then some .directory else t.get? l

theorem Gains.trans (h : t.Gains ls t') (h' : t'.Gains ms t'') : t.Gains (ls ++ ms) t'' := by
  refine ⟨h'.rooted, fun l => ?_⟩
  rw [h'.get, h.get]
  by_cases hl : l ∈ ls <;> by_cases hm : l ∈ ms <;> simp [hl, hm]

theorem Gains.congr (h : t.Gains ls t') (hmem : ∀ l, l ∈ ls ↔ l ∈ ms) : t.Gains ms t' :=
  ⟨h.rooted, fun l => (h.get l).trans (if_congr (hmem l) rfl rfl)⟩

theorem Gains.keeps (h : t.Gains ls t') (hl : t.get? l = some .directory) :
    t'.get? l = some .directory := by
  rw [h.get]
  split
  · rfl
  · exact hl

theorem Gains.free (h : t.Gains ls t') (hms : t.Free ms) : t'.Free ms := by
  intro l hl
  rw [h.get]
  split
  · exact .inl rfl
  · exact hms l hl

theorem Gains.free_iff (h : t.Gains ls t') (hls : t.Free ls) : t'.Free ms ↔ t.Free ms := by
  refine ⟨fun hms l hl => ?_, h.free⟩
  have hfree := hms l hl
  rw [h.get] at hfree
  split at hfree
  · exact hls l ‹_›
  · exact hfree

theorem Gains.adds (h : t.Gains ls t') (hhollow : t.Hollow) : t.Adds ls t' := by
  refine ⟨⟨fun l node hnode => ?_, h.rooted.parent⟩, h.get⟩
  obtain hl | hl := h.free (hhollow.free [l]) l List.mem_cons_self
  · exact (Option.some.inj (hl.symm.trans hnode)).symm
  · cases hl.symm.trans hnode

theorem Rooted.gains (h : t.Rooted) (hls : ∀ l ∈ ls, t.get? l = some .directory) :
    t.Gains ls t := by
  refine ⟨h, fun l => ?_⟩
  split
  · exact hls l ‹_›
  · rfl

/-- A directory that is missing in a directory can be made, and is all that is added. -/
theorem Rooted.gains_put (h : t.Rooted) (hl : l ≠ [])
    (hparent : t.get? l.dropLast = some .directory) : t.Gains [l] (t.put l .directory) := by
  have hget (x : Location) : (t.put l .directory).get? x =
      if x ∈ [l] then some .directory else t.get? x := by
    by_cases hx : x = l
    · rw [hx, if_pos List.mem_cons_self]
      exact get?_put_self hl t .directory
    · rw [if_neg (by simpa using hx)]
      exact get?_put_of_ne hx t .directory
  refine ⟨⟨fun x node hx => ?_⟩, hget⟩
  have hup : t.get? x.dropLast = some .directory := by
    by_cases heq : x = l
    · rw [heq]
      exact hparent
    · rw [get?_put_of_ne heq] at hx
      exact h.parent x node hx
  rw [hget]
  split
  · rfl
  · exact hup

theorem along_of_way (hstart : t.get? l = some .directory)
    (hway : ∀ x ∈ l.way ns, t.get? x = some .directory) :
    t.get? (l.along ns) = some .directory := by
  by_cases hns : ns = []
  · subst hns
    exact hstart
  · exact hway _ (Location.along_mem_way hns)

theorem Rooted.along_missing (h : t.Rooted) (hwritten : Written (ns ++ [c])) {start : Location}
    (hlast : t.get? (start.along ns) = some .directory)
    (hmissing : t.get? (start.along (ns ++ [c])) = none) :
    ∃ s, start.along (ns ++ [c]) = start.along ns ++ [s] := by
  have hc := hwritten c (List.mem_append_right ns List.mem_cons_self)
  have henter : start.along (ns ++ [c]) = (start.along ns).enter c := Location.along_concat _ ns c
  cases c with
  | root => cases Path.component?_ne_root hc.1 rfl
  | current => cases Path.component?_ne_current hc.1 rfl
  | parent =>
    have hup := h.parent _ _ hlast
    rw [henter] at hmissing
    cases hmissing.symm.trans hup
  | name s => exact ⟨s, henter⟩

theorem Rooted.makeDirectory_reached (h : t.Rooted)
    (hfree : t.Free ((origin directory f).way (ns ++ [c]))) (hwritten : Written (ns ++ [c]))
    (husable : (spell f (ns ++ [c])).Usable)
    (hstart : t.get? (origin directory f) = some .directory)
    (hway : ∀ x ∈ (origin directory f).way ns, t.get? x = some .directory) :
    let spot := (origin directory f).along (ns ++ [c])
    (t.get? spot = some .directory ∧
        t.makeDirectory directory (spell f (ns ++ [c])) = .error .fileExists ∧
        t.isDirectory directory (spell f (ns ++ [c])) = true) ∨
      t.makeDirectory directory (spell f (ns ++ [c])) = .ok (t.put spot .directory) ∧
        t.Gains [spot] (t.put spot .directory) := by
  intro spot
  have hplace : t.locate directory (spell f (ns ++ [c])) = .ok ⟨spot, false⟩ := by
    rw [locate_concat hfree.init hwritten husable hstart, if_pos hway]
  have hlast := along_of_way hstart hway
  unfold makeDirectory isDirectory find
  rw [hplace]
  dsimp only
  obtain hspot | hspot := hfree spot (Location.mem_way_concat.2 (.inr rfl))
  · left
    rw [hspot]
    exact ⟨rfl, rfl, rfl⟩
  · right
    obtain ⟨s, hs⟩ : ∃ s, spot = (origin directory f).along ns ++ [s] :=
      h.along_missing hwritten hlast hspot
    have hparent : t.get? spot.dropLast = some .directory := by
      rw [hs, List.dropLast_concat]
      exact hlast
    have hne : spot ≠ [] := by
      rw [hs]
      exact List.append_ne_nil_of_right_ne_nil _ (List.cons_ne_nil s [])
    rw [hspot, hparent]
    exact ⟨rfl, h.gains_put hne hparent⟩

theorem makeDirectory_unreached (hfree : t.Free ((origin directory f).way ns))
    (hwritten : Written (ns ++ [c])) (husable : (spell f (ns ++ [c])).Usable)
    (hstart : t.get? (origin directory f) = some .directory)
    (hway : ¬ ∀ x ∈ (origin directory f).way ns, t.get? x = some .directory) :
    t.makeDirectory directory (spell f (ns ++ [c])) = .error .noEntry := by
  rw [makeDirectory, locate_concat hfree hwritten husable hstart, if_neg hway]

theorem Rooted.exists_made (h : t.Rooted)
    (hfree : t.Free ((origin directory f).way (ns ++ [c]))) (hwritten : Written (ns ++ [c]))
    (husable : (spell f (ns ++ [c])).Usable)
    (hstart : t.get? (origin directory f) = some .directory)
    (hway : ∀ x ∈ (origin directory f).way ns, t.get? x = some .directory) :
    ∃ t', t.Gains ((origin directory f).way (ns ++ [c])) t' ∧
      (t.makeDirectory directory (spell f (ns ++ [c])) = .ok t' ∨
        t' = t ∧ t.makeDirectory directory (spell f (ns ++ [c])) = .error .fileExists ∧
          t.isDirectory directory (spell f (ns ++ [c])) = true) := by
  have hsame (x : Location) : x ∈ (origin directory f).way ns ++
      [(origin directory f).along (ns ++ [c])] ↔ x ∈ (origin directory f).way (ns ++ [c]) := by
    rw [Location.mem_way_concat, List.mem_append, List.mem_singleton]
  obtain ⟨hspot, hmake, his⟩ | ⟨hmake, hgains⟩ :=
    h.makeDirectory_reached hfree hwritten husable hstart hway
  · have hall : ∀ x ∈ (origin directory f).way ns ++ [(origin directory f).along (ns ++ [c])],
        t.get? x = some .directory :=
      List.forall_mem_append.2 ⟨hway, List.forall_mem_singleton.2 hspot⟩
    exact ⟨t, (h.gains hall).congr hsame, .inr ⟨rfl, hmake, his⟩⟩
  · exact ⟨_, ((h.gains hway).trans hgains).congr hsame, .inl hmake⟩

theorem ancestors_spell_concat (f : Front) (h : Written (ns ++ [c])) :
    ancestors (spell f (ns ++ [c])) = spell f (ns ++ [c]) :: ancestors (spell f ns) := by
  have hinit : Written ns := fun d hd => h d (List.mem_append_left [c] hd)
  have htake : ∀ n ∈ (List.range (f.components ++ ns).length).reverse,
      (f.components ++ ns ++ [c]).take n = (f.components ++ ns).take n := by
    intro n hn
    have hlt := List.mem_range.1 (List.mem_reverse.1 hn)
    exact List.take_append_of_le_length (Nat.le_of_lt hlt)
  unfold ancestors
  dsimp only
  rw [Path.components_spell f h, Path.components_spell f hinit, ← List.append_assoc,
    List.length_append, List.length_singleton, List.range_succ, List.reverse_append,
    List.reverse_singleton, List.singleton_append, List.map_cons, List.take_left]
  refine congrArg (spell f (ns ++ [c]) :: spell f ns :: ·) (List.map_congr_left fun n hn => ?_)
  rw [htake n hn]

theorem usable_spell_init (h : Written (ns ++ [c])) (husable : (spell f (ns ++ [c])).Usable) :
    (spell f ns).Usable := by
  have hinit : Written ns := fun d hd => h d (List.mem_append_left [c] hd)
  obtain ⟨cs, hcs⟩ := Path.exists_text_spell_concat f h
  have hne : ns ++ [c] ≠ [] := List.append_ne_nil_of_right_ne_nil ns (List.cons_ne_nil c [])
  obtain ⟨hnonzero, hlength, hsegment⟩ := husable
  rw [hcs] at hnonzero hlength
  rw [List.any_append, Bool.or_eq_false_iff] at hnonzero
  rw [Utf8.encodeChars_append, List.length_append] at hlength
  refine ⟨hnonzero.1, by omega, ?_⟩
  by_cases hns : ns = []
  · subst hns
    cases f <;> decide
  · intro s hs
    rw [Path.segments_spell f hinit hns] at hs
    rw [Path.segments_spell f h hne, List.map_append, ← List.append_assoc] at hsegment
    exact hsegment s (List.mem_append_left _ hs)

theorem components_spell_concat_ne (f : Front) (hwritten : Written (ns ++ [c])) :
    ¬ ((spell f (ns ++ [c])).components = [] ∨ (spell f (ns ++ [c])).components = [.root]) := by
  rw [Path.components_spell f hwritten, ← List.append_assoc]
  rintro (hnil | hroot)
  · exact List.append_ne_nil_of_right_ne_nil _ (List.cons_ne_nil c []) hnil
  · have hc : c = .root := List.singleton_inj.1
      (List.append_inj_right' (hroot.trans (List.nil_append [Component.root]).symm) rfl)
    exact Path.component?_ne_root (hwritten c (List.mem_append_right ns List.mem_cons_self)).1 hc

theorem makeFirst_start (f : Front) (hstart : t.get? (origin directory f) = some .directory) :
    t.makeFirst directory (ancestors (spell f [])) = (.ok (), t) := by
  cases f with
  | bare => rfl
  | root => rfl
  | current =>
    have hstart' : t.get? directory = some .directory := hstart
    have hplace : t.locate directory (spell .current []) = .ok ⟨directory, false⟩ := by
      have hfollow : t.locate directory (spell .current []) =
          (t.follow directory (Front.current.segments ++ [])).map (⟨·, false⟩) := rfl
      rw [hfollow, follow_front hstart']
      rfl
    have hmake : t.makeDirectory directory (spell .current []) = .error .fileExists := by
      rw [makeDirectory, hplace]
      dsimp only
      rw [hstart']
    have his : t.isDirectory directory (spell .current []) = true := by
      rw [isDirectory, find, hplace]
      dsimp only
      rw [hstart']
    have hancestors : ancestors (spell .current []) = [spell .current [], spell .bare []] := rfl
    have hcomponents : ¬ ((spell .current []).components = [] ∨
        (spell .current []).components = [.root]) := by decide
    rw [hancestors, makeFirst, if_neg hcomponents, hmake, his]
    rfl

/-- The directories on the way of a path are made where no file is in the way. The induction is on
the way, from its end, as the paths above are tried. -/
theorem Rooted.makeFirst_spell (h : t.Rooted) (hfree : t.Free ((origin directory f).way ns))
    (hwritten : Written ns) (husable : (spell f ns).Usable)
    (hstart : t.get? (origin directory f) = some .directory) :
    ∃ t', t.makeFirst directory (ancestors (spell f ns)) = (.ok (), t') ∧
      t.Gains ((origin directory f).way ns) t' := by
  induction ns using List.reverseRecOn with
  | nil => exact ⟨t, makeFirst_start f hstart, h.gains fun l hl => absurd hl List.not_mem_nil⟩
  | append_singleton ns c ih =>
    have hinit : Written ns := fun d hd => hwritten d (List.mem_append_left [c] hd)
    rw [ancestors_spell_concat f hwritten]
    unfold makeFirst
    rw [if_neg (components_spell_concat_ne f hwritten)]
    by_cases hreached : ∀ x ∈ (origin directory f).way ns, t.get? x = some .directory
    · obtain ⟨t', hgains, hmake | ⟨rfl, hmake, his⟩⟩ :=
        h.exists_made hfree hwritten husable hstart hreached
      · rw [hmake]
        exact ⟨t', rfl, hgains⟩
      · rw [hmake, his]
        exact ⟨_, rfl, hgains⟩
    · -- The second attempt is made in the tree that has the directories above.
      obtain ⟨t₁, hmade, habove⟩ := ih hfree.init hinit (usable_spell_init hwritten husable)
      have hreached₁ : ∀ x ∈ (origin directory f).way ns, t₁.get? x = some .directory := by
        intro x hx
        rw [habove.get, if_pos hx]
      have hsame (x : Location) : x ∈ (origin directory f).way ns ++
          (origin directory f).way (ns ++ [c]) ↔ x ∈ (origin directory f).way (ns ++ [c]) := by
        rw [List.mem_append, Location.mem_way_concat]
        tauto
      obtain ⟨t', hgains, hmake⟩ := habove.rooted.exists_made (habove.free hfree) hwritten husable
        (habove.keeps hstart) hreached₁
      rw [makeDirectory_unreached hfree.init hwritten husable hstart hreached]
      dsimp only
      rw [if_pos rfl, hmade]
      dsimp only
      obtain hmake | ⟨rfl, hmake, his⟩ := hmake
      · rw [hmake]
        exact ⟨t', rfl, (habove.trans hgains).congr hsame⟩
      · rw [hmake, his]
        exact ⟨_, rfl, (habove.trans hgains).congr hsame⟩

theorem Rooted.makeDirectories_spell (h : t.Rooted)
    (hfree : t.Free ((origin directory f).way ns)) (hwritten : Written ns) (hns : ns ≠ [])
    (husable : (spell f ns).Usable) (hstart : t.get? (origin directory f) = some .directory) :
    ∃ t', t.makeDirectories directory (spell f ns) = (.ok (), t') ∧
      t.Gains ((origin directory f).way ns) t' := by
  rw [makeDirectories, if_neg (Path.spell_text_ne f hwritten hns)]
  exact h.makeFirst_spell hfree hwritten husable hstart

/-- In a tree without files a new file can be written where all before it are directories and
nothing is at its place. -/
theorem Hollow.openFile_spell (h : t.Hollow) (hwritten : Written (ns ++ [.name s]))
    (husable : (spell f (ns ++ [.name s])).Usable)
    (hstart : t.get? (origin directory f) = some .directory) :
    let spot := (origin directory f).along (ns ++ [.name s])
    t.openFile directory (spell f (ns ++ [.name s])) =
      if ∀ x ∈ (origin directory f).way ns, t.get? x = some .directory then
        if t.get? spot = none then .ok (spot, [], false) else .error .isDirectory
      else .error .noEntry := by
  intro spot
  have hspot : spot.dropLast = (origin directory f).along ns := by
    have henter : spot = ((origin directory f).along ns).enter (.name s) :=
      Location.along_concat _ ns _
    rw [henter]
    exact List.dropLast_concat
  unfold openFile
  rw [locate_concat (h.free _) hwritten husable hstart]
  by_cases hway : ∀ x ∈ (origin directory f).way ns, t.get? x = some .directory
  · rw [if_pos hway, if_pos hway]
    dsimp only
    obtain hdirectory | hmissing := h.directory_or_missing spot
    · rw [hdirectory, if_neg (Option.some_ne_none _)]
    · rw [hmissing, if_pos rfl, hspot, along_of_way hstart hway]
      rfl
  · rw [if_neg hway, if_neg hway]

theorem isPresent_of_openFile {p : Path}
    (h : t.openFile directory p = .error .noEntry) : t.isPresent directory p = false := by
  unfold openFile at h
  unfold isPresent find
  cases hplace : t.locate directory p with
  | error e => rfl
  | ok place =>
    rw [hplace] at h
    dsimp only at h ⊢
    cases hnode : t.get? place.location with
    | none => rfl
    | some node =>
      rw [hnode] at h
      cases node with
      | directory => cases h
      | file content executable =>
        dsimp only at h
        split at h <;> cases h

end Tree
end DumpWorkbench
