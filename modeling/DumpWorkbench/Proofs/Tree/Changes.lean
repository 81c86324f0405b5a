import DumpWorkbench.Proofs.Tree.Files
import Mathlib.Logic.Relation

namespace DumpWorkbench.Tree

open Relation (ReflTransGen)

variable {t t' : Tree} {spot l directory : Location} {node : Node} {p : Path} {old content : Bytes}
  {executable : Bool} {ps : List Path}

theorem lookup_remove (spot l : Location) (ns : List (Location × Node)) :
    (ns.filter fun (k, _) => !spot.isPrefixOf k).lookup l =
      if spot <+: l then none else ns.lookup l := by
  induction ns with
  | nil => split <;> rfl
  | cons n ns ih =>
    obtain ⟨k, m⟩ := n
    by_cases hk : spot <+: k
    · rw [List.filter_cons_of_neg (by simpa [List.isPrefixOf_iff_prefix] using hk), ih]
      split
      · rfl
      · rename_i hl
        have hne : l ≠ k := by
          rintro rfl
          exact hl hk
        rw [lookup_cons_eq, if_neg hne]
    · rw [List.filter_cons_of_pos (by simpa [← List.isPrefixOf_iff_prefix] using hk),
        lookup_cons_eq, lookup_cons_eq, ih]
      split
      · subst l
        rw [if_neg hk]
      · rfl

theorem get?_remove_of_not_below (h : ¬spot <+: l) (t : Tree) :
    (t.remove spot).get? l = t.get? l := by
  unfold get? remove
  rw [lookup_remove, if_neg h]

theorem extends_remove (t : Tree) (spot : Location) : Extends (t.remove spot) t := by
  intro l hl
  by_cases hroot : l = []
  · rw [hroot]
    rfl
  · unfold get? remove at hl
    rw [if_neg hroot, lookup_remove] at hl
    unfold get?
    rw [if_neg hroot]
    split at hl
    · cases hl
    · exact hl

theorem Extends.trans {t'' : Tree} (h : Extends t t') (h' : Extends t' t'') : Extends t t'' :=
  fun l hl => h' l (h l hl)

theorem find_eq_ok (h : t.find directory p = .ok node) :
    ∃ place, t.locate directory p = .ok place ∧ t.get? place.location = some node := by
  unfold find at h
  split at h
  · cases h
  · rename_i place hplace
    refine ⟨place, hplace, ?_⟩
    split at h
    · cases h
    · rename_i hnode
      rw [← Except.ok.inj h]
      exact hnode
    · rename_i hnode
      split at h
      · cases h
      · rw [← Except.ok.inj h]
        exact hnode

theorem find_of_isDirectory (h : t.isDirectory directory p = true) :
    t.find directory p = .ok .directory := by
  unfold isDirectory at h
  split at h
  · assumption
  · cases h

theorem list_of_isDirectory (h : t.isDirectory directory p = true) :
    ∃ names, t.list directory p = .ok names := by
  have hfind := find_of_isDirectory h
  obtain ⟨place, hplace, -⟩ := find_eq_ok hfind
  unfold list
  rw [hfind, hplace]
  exact ⟨_, rfl⟩

theorem Extends.isDirectory (hext : Extends t t') (h : t.isDirectory directory p = true) :
    t'.isDirectory directory p = true := by
  obtain ⟨place, hplace, hnode⟩ := find_eq_ok (find_of_isDirectory h)
  unfold Tree.isDirectory find
  rw [hext.locate hplace]
  dsimp only
  rw [hext _ hnode]

theorem removeAll_eq_ok (h : t.removeAll directory p = .ok t') :
    ∃ node place, t.find directory p = .ok node ∧ t.locate directory p = .ok place ∧
      t' = t.remove place.location := by
  unfold removeAll at h
  split at h
  · exact ⟨_, _, ‹_›, ‹_›, (Except.ok.inj h).symm⟩
  · cases h
  · cases h

theorem put_self (hspot : spot ≠ []) (h : t.get? spot = some node) : t.put spot node = t := by
  have hput (ns : List (Location × Node)) (h : ns.lookup spot = some node) :
      putNode spot node ns = ns := by
    induction ns with
    | nil => cases h
    | cons n ns ih =>
      obtain ⟨k, m⟩ := n
      rw [lookup_cons_eq] at h
      unfold putNode
      by_cases hk : k = spot
      · subst hk
        rw [if_pos rfl] at h ⊢
        obtain rfl := Option.some.inj h
        rfl
      · rw [if_neg (Ne.symm hk)] at h
        rw [if_neg hk, ih h]
  unfold get? at h
  rw [if_neg hspot] at h
  unfold put
  rw [hput t.nodes h]

theorem ne_nil_of_openFile (h : t.openFile directory p = .ok (spot, old, executable)) :
    spot ≠ [] := by
  rintro rfl
  exact (openFile_eq_ok h).2 rfl

theorem get?_of_openFile (h : t.openFile directory p = .ok (spot, old, executable)) :
    t.get? spot = some (.file old executable) ∨
      t.get? spot = none ∧ old = [] ∧ executable = false := by
  have hplace := (openFile_eq_ok h).1
  unfold openFile at h
  rw [hplace] at h
  dsimp only at h
  cases hnode : t.get? spot with
  | none =>
    rw [hnode] at h
    dsimp only at h
    split at h
    · obtain ⟨-, hrest⟩ := Prod.mk.inj (Except.ok.inj h)
      obtain ⟨rfl, rfl⟩ := Prod.mk.inj hrest
      exact .inr ⟨rfl, rfl, rfl⟩
    · cases h
    · cases h
  | some node =>
    rw [hnode] at h
    cases node with
    | directory => cases h
    | file content executable =>
      obtain ⟨-, hrest⟩ := Prod.mk.inj (Except.ok.inj h)
      obtain ⟨rfl, rfl⟩ := Prod.mk.inj hrest
      exact .inl rfl

theorem openFile_put (h : t.openFile directory p = .ok (spot, old, executable)) (content : Bytes) :
    (t.put spot (.file content executable)).openFile directory p =
      .ok (spot, content, executable) := by
  obtain ⟨hplace, hspot⟩ := openFile_eq_ok h
  unfold openFile
  rw [(Extends.put hspot _).locate hplace]
  dsimp only
  rw [get?_put_self (ne_nil_of_openFile h)]
  rfl

/-- A directory is made where one of some paths leads and nothing is. -/
def MakesOne (directory : Location) (ps : List Path) (t t' : Tree) : Prop :=
  ∃ p ∈ ps, ∃ place, t.locate directory p = .ok place ∧ t.get? place.location = none ∧
    t' = t.put place.location .directory

theorem makesOne_of_makeDirectory (hp : p ∈ ps) (h : t.makeDirectory directory p = .ok t') :
    MakesOne directory ps t t' := by
  unfold makeDirectory at h
  split at h
  · cases h
  · rename_i place hplace
    split at h
    · cases h
    · rename_i hnone
      split at h
      · exact ⟨p, hp, place, hplace, hnone, (Except.ok.inj h).symm⟩
      · cases h
      · cases h

/-- Whether it succeeds or not, making the first of some paths only makes directories to which the
paths lead. -/
theorem makeFirst_makes (directory : Location) (ps : List Path) (t : Tree) :
    ReflTransGen (MakesOne directory ps) t (t.makeFirst directory ps).2 := by
  induction ps generalizing t with
  | nil => exact .refl
  | cons p above ih =>
    have hone {t t' : Tree} (h : t.makeDirectory directory p = .ok t') :
        ReflTransGen (MakesOne directory (p :: above)) t t' :=
      .single (makesOne_of_makeDirectory List.mem_cons_self h)
    have habove :
        ReflTransGen (MakesOne directory (p :: above)) t (t.makeFirst directory above).2 :=
      ReflTransGen.mono (fun _ _ ⟨q, hq, h⟩ => ⟨q, List.mem_cons_of_mem p hq, h⟩) _ _ (ih t)
    unfold makeFirst
    split
    · exact .refl
    · split
      · exact hone ‹_›
      · split
        · -- The second attempt is made in the tree that has what could be made above.
          generalize t.makeFirst directory above = made at habove ⊢
          obtain ⟨result, left⟩ := made
          cases result with
          | error e => exact habove
          | ok _ =>
            dsimp only
            split
            · exact habove.trans (hone ‹_›)
            · split <;> exact habove
        · split <;> exact .refl

theorem makeDirectories_makes (directory : Location) (p : Path) (t : Tree) :
    ReflTransGen (MakesOne directory (ancestors p)) t (t.makeDirectories directory p).2 := by
  unfold makeDirectories
  split
  · exact .refl
  · exact makeFirst_makes directory _ t

theorem makeDirectories_of_isDirectory (h : t.isDirectory directory p = true) :
    t.makeDirectories directory p = (.ok (), t) := by
  obtain ⟨place, hplace, hnode⟩ := find_eq_ok (find_of_isDirectory h)
  have hmake : t.makeDirectory directory p = .error .fileExists := by
    unfold makeDirectory
    rw [hplace]
    dsimp only
    rw [hnode]
  unfold makeDirectories
  split
  · rfl
  · unfold ancestors makeFirst
    split
    · rfl
    · rw [hmake]
      dsimp only
      rw [if_neg (by decide), if_pos ⟨rfl, h⟩]

end DumpWorkbench.Tree
