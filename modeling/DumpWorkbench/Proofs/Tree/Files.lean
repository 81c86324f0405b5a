import DumpWorkbench.Proofs.Outcome
import DumpWorkbench.Tree
import Mathlib.Tactic.SplitIfs

namespace DumpWorkbench.Tree

variable {t t' : Tree} {spot l directory : Location} {node : Node} {p : Path} {old content : Bytes}
  {executable : Bool}

theorem lookup_cons_eq (k l : Location) (m : Node) (ns : List (Location × Node)) :
    ((k, m) :: ns).lookup l = if l = k then some m else ns.lookup l := by
  rw [List.lookup_cons]
  by_cases h : l = k
  · rw [if_pos h, beq_iff_eq.2 h]
  · rw [if_neg h, beq_eq_false_iff_ne.2 h]

theorem lookup_putNode (spot l : Location) (node : Node) (ns : List (Location × Node)) :
    (putNode spot node ns).lookup l = if l = spot then some node else ns.lookup l := by
  induction ns with
  | nil => exact lookup_cons_eq spot l node []
  | cons n ns ih =>
    obtain ⟨k, m⟩ := n
    unfold putNode
    by_cases hk : k = spot
    · subst hk
      rw [if_pos rfl, lookup_cons_eq, lookup_cons_eq]
      by_cases hl : l = k
      · rw [if_pos hl, if_pos hl]
      · rw [if_neg hl, if_neg hl, if_neg hl]
    · rw [if_neg hk, lookup_cons_eq, lookup_cons_eq, ih]
      by_cases hl : l = spot
      · rw [if_pos hl, if_pos hl, hl, if_neg (Ne.symm hk)]
      · rw [if_neg hl, if_neg hl]

theorem get?_put_self (h : spot ≠ []) (t : Tree) (node : Node) :
    (t.put spot node).get? spot = some node := by
  unfold get?
  rw [if_neg h, put, lookup_putNode, if_pos rfl]

theorem get?_put_of_ne (h : l ≠ spot) (t : Tree) (node : Node) :
    (t.put spot node).get? l = t.get? l := by
  unfold get?
  rw [put, lookup_putNode, if_neg h]

/-- Every directory of the first tree is one of the second. -/
def Extends (t t' : Tree) : Prop := ∀ l, t.get? l = some .directory → t'.get? l = some .directory

theorem Extends.put (h : t.get? spot ≠ some .directory) (node : Node) :
    Extends t (t.put spot node) := by
  intro l hl
  have hne : l ≠ spot := by
    rintro rfl
    exact h hl
  rw [get?_put_of_ne hne]
  exact hl

theorem directory_of_step {segment : List Char} (h : t.step spot segment = .ok l) :
    t.get? spot = some .directory := by
  unfold step at h
  split at h
  · cases h
  · cases h
  · assumption

/-- A path that can be followed is followed to the same place where there are more directories. -/
theorem Extends.follow (hext : Extends t t') {segments : List (List Char)}
    (h : t.follow spot segments = .ok l) : t'.follow spot segments = .ok l := by
  induction segments generalizing spot with
  | nil => exact h
  | cons s r ih =>
    unfold Tree.follow at h ⊢
    cases hstep : t.step spot s with
    | error e =>
      rw [hstep] at h
      cases h
    | ok next =>
      rw [hstep] at h
      have hdirectory := directory_of_step hstep
      have hstep' : t'.step spot s = .ok next := by
        rw [← hstep]
        unfold step
        rw [hdirectory, hext spot hdirectory]
      rw [hstep']
      exact ih h

theorem Extends.locate (hext : Extends t t') {place : Place}
    (h : t.locate directory p = .ok place) : t'.locate directory p = .ok place := by
  unfold Tree.locate at h ⊢
  dsimp only at h ⊢
  split_ifs at h ⊢
  all_goals
    obtain ⟨l, hl, rfl⟩ := map_eq_ok.1 h
    rw [hext.follow hl]
    rfl

theorem openFile_eq_ok (h : t.openFile directory p = .ok (spot, old, executable)) :
    t.locate directory p = .ok ⟨spot, false⟩ ∧ t.get? spot ≠ some .directory := by
  unfold openFile at h
  split at h
  · cases h
  · rename_i place hplace
    obtain ⟨l, slashed⟩ := place
    split at h
    · cases h
    · rename_i hfile
      split at h
      · cases h
      · rename_i hslashed
        obtain ⟨rfl, -⟩ := Prod.mk.inj (Except.ok.inj h)
        obtain rfl : slashed = false := Bool.eq_false_iff.2 hslashed
        refine ⟨hplace, ?_⟩
        rw [hfile]
        intro hdir
        cases hdir
    · rename_i hnone
      split at h
      · split at h
        · cases h
        · rename_i hslashed
          obtain ⟨rfl, -⟩ := Prod.mk.inj (Except.ok.inj h)
          obtain rfl : slashed = false := Bool.eq_false_iff.2 hslashed
          refine ⟨hplace, ?_⟩
          rw [hnone]
          intro hdir
          cases hdir
      · cases h
      · cases h

theorem readFile_put (h : t.openFile directory p = .ok (spot, old, executable)) (content : Bytes) :
    (t.put spot (.file content executable)).readFile directory p = .ok content ∧
    (t.put spot (.file content executable)).get? spot = some (.file content executable) ∧
    ∀ l, l ≠ spot → (t.put spot (.file content executable)).get? l = t.get? l := by
  obtain ⟨hplace, hspot⟩ := openFile_eq_ok h
  have hroot : spot ≠ [] := by
    rintro rfl
    exact hspot rfl
  have hget := get?_put_self hroot t (.file content executable)
  refine ⟨?_, hget, fun l hl => get?_put_of_ne hl t _⟩
  -- The path leads through directories, and the spot is none, so it leads there still.
  have hplace' := (Extends.put hspot (.file content executable)).locate hplace
  rw [readFile, find, hplace']
  dsimp only
  rw [hget]
  rfl

theorem isPresent_of_readFile (h : t.readFile directory p = .ok content) :
    t.isPresent directory p = true := by
  unfold readFile at h
  unfold isPresent
  cases hfind : t.find directory p with
  | error e =>
    rw [hfind] at h
    cases h
  | ok node => rfl

end DumpWorkbench.Tree
