import DumpWorkbench.Proofs.Run.Layout
import DumpWorkbench.Proofs.Tree.Directories
import DumpWorkbench.Proofs.Tree.Growth
import DumpWorkbench.Proofs.World.Effects

namespace DumpWorkbench

open DumpWorkbench.Path (Component Written stepsOf)
open Simulation

/-- Neither the text of a path nor a name in it is too long for a call. -/
structure Path.Fits (p : Path) : Prop where
  length : (Utf8.encodeChars p.text.toList).length ≤ Tree.maxPath
  segment : ∀ s ∈ Path.segments p.text.toList, (Utf8.encodeChars s).length ≤ Tree.maxName

/-- A path passes the locations that its prefixes name: where their steps lead, also if something
before is not there yet. -/
def Path.Passes (p : Path) (directory l : Location) : Prop :=
  ∃ ns, ns <+: p.names ∧ (Tree.origin directory p.front).along ns = l

/-- A prefix of a path names something that is there and is no directory. -/
def Tree.Obstructs (t : Tree) (directory : Location) (p : Path) : Prop :=
  ∃ l node, p.Passes directory l ∧ t.get? l = some node ∧ node ≠ .directory

namespace Workspace

variable {base : Path} {directory : Location} {t t' : Tree} {q : String} {qs : List String}

def wayTo (base : Path) (directory : Location) (q : String) : List Location :=
  (Tree.origin directory base.front).way (base.names ++ [.name q])

/-- A name under which the workspace can have a directory. -/
structure Fit (base : Path) (q : String) : Prop where
  written : Written [.name q]
  usable : (base.normalize.join q).Usable

theorem Fit.exists_spell (h : Fit base q) (directory : Location) :
    ∃ f, base.normalize.join q = Path.spell f (base.names ++ [.name q]) ∧
      (Path.spell f (base.names ++ [.name q])).Usable ∧
      Tree.origin directory f = Tree.origin directory base.front := by
  obtain ⟨f, hspell, hf⟩ := Path.exists_spell_join base h.written
  exact ⟨f, hspell, hspell ▸ h.usable, if_congr hf rfl rfl⟩

theorem Fit.written_names (h : Fit base q) : Written (base.names ++ [.name q]) :=
  List.forall_mem_append.2 ⟨Path.written_names base, h.written⟩

theorem names_ne_nil (base : Path) (q : String) : base.names ++ [.name q] ≠ [] :=
  List.append_ne_nil_of_right_ne_nil _ (List.cons_ne_nil _ [])

theorem Fit.passes_iff (h : Fit base q) {l : Location} :
    (base.normalize.join q).Passes directory l ↔
      l = Tree.origin directory base.front ∨ l ∈ wayTo base directory q := by
  have hrel : q.toList.head? ≠ some Path.separator := fun hhead =>
    (h.written _ List.mem_cons_self).2 (List.mem_of_mem_head? hhead)
  have hname : stepsOf q.toList = [.name q] := by
    have hsteps := Path.stepsOf_joinComponents h.written
    rwa [Path.joinComponents_singleton] at hsteps
  have hnames : (base.normalize.join q).names = base.names ++ [.name q] := by
    rw [Path.names_join hrel, Path.names_normalize, hname]
  have hfront : (base.normalize.join q).front = base.front := by
    rw [Path.front, Path.isAbsolute_join hrel, Path.isAbsolute_normalize, Path.front]
  unfold Path.Passes
  rw [hnames, hfront, wayTo, Location.mem_way_iff]
  constructor
  · rintro ⟨ns, hns, rfl⟩
    by_cases hnil : ns = []
    · subst hnil
      exact .inl rfl
    · exact .inr ⟨ns, hns, hnil, rfl⟩
  · rintro (rfl | ⟨ns, hns, -, hl⟩)
    · exact ⟨[], List.nil_prefix, rfl⟩
    · exact ⟨ns, hns, hl⟩

/-- A path is obstructed by a file on the way. -/
theorem Fit.obstructs_iff (h : Fit base q)
    (hstart : t.get? (Tree.origin directory base.front) = some .directory) :
    t.Obstructs directory (base.normalize.join q) ↔ ¬ t.Free (wayTo base directory q) := by
  constructor
  · rintro ⟨l, node, hpasses, hnode, hfile⟩ hfree
    obtain rfl | hl := h.passes_iff.1 hpasses
    · exact hfile (Option.some.inj (hnode.symm.trans hstart))
    · obtain hthere | hnone := hfree l hl
      · exact hfile (Option.some.inj (hnode.symm.trans hthere))
      · cases hnode.symm.trans hnone
  · intro hblocked
    simp only [Tree.Free, not_forall, not_or] at hblocked
    obtain ⟨l, hl, hfile, hsome⟩ := hblocked
    obtain ⟨node, hnode⟩ := Option.ne_none_iff_exists'.1 hsome
    refine ⟨l, node, h.passes_iff.2 (.inr hl), hnode, ?_⟩
    rintro rfl
    exact hfile hnode

theorem Fit.isDirectory_iff (h : Fit base q)
    (hstart : t.get? (Tree.origin directory base.front) = some .directory) :
    t.isDirectory directory (base.normalize.join q) = true ↔
      ∀ x ∈ wayTo base directory q, t.get? x = some .directory := by
  obtain ⟨f, hspell, husable, horigin⟩ := h.exists_spell directory
  rw [hspell, Tree.isDirectory_spell_iff h.written_names (names_ne_nil base q) husable
    (horigin ▸ hstart), horigin]
  rfl

theorem Fit.makeDirectories_free (h : Fit base q) (hrooted : t.Rooted)
    (hstart : t.get? (Tree.origin directory base.front) = some .directory)
    (hfree : t.Free (wayTo base directory q)) :
    ∃ t', t.makeDirectories directory (base.normalize.join q) = (.ok (), t') ∧
      t.Gains (wayTo base directory q) t' := by
  obtain ⟨f, hspell, husable, horigin⟩ := h.exists_spell directory
  unfold wayTo at hfree ⊢
  rw [hspell]
  rw [← horigin] at hstart hfree ⊢
  exact hrooted.makeDirectories_spell hfree h.written_names (names_ne_nil base q) husable hstart

/-- A file that is on the way stays there, so that no directory comes to be behind it. -/
theorem Fit.makeDirectories_blocked (h : Fit base q)
    (hstart : t.get? (Tree.origin directory base.front) = some .directory)
    (hblocked : ¬ t.Free (wayTo base directory q)) :
    ∃ e t', t.makeDirectories directory (base.normalize.join q) = (.error e, t') ∧
      t'.isDirectory directory (base.normalize.join q) = false := by
  have hgrows : Tree.Grows (fun _ _ => False) t _ :=
    Tree.grows_makeDirectories t directory (base.normalize.join q)
  cases hmade : t.makeDirectories directory (base.normalize.join q) with
  | mk result t' =>
    rw [hmade] at hgrows
    -- If the directory were there, all that its path comes to would be directories.
    have hmissing : t'.isDirectory directory (base.normalize.join q) = false := by
      by_contra hthere
      refine hblocked fun x hx => ?_
      have hstart' : t'.get? (Tree.origin directory base.front) = some .directory :=
        hgrows.extends _ hstart
      have hway := (h.isDirectory_iff hstart').1 (eq_true_of_ne_false hthere) x hx
      obtain hsame | ⟨hnone, -⟩ | ⟨_, hwritten, -⟩ := hgrows x
      · exact .inl (hsame.symm.trans hway)
      · exact .inr hnone
      · exact hwritten.elim
    cases result with
    | error e => exact ⟨e, t', rfl, hmissing⟩
    | ok _ =>
      obtain ⟨f, hspell, -, -⟩ := h.exists_spell directory
      have hmem : .name q ∈ (base.normalize.join q).components := by
        rw [hspell, Path.components_spell f h.written_names]
        simp
      rw [Tree.isDirectory_of_makeDirectories hmem Component.noConfusion hmade] at hmissing
      cases hmissing

/-- Where no file is on a way, the directories can be made, with those above them. -/
theorem makeEach_free (hqs : ∀ q ∈ qs, Fit base q) (hrooted : t.Rooted)
    (hstart : t.get? (Tree.origin directory base.front) = some .directory)
    (hfree : ∀ q ∈ qs, t.Free (wayTo base directory q)) :
    ∃ t', t.makeEach directory (qs.map base.normalize.join) = (.ok (), t') ∧
      t.Gains (qs.flatMap (wayTo base directory)) t' := by
  induction qs generalizing t with
  | nil => exact ⟨t, rfl, hrooted.gains fun l hl => absurd hl List.not_mem_nil⟩
  | cons q qs ih =>
    obtain ⟨t₁, hmade, hgains⟩ := (hqs q List.mem_cons_self).makeDirectories_free hrooted hstart
      (hfree q List.mem_cons_self)
    obtain ⟨t', hall, hrest⟩ := ih (fun p hp => hqs p (List.mem_cons_of_mem q hp)) hgains.rooted
      (hgains.keeps hstart) fun p hp => hgains.free (hfree p (List.mem_cons_of_mem q hp))
    refine ⟨t', ?_, hgains.trans hrest⟩
    rw [List.map_cons, Tree.makeEach, hmade]
    exact hall

theorem extends_makeEach (t : Tree) (directory : Location) (ps : List Path) :
    t.Extends (t.makeEach directory ps).2 := by
  induction ps generalizing t with
  | nil => exact fun _ hl => hl
  | cons p ps ih =>
    have hgrows : Tree.Grows (fun _ _ => False) t _ := Tree.grows_makeDirectories t directory p
    unfold Tree.makeEach
    generalize t.makeDirectories directory p = made at hgrows ⊢
    obtain ⟨result, left⟩ := made
    cases result with
    | error e => exact hgrows.extends
    | ok _ => exact hgrows.extends.trans (ih left)

/-- The first directory to which a file is on the way cannot be made, and those before it are
made. -/
theorem makeEach_blocked (hqs : ∀ q ∈ qs, Fit base q) (hrooted : t.Rooted)
    (hstart : t.get? (Tree.origin directory base.front) = some .directory)
    (hblocked : ¬ ∀ q ∈ qs, t.Free (wayTo base directory q)) :
    ∃ done q rest e t', qs = done ++ q :: rest ∧
      (∀ d ∈ done, t.Free (wayTo base directory d)) ∧ ¬ t.Free (wayTo base directory q) ∧
      t.makeEach directory (qs.map base.normalize.join) =
        (.error (.filesystem (base.normalize.join q) e), t') ∧
      (∀ d ∈ done, t'.isDirectory directory (base.normalize.join d) = true) ∧
      t'.isDirectory directory (base.normalize.join q) = false := by
  induction qs generalizing t with
  | nil => exact absurd (fun _ hq => absurd hq List.not_mem_nil) hblocked
  | cons q qs ih =>
    have hq := hqs q List.mem_cons_self
    rw [List.map_cons, Tree.makeEach]
    by_cases hfree : t.Free (wayTo base directory q)
    · -- What is made now is in nobody's way, so the same directory is the first that is obstructed.
      obtain ⟨t₁, hmade, hgains⟩ := hq.makeDirectories_free hrooted hstart hfree
      have hiff (p : String) : t₁.Free (wayTo base directory p) ↔ t.Free (wayTo base directory p) :=
        hgains.free_iff hfree
      have hblocked₁ : ¬ ∀ p ∈ qs, t₁.Free (wayTo base directory p) := by
        intro hall
        exact hblocked (List.forall_mem_cons.2 ⟨hfree, fun p hp => (hiff p).1 (hall p hp)⟩)
      obtain ⟨done, p, rest, e, t', rfl, hdone, hp, hends, hthere, hmissing⟩ :=
        ih (fun p hp => hqs p (List.mem_cons_of_mem q hp)) hgains.rooted (hgains.keeps hstart)
          hblocked₁
      have hthere₁ : t₁.isDirectory directory (base.normalize.join q) = true :=
        (hq.isDirectory_iff (hgains.keeps hstart)).2 fun x hx => by rw [hgains.get, if_pos hx]
      have hextends := extends_makeEach t₁ directory
        ((done ++ p :: rest).map base.normalize.join)
      rw [hends] at hextends
      refine ⟨q :: done, p, rest, e, t', rfl, ?_, (hiff p).not.1 hp, ?_, ?_, hmissing⟩
      · exact List.forall_mem_cons.2 ⟨hfree, fun d hd => (hiff d).1 (hdone d hd)⟩
      · rw [hmade]
        exact hends
      · exact List.forall_mem_cons.2 ⟨hextends.isDirectory hthere₁, hthere⟩
    · obtain ⟨e, t', hmade, hmissing⟩ := hq.makeDirectories_blocked hstart hfree
      refine ⟨[], q, qs, e, t', rfl, fun _ hd => absurd hd List.not_mem_nil, hfree, ?_,
        fun _ hd => absurd hd List.not_mem_nil, hmissing⟩
      rw [hmade]

theorem makeEach_of_isDirectory {ps : List Path}
    (h : ∀ p ∈ ps, t.isDirectory directory p = true) : t.makeEach directory ps = (.ok (), t) := by
  induction ps with
  | nil => rfl
  | cons p ps ih =>
    rw [Tree.makeEach, Tree.makeDirectories_of_isDirectory (h p List.mem_cons_self)]
    exact ih fun q hq => h q (List.mem_cons_of_mem p hq)

theorem directories_under (base : Path) :
    (under base).directories = ["bins", "mem", "searches"].map base.normalize.join := by
  simp only [directories, under, List.map_cons, List.map_nil]

theorem written_directories : ∀ q ∈ ["bins", "mem", "searches"], Written [.name q] := by
  intro q hq
  have hsteps : stepsOf q.toList = [.name q] := by
    obtain rfl | rfl | rfl : q = "bins" ∨ q = "mem" ∨ q = "searches" := by simpa using hq
    all_goals rfl
  exact hsteps ▸ Path.written_stepsOf q.toList

theorem fit_directories (husable : ∀ p ∈ (under base).directories, p.Usable) :
    ∀ q ∈ ["bins", "mem", "searches"], Fit base q := by
  rw [directories_under, List.forall_mem_map] at husable
  exact fun q hq => ⟨written_directories q hq, husable q hq⟩

theorem origin_directory (hdirectory : t.get? directory = some .directory) (f : Path.Front) :
    t.get? (Tree.origin directory f) = some .directory := by
  unfold Tree.origin
  split
  · rfl
  · exact hdirectory

theorem zero_not_mem_join (hzero : '\x00' ∉ base.text.toList) (hq : Written [.name q])
    (hname : '\x00' ∉ q.toList) : '\x00' ∉ (base.normalize.join q).text.toList := by
  obtain ⟨f, hspell, -⟩ := Path.exists_spell_join base hq
  have hwritten : Written (base.names ++ [.name q]) :=
    List.forall_mem_append.2 ⟨Path.written_names base, hq⟩
  rw [hspell, Path.mem_iff_segments (by decide),
    Path.segments_spell f hwritten (names_ne_nil base q)]
  rintro ⟨s, hs, hmem⟩
  obtain hs | hs := List.mem_append.1 hs
  · have hfront : ∀ s ∈ f.segments, '\x00' ∉ s := by cases f <;> decide
    exact hfront s hs hmem
  · obtain ⟨c, hc, rfl⟩ := List.mem_map.1 hs
    obtain hc | hc := List.mem_append.1 hc
    · obtain ⟨s, hs, hcomponent⟩ := List.mem_filterMap.1 hc
      rw [Path.text_of_component? hcomponent] at hmem
      exact hzero ((Path.mem_iff_segments (by decide)).2 ⟨s, hs, hmem⟩)
    · obtain rfl := List.mem_singleton.1 hc
      exact hname hmem

theorem usable_of_fits (hzero : '\x00' ∉ base.text.toList)
    (hfits : ∀ p ∈ (under base).directories, p.Fits) :
    ∀ p ∈ (under base).directories, p.Usable := by
  rw [directories_under, List.forall_mem_map] at hfits ⊢
  intro q hq
  have hname : ∀ q ∈ ["bins", "mem", "searches"], '\x00' ∉ q.toList := by decide
  have hjoined := zero_not_mem_join hzero (written_directories q hq) (hname q hq)
  obtain ⟨hlength, hsegment⟩ := hfits q hq
  refine ⟨List.any_eq_false.2 fun c hc hczero => hjoined ?_, hlength, hsegment⟩
  obtain rfl : c = '\x00' := beq_iff_eq.1 hczero
  exact hc

theorem isReady_iff (ws : Workspace) (w : World) :
    ((ws.isReady : Simulation Bool) w).1 = true ↔
      ∀ p ∈ ws.directories, w.tree.isDirectory w.directory p = true := by
  have hready : ((ws.isReady : Simulation Bool) w).1 =
      (w.tree.isDirectory w.directory ws.bins && (w.tree.isDirectory w.directory ws.maps &&
        w.tree.isDirectory w.directory ws.searches)) := by
    have hcall (p : Path) : (Files.isDirectory p : Simulation Bool) w =
        (w.tree.isDirectory w.directory p, w) := rfl
    unfold isReady
    rw [bind_apply, hcall]
    cases w.tree.isDirectory w.directory ws.bins with
    | false => rfl
    | true =>
      rw [if_neg (by simp), bind_apply, hcall]
      cases w.tree.isDirectory w.directory ws.maps with
      | false => rfl
      | true => rfl
  rw [hready]
  simp [directories]

variable {w : World}

theorem passes_directories (hfit : ∀ q ∈ ["bins", "mem", "searches"], Fit base q) {l : Location} :
    (∃ p ∈ (under base).directories, p.Passes directory l) ↔
      l = Tree.origin directory base.front ∨
        l ∈ ["bins", "mem", "searches"].flatMap (wayTo base directory) := by
  rw [directories_under]
  constructor
  · rintro ⟨p, hp, hl⟩
    obtain ⟨q, hq, rfl⟩ := List.mem_map.1 hp
    exact ((hfit q hq).passes_iff.1 hl).imp_right fun hl => List.mem_flatMap.2 ⟨q, hq, hl⟩
  · rintro (hl | hl)
    · exact ⟨_, List.mem_map_of_mem List.mem_cons_self,
        (hfit _ List.mem_cons_self).passes_iff.2 (.inl hl)⟩
    · obtain ⟨q, hq, hl⟩ := List.mem_flatMap.1 hl
      exact ⟨_, List.mem_map_of_mem hq, (hfit q hq).passes_iff.2 (.inr hl)⟩

/-- Where nothing is obstructed the layout is made, and it is made again without any change. -/
theorem ensure_free (hfit : ∀ q ∈ ["bins", "mem", "searches"], Fit base q)
    (hrooted : w.tree.Rooted) (hdirectory : w.tree.get? w.directory = some .directory)
    (hfree : ∀ q ∈ ["bins", "mem", "searches"], w.tree.Free (wayTo base w.directory q)) :
    ∃ left, outcome (ensure base) w = (.ok (under base), left) ∧
      w.tree.Gains (["bins", "mem", "searches"].flatMap (wayTo base w.directory)) left.tree ∧
      ((isReady (under base) : Simulation Bool) left).1 = true ∧
      (outcome (ensure base) left).1 = .ok (under base) ∧
      (outcome (ensure base) left).2.tree = left.tree := by
  have hstart := origin_directory hdirectory base.front
  obtain ⟨t', hmade, hgains⟩ := makeEach_free hfit hrooted hstart hfree
  have hlaid : Run.laid base w = (.ok (), t') := by rw [Run.laid, directories_under, hmade]
  obtain ⟨hresult, hleft⟩ := Run.outcome_ensure base w
  rw [hlaid] at hresult hleft
  obtain ⟨left, hends⟩ : ∃ left, outcome (ensure base) w = (.ok (under base), left) :=
    ⟨_, Prod.ext hresult rfl⟩
  rw [hends] at hleft
  obtain rfl : left.tree = t' := hleft.tree
  have hready : ∀ p ∈ (under base).directories,
      left.tree.isDirectory left.directory p = true := by
    rw [hleft.directory, directories_under, List.forall_mem_map]
    intro q hq
    refine ((hfit q hq).isDirectory_iff (hgains.keeps hstart)).2 fun x hx => ?_
    rw [hgains.get, if_pos (List.mem_flatMap.2 ⟨q, hq, hx⟩)]
  have hagain : Run.laid base left = (.ok (), left.tree) := makeEach_of_isDirectory hready
  obtain ⟨hresult', hleft'⟩ := Run.outcome_ensure base left
  rw [hagain] at hresult' hleft'
  exact ⟨left, hends, hgains, (isReady_iff _ _).2 hready, hresult', hleft'.tree⟩

/-- The layout fails at the first directory that is obstructed. -/
theorem ensure_blocked (hfit : ∀ q ∈ ["bins", "mem", "searches"], Fit base q)
    (hrooted : w.tree.Rooted) (hdirectory : w.tree.get? w.directory = some .directory)
    (hblocked : ¬ ∀ q ∈ ["bins", "mem", "searches"], w.tree.Free (wayTo base w.directory q)) :
    ∃ done p rest cause left, (under base).directories = done ++ p :: rest ∧
      outcome (ensure base) w = (.error (.filesystem p cause), left) ∧
      (∀ d ∈ done, ¬ w.tree.Obstructs w.directory d ∧
        left.tree.isDirectory w.directory d = true) ∧
      w.tree.Obstructs w.directory p ∧ left.tree.isDirectory w.directory p = false := by
  have hstart := origin_directory hdirectory base.front
  obtain ⟨done, q, rest, cause, t', hcut, hdone, hq, hmade, hthere, hmissing⟩ :=
    makeEach_blocked hfit hrooted hstart hblocked
  have hlaid : Run.laid base w = (.error (.filesystem (base.normalize.join q) cause), t') := by
    rw [Run.laid, directories_under, hmade]
  obtain ⟨hresult, hleft⟩ := Run.outcome_ensure base w
  rw [hlaid] at hresult hleft
  obtain ⟨left, hends⟩ : ∃ left, outcome (ensure base) w =
      (.error (.filesystem (base.normalize.join q) cause), left) := ⟨_, Prod.ext hresult rfl⟩
  rw [hends] at hleft
  obtain rfl : left.tree = t' := hleft.tree
  have hmem : ∀ d ∈ done ++ q :: rest, Fit base d := fun d hd => hfit d (hcut ▸ hd)
  refine ⟨done.map base.normalize.join, base.normalize.join q, rest.map base.normalize.join, cause,
    left, ?_, hends, ?_, ?_, hmissing⟩
  · rw [directories_under, hcut, List.map_append, List.map_cons]
  · rw [List.forall_mem_map]
    intro d hd
    refine ⟨?_, hthere d hd⟩
    rw [(hmem d (List.mem_append_left _ hd)).obstructs_iff hstart, not_not]
    exact hdone d hd
  · exact ((hmem q (List.mem_append_right _ List.mem_cons_self)).obstructs_iff hstart).2 hq

/-- The layout of a workspace can be made if and only if no prefix of the paths of its directories
names something that is there and is no directory. A prefix names the place that its steps lead to,
also behind a directory that is missing: `new/../work` names `work` before there is a `new`, where a
lookup finds nothing, for what is missing is made on the way. Then the three directories are there,
all that is added are directories that the paths pass, and making the layout once more changes
nothing. Else the first directory that is obstructed is named, and those before it are there. -/
theorem ensure_establishes (base : Path) (w : World) (hrooted : w.tree.Rooted)
    (hdirectory : w.tree.get? w.directory = some .directory) (hzero : '\x00' ∉ base.text.toList)
    (hfits : ∀ p ∈ (under base).directories, p.Fits) :
    let first := outcome (ensure base) w
    let again := outcome (ensure base) first.2
    ((∃ ws, first.1 = .ok ws) ↔
      ∀ p ∈ (under base).directories, ¬ w.tree.Obstructs w.directory p) ∧
    (∀ ws, first.1 = .ok ws →
      ws = under base ∧ ((isReady ws : Simulation Bool) first.2).1 = true ∧
      (∀ l, (∃ p ∈ ws.directories, p.Passes w.directory l) →
        (w.tree.get? l = some .directory ∨ w.tree.get? l = none) ∧
          first.2.tree.get? l = some .directory) ∧
      (∀ l, (¬ ∃ p ∈ ws.directories, p.Passes w.directory l) →
        first.2.tree.get? l = w.tree.get? l) ∧
      again.1 = .ok ws ∧ again.2.tree = first.2.tree) ∧
    ∀ e, first.1 = .error e →
      ∃ done p rest cause, (under base).directories = done ++ p :: rest ∧
        e = .filesystem p cause ∧
        (∀ d ∈ done, ¬ w.tree.Obstructs w.directory d ∧
          first.2.tree.isDirectory w.directory d = true) ∧
        w.tree.Obstructs w.directory p ∧ first.2.tree.isDirectory w.directory p = false := by
  dsimp only
  have hfit := fit_directories (usable_of_fits hzero hfits)
  have hstart := origin_directory hdirectory base.front
  have hfree : (∀ p ∈ (under base).directories, ¬ w.tree.Obstructs w.directory p) ↔
      ∀ q ∈ ["bins", "mem", "searches"], w.tree.Free (wayTo base w.directory q) := by
    rw [directories_under, List.forall_mem_map]
    exact forall₂_congr fun q hq => by rw [(hfit q hq).obstructs_iff hstart, not_not]
  rw [hfree]
  by_cases hall : ∀ q ∈ ["bins", "mem", "searches"], w.tree.Free (wayTo base w.directory q)
  · obtain ⟨left, hends, hgains, hready, hagain, hsame⟩ :=
      ensure_free hfit hrooted hdirectory hall
    rw [hends]
    refine ⟨iff_of_true ⟨_, rfl⟩ hall, fun ws hws => ?_, fun e he => ?_⟩
    · obtain rfl := Except.ok.inj hws
      refine ⟨rfl, hready, fun l hl => ?_, fun l hl => ?_, hagain, hsame⟩
      · obtain rfl | hl := (passes_directories hfit).1 hl
        · exact ⟨.inl hstart, hgains.keeps hstart⟩
        · obtain ⟨q, hq, hway⟩ := List.mem_flatMap.1 hl
          exact ⟨hall q hq l hway, by rw [hgains.get, if_pos hl]⟩
      · rw [passes_directories hfit, not_or] at hl
        rw [hgains.get, if_neg hl.2]
    · cases he
  · obtain ⟨done, p, rest, cause, left, hcut, hends, hdone, hp, hmissing⟩ :=
      ensure_blocked hfit hrooted hdirectory hall
    rw [hends]
    refine ⟨iff_of_false ?_ hall, fun ws hws => ?_, fun e he => ?_⟩
    · rintro ⟨ws, hws⟩
      cases hws
    · cases hws
    · obtain rfl := Except.error.inj he
      exact ⟨done, p, rest, cause, hcut, rfl, hdone, hp, hmissing⟩

/-- A step up from a directory that is missing is no obstacle: the directory is made first. -/
theorem ensure_establishes_missing :
    let t : Tree := ⟨[(["work"], .directory), (["work", "mem"], .directory)]⟩
    let w : World := { World.bare with tree := t }
    let first := outcome (ensure ⟨"new/../work"⟩) w
    let again := outcome (ensure ⟨"new/../work"⟩) first.2
    first.1 = .ok (under ⟨"new/../work"⟩) ∧
      first.2.tree.get? ["new"] = some .directory ∧
      first.2.tree.get? ["work", "bins"] = some .directory ∧
      again.1 = first.1 ∧ again.2.tree = first.2.tree := by
  intro t w first again
  have hdirectories : (under ⟨"new/../work"⟩).directories =
      [⟨"new/../work/bins"⟩, ⟨"new/../work/mem"⟩, ⟨"new/../work/searches"⟩] := by
    decide +kernel
  have hrooted : w.tree.Rooted := Tree.rooted_of_nodes (by decide)
  have hdirectory : w.tree.get? w.directory = some .directory := rfl
  have hfits : ∀ p ∈ (under ⟨"new/../work"⟩).directories, p.Fits := by
    have hall : ∀ p ∈ [Path.mk "new/../work/bins", ⟨"new/../work/mem"⟩,
        ⟨"new/../work/searches"⟩], (Utf8.encodeChars p.text.toList).length ≤ Tree.maxPath ∧
          ∀ s ∈ Path.segments p.text.toList, (Utf8.encodeChars s).length ≤ Tree.maxName := by
      decide +kernel
    rw [hdirectories]
    exact fun p hp => ⟨(hall p hp).1, (hall p hp).2⟩
  have hfirst : first.1 = .ok (under ⟨"new/../work"⟩) := by decide +kernel
  have hbins : (⟨"new/../work/bins"⟩ : Path) ∈ (under ⟨"new/../work"⟩).directories := by
    rw [hdirectories]
    exact List.mem_cons_self
  have hroot : w.directory = [] := rfl
  have hnames : (Path.mk "new/../work/bins").names =
      [.name "new"] ++ [.parent, .name "work", .name "bins"] := by decide
  have horigin : Tree.origin [] (Path.mk "new/../work/bins").front = [] := by decide
  have hnew : (Path.mk "new/../work/bins").Passes w.directory ["new"] := by
    refine ⟨[.name "new"], hnames ▸ List.prefix_append _ _, ?_⟩
    rw [hroot, horigin]
    rfl
  have hlast : (Path.mk "new/../work/bins").Passes w.directory ["work", "bins"] := by
    refine ⟨_, List.prefix_rfl, ?_⟩
    rw [hroot, horigin, hnames]
    rfl
  -- The world is opaque from here on, so that no step evaluates the calls.
  clear_value w
  have hall := ensure_establishes ⟨"new/../work"⟩ w hrooted hdirectory (by decide) hfits
  obtain ⟨-, -, hpassed, -, hagain, hsame⟩ := hall.2.1 _ hfirst
  exact ⟨hfirst, (hpassed _ ⟨_, hbins, hnew⟩).2, (hpassed _ ⟨_, hbins, hlast⟩).2,
    hagain.trans hfirst.symm, hsame⟩

/-- A file is one still when the directory before the step up to it has been made. -/
example :
    let w : World := { World.bare with tree := ⟨[(["work"], .file [] false)]⟩ }
    let first := outcome (ensure ⟨"new/../work"⟩) w
    first.1 = .error (.filesystem ⟨"new/../work/bins"⟩ .fileExists) ∧
      first.2.tree.get? ["new"] = some .directory := by
  decide +kernel

end Workspace
end DumpWorkbench
