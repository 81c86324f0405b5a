import DumpWorkbench.Log.File
import DumpWorkbench.Proofs.Tree.Changes
import DumpWorkbench.Proofs.World.Effects

namespace DumpWorkbench.Log

open Relation (ReflTransGen)
open Simulation

def file (s : Settings) (day : Timestamp.Date) : Path :=
  s.logDirectory.join (fileName s.logName day)

/-- One step of opening the log of a day. -/
inductive Step (s : Settings) (directory : Location) (day : Timestamp.Date) : Tree → Tree → Prop
  /-- A directory is made on the way to the log directory, or to the file if its name has
  separators. -/
  | make {t t' : Tree} {p : Path} (hp : p = s.logDirectory ∨ (file s day).parent? = some p)
      (h : t.MakesOne directory (Tree.ancestors p) t') : Step s directory day t t'
  /-- A file of the log directory that is named like a log file is removed. -/
  | drop {t : Tree} {name : String} {place : Tree.Place} {content : Bytes} {executable : Bool}
      (hname : isLogName s.logName name = true)
      (hplace : t.locate directory (s.logDirectory.join name) = .ok place)
      (hfile : t.get? place.location = some (.file content executable)) :
      Step s directory day t (t.remove place.location)
  /-- The log file is added, without content. -/
  | create {t : Tree} {spot : Location}
      (h : t.openFile directory (file s day) = .ok (spot, [], false))
      (hnone : t.get? spot = none) : Step s directory day t (t.put spot (.file [] false))

variable {α β : Type} {s : Settings} {directory spot l : Location} {day : Timestamp.Date}
  {t t₁ t₂ : Tree} {node : Node} {w : World} {p : Path} {e : IoFault}

/-- A location at or below an old log file that was found while the log was opened. -/
def Dropped (s : Settings) (directory : Location) (day : Timestamp.Date) (t : Tree)
    (l : Location) : Prop :=
  ∃ reached name place content executable, ReflTransGen (Step s directory day) t reached ∧
    isLogName s.logName name = true ∧
    reached.locate directory (s.logDirectory.join name) = .ok place ∧
    reached.get? place.location = some (.file content executable) ∧ place.location <+: l

/-- A location has what it had, or it was dropped, or nothing was there and now a directory or an
empty file is. -/
def Kept (s : Settings) (directory : Location) (day : Timestamp.Date) (t t₁ : Tree)
    (l : Location) : Prop :=
  t₁.get? l = t.get? l ∨ Dropped s directory day t l ∨
    t.get? l = none ∧ (t₁.get? l = some .directory ∨ t₁.get? l = some (.file [] false))

theorem Kept.put (h : Kept s directory day t t₁ l) (hnone : t₁.get? spot = none)
    (hnode : node = .directory ∨ node = .file [] false) :
    Kept s directory day t (t₁.put spot node) l := by
  unfold Kept at h ⊢
  by_cases hl : l = spot
  · subst hl
    have hroot : l ≠ [] := by
      rintro rfl
      cases hnone
    rw [hnone] at h
    rw [Tree.get?_put_self hroot]
    obtain hsame | hdropped | ⟨-, hfull | hfull⟩ := h
    · exact .inr (.inr ⟨hsame.symm, hnode.imp (congrArg some) (congrArg some)⟩)
    · exact .inr (.inl hdropped)
    · cases hfull
    · cases hfull
  · rw [Tree.get?_put_of_ne hl]
    exact h

theorem Kept.step (h : Kept s directory day t t₁ l)
    (hsteps : ReflTransGen (Step s directory day) t t₁) (hstep : Step s directory day t₁ t₂) :
    Kept s directory day t t₂ l := by
  cases hstep with
  | make hp hmade =>
    obtain ⟨_, _, place, _, hnone, rfl⟩ := hmade
    exact h.put hnone (.inl rfl)
  | create hopen hnone => exact h.put hnone (.inr rfl)
  | @drop name place content executable hname hplace hfile =>
    by_cases hl : place.location <+: l
    · exact .inr (.inl ⟨t₁, name, place, content, executable, hsteps, hname, hplace, hfile, hl⟩)
    · unfold Kept
      rw [Tree.get?_remove_of_not_below hl]
      exact h

theorem kept_of_steps (h : ReflTransGen (Step s directory day) t t₁) (l : Location) :
    Kept s directory day t t₁ l := by
  induction h with
  | refl => exact .inl rfl
  | tail hsteps hstep ih => exact ih.step hsteps hstep

/-- A call that does no more than steps of opening the log. -/
def Opens (s : Settings) (directory : Location) (day : Timestamp.Date) (x : Simulation α) : Prop :=
  ∀ w : World, w.directory = directory → w.time.date = day →
    w.Alters (Step s directory day) (x w).2

theorem opens_pure (a : α) : Opens s directory day (pure a : Simulation α) :=
  fun w _ _ => .refl _ w

theorem Opens.bind {x : Simulation α} {f : α → Simulation β} (hx : Opens s directory day x)
    (hf : ∀ a, Opens s directory day (f a)) : Opens s directory day (x >>= f) := by
  intro w hdirectory hday
  have hfirst := hx w hdirectory hday
  exact hfirst.trans (hf _ _ (hfirst.directory.trans hdirectory) (by rw [hfirst.time, hday]))

theorem Opens.bind_except {ε : Type} {x : ExceptT ε Simulation α} {f : α → ExceptT ε Simulation β}
    (hx : Opens s directory day x) (hf : ∀ a, Opens s directory day (f a)) :
    Opens s directory day (x >>= f : ExceptT ε Simulation β) := by
  have hcont (result : Except ε α) : Opens s directory day (ExceptT.bindCont f result) := by
    cases result with
    | error e => exact opens_pure _
    | ok a => exact hf a
  exact Opens.bind (f := ExceptT.bindCont f) hx hcont

theorem Opens.lift {ε : Type} {x : Simulation α} (h : Opens s directory day x) :
    Opens s directory day (liftM x : ExceptT ε Simulation α) := h

theorem opens_makeDirectories (hp : p = s.logDirectory ∨ (file s day).parent? = some p) :
    Opens s directory day (Files.makeDirectories p : Simulation (Except IoFault Unit)) := by
  intro w hdirectory _
  refine .change w (ReflTransGen.mono (fun _ _ h => .make hp h) _ _ ?_)
  rw [← hdirectory]
  exact Tree.makeDirectories_makes w.directory p w.tree

/-- The files of the log directory that count among those of the log, the oldest first. -/
def logFiles (s : Settings) (directory : Location) (t : Tree) (names : List String) : List Path :=
  ((names.filter (isLogName s.logName)).map fun name => s.logDirectory.join name).filter
    fun p => !t.isDirectory directory p

/-- A path that led to no directory when the log directory was read leads to none after some was
removed, so what is removed is a file. -/
theorem alters_remove {listed : Tree} {name : String} (hname : isLogName s.logName name = true)
    (hlisted : listed.isDirectory w.directory (s.logDirectory.join name) = false)
    (hext : w.tree.Extends listed) (day : Timestamp.Date) :
    let removed := ((Files.remove (s.logDirectory.join name) : Simulation _) w).2
    w.Alters (Step s w.directory day) removed ∧ removed.tree.Extends listed := by
  intro removed
  cases hremove : w.tree.removeAll w.directory (s.logDirectory.join name) with
  | error e =>
    have hremoved : removed = w := congrArg Prod.snd (onTree_of_error hremove)
    rw [hremoved]
    exact ⟨.refl _ w, hext⟩
  | ok t =>
    have hremoved : removed = { w with tree := t } := congrArg Prod.snd (onTree_of_ok hremove)
    rw [hremoved]
    obtain ⟨node, place, hfind, hplace, rfl⟩ := Tree.removeAll_eq_ok hremove
    refine ⟨?_, (Tree.extends_remove w.tree place.location).trans hext⟩
    cases node with
    | directory =>
      have hdirectory : w.tree.isDirectory w.directory (s.logDirectory.join name) = true := by
        rw [Tree.isDirectory, hfind]
      rw [hext.isDirectory hdirectory] at hlisted
      cases hlisted
    | file content executable =>
      obtain ⟨found, hfound, hnode⟩ := Tree.find_eq_ok hfind
      obtain rfl := Except.ok.inj (hplace.symm.trans hfound)
      exact .change w (.single (Step.drop hname hplace hnode))

def sweep (ps : List Path) : Simulation PUnit :=
  forIn ps PUnit.unit fun p _ => do
    match ← Files.remove p with
    | .ok _ => pure (ForInStep.yield PUnit.unit)
    | .error e => do
      Host.print .stderr (s!"Failed to remove old log file {p.text}: {e.message}" ++ "\n")
      pure (ForInStep.yield PUnit.unit)

/-- A sweep keeps to files that were no directories when the log directory was read. -/
theorem alters_sweep {listed : Tree} {ps : List Path}
    (hps : ∀ p ∈ ps, ∃ name, isLogName s.logName name = true ∧ p = s.logDirectory.join name ∧
      listed.isDirectory directory p = false) (w : World)
    (hdirectory : w.directory = directory) (hext : w.tree.Extends listed) :
    w.Alters (Step s directory day) (sweep ps w).2 := by
  induction ps generalizing w with
  | nil => exact .refl _ w
  | cons p ps ih =>
    subst hdirectory
    obtain ⟨name, hname, rfl, hlisted⟩ := hps p List.mem_cons_self
    obtain ⟨hremoved, hleft⟩ := alters_remove hname hlisted hext day
    have hrest := ih fun q hq => hps q (List.mem_cons_of_mem _ hq)
    unfold sweep
    rw [List.forIn_cons, bind_apply, bind_apply]
    generalize (Files.remove (s.logDirectory.join name) : Simulation (Except IoFault Unit)) w =
      called at hremoved hleft ⊢
    obtain ⟨result, left⟩ := called
    cases result with
    | ok _ => exact hremoved.trans (hrest left hremoved.directory hleft)
    | error e =>
      have hprinted := hremoved.trans (.print _ left .stderr
        (s!"Failed to remove old log file {(s.logDirectory.join name).text}: {e.message}" ++ "\n"))
      exact hprinted.trans (hrest _ hprinted.directory hleft)

theorem prune_eq (s : Settings) (w : World) : (prune s : Simulation Unit) w =
    if s.logFiles = 0 then ((), w)
    else match w.tree.list w.directory s.logDirectory with
      | .error e =>
        ((), w.record (.printed .stderr
          (s!"Error reading the log directory/files: {e.message}" ++ "\n")))
      | .ok names =>
        sweep (outdated s.logFiles.toNat (logFiles s w.directory w.tree names)) w := by
  have hlist : (Files.list s.logDirectory : Simulation _) w =
    (w.tree.list w.directory s.logDirectory, w) := rfl
  have hlook (p : Path) : (do return !(← Files.isDirectory p) : Simulation Bool) w =
    (!w.tree.isDirectory w.directory p, w) := rfl
  unfold prune
  dsimp only
  split
  · rfl
  · rw [bind_apply, hlist]
    dsimp only
    cases w.tree.list w.directory s.logDirectory with
    | error e => rfl
    | ok names =>
      dsimp only
      rw [bind_apply, filterM_apply hlook]
      rfl

/-- Only old log files are removed. -/
theorem opens_prune : Opens s directory day (prune s : Simulation Unit) := by
  rintro w rfl _
  rw [prune_eq]
  split
  · exact .refl _ w
  · split
    · exact .print _ w _ _
    · rename_i names _
      refine alters_sweep (fun p hp => ?_) w rfl fun _ hl => hl
      have hlisted : p ∈ logFiles s w.directory w.tree names := by
        unfold outdated at hp
        split at hp
        · exact absurd hp List.not_mem_nil
        · exact List.mem_of_mem_take hp
      obtain ⟨hmem, hfile⟩ := List.mem_filter.1 hlisted
      obtain ⟨name, hname, rfl⟩ := List.mem_map.1 hmem
      exact ⟨name, (List.mem_filter.1 hname).2, rfl, by simpa using hfile⟩

/-- A file is there that can be written to. -/
def HoldsFile (t : Tree) (directory : Location) (p : Path) : Prop :=
  ∃ spot content executable, t.openFile directory p = .ok (spot, content, executable) ∧
    t.get? spot = some (.file content executable)

/-- Adding nothing to a file makes it where it is missing. -/
theorem touch_eq (p : Path) (w : World) : (Files.appendFile p [] : Simulation _) w =
    match w.tree.openFile w.directory p with
    | .error e => (.error e, w)
    | .ok (spot, old, executable) =>
      (.ok (), { w with tree := w.tree.put spot (.file old executable) }) := by
  cases hopen : w.tree.openFile w.directory p with
  | error e =>
    refine onTree_of_error ?_
    rw [Tree.appendFile, hopen]
    rfl
  | ok target =>
    refine onTree_of_ok ?_
    rw [Tree.appendFile, hopen]
    change Except.ok (w.tree.put target.1 (.file (target.2.1 ++ []) target.2.2)) = _
    rw [List.append_nil]

theorem touch_of_holdsFile (h : HoldsFile w.tree w.directory p) :
    (Files.appendFile p [] : Simulation _) w = (.ok (), w) := by
  obtain ⟨spot, old, executable, hopen, hnode⟩ := h
  rw [touch_eq, hopen]
  dsimp only
  rw [Tree.put_self (Tree.ne_nil_of_openFile hopen) hnode]

theorem touch_of_error (h : ((Files.appendFile p [] : Simulation _) w).1 = .error e) :
    (Files.appendFile p [] : Simulation _) w = (.error e, w) := by
  rw [touch_eq] at h ⊢
  cases hopen : w.tree.openFile w.directory p with
  | error cause =>
    rw [hopen] at h
    obtain rfl := Except.error.inj h
    rfl
  | ok target =>
    rw [hopen] at h
    cases h

theorem holdsFile_of_touch (h : ((Files.appendFile p [] : Simulation _) w).1 = .ok ()) :
    HoldsFile ((Files.appendFile p [] : Simulation _) w).2.tree w.directory p := by
  rw [touch_eq] at h ⊢
  cases hopen : w.tree.openFile w.directory p with
  | error e =>
    rw [hopen] at h
    cases h
  | ok target =>
    obtain ⟨spot, old, executable⟩ := target
    exact ⟨spot, old, executable, Tree.openFile_put hopen old,
      Tree.get?_put_self (Tree.ne_nil_of_openFile hopen) _ _⟩

theorem opens_touch : Opens s directory day
    (Files.appendFile (file s day) [] : Simulation (Except IoFault Unit)) := by
  rintro w rfl _
  rw [touch_eq]
  cases hopen : w.tree.openFile w.directory (file s day) with
  | error e => exact .refl _ w
  | ok target =>
    obtain ⟨spot, old, executable⟩ := target
    obtain hnode | ⟨hnone, rfl, rfl⟩ := Tree.get?_of_openFile hopen
    · dsimp only
      rw [Tree.put_self (Tree.ne_nil_of_openFile hopen) hnode]
      exact .refl _ w
    · exact .change w (.single (Step.create hopen hnone))

theorem opens_reach : Opens s directory day
    (reach s.logDirectory (file s day) : ExceptT Unopened Simulation Unit) := by
  refine opens_touch.lift.bind_except fun first => ?_
  cases first with
  | ok _ => exact opens_pure _
  | error e =>
    dsimp only
    split
    · exact opens_pure _
    · rename_i parent hparent
      refine (opens_makeDirectories (.inr hparent)).lift.bind_except fun made => ?_
      cases made with
      | error e => exact opens_pure _
      | ok _ =>
        refine opens_touch.lift.bind_except fun second => ?_
        cases second <;> exact opens_pure _

theorem reach_of_holdsFile (h : HoldsFile w.tree w.directory p) (logDirectory : Path) :
    (reach logDirectory p : ExceptT Unopened Simulation Unit) w = (.ok (), w) := by
  unfold reach
  rw [bind_lift_apply, touch_of_holdsFile h]
  rfl

theorem holdsFile_of_reach {logDirectory : Path}
    (h : ((reach logDirectory p : ExceptT Unopened Simulation Unit) w).1 = .ok ()) :
    HoldsFile ((reach logDirectory p : ExceptT Unopened Simulation Unit) w).2.tree w.directory
      p := by
  unfold reach at h ⊢
  rw [bind_lift_apply] at h ⊢
  cases hfirst : ((Files.appendFile p [] : Simulation (Except IoFault Unit)) w).1 with
  | ok _ => exact holdsFile_of_touch hfirst
  | error e =>
    rw [touch_of_error hfirst] at h ⊢
    dsimp only at h ⊢
    cases hparent : p.parent? with
    | none =>
      rw [hparent] at h
      cases h
    | some parent =>
      rw [hparent] at h
      dsimp only at h ⊢
      rw [bind_lift_apply] at h ⊢
      -- The second attempt is made in a world with more directories.
      have hmade : (Files.makeDirectories parent : Simulation (Except IoFault Unit)) w =
        ((w.tree.makeDirectories w.directory parent).1,
          { w with tree := (w.tree.makeDirectories w.directory parent).2 }) := rfl
      rw [hmade] at h ⊢
      generalize w.tree.makeDirectories w.directory parent = made at h ⊢
      obtain ⟨result, t⟩ := made
      cases result with
      | error e => cases h
      | ok _ =>
        dsimp only at h ⊢
        rw [bind_lift_apply] at h ⊢
        cases hsecond : ((Files.appendFile p [] : Simulation (Except IoFault Unit))
            { w with tree := t }).1 with
        | error e =>
          rw [hsecond] at h
          cases h
        | ok _ => exact holdsFile_of_touch hsecond

def withDirectory (s : Settings) (w : World) : World :=
  { w with tree := (w.tree.makeDirectories w.directory s.logDirectory).2 }

def pruned (s : Settings) (w : World) : World :=
  ((prune s : Simulation Unit) (withDirectory s w)).2

theorem makeFile_of_unmade
    (h : (w.tree.makeDirectories w.directory s.logDirectory).1 = .error e) :
    (makeFile s : ExceptT Unopened Simulation Path) w =
      (.error (.directory s.logDirectory e), withDirectory s w) := by
  have hmake : (Files.makeDirectories s.logDirectory : Simulation (Except IoFault Unit)) w =
      (.error e, withDirectory s w) := Prod.ext h rfl
  unfold makeFile
  rw [bind_lift_apply, hmake]
  rfl

theorem makeFile_of_made
    (h : (w.tree.makeDirectories w.directory s.logDirectory).1 = .ok ()) :
    let path := file s (pruned s w).time.date
    let reached := (reach s.logDirectory path : ExceptT Unopened Simulation Unit) (pruned s w)
    (makeFile s : ExceptT Unopened Simulation Path) w =
      (reached.1.map fun _ => path, reached.2) := by
  have hmake : (Files.makeDirectories s.logDirectory : Simulation (Except IoFault Unit)) w =
      (.ok (), withDirectory s w) := Prod.ext h rfl
  have hprune : (prune s : Simulation Unit) (withDirectory s w) = ((), pruned s w) := rfl
  unfold makeFile
  rw [bind_lift_apply, hmake]
  dsimp only
  rw [bind_lift_apply, hprune, bind_lift_apply]
  cases hreached : ((reach s.logDirectory (file s (pruned s w).time.date) :
      ExceptT Unopened Simulation Unit) (pruned s w)).1 with
  | error e => exact bind_of_error hreached _
  | ok _ => exact bind_of_ok hreached _

/-- Opening the log takes no other steps, whether it comes to its end or not. -/
theorem opens_makeFile :
    Opens s directory day (makeFile s : ExceptT Unopened Simulation Path) := by
  intro w hdirectory hday
  have hmade : w.Alters (Step s directory day) (withDirectory s w) :=
    opens_makeDirectories (.inl rfl) w hdirectory hday
  cases h : (w.tree.makeDirectories w.directory s.logDirectory).1 with
  | error e =>
    rw [makeFile_of_unmade h]
    exact hmade
  | ok _ =>
    have hpruned : w.Alters (Step s directory day) (pruned s w) :=
      hmade.trans (opens_prune _ hdirectory hday)
    have hday' : (pruned s w).time.date = day := by rw [hpruned.time, hday]
    rw [makeFile_of_made h, hday']
    exact hpruned.trans (opens_reach _ (hpruned.directory.trans hdirectory) hday')

theorem holdsFile_of_makeFile
    (h : ((makeFile s : ExceptT Unopened Simulation Path) w).1 = .ok p) :
    p = file s w.time.date ∧
      HoldsFile ((makeFile s : ExceptT Unopened Simulation Path) w).2.tree w.directory p := by
  cases hmade : (w.tree.makeDirectories w.directory s.logDirectory).1 with
  | error e =>
    rw [makeFile_of_unmade hmade] at h
    cases h
  | ok _ =>
    have hpruned : (withDirectory s w).Alters (Step s w.directory w.time.date) (pruned s w) :=
      opens_prune _ rfl rfl
    have hday : (pruned s w).time = w.time := hpruned.time
    have hdirectory : (pruned s w).directory = w.directory := hpruned.directory
    rw [makeFile_of_made hmade] at h ⊢
    obtain ⟨_, hreached, rfl⟩ := map_eq_ok.1 h
    refine ⟨by rw [hday], ?_⟩
    rw [← hdirectory]
    exact holdsFile_of_reach hreached

/-- The log directory is there with the log file of the day, and no file in it is outdated. -/
structure Stands (s : Settings) (spot : Location) (day : Timestamp.Date) (t : Tree) : Prop where
  directory : t.isDirectory spot s.logDirectory = true
  file : HoldsFile t spot (Log.file s day)
  current : ∀ names, t.list spot s.logDirectory = .ok names →
    outdated s.logFiles.toNat (logFiles s spot t names) = []

theorem Stands.makeFile_eq (h : Stands s w.directory w.time.date w.tree) :
    (makeFile s : ExceptT Unopened Simulation Path) w = (.ok (Log.file s w.time.date), w) := by
  have hmade := Tree.makeDirectories_of_isDirectory h.directory
  have hwith : withDirectory s w = w := by
    unfold withDirectory
    rw [hmade]
  have hpruned : pruned s w = w := by
    unfold pruned
    rw [hwith, prune_eq]
    split
    · rfl
    · obtain ⟨names, hlist⟩ := Tree.list_of_isDirectory h.directory
      rw [hlist]
      dsimp only
      rw [h.current names hlist]
      rfl
  rw [makeFile_of_made (congrArg Prod.fst hmade), hpruned, reach_of_holdsFile h.file]
  rfl

end DumpWorkbench.Log
