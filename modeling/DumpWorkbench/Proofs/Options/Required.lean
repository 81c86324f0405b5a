import DumpWorkbench.Options.Reader
import DumpWorkbench.Proofs.DumpName

namespace DumpWorkbench.Options

variable {o o' : Options} {j k : Key} {value argument : String} {arguments : List String}
  {refusal : Refusal}

/-- The value that an option is there to set has come, if the option must not be missing. -/
def Holds (o : Options) : Key → Prop
  | .binName => ∃ name, o.binName = some name ∧ DumpName.check name = .ok ()
  | .baseDir => ∃ p, o.baseDir = some p
  | _ => True

theorem holds_congr (hname : o'.binName = o.binName) (hbase : o'.baseDir = o.baseDir)
    (h : o.Holds j) : o'.Holds j := by
  cases j with
  | binName =>
    unfold Holds
    rwa [hname]
  | baseDir =>
    unfold Holds
    rwa [hbase]
  | _ => trivial

theorem holds_of_not_takesValue (hk : k.takesValue = false) : o.Holds k := by
  cases k with
  | binName | baseDir => cases hk
  | _ => trivial

theorem holds_store (h : o.store k value = .ok o') : o'.Holds k ∧ ∀ j, o.Holds j → o'.Holds j := by
  unfold store at h
  cases k with
  | sifterBin | radareBin | config | logDir =>
    obtain ⟨p, -, rfl⟩ := map_eq_ok.1 h
    exact ⟨trivial, fun j => holds_congr rfl rfl⟩
  | baseDir =>
    obtain ⟨p, -, rfl⟩ := map_eq_ok.1 h
    refine ⟨⟨p, rfl⟩, fun j hj => ?_⟩
    cases j with
    | baseDir => exact ⟨p, rfl⟩
    | _ => exact hj
  | binName =>
    dsimp only at h
    split at h
    · rename_i name hname
      obtain rfl := Except.ok.inj h
      have hcheck := DumpName.check_of_parse hname
      refine ⟨⟨name, rfl, hcheck⟩, fun j hj => ?_⟩
      cases j with
      | binName => exact ⟨name, rfl, hcheck⟩
      | _ => exact hj
    · cases h
  | threads =>
    dsimp only at h
    split at h
    · obtain rfl := Except.ok.inj h
      exact ⟨trivial, fun j => holds_congr rfl rfl⟩
    · cases h
  | outputFormat =>
    dsimp only at h
    split at h
    · cases h
    · split at h
      · obtain rfl := Except.ok.inj h
        exact ⟨trivial, fun j => holds_congr rfl rfl⟩
      · cases h
  | _ =>
    obtain rfl := Except.ok.inj h
    exact ⟨trivial, fun j => holds_congr rfl rfl⟩

theorem holds_switch (h : o.Holds j) (k : Key) : (o.switch k).Holds j := by
  cases k <;> exact holds_congr rfl rfl h

theorem takesValue_ofLetter? {c : Char} (h : Key.ofLetter? c = some k) : k.takesValue = false := by
  have hletter : k.letter? = some c := by simpa using List.find?_some h
  cases k with
  | createLayout | verbose | quiet | help | version => rfl
  | _ => cases hletter

namespace Reading

variable {r r' : Reading}

/-- Every option that was seen has its value. -/
def Sound (r : Reading) : Prop := ∀ k ∈ r.seen, r.options.Holds k

theorem sound_start : start.Sound := fun _ hk => absurd hk List.not_mem_nil

theorem Sound.accept (h : r.Sound) (haccept : r.accept k value = .ok r') : r'.Sound := by
  unfold Reading.accept at haccept
  split at haccept
  · cases haccept
  · obtain ⟨o, hstore, rfl⟩ := map_eq_ok.1 haccept
    obtain ⟨hown, hothers⟩ := holds_store hstore
    intro j hj
    obtain hj | hj := List.mem_append.1 hj
    · exact hothers j (h j hj)
    · rw [List.mem_singleton.1 hj]
      exact hown

theorem Sound.settle (h : r.Sound) (hsettle : r.settle = .ok r') : r'.Sound := by
  unfold Reading.settle at hsettle
  split at hsettle
  · obtain rfl := Except.ok.inj hsettle
    exact h
  · cases hsettle
  · exact Sound.accept (r := { r with pending := none }) h hsettle

/-- A switch that is added to what was seen, in whatever order. -/
theorem Sound.switched (h : r.Sound) (hk : k.takesValue = false) {seen : List Key}
    (hseen : ∀ j ∈ seen, j ∈ r.seen ∨ j = k) :
    Sound { r with options := r.options.switch k, seen := seen } := by
  intro j hj
  obtain hj | rfl := hseen j hj
  · exact holds_switch (h j hj) k
  · exact holds_switch (holds_of_not_takesValue hk) j

theorem Sound.flag {detailed : Bool} (h : r.Sound) (hk : k.takesValue = false)
    (hflag : r.flag k detailed = .ok r') : r'.Sound := by
  unfold Reading.flag at hflag
  obtain ⟨settled, hsettle, hflag⟩ := bind_eq_ok.1 hflag
  have hsettled := h.settle hsettle
  split at hflag
  · cases hflag
  · cases hflag
  · obtain rfl := Except.ok.inj hflag
    refine hsettled.switched hk fun j hj => ?_
    obtain hj | hj := List.mem_append.1 hj
    · exact .inl (List.mem_filter.1 hj).1
    · exact .inr (List.mem_singleton.1 hj)
  · split at hflag
    · cases hflag
    · obtain rfl := Except.ok.inj hflag
      refine hsettled.switched hk fun j hj => ?_
      obtain hj | hj := List.mem_append.1 hj
      · exact .inl hj
      · exact .inr (List.mem_singleton.1 hj)

theorem Sound.letters {cs : List Char} (h : r.Sound) (hletters : r.letters cs = .ok r') :
    r'.Sound := by
  induction cs generalizing r with
  | nil =>
    obtain rfl := Except.ok.inj hletters
    exact h
  | cons c cs ih =>
    unfold Reading.letters at hletters
    split at hletters
    · cases hletters
    · rename_i k hk
      split at hletters
      · cases hletters
      · rename_i next hflag
        exact ih (h.flag (takesValue_ofLetter? hk) hflag) hletters

theorem Sound.long {text : List Char} (h : r.Sound) (hlong : r.long text = .ok r') : r'.Sound := by
  unfold Reading.long at hlong
  dsimp only at hlong
  split at hlong
  · cases hlong
  · split at hlong
    · obtain ⟨settled, hsettle, haccept⟩ := bind_eq_ok.1 hlong
      exact (h.settle hsettle).accept haccept
    · cases hlong
  · split at hlong
    · obtain ⟨settled, hsettle, hpending⟩ := bind_eq_ok.1 hlong
      have hsettled : settled.Sound := h.settle hsettle
      obtain rfl := Except.ok.inj hpending
      exact hsettled
    · rename_i hk
      exact h.flag (by simpa using hk) hlong

/-- One argument keeps the invariant. -/
theorem Sound.step (h : r.Sound) (hstep : r.step argument = .ok r') : r'.Sound := by
  unfold Reading.step at hstep
  split at hstep
  · cases hstep
  · split at hstep
    · obtain rfl := Except.ok.inj hstep
      exact h
    · exact h.long hstep
    · exact h.letters hstep
    · unfold Reading.plain at hstep
      split at hstep
      · obtain rfl := Except.ok.inj hstep
        exact h
      · cases hstep

theorem Sound.steps (h : r.Sound) (hsteps : r.steps arguments = .ok r') : r'.Sound := by
  induction arguments generalizing r with
  | nil =>
    obtain rfl := Except.ok.inj hsteps
    exact h
  | cons a as ih =>
    unfold Reading.steps at hsteps
    split at hsteps
    · cases hsteps
    · rename_i next hstep
      exact ih (h.step hstep) hsteps

theorem Sound.finish (h : r.Sound) (hfinish : r.finish = .ok o) :
    o.generateConfig = true ∨ o.Holds .baseDir ∧ o.Holds .binName := by
  unfold Reading.finish at hfinish
  obtain ⟨settled, hsettle, hfinish⟩ := bind_eq_ok.1 hfinish
  have hsettled := h.settle hsettle
  split at hfinish
  · cases hfinish
  · split at hfinish
    · cases hfinish
    · split at hfinish
      · rename_i hmissing
        obtain rfl := Except.ok.inj hfinish
        rw [List.isEmpty_iff, missing] at hmissing
        split at hmissing
        · exact .inl ‹_›
        · have hseen (k : Key) (hk : k ∈ [Key.baseDir, .binName]) : k ∈ settled.seen := by
            simpa using List.filter_eq_nil_iff.1 hmissing k hk
          exact .inr ⟨hsettled _ (hseen _ (by decide)), hsettled _ (hseen _ (by decide))⟩
      · cases hfinish

end Reading

/-- Options that are read are to write a file of settings, or have an admitted name and a base
directory. -/
theorem required_of_read (h : read arguments = .ok o) (hgenerate : o.generateConfig = false) :
    (∃ name, o.binName = some name ∧ DumpName.check name = .ok ()) ∧
      ∃ p, o.baseDir = some p := by
  obtain ⟨r, hsteps, hfinish⟩ := bind_eq_ok.1 h
  obtain hgenerated | ⟨hbase, hname⟩ := (Reading.sound_start.steps hsteps).finish hfinish
  · rw [hgenerate] at hgenerated
    cases hgenerated
  · exact ⟨hname, hbase⟩

end DumpWorkbench.Options
