import DumpWorkbench.Options.Reader
import DumpWorkbench.Proofs.Outcome
import Mathlib.Data.List.Nodup
import Mathlib.Data.List.Perm.Basic

namespace DumpWorkbench.Options

variable {o : Options} {j k : Key} {v : String}

/-- An option on a command line, with its value if it takes one. -/
structure Mention where
  key : Key
  value? : Option String
  isSome_value? : value?.isSome = key.takesValue
deriving DecidableEq

/-- The options with the field of one of them from elsewhere. -/
def put (o src : Options) : Key → Options
  | .createLayout => { o with createLayout := src.createLayout }
  | .radare => { o with radare := src.radare }
  | .sifter => { o with sifter := src.sifter }
  | .sifterBin => { o with sifterBin := src.sifterBin }
  | .radareBin => { o with radareBin := src.radareBin }
  | .baseDir => { o with baseDir := src.baseDir }
  | .binName => { o with binName := src.binName }
  | .threads => { o with threads := src.threads }
  | .extension => { o with extension := src.extension }
  | .config => { o with config := src.config }
  | .logDir => { o with logDir := src.logDir }
  | .outputFormat => { o with mode := src.mode }
  | .verbose => { o with verbose := src.verbose }
  | .quiet => { o with quiet := src.quiet }
  | .dryRun => { o with dryRun := src.dryRun }
  | .generateConfig => { o with generateConfig := src.generateConfig }
  | .help | .version => o

theorem put_comm (h : j ≠ k) (o s t : Options) : (o.put s j).put t k = (o.put t k).put s j := by
  cases j <;> cases k <;> first | rfl | exact absurd rfl h

theorem switch_verbose_put (h : k ≠ .verbose) (o s : Options) :
    (o.put s k).switch .verbose = (o.switch .verbose).put s k := by
  cases k <;> first | rfl | exact absurd rfl h

theorem switch_eq_put (hk : k.takesValue = false) (h : k ≠ .verbose) (o : Options) :
    o.switch k = o.put (switch {} k) k := by
  cases k with
  | verbose => exact absurd rfl h
  | createLayout | radare | sifter | quiet | dryRun | generateConfig | help | version => rfl
  | _ => cases hk

/-- A value is judged by itself, and sets the field of its option. -/
theorem store_eq_put (hk : k.takesValue = true) (o : Options) (v : String) :
    o.store k v = (store {} k v).map fun src => o.put src k := by
  cases k with
  | sifterBin | radareBin | baseDir | config | logDir =>
    simp only [store]
    cases path _ v <;> rfl
  | binName =>
    simp only [store]
    cases DumpName.parse v <;> rfl
  | threads =>
    simp only [store]
    cases threadCount v <;> rfl
  | outputFormat =>
    simp only [store]
    split_ifs
    · rfl
    · cases mode? v <;> rfl
  | extension => rfl
  | _ => cases hk

variable {m n : Mention} {ms ns : List Mention}

def apply (o : Options) (m : Mention) : Options :=
  match m.value? with
  | none => o.switch m.key
  | some v => ((o.store m.key v).toOption).getD o

/-- The mention asks for no text, and its value is one that its option takes. -/
structure Mention.Admitted (m : Mention) : Prop where
  asks : m.key ≠ .help ∧ m.key ≠ .version
  value : ∀ v, m.value? = some v → ∃ o, store {} m.key v = .ok o

theorem Mention.value?_of_verbose (h : m.key = .verbose) : m.value? = none := by
  have hsome := m.isSome_value?
  rw [h] at hsome
  exact Option.not_isSome_iff_eq_none.1 (by rw [hsome]; decide)

theorem apply_eq_put (hm : m.Admitted) (hkey : m.key ≠ .verbose) (o : Options) :
    o.apply m = o.put (apply {} m) m.key := by
  have hsome := m.isSome_value?
  unfold apply
  split
  · rename_i hnone
    rw [hnone] at hsome
    exact switch_eq_put hsome.symm hkey o
  · rename_i v hv
    rw [hv] at hsome
    obtain ⟨src, hsrc⟩ := hm.value v hv
    rw [store_eq_put hsome.symm, hsrc]
    rfl

theorem apply_verbose (h : m.key = .verbose) (o : Options) : o.apply m = o.switch .verbose := by
  unfold apply
  rw [Mention.value?_of_verbose h, h]

theorem apply_comm (hm : m.Admitted) (hn : n.Admitted) (h : m.key ≠ n.key) (o : Options) :
    (o.apply m).apply n = (o.apply n).apply m := by
  by_cases hmv : m.key = .verbose
  · have hnv : n.key ≠ .verbose := fun hnv => h (hmv.trans hnv.symm)
    rw [apply_verbose hmv, apply_verbose hmv, apply_eq_put hn hnv, apply_eq_put hn hnv o,
      switch_verbose_put hnv]
  · rw [apply_eq_put hm hmv o, apply_eq_put hm hmv (o.apply n)]
    by_cases hnv : n.key = .verbose
    · rw [apply_verbose hnv, apply_verbose hnv, switch_verbose_put hmv]
    · rw [apply_eq_put hn hnv (o.put _ _), apply_eq_put hn hnv o, put_comm h]

/-- The options that were seen, with one that is seen now at the end. -/
def mentioned (seen : List Key) (k : Key) : List Key := seen.filter (· ≠ k) ++ [k]

theorem mem_mentioned {seen : List Key} : j ∈ mentioned seen k ↔ j ∈ seen ∨ j = k := by
  simp only [mentioned, List.mem_append, List.mem_filter, List.mem_singleton, decide_eq_true_eq]
  tauto

theorem nodup_mentioned {seen : List Key} (h : seen.Nodup) (k : Key) :
    (mentioned seen k).Nodup := by
  refine List.nodup_append.2 ⟨h.filter _, List.nodup_singleton k, ?_⟩
  intro a ha b hb
  rw [List.mem_singleton.1 hb]
  simpa using (List.mem_filter.1 ha).2

theorem mentioned_of_not_mem {seen : List Key} (h : k ∉ seen) : mentioned seen k = seen ++ [k] := by
  rw [mentioned, List.filter_eq_self.2]
  intro a ha
  exact decide_eq_true fun heq => h (heq ▸ ha)

namespace Reading

variable {r r' r'' : Reading}

/-- A mention is taken: it is admitted, repeats none unless it counts, and sets its field. -/
structure Takes (r : Reading) (m : Mention) (r' : Reading) : Prop where
  admitted : m.Admitted
  fresh : m.key = .verbose ∨ m.key ∉ r.seen
  after : r' = { r with options := r.options.apply m, seen := mentioned r.seen m.key }

theorem settle_of_none (h : r.pending = none) : r.settle = .ok r := by
  rw [settle, h]

theorem flag_eq_ok (hr : r.pending = none) (k : Key) (detailed : Bool) :
    r.flag k detailed = .ok r' ↔ (k ≠ .help ∧ k ≠ .version) ∧ (k = .verbose ∨ k ∉ r.seen) ∧
      r' = { r with options := r.options.switch k, seen := mentioned r.seen k } := by
  have hflag (hverbose : k ≠ .verbose) (hasks : k ≠ .help ∧ k ≠ .version) :
      r.flag k detailed = if r.seen.contains k then .error (.repeated k)
        else .ok { r with options := r.options.switch k, seen := r.seen ++ [k] } := by
    unfold flag
    rw [settle_of_none hr]
    cases k with
    | verbose => exact absurd rfl hverbose
    | help => exact absurd rfl hasks.1
    | version => exact absurd rfl hasks.2
    | _ => rfl
  cases k with
  | help | version =>
    unfold flag
    rw [settle_of_none hr]
    exact iff_of_false nofun (by simp)
  | verbose =>
    unfold flag
    rw [settle_of_none hr]
    simp [bind, Except.bind, pure, Except.pure, mentioned, eq_comm]
  | _ =>
    rw [hflag (by decide) (by decide)]
    split_ifs with hseen
    · exact iff_of_false nofun (by simp [List.contains_iff_mem.1 hseen])
    · have hseen := mt List.contains_iff_mem.2 hseen
      rw [mentioned_of_not_mem hseen, Except.ok.injEq, eq_comm]
      simp [hseen]

theorem flag_eq_ok_iff (hr : r.pending = none) (hm : m.value? = none) (detailed : Bool) :
    r.flag m.key detailed = .ok r' ↔ r.Takes m r' := by
  have happly : r.options.apply m = r.options.switch m.key := by rw [apply, hm]
  rw [flag_eq_ok hr, ← happly]
  constructor
  · rintro ⟨hasks, hfresh, hafter⟩
    exact ⟨⟨hasks, by simp [hm]⟩, hfresh, hafter⟩
  · rintro ⟨hadmitted, hfresh, hafter⟩
    exact ⟨hadmitted.asks, hfresh, hafter⟩

theorem accept_eq_ok_iff (hm : m.value? = some v) :
    r.accept m.key v = .ok r' ↔ r.Takes m r' := by
  have htakes : m.key.takesValue = true := by rw [← m.isSome_value?, hm]; rfl
  have hasks : m.key ≠ .help ∧ m.key ≠ .version ∧ m.key ≠ .verbose := by
    refine ⟨?_, ?_, ?_⟩ <;> (intro hkey; rw [hkey] at htakes; cases htakes)
  have hstored {o : Options} (h : r.options.store m.key v = .ok o) : r.options.apply m = o := by
    simp [apply, hm, h, Except.toOption]
  unfold accept
  constructor
  · intro h
    split_ifs at h with hseen
    have hseen : m.key ∉ r.seen := by simpa using hseen
    obtain ⟨o, ho, rfl⟩ := map_eq_ok.1 h
    refine ⟨⟨⟨hasks.1, hasks.2.1⟩, ?_⟩, .inr hseen, ?_⟩
    · rw [store_eq_put htakes] at ho
      obtain ⟨src, hsrc, -⟩ := map_eq_ok.1 ho
      rintro _ hv
      rw [hm] at hv
      obtain rfl := Option.some.inj hv
      exact ⟨src, hsrc⟩
    · rw [hstored ho, mentioned_of_not_mem hseen]
  · rintro ⟨hadmitted, hfresh, rfl⟩
    have hseen := hfresh.resolve_left hasks.2.2
    obtain ⟨src, hsrc⟩ := hadmitted.value v hm
    have ho : r.options.store m.key v = .ok (r.options.put src m.key) := by
      rw [store_eq_put htakes, hsrc]
      rfl
    rw [if_neg (by simpa using hseen), ho, hstored ho, mentioned_of_not_mem hseen]
    rfl

/-- Mentions are taken one after the other. -/
inductive TakesAll : Reading → List Mention → Reading → Prop
  | nil (r : Reading) : TakesAll r [] r
  | cons {r r' r'' : Reading} {m : Mention} {ms : List Mention} (h : Takes r m r')
      (hs : TakesAll r' ms r'') : TakesAll r (m :: ms) r''

theorem takesAll_nil : TakesAll r [] r' ↔ r' = r := by
  constructor
  · rintro ⟨⟩
    rfl
  · rintro rfl
    exact .nil _

theorem takesAll_cons : TakesAll r (m :: ms) r'' ↔ ∃ r', Takes r m r' ∧ TakesAll r' ms r'' := by
  constructor
  · rintro ⟨⟩
    exact ⟨_, ‹_›, ‹_›⟩
  · rintro ⟨r', h, hs⟩
    exact .cons h hs

theorem takesAll_append :
    TakesAll r (ms ++ ns) r'' ↔ ∃ r', TakesAll r ms r' ∧ TakesAll r' ns r'' := by
  induction ms generalizing r with
  | nil => simp [takesAll_nil]
  | cons m ms ih =>
    simp only [List.cons_append, takesAll_cons, ih]
    constructor
    · rintro ⟨r₁, h₁, r₂, h₂, h₃⟩
      exact ⟨r₂, ⟨r₁, h₁, h₂⟩, h₃⟩
    · rintro ⟨r₂, ⟨r₁, h₁, h₂⟩, h₃⟩
      exact ⟨r₁, h₁, r₂, h₂, h₃⟩

theorem TakesAll.pending (h : TakesAll r ms r') (hr : r.pending = none) : r'.pending = none := by
  induction h with
  | nil r => exact hr
  | cons h _ ih =>
    obtain ⟨-, -, rfl⟩ := h
    exact ih hr

theorem TakesAll.nodup (h : TakesAll r ms r') (hr : r.seen.Nodup) : r'.seen.Nodup := by
  induction h with
  | nil r => exact hr
  | cons h _ ih =>
    obtain ⟨-, -, rfl⟩ := h
    exact ih (nodup_mentioned hr _)

theorem TakesAll.mem_seen (h : TakesAll r ms r') :
    k ∈ r'.seen ↔ k ∈ r.seen ∨ k ∈ ms.map (·.key) := by
  induction h with
  | nil r => simp
  | cons h _ ih =>
    obtain ⟨-, -, rfl⟩ := h
    rw [ih, mem_mentioned, List.map_cons, List.mem_cons, or_assoc]

theorem TakesAll.options (h : TakesAll r ms r') : r'.options = ms.foldl apply r.options := by
  induction h with
  | nil r => rfl
  | cons h _ ih =>
    obtain ⟨-, -, rfl⟩ := h
    exact ih

def single (ms : List Mention) : List Mention := ms.filter (·.key ≠ .verbose)

/-- Mentions can be taken if each is admitted and none that does not count comes again. -/
theorem exists_takesAll_iff : (∃ r', TakesAll r ms r') ↔ (∀ m ∈ ms, m.Admitted) ∧
    ((single ms).map (·.key)).Nodup ∧ ∀ m ∈ single ms, m.key ∉ r.seen := by
  induction ms generalizing r with
  | nil => simp [takesAll_nil, single]
  | cons m ms ih =>
    have hstep : (∃ r', TakesAll r (m :: ms) r') ↔
        m.Admitted ∧ (m.key = .verbose ∨ m.key ∉ r.seen) ∧ ∃ r', TakesAll
          { r with options := r.options.apply m, seen := mentioned r.seen m.key } ms r' := by
      constructor
      · rintro ⟨r', h⟩
        obtain ⟨_, ⟨hadmitted, hfresh, rfl⟩, hs⟩ := takesAll_cons.1 h
        exact ⟨hadmitted, hfresh, r', hs⟩
      · rintro ⟨hadmitted, hfresh, r', hs⟩
        exact ⟨r', .cons ⟨hadmitted, hfresh, rfl⟩ hs⟩
    rw [hstep, ih, List.forall_mem_cons]
    simp only [mem_mentioned, not_or, single]
    by_cases hkey : m.key = .verbose
    · rw [List.filter_cons_of_neg (by simpa using hkey)]
      have hother : ∀ n ∈ ms.filter (·.key ≠ .verbose), n.key ≠ m.key := fun n hn => by
        rw [hkey]
        simpa using (List.mem_filter.1 hn).2
      constructor
      · rintro ⟨hm, -, hms, hnodup, hseen⟩
        exact ⟨⟨hm, hms⟩, hnodup, fun n hn => (hseen n hn).1⟩
      · rintro ⟨⟨hm, hms⟩, hnodup, hseen⟩
        exact ⟨hm, .inl hkey, hms, hnodup, fun n hn => ⟨hseen n hn, hother n hn⟩⟩
    · rw [List.filter_cons_of_pos (by simpa using hkey), List.map_cons, List.nodup_cons,
        List.forall_mem_cons]
      constructor
      · rintro ⟨hm, hfresh, hms, hnodup, hseen⟩
        refine ⟨⟨hm, hms⟩, ⟨fun hmem => ?_, hnodup⟩, hfresh.resolve_left hkey,
          fun n hn => (hseen n hn).1⟩
        obtain ⟨n, hn, heq⟩ := List.mem_map.1 hmem
        exact (hseen n hn).2 heq
      · rintro ⟨⟨hm, hms⟩, ⟨hmem, hnodup⟩, hfresh, hseen⟩
        exact ⟨hm, .inr hfresh, hms, hnodup, fun n hn =>
          ⟨hseen n hn, fun heq => hmem (List.mem_map.2 ⟨n, hn, heq⟩)⟩⟩

theorem conflict?_eq_none_iff (hr : r.seen.Nodup) :
    r.conflict? = none ↔ ¬ (Key.quiet ∈ r.seen ∧ Key.verbose ∈ r.seen) := by
  have hmem (k : Key) : k ∈ r.seen.filter (fun k => k = .quiet ∨ k = .verbose) ↔
      k ∈ r.seen ∧ (k = .quiet ∨ k = .verbose) := by simp [List.mem_filter]
  have hnodup := hr.filter fun k => decide (k = .quiet ∨ k = .verbose)
  have hquiet := hmem .quiet
  have hverbose := hmem .verbose
  unfold conflict?
  -- At most one of the two is there unless the list has two members.
  generalize r.seen.filter (fun k => decide (k = .quiet ∨ k = .verbose)) = seen at *
  match seen with
  | [] => simp_all
  | [a] =>
    refine iff_of_true rfl fun h => ?_
    have hq := List.mem_singleton.1 (hquiet.2 ⟨h.1, .inl rfl⟩)
    have hv := List.mem_singleton.1 (hverbose.2 ⟨h.2, .inr rfl⟩)
    cases hq.trans hv.symm
  | a :: b :: rest =>
    have ha := (hmem a).1 List.mem_cons_self
    have hb := (hmem b).1 (List.mem_cons_of_mem a List.mem_cons_self)
    have hne : a ≠ b := by
      rintro rfl
      exact (List.nodup_cons.1 hnodup).1 List.mem_cons_self
    refine iff_of_false nofun (not_not_intro ?_)
    obtain ⟨ha, rfl | rfl⟩ := ha <;> obtain ⟨hb, rfl | rfl⟩ := hb
    · exact absurd rfl hne
    · exact ⟨ha, hb⟩
    · exact ⟨hb, ha⟩
    · exact absurd rfl hne

theorem finish_eq_ok_iff (hpending : r.pending = none) (hr : r.seen.Nodup) :
    r.finish = .ok o ↔ r.seen ≠ [] ∧ ¬ (Key.quiet ∈ r.seen ∧ Key.verbose ∈ r.seen) ∧
      (r.options.generateConfig = true ∨ Key.baseDir ∈ r.seen ∧ Key.binName ∈ r.seen) ∧
      r.options = o := by
  rw [← conflict?_eq_none_iff hr]
  have hmissing : r.missing.isEmpty = true ↔
      (r.options.generateConfig = true ∨ Key.baseDir ∈ r.seen ∧ Key.binName ∈ r.seen) := by
    unfold missing
    split_ifs with hgenerate
    · simp [hgenerate]
    · simp [hgenerate]
  unfold finish
  rw [settle_of_none hpending, ← hmissing]
  dsimp only [bind, Except.bind]
  by_cases hempty : r.seen = []
  · rw [if_pos (by simp [hempty])]
    exact iff_of_false nofun (by simp [hempty])
  · rw [if_neg (by simpa using hempty)]
    cases r.conflict? with
    | some e => exact iff_of_false nofun (by simp)
    | none =>
      by_cases hrequired : r.missing.isEmpty = true
      · simp [hempty, hrequired]
      · simp [hrequired]

end Reading

/-- What mentions come to, whatever their order: each is admitted, none that does not count is
repeated, quietness and verbosity exclude each other, and nothing that is required is missing. -/
structure Accepted (ms : List Mention) (o : Options) : Prop where
  nonempty : ms ≠ []
  admitted : ∀ m ∈ ms, m.Admitted
  once : ((Reading.single ms).map (·.key)).Nodup
  compatible : ¬ (Key.quiet ∈ ms.map (·.key) ∧ Key.verbose ∈ ms.map (·.key))
  required : o.generateConfig = true ∨ Key.baseDir ∈ ms.map (·.key) ∧ Key.binName ∈ ms.map (·.key)
  options : ms.foldl apply {} = o

theorem accepted_iff : Accepted ms o ↔
    ∃ r, Reading.TakesAll .start ms r ∧ r.finish = .ok o := by
  have hfinish {r : Reading} (h : Reading.TakesAll .start ms r) := Reading.finish_eq_ok_iff (o := o)
    (h.pending rfl) (h.nodup List.nodup_nil)
  have hseen {r : Reading} (h : Reading.TakesAll .start ms r) (k : Key) :
      k ∈ r.seen ↔ k ∈ ms.map (·.key) := by
    rw [h.mem_seen]
    exact or_iff_right List.not_mem_nil
  have hnil {r : Reading} (h : Reading.TakesAll .start ms r) : r.seen ≠ [] ↔ ms ≠ [] := by
    refine not_congr ?_
    rw [List.eq_nil_iff_forall_not_mem, ← List.map_eq_nil_iff (f := (·.key)),
      List.eq_nil_iff_forall_not_mem]
    exact forall_congr' fun k => not_congr (hseen h k)
  constructor
  · intro h
    obtain ⟨r, hr⟩ := Reading.exists_takesAll_iff (r := .start).2
      ⟨h.admitted, h.once, fun _ _ => List.not_mem_nil⟩
    refine ⟨r, hr, (hfinish hr).2 ?_⟩
    have hoptions : r.options = o := hr.options.trans h.options
    rw [hseen hr, hseen hr, hseen hr, hseen hr, hnil hr, hoptions]
    exact ⟨h.nonempty, h.compatible, h.required, rfl⟩
  · rintro ⟨r, hr, hend⟩
    rw [hfinish hr, hseen hr, hseen hr, hseen hr, hseen hr, hnil hr] at hend
    obtain ⟨hne, hcompatible, hrequired, rfl⟩ := hend
    obtain ⟨hadmitted, honce, -⟩ := Reading.exists_takesAll_iff.1 ⟨r, hr⟩
    exact ⟨hne, hadmitted, honce, hcompatible, hrequired, hr.options.symm⟩

theorem Accepted.eq_of_key (h : Accepted ms o) (hm : m ∈ ms) (hn : n ∈ ms) (hkey : m.key = n.key) :
    m = n := by
  by_cases hverbose : m.key = .verbose
  · have hvalue := Mention.value?_of_verbose hverbose
    have hvalue' := Mention.value?_of_verbose (hkey ▸ hverbose)
    cases m
    cases n
    simp_all
  · have hmem {m : Mention} (hm : m ∈ ms) (hkey : m.key ≠ .verbose) : m ∈ Reading.single ms :=
      List.mem_filter.2 ⟨hm, decide_eq_true hkey⟩
    exact List.inj_on_of_nodup_map h.once (hmem hm hverbose) (hmem hn (hkey ▸ hverbose)) hkey

/-- The order of the mentions does not count. -/
theorem Accepted.perm (h : Accepted ms o) (hperm : ms.Perm ns) : Accepted ns o := by
  have hkeys (k : Key) : k ∈ ns.map (·.key) ↔ k ∈ ms.map (·.key) := (hperm.map _).mem_iff.symm
  refine ⟨fun hnil => h.nonempty (List.perm_nil.1 (hnil ▸ hperm)),
    fun m hm => h.admitted m (hperm.mem_iff.2 hm), ((hperm.filter _).map _).nodup_iff.1 h.once,
    ?_, ?_, ?_⟩
  · rw [hkeys, hkeys]
    exact h.compatible
  · rw [hkeys, hkeys]
    exact h.required
  · rw [← h.options]
    refine (hperm.foldl_eq' ?_ _).symm
    intro m hm n hn o
    by_cases hkey : m.key = n.key
    · rw [h.eq_of_key hm hn hkey]
    · exact apply_comm (h.admitted m hm) (h.admitted n hn) hkey o

end DumpWorkbench.Options
