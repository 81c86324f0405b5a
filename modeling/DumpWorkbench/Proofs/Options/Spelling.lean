import DumpWorkbench.Proofs.Options.Mention
import DumpWorkbench.Proofs.Options.Required
import Mathlib.Data.List.Forall2
import Mathlib.Data.List.TakeWhile

namespace DumpWorkbench.Options

variable {o : Options} {k : Key} {m : Mention} {group ms : List Mention}
  {name v argument : String} {line : List String} {cs text : List Char}

/-- The text is not taken for an option where a value can stand. -/
def StandsAlone (v : String) : Prop := v = "-" ∨ v.toList.head? ≠ some '-'

/-- The characters are the letters of the mentioned options. -/
abbrev Lettered (group : List Mention) (cs : List Char) : Prop :=
  List.Forall₂ (fun m c => m.key.letter? = some c) group cs

/-- The arguments spell the mentions. Two dashes may stand at their end. -/
inductive Spelled : List Mention → List String → Prop
  | nothing : Spelled [] []
  | ended : Spelled [] ["--"]
  | long (m : Mention) {ms : List Mention} (name : String) {line : List String}
      (hname : name ∈ m.key.names) (hvalue : m.value? = none) (h : Spelled ms line) :
      Spelled (m :: ms) (("--" ++ name) :: line)
  | letters (group : List Mention) {ms : List Mention} (cs : List Char) {line : List String}
      (hne : cs ≠ []) (hletters : Lettered group cs) (h : Spelled ms line) :
      Spelled (group ++ ms) (("-" ++ String.ofList cs) :: line)
  | attached (m : Mention) {ms : List Mention} (name v : String) {line : List String}
      (hname : name ∈ m.key.names) (hvalue : m.value? = some v) (h : Spelled ms line) :
      Spelled (m :: ms) (("--" ++ name ++ "=" ++ v) :: line)
  | detached (m : Mention) {ms : List Mention} (name v : String) {line : List String}
      (hname : name ∈ m.key.names) (hvalue : m.value? = some v) (halone : StandsAlone v)
      (h : Spelled ms line) : Spelled (m :: ms) (("--" ++ name) :: v :: line)

theorem names_spec (h : name ∈ k.names) :
    Key.ofName? name = some k ∧ name.toList ≠ [] ∧ '=' ∉ name.toList := by
  have hall : ∀ k ∈ Key.all, ∀ name ∈ k.names,
      Key.ofName? name = some k ∧ name.toList ≠ [] ∧ '=' ∉ name.toList := by decide
  exact hall k (by cases k <;> decide) name h

theorem mem_names_of_ofName? (h : Key.ofName? name = some k) : name ∈ k.names := by
  simpa using List.find?_some h

theorem ofLetter?_eq_some_iff {c : Char} : Key.ofLetter? c = some k ↔ k.letter? = some c := by
  constructor
  · intro h
    simpa using List.find?_some h
  · intro h
    cases k <;> cases h <;> decide

theorem Mention.value?_of_letter {c : Char} (h : m.key.letter? = some c) : m.value? = none := by
  have hsome := m.isSome_value?
  have htakes : m.key.takesValue = false := by
    cases hkey : m.key <;> rw [hkey] at h <;> first | rfl | cases h
  rw [htakes] at hsome
  exact Option.not_isSome_iff_eq_none.1 (by simp [hsome])

theorem letter?_ne_dash (k : Key) : k.letter? ≠ some '-' := by cases k <;> decide

theorem head?_ne_dash (h : Lettered group cs) : cs.head? ≠ some '-' := by
  obtain _ | ⟨hm, -⟩ := h
  · exact nofun
  · intro hdash
    obtain rfl := Option.some.inj hdash
    exact letter?_ne_dash _ hm

theorem standsAlone_of_forall (h : ∀ c cs, v.toList = '-' :: c :: cs → False) : StandsAlone v := by
  cases htext : v.toList with
  | nil => exact .inr (by simp [htext])
  | cons c cs =>
    by_cases hc : c = '-'
    · subst hc
      cases cs with
      | nil => exact .inl (String.toList_inj.1 htext)
      | cons c cs => exact (h c cs htext).elim
    · exact .inr (by simpa [htext] using hc)

namespace Reading

variable {r r' s : Reading}

def Waits (r : Reading) : Prop := ∃ k, r.pending = some (k, none)

theorem not_waits_of_settle (h : r.settle = .ok s) : ¬ r.Waits := by
  rintro ⟨k, hk⟩
  rw [settle, hk] at h
  cases h

theorem accept_frame (h : r.accept k v = .ok r') :
    r'.pending = r.pending ∧ r'.trailing = r.trailing := by
  unfold accept at h
  split_ifs at h
  obtain ⟨o, -, rfl⟩ := map_eq_ok.1 h
  exact ⟨rfl, rfl⟩

theorem settle_frame (h : r.settle = .ok s) : s.pending = none ∧ s.trailing = r.trailing := by
  unfold settle at h
  split at h
  · obtain rfl := Except.ok.inj h
    exact ⟨‹_›, rfl⟩
  · cases h
  · exact accept_frame h

theorem TakesAll.trailing (h : r.TakesAll ms r') : r'.trailing = r.trailing := by
  induction h with
  | nil r => rfl
  | cons h _ ih =>
    obtain ⟨-, -, rfl⟩ := h
    exact ih

theorem takesAll_singleton : r.TakesAll [m] r' ↔ r.Takes m r' := by
  simp [takesAll_cons, takesAll_nil]

theorem flag_eq_bind (r : Reading) (k : Key) (detailed : Bool) :
    r.flag k detailed = r.settle >>= (·.flag k detailed) := by
  cases hsettle : r.settle with
  | error e =>
    unfold flag
    rw [hsettle]
    rfl
  | ok s =>
    have hs := settle_of_none (settle_frame hsettle).1
    change _ = s.flag k detailed
    unfold flag
    rw [hsettle, hs]

theorem flag_takes (hm : m.value? = none) (detailed : Bool) :
    r.flag m.key detailed = .ok r' ↔ ∃ s, r.settle = .ok s ∧ s.TakesAll [m] r' := by
  rw [flag_eq_bind, bind_eq_ok]
  refine exists_congr fun s => and_congr_right fun hsettle => ?_
  rw [flag_eq_ok_iff (settle_frame hsettle).1 hm, takesAll_singleton]

theorem letters_takes (h : Lettered group cs)
    (hr : r.pending = none) : r.letters cs = .ok r' ↔ r.TakesAll group r' := by
  induction h generalizing r with
  | nil =>
    rw [letters, takesAll_nil, Except.ok.injEq, eq_comm]
  | @cons m c group cs hm _ ih =>
    have hvalue := Mention.value?_of_letter hm
    rw [letters, ofLetter?_eq_some_iff.2 hm, takesAll_cons]
    dsimp only
    constructor
    · intro h
      split at h
      · cases h
      · rename_i s hflag
        have htakes := (flag_eq_ok_iff hr hvalue false).1 hflag
        refine ⟨s, htakes, (ih ?_).1 h⟩
        rw [htakes.after]
        exact hr
    · rintro ⟨s, htakes, hs⟩
      rw [(flag_eq_ok_iff hr hvalue false).2 htakes]
      refine (ih ?_).2 hs
      rw [htakes.after]
      exact hr

theorem letters_takes_settle (h : Lettered group cs)
    (hne : cs ≠ []) : r.letters cs = .ok r' ↔ ∃ s, r.settle = .ok s ∧ s.TakesAll group r' := by
  have hbind : r.letters cs = r.settle >>= (·.letters cs) := by
    obtain _ | ⟨hm, -⟩ := h
    · exact absurd rfl hne
    · have hk := ofLetter?_eq_some_iff.2 hm
      simp only [letters, hk]
      rw [flag_eq_bind]
      cases r.settle <;> rfl
  rw [hbind, bind_eq_ok]
  refine exists_congr fun s => and_congr_right fun hsettle => ?_
  exact letters_takes h (settle_frame hsettle).1

theorem settle_value (hr : r.pending = none) (k : Key) (v : String) :
    { r with pending := some (k, some v) }.settle = r.accept k v := by
  obtain ⟨options, seen, pending, trailing⟩ := r
  obtain rfl : pending = none := hr
  rfl

theorem step_ends (htrailing : r.trailing = false) :
    r.step "--" = .ok { r with trailing := true } := by
  rw [step, if_neg (by simp [htrailing])]
  rfl

theorem long_name (hname : name ∈ k.names) :
    r.long name.toList = if k.takesValue then
      (do return { ← r.settle with pending := some (k, none) }) else r.flag k true := by
  obtain ⟨hofName, -, hequals⟩ := names_spec hname
  have hall : ∀ c ∈ name.toList, decide (c ≠ '=') = true := fun c hc =>
    decide_eq_true fun heq => hequals (heq ▸ hc)
  rw [long, List.takeWhile_eq_self_iff.2 hall, List.dropWhile_eq_nil_iff.2 hall,
    String.ofList_toList, hofName]
  rfl

theorem long_attached (hname : name ∈ k.names) (hk : k.takesValue = true) :
    r.long (name.toList ++ '=' :: v.toList) = r.settle >>= (·.accept k v) := by
  obtain ⟨hofName, -, hequals⟩ := names_spec hname
  have hall : ∀ c ∈ name.toList, decide (c ≠ '=') = true := fun c hc =>
    decide_eq_true fun heq => hequals (heq ▸ hc)
  rw [long, List.takeWhile_append_of_pos hall, List.takeWhile_cons_of_neg (by simp),
    List.append_nil, List.dropWhile_append_of_pos hall, List.dropWhile_cons_of_neg (by simp),
    String.ofList_toList, hofName]
  dsimp only [List.tail?_cons, Option.map_some]
  rw [if_pos hk, String.ofList_toList]

theorem step_long (htrailing : r.trailing = false) (hne : text ≠ []) :
    r.step ("--" ++ String.ofList text) = r.long text := by
  obtain ⟨c, text, rfl⟩ := List.exists_cons_of_ne_nil hne
  have htext : ("--" ++ String.ofList (c :: text)).toList = '-' :: '-' :: c :: text := by
    simp [String.toList_append]
  rw [step, if_neg (by simp [htrailing]), htext]
  rfl

theorem step_name (htrailing : r.trailing = false) (hname : name ∈ k.names) :
    r.step ("--" ++ name) = if k.takesValue then
      (do return { ← r.settle with pending := some (k, none) }) else r.flag k true := by
  rw [← long_name hname, ← step_long htrailing (names_spec hname).2.1, String.ofList_toList]

theorem step_attached (htrailing : r.trailing = false) (hname : name ∈ k.names)
    (hk : k.takesValue = true) :
    r.step ("--" ++ name ++ "=" ++ v) = r.settle >>= (·.accept k v) := by
  have htext : "--" ++ name ++ "=" ++ v =
      "--" ++ String.ofList (name.toList ++ '=' :: v.toList) := by
    rw [← String.toList_inj]
    simp [String.toList_append]
  rw [htext, step_long htrailing (by simp), long_attached hname hk]

theorem step_letters (htrailing : r.trailing = false) (hne : cs ≠ [])
    (hdash : cs.head? ≠ some '-') : r.step ("-" ++ String.ofList cs) = r.letters cs := by
  obtain ⟨c, cs, rfl⟩ := List.exists_cons_of_ne_nil hne
  have htext : ("-" ++ String.ofList (c :: cs)).toList = '-' :: c :: cs := by
    simp [String.toList_append]
  have hc : c ≠ '-' := by simpa using hdash
  rw [step, if_neg (by simp [htrailing]), htext]
  split
  · rename_i heq
    cases heq
    exact absurd rfl hc
  · rename_i heq
    cases heq
    exact absurd rfl hc
  · rename_i heq
    cases heq
    rfl
  · rename_i h
    exact absurd rfl (h c cs)

theorem step_plain (htrailing : r.trailing = false) (h : StandsAlone v) : r.step v = r.plain v := by
  rw [step, if_neg (by simp [htrailing])]
  rcases h with rfl | h
  · rfl
  · split
    · rename_i heq
      simp [heq] at h
    · rename_i heq
      simp [heq] at h
    · rename_i heq
      simp [heq] at h
    · rfl

/-- From here on the arguments are read, and the options come out. -/
def Finishes (r : Reading) (line : List String) (o : Options) : Prop :=
  ∃ r', r.steps line = .ok r' ∧ r'.finish = .ok o

theorem finishes_nil : r.Finishes [] o ↔ r.finish = .ok o := by
  constructor
  · rintro ⟨r', h, hfinish⟩
    obtain rfl := Except.ok.inj h
    exact hfinish
  · exact fun h => ⟨r, rfl, h⟩

theorem finishes_cons :
    r.Finishes (argument :: line) o ↔ ∃ r', r.step argument = .ok r' ∧ r'.Finishes line o := by
  unfold Finishes
  rw [steps]
  cases r.step argument with
  | error e => simp
  | ok r' => simp

theorem finish_trailing (r : Reading) (b : Bool) : { r with trailing := b }.finish = r.finish := by
  unfold finish settle
  dsimp only
  split
  · rfl
  · rfl
  · unfold accept
    dsimp only
    split_ifs
    · rfl
    · cases r.options.store _ _ <;> rfl

theorem finish_eq_ok_iff_settle : r.finish = .ok o ↔ ∃ s, r.settle = .ok s ∧ s.finish = .ok o := by
  cases hsettle : r.settle with
  | error e =>
    unfold finish
    rw [hsettle]
    exact iff_of_false nofun (by simp)
  | ok s =>
    have heq : r.finish = s.finish := by
      unfold finish
      rw [hsettle, settle_of_none (settle_frame hsettle).1]
    simp [heq]

theorem finishes_value (hs : s.trailing = false) (halone : StandsAlone v) :
    { s with pending := some (k, none) }.Finishes (v :: line) o ↔
      { s with pending := some (k, some v) }.Finishes line o := by
  rw [finishes_cons, step_plain (r := { s with pending := some (k, none) }) hs halone]
  simp [plain]

def Takeable (r : Reading) (ms : List Mention) (o : Options) : Prop :=
  ∃ s, r.settle = .ok s ∧ ∃ s', s.TakesAll ms s' ∧ s'.finish = .ok o

theorem finishes_of_group (group : List Mention)
    (hstep : ∀ r', r.step argument = .ok r' ↔ ∃ s, r.settle = .ok s ∧ s.TakesAll group r')
    (htrailing : r.trailing = false)
    (ih : ∀ {r : Reading}, r.trailing = false → (r.Finishes line o ↔ r.Takeable ms o)) :
    r.Finishes (argument :: line) o ↔ r.Takeable (group ++ ms) o := by
  rw [finishes_cons]
  constructor
  · rintro ⟨r', hr', hline⟩
    obtain ⟨s, hs, hgroup⟩ := (hstep r').1 hr'
    obtain ⟨hpending, hframe⟩ := settle_frame hs
    obtain ⟨s', hs', s'', hms, hfinish⟩ :=
      (ih (hgroup.trailing.trans (hframe.trans htrailing))).1 hline
    rw [settle_of_none (hgroup.pending hpending)] at hs'
    obtain rfl := Except.ok.inj hs'
    exact ⟨s, hs, s'', takesAll_append.2 ⟨_, hgroup, hms⟩, hfinish⟩
  · rintro ⟨s, hs, s'', htakes, hfinish⟩
    obtain ⟨hpending, hframe⟩ := settle_frame hs
    obtain ⟨r', hgroup, hms⟩ := takesAll_append.1 htakes
    exact ⟨r', (hstep r').2 ⟨s, hs, hgroup⟩, (ih (hgroup.trailing.trans (hframe.trans htrailing))).2
      ⟨r', settle_of_none (hgroup.pending hpending), s'', hms, hfinish⟩⟩

theorem finishes_of_detached (hname : name ∈ m.key.names) (hvalue : m.value? = some v)
    (halone : StandsAlone v) (htrailing : r.trailing = false)
    (ih : ∀ {r : Reading}, r.trailing = false → (r.Finishes line o ↔ r.Takeable ms o)) :
    r.Finishes (("--" ++ name) :: v :: line) o ↔ r.Takeable (m :: ms) o := by
  have htakes : m.key.takesValue = true := by rw [← m.isSome_value?, hvalue]; rfl
  rw [finishes_cons, step_name htrailing hname, if_pos htakes]
  unfold Takeable
  cases hsettle : r.settle with
  | error e => exact iff_of_false (by rintro ⟨r', hr', -⟩; cases hr') (by simp)
  | ok s =>
    obtain ⟨hpending, hframe⟩ := settle_frame hsettle
    have hs : s.trailing = false := hframe.trans htrailing
    have hwaits : { s with pending := some (m.key, none) }.Finishes (v :: line) o ↔ _ :=
      finishes_value hs halone
    have hvalued := ih (r := { s with pending := some (m.key, some v) }) hs
    simp only [Takeable, settle_value hpending, accept_eq_ok_iff hvalue] at hvalued
    change (∃ r', Except.ok { s with pending := some (m.key, none) } = .ok r' ∧ _) ↔ _
    simp only [Except.ok.injEq, exists_eq_left', hwaits, hvalued, takesAll_cons]
    constructor
    · rintro ⟨r', hm, s', hms, hfinish⟩
      exact ⟨s', ⟨r', hm, hms⟩, hfinish⟩
    · rintro ⟨s', ⟨r', hm, hms⟩, hfinish⟩
      exact ⟨r', hm, s', hms, hfinish⟩

theorem finishes_iff (h : Spelled ms line) (htrailing : r.trailing = false) :
    r.Finishes line o ↔ r.Takeable ms o := by
  induction h generalizing r with
  | nothing =>
    rw [finishes_nil, finish_eq_ok_iff_settle]
    simp [Takeable, takesAll_nil]
  | ended =>
    rw [finishes_cons, step_ends htrailing]
    simp [Takeable, takesAll_nil, finishes_nil, finish_trailing, ← finish_eq_ok_iff_settle]
  | @long m ms name line hname hvalue _ ih =>
    have htakes : m.key.takesValue = false := by rw [← m.isSome_value?, hvalue]; rfl
    refine finishes_of_group [m] (fun r' => ?_) htrailing ih
    rw [← flag_takes hvalue true, step_name htrailing hname, htakes]
    rfl
  | @letters group ms cs line hne hletters _ ih =>
    refine finishes_of_group group (fun r' => ?_) htrailing ih
    rw [step_letters htrailing hne (head?_ne_dash hletters), letters_takes_settle hletters hne]
  | @attached m ms name v line hname hvalue _ ih =>
    have htakes : m.key.takesValue = true := by rw [← m.isSome_value?, hvalue]; rfl
    refine finishes_of_group [m] (fun r' => ?_) htrailing ih
    rw [step_attached htrailing hname htakes, bind_eq_ok]
    simp only [accept_eq_ok_iff hvalue, takesAll_singleton]
  | detached m name v hname hvalue halone _ ih =>
    exact finishes_of_detached hname hvalue halone htrailing ih

theorem not_waits_of_pending (h : r.pending = none) : ¬ r.Waits := by
  rintro ⟨k, hk⟩
  rw [h] at hk
  cases hk

theorem finishes_of_trailing (htrailing : r.trailing = true) (h : r.Finishes line o) :
    line = [] ∧ r.finish = .ok o := by
  cases line with
  | nil => exact ⟨rfl, finishes_nil.1 h⟩
  | cons argument line =>
    obtain ⟨r', hstep, -⟩ := finishes_cons.1 h
    rw [step, if_pos htrailing] at hstep
    cases hstep

/-- The arguments, without the value that is waited for if there is one, spell mentions. -/
def Represented (r : Reading) (line : List String) : Prop :=
  (¬ r.Waits → ∃ ms, Spelled ms line) ∧
    (r.Waits → ∃ v rest ms, line = v :: rest ∧ StandsAlone v ∧ Spelled ms rest)

theorem exists_letters (h : r.letters cs = .ok r') :
    ∃ group, Lettered group cs := by
  induction cs generalizing r with
  | nil => exact ⟨[], .nil⟩
  | cons c cs ih =>
    unfold letters at h
    split at h
    · cases h
    · rename_i k hk
      split at h
      · cases h
      · obtain ⟨group, hgroup⟩ := ih h
        exact ⟨⟨k, none, (takesValue_ofLetter? hk).symm⟩ :: group,
          .cons (ofLetter?_eq_some_iff.1 hk) hgroup⟩

theorem cut_at_equals (text : List Char) :
    (text.takeWhile (· ≠ '=') = text ∧ text.dropWhile (· ≠ '=') = []) ∨
    ∃ rest, text.takeWhile (· ≠ '=') ++ '=' :: rest = text ∧
      text.dropWhile (· ≠ '=') = '=' :: rest := by
  have hcut := List.takeWhile_append_dropWhile (p := fun c => decide (c ≠ '=')) (l := text)
  have hhead := List.head?_dropWhile_not (fun c => decide (c ≠ '=')) text
  cases hdrop : text.dropWhile (· ≠ '=') with
  | nil =>
    rw [hdrop, List.append_nil] at hcut
    exact .inl ⟨hcut, rfl⟩
  | cons c rest =>
    rw [hdrop] at hcut hhead
    obtain rfl : c = '=' := by simpa using hhead
    exact .inr ⟨rest, hcut, rfl⟩

theorem Represented.settled (hsettle : r.settle = .ok s) (h : Spelled ms line) :
    r.Represented line :=
  ⟨fun _ => ⟨ms, h⟩, fun hwaits => absurd hwaits (not_waits_of_settle hsettle)⟩

theorem spelled_behind (htrailing : r.trailing = false) (hsettle : r.settle = .ok s)
    (htakes : s.TakesAll group r') (ih : r'.trailing = false → r'.Represented line) :
    ∃ ms, Spelled ms line := by
  obtain ⟨hpending, hframe⟩ := settle_frame hsettle
  have hbehind := ih (htakes.trailing.trans (hframe.trans htrailing))
  exact hbehind.1 (not_waits_of_pending (htakes.pending hpending))

theorem represented_attached (htrailing : r.trailing = false) (hname : name ∈ k.names)
    (hk : k.takesValue = true) (h : r.settle >>= (·.accept k v) = .ok r')
    (ih : r'.trailing = false → r'.Represented line) :
    r.Represented (("--" ++ name ++ "=" ++ v) :: line) := by
  let m : Mention := ⟨k, some v, hk.symm⟩
  obtain ⟨s, hsettle, haccept⟩ := bind_eq_ok.1 h
  have htakes : s.Takes m r' := (accept_eq_ok_iff rfl).1 haccept
  obtain ⟨ms, hms⟩ := spelled_behind htrailing hsettle (takesAll_singleton.2 htakes) ih
  exact .settled hsettle (.attached m name v hname rfl hms)

theorem represented_detached (htrailing : r.trailing = false) (hname : name ∈ k.names)
    (hk : k.takesValue = true)
    (h : (do return { ← r.settle with pending := some (k, none) }) = Except.ok r')
    (ih : r'.trailing = false → r'.Represented line) : r.Represented (("--" ++ name) :: line) := by
  obtain ⟨s, hsettle, hwaits⟩ := bind_eq_ok.1 h
  obtain rfl := Except.ok.inj hwaits
  obtain ⟨v, rest, ms, rfl, halone, hms⟩ :=
    (ih ((settle_frame hsettle).2.trans htrailing)).2 ⟨k, rfl⟩
  exact .settled hsettle (.detached ⟨k, some v, hk.symm⟩ name v hname rfl halone hms)

theorem represented_flag (htrailing : r.trailing = false) (hname : name ∈ k.names)
    (hk : k.takesValue = false) (h : r.flag k true = .ok r')
    (ih : r'.trailing = false → r'.Represented line) : r.Represented (("--" ++ name) :: line) := by
  let m : Mention := ⟨k, none, hk.symm⟩
  obtain ⟨s, hsettle, htakes⟩ := (flag_takes (m := m) rfl true).1 h
  obtain ⟨ms, hms⟩ := spelled_behind htrailing hsettle htakes ih
  exact .settled hsettle (.long m name hname rfl hms)

theorem represented_long (htrailing : r.trailing = false) (h : r.long text = .ok r')
    (ih : r'.trailing = false → r'.Represented line) :
    r.Represented (("--" ++ String.ofList text) :: line) := by
  unfold long at h
  dsimp only at h
  obtain ⟨htext, hnone⟩ | ⟨rest, htext, hrest⟩ := cut_at_equals text
  · rw [htext, hnone, List.tail?_nil, Option.map_none] at h
    cases hofName : Key.ofName? (String.ofList text) with
    | none =>
      rw [hofName] at h
      cases h
    | some k =>
      rw [hofName] at h
      have hname := mem_names_of_ofName? hofName
      cases hk : k.takesValue with
      | true => exact represented_detached htrailing hname hk (by simpa [hk] using h) ih
      | false => exact represented_flag htrailing hname hk (by simpa [hk] using h) ih
  · rw [hrest, List.tail?_cons, Option.map_some] at h
    have hargument : "--" ++ String.ofList text =
        "--" ++ String.ofList (text.takeWhile (· ≠ '=')) ++ "=" ++ String.ofList rest := by
      rw [← String.toList_inj]
      conv_lhs => rw [← htext]
      simp [String.toList_append]
    rw [hargument]
    cases hofName : Key.ofName? (String.ofList (text.takeWhile (· ≠ '='))) with
    | none =>
      rw [hofName] at h
      cases h
    | some k =>
      rw [hofName] at h
      have hname := mem_names_of_ofName? hofName
      cases hk : k.takesValue with
      | true => exact represented_attached htrailing hname hk (by simpa [hk] using h) ih
      | false => simp [hk] at h

theorem represented_letters (htrailing : r.trailing = false) (hne : cs ≠ [])
    (h : r.letters cs = .ok r') (ih : r'.trailing = false → r'.Represented line) :
    r.Represented (("-" ++ String.ofList cs) :: line) := by
  obtain ⟨group, hgroup⟩ := exists_letters h
  obtain ⟨s, hsettle, htakes⟩ := (letters_takes_settle hgroup hne).1 h
  obtain ⟨ms, hms⟩ := spelled_behind htrailing hsettle htakes ih
  exact .settled hsettle (.letters group cs hne hgroup hms)

theorem represented_plain (hplain : StandsAlone v) (h : r.plain v = .ok r')
    (ih : r'.trailing = r.trailing → r'.Represented line) : r.Represented (v :: line) := by
  unfold plain at h
  split at h
  · rename_i k hwaits
    obtain rfl := Except.ok.inj h
    have hnot : ¬ Waits { r with pending := some (k, some v) } := by
      rintro ⟨j, hj⟩
      cases hj
    obtain ⟨ms, hms⟩ := (ih rfl).1 hnot
    exact ⟨fun hnot => absurd ⟨k, hwaits⟩ hnot, fun _ => ⟨v, line, ms, rfl, hplain, hms⟩⟩
  · cases h

theorem represented_of_finishes (htrailing : r.trailing = false) (h : r.Finishes line o) :
    r.Represented line := by
  -- The argument behind a name that waits belongs to it, so both cases go through the induction.
  induction line generalizing r with
  | nil =>
    obtain ⟨s, hsettle, -⟩ := finish_eq_ok_iff_settle.1 (finishes_nil.1 h)
    exact .settled hsettle .nothing
  | cons argument line ih =>
    obtain ⟨r', hstep, hline⟩ := finishes_cons.1 h
    have hbehind : r'.trailing = false → r'.Represented line := fun h => ih h hline
    unfold step at hstep
    rw [if_neg (by simp [htrailing])] at hstep
    split at hstep
    · rename_i heq
      obtain rfl : argument = "--" := String.toList_inj.1 heq
      obtain rfl := Except.ok.inj hstep
      obtain ⟨rfl, hfinish⟩ := finishes_of_trailing rfl hline
      rw [finish_trailing] at hfinish
      obtain ⟨s, hsettle, -⟩ := finish_eq_ok_iff_settle.1 hfinish
      exact .settled hsettle .ended
    · rename_i text _ heq
      obtain rfl : argument = "--" ++ String.ofList text := by
        rw [← String.toList_inj, heq]
        simp [String.toList_append]
      exact represented_long htrailing hstep hbehind
    · rename_i c cs _ _ heq
      obtain rfl : argument = "-" ++ String.ofList (c :: cs) := by
        rw [← String.toList_inj, heq]
        simp [String.toList_append]
      exact represented_letters htrailing (List.cons_ne_nil c cs) hstep hbehind
    · rename_i hshort hlong hletters
      exact represented_plain (standsAlone_of_forall hletters) hstep fun h =>
        hbehind (h.trans htrailing)

end Reading

theorem read_eq_ok_iff (h : Spelled ms line) : read line = .ok o ↔ Accepted ms o := by
  have hread : read line = .ok o ↔ Reading.Finishes .start line o := bind_eq_ok
  have hsettle : Reading.start.settle = .ok .start := rfl
  rw [hread, Reading.finishes_iff h rfl, accepted_iff, Reading.Takeable, hsettle]
  simp

theorem exists_spelled (h : read line = .ok o) : ∃ ms, Spelled ms line := by
  obtain ⟨hspelled, -⟩ := Reading.represented_of_finishes rfl (bind_eq_ok.1 h)
  exact hspelled (Reading.not_waits_of_pending rfl)

/-- A command line that is accepted spells mentions of options, and every line that spells the same
mentions is accepted with the same options: in any order, by any of their names and letters, and
with their values attached or, if they do not look like options, as arguments of their own. -/
theorem read_respelled (h : read line = .ok o) : (∃ ms, Spelled ms line) ∧
    ∀ ms ns line', Spelled ms line → ns.Perm ms → Spelled ns line' → read line' = .ok o := by
  refine ⟨exists_spelled h, fun ms ns line' hline hperm hline' => ?_⟩
  exact (read_eq_ok_iff hline').2 (((read_eq_ok_iff hline).1 h).perm hperm.symm)

theorem read_respelled_sift :
    read ["--generate-config", "--sift", "-cv", "--dmp_ext", "x"] = .ok
      { createLayout := true, sifter := true, extension := some "x", verbose := 1,
        generateConfig := true } ∧
    read ["-v", "--dmp-ext=x", "-c", "--generate-config", "--sifter", "--"] = .ok
      { createLayout := true, sifter := true, extension := some "x", verbose := 1,
        generateConfig := true } := by
  let flag (k : Key) (hk : k.takesValue = false) : Mention := ⟨k, none, hk.symm⟩
  let generate := flag .generateConfig rfl
  let sift := flag .sifter rfl
  let create := flag .createLayout rfl
  let speak := flag .verbose rfl
  let extension : Mention := ⟨.extension, some "x", rfl⟩
  have hread : read ["--generate-config", "--sift", "-cv", "--dmp_ext", "x"] = .ok
      { createLayout := true, sifter := true, extension := some "x", verbose := 1,
        generateConfig := true } := rfl
  have hline : Spelled [generate, sift, create, speak, extension]
      ["--generate-config", "--sift", "-cv", "--dmp_ext", "x"] :=
    .long generate "generate-config" (by decide) rfl <| .long sift "sift" (by decide) rfl <|
      .letters [create, speak] ['c', 'v'] (by decide) (.cons rfl (.cons rfl .nil)) <|
      .detached extension "dmp_ext" "x" (by decide) rfl (.inr (by decide)) .nothing
  have hline' : Spelled [speak, extension, create, generate, sift]
      ["-v", "--dmp-ext=x", "-c", "--generate-config", "--sifter", "--"] :=
    .letters [speak] ['v'] (by decide) (.cons rfl .nil) <|
      .attached extension "dmp-ext" "x" (by decide) rfl <|
      .letters [create] ['c'] (by decide) (.cons rfl .nil) <|
      .long generate "generate-config" (by decide) rfl <|
      .long sift "sifter" (by decide) rfl .ended
  exact ⟨hread, (read_respelled hread).2 _ _ _ hline (by decide) hline'⟩

/-- A value that looks like an option is taken behind an equals sign, but not as an argument of its
own. -/
theorem read_detached_dash :
    read ["--generate-config", "--dmp-ext=-x"] =
      .ok { extension := some "-x", generateConfig := true } ∧
    read ["--generate-config", "--dmp-ext", "-x"] = .error (.unexpected "-x") :=
  ⟨rfl, rfl⟩

end DumpWorkbench.Options
