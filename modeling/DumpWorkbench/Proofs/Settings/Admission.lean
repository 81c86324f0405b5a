import DumpWorkbench.Fault
import DumpWorkbench.Settings
import Mathlib.Data.List.Basic

namespace DumpWorkbench

namespace Threshold

variable {text name : String} {n : Nat}

def names : List String := ["trace", "debug", "info", "warn", "error", "off"]

/-- One of the names, in any case of letters. -/
def Named (text : String) : Prop := String.ofList (text.toList.map Char.toLower) ∈ names

instance (text : String) : Decidable (Named text) := inferInstanceAs (Decidable (_ ∈ names))

/-- The digits of a number up to five, perhaps behind a plus sign. -/
def Ranked (text : String) : Prop :=
  ∃ ds, (text.toList = ds ∨ text.toList = '+' :: ds) ∧ ds ≠ [] ∧ (∀ d ∈ ds, d.isDigit = true) ∧
    Nat.ofDigitChars 10 ds 0 ≤ 5

/-- No text at all, or a rank: what stands for a threshold without being its name. -/
def Unnamed (text : String) : Prop := text = "" ∨ Ranked text

theorem foldl_eq_ofDigitChars (ds : List Char) :
    ds.foldl (fun n d => n * 10 + (d.toNat - 48)) 0 = Nat.ofDigitChars 10 ds 0 := by
  rw [Nat.ofDigitChars_eq_foldl]
  exact congrArg (fun f => ds.foldl f 0) (funext fun n => funext fun d => by rw [Nat.mul_comm]; rfl)

theorem number?_eq_some_iff {cs : List Char} : number? cs = some n ↔
    ∃ ds, (cs = ds ∨ cs = '+' :: ds) ∧ ds ≠ [] ∧ (∀ d ∈ ds, d.isDigit = true) ∧
      Nat.ofDigitChars 10 ds 0 = n := by
  have hdigits (ds : List Char) :
      (if ds.isEmpty ∨ !ds.all Char.isDigit then none
        else some (ds.foldl (fun n d => n * 10 + (d.toNat - 48)) 0)) = some n ↔
      ds ≠ [] ∧ (∀ d ∈ ds, d.isDigit = true) ∧ Nat.ofDigitChars 10 ds 0 = n := by
    rw [foldl_eq_ofDigitChars]
    simp [and_assoc]
  unfold number?
  dsimp only
  split
  · rename_i r
    rw [hdigits]
    constructor
    · exact fun h => ⟨r, .inr rfl, h⟩
    · rintro ⟨ds, rfl | heq, hne, hds, hvalue⟩
      · exact absurd (hds '+' List.mem_cons_self) (by decide)
      · obtain rfl := (List.cons.inj heq).2
        exact ⟨hne, hds, hvalue⟩
  · rename_i hplus
    rw [hdigits]
    constructor
    · exact fun h => ⟨cs, .inl rfl, h⟩
    · rintro ⟨ds, rfl | heq, h⟩
      · exact h
      · exact absurd heq (hplus ds)

theorem ofRank?_isSome_iff : (ofRank? n).isSome ↔ n ≤ 5 := by
  unfold ofRank?
  split <;> simp_all
  omega

theorem ofName?_isSome_iff : (ofName? name).isSome ↔ name = "" ∨ name ∈ names := by
  unfold ofName?
  split_ifs <;> simp_all [names]
  tauto

theorem rank_isSome_iff : ((number? text.toList).bind ofRank?).isSome ↔ Ranked text := by
  simp only [Option.isSome_bind, Option.any_eq_true, ofRank?_isSome_iff, number?_eq_some_iff,
    Ranked]
  constructor
  · rintro ⟨n, ⟨ds, htext, hne, hds, rfl⟩, hle⟩
    exact ⟨ds, htext, hne, hds, hle⟩
  · rintro ⟨ds, htext, hne, hds, hle⟩
    exact ⟨_, ⟨ds, htext, hne, hds, rfl⟩, hle⟩

theorem lower_eq_empty_iff : String.ofList (text.toList.map Char.toLower) = "" ↔ text = "" := by
  rw [← String.toList_inj, String.toList_ofList]
  simp

theorem parse?_isSome_iff : (parse? text).isSome ↔ Named text ∨ Unnamed text := by
  rw [Unnamed, ← rank_isSome_iff, Named, parse?]
  cases (number? text.toList).bind ofRank? with
  | some t => simp
  | none =>
    dsimp only
    rw [ofName?_isSome_iff, lower_eq_empty_iff]
    simp [or_comm]

theorem not_isAlpha_toLower {c : Char} (h : c.isDigit = true) : c.toLower.isAlpha = false := by
  have hrange := Char.isDigit_iff_toNat.1 h
  have hlower : c.toLower = c := by
    unfold Char.toLower
    rw [dif_neg]
    rintro ⟨hupper, -⟩
    have hle := UInt32.le_iff_toNat_le.1 hupper
    exact absurd (Nat.le_trans hle hrange.2) (by decide)
  rw [hlower]
  cases halpha : c.isAlpha with
  | false => rfl
  | true =>
    have hletter : (decide (c.val ≥ 'A'.val ∧ c.val ≤ 'Z'.val) ||
        (decide (c.val ≥ 'a'.val) && decide (c.val ≤ 'z'.val))) = true := halpha
    simp only [Bool.or_eq_true, Bool.and_eq_true, decide_eq_true_eq, UInt32.le_iff_toNat_le,
      ge_iff_le] at hletter
    have hnine : c.toNat ≤ 57 := hrange.2
    have hval : c.val.toNat = c.toNat := rfl
    have hA : 'A'.val.toNat = 65 := rfl
    have ha : 'a'.val.toNat = 97 := rfl
    omega

theorem not_named_of_unnamed (h : Unnamed text) : ¬ Named text := by
  intro hnamed
  obtain rfl | ⟨ds, htext, hne, hds, -⟩ := h
  · exact absurd hnamed (by decide)
  · obtain ⟨d, hd⟩ := List.exists_mem_of_ne_nil ds hne
    have hmem : d ∈ text.toList := by
      rcases htext with htext | htext <;> simp [htext, hd]
    have hletters : names.all (fun name => name.toList.all Char.isAlpha) = true := by decide
    have hletter := List.all_eq_true.1 (List.all_eq_true.1 hletters _ hnamed) d.toLower (by
      rw [String.toList_ofList]
      exact List.mem_map_of_mem hmem)
    rw [not_isAlpha_toLower (hds d hd)] at hletter
    cases hletter

end Threshold

namespace Settings

variable {s : Settings}

/-- What is asked of settings. -/
inductive Requirement where
  | extension
  | bareExtension
  | threads
  | radare
  | sifter
  | logFiles
  | level
  | base
deriving DecidableEq, Repr

namespace Requirement

def all : List Requirement :=
  [.extension, .bareExtension, .threads, .radare, .sifter, .logFiles, .level, .base]

def earlier (q : Requirement) : List Requirement := all.takeWhile (· ≠ q)

def Met (s : Settings) : Requirement → Prop
  | .extension => s.extension ≠ ""
  | .bareExtension => ∀ c ∈ ['.', '/', '\\'], c ∉ s.extension.toList
  | .threads => 0 < s.threads
  | .radare => s.radare.text ≠ ""
  | .sifter => s.sifter.text ≠ ""
  | .logFiles => 0 < s.logFiles
  | .level => Threshold.Named s.logLevel
  | .base => ∀ p, s.baseDirectory = some p → p.text ≠ ""

def problem (s : Settings) : Requirement → Problem
  | .extension => .emptyExtension
  | .bareExtension => .extensionNotBare s.extension
  | .threads => .noThreads
  | .radare => .noRadare
  | .sifter => .noSifter
  | .logFiles => .noLogFiles
  | .level => .unknownLevel s.logLevel
  | .base => .emptyBase

def IsFirst (met : Requirement → Prop) (q : Requirement) : Prop :=
  ¬ met q ∧ ∀ r ∈ q.earlier, met r

def passes (s : Settings) : Requirement → Bool
  | .extension => s.extension ≠ ""
  | .bareExtension => isBare s.extension
  | .threads => s.threads ≠ 0
  | .radare => s.radare.text ≠ ""
  | .sifter => s.sifter.text ≠ ""
  | .logFiles => s.logFiles ≠ 0
  | .level => (Threshold.parse? s.logLevel).isSome
  | .base => s.baseDirectory ≠ some ⟨""⟩

theorem mem_all (q : Requirement) : q ∈ all := by cases q <;> decide

theorem find?_eq_some_iff {p : Requirement → Bool} {q : Requirement} :
    all.find? (!p ·) = some q ↔ q.IsFirst (p · = true) := by
  rw [List.find?_eq_some_iff_append, IsFirst, earlier, Bool.not_eq_true', Bool.not_eq_true]
  refine and_congr_right fun hq => ⟨?_, fun h => ?_⟩
  · rintro ⟨before, after, hall, hbefore⟩ r hr
    have hpassed : ∀ r ∈ before, p r = true := by simpa using hbefore
    have hother : ∀ r ∈ before, decide (r ≠ q) = true := by
      intro r hr
      refine decide_eq_true fun heq => ?_
      rw [heq] at hr
      rw [hpassed q hr] at hq
      cases hq
    rw [hall, List.takeWhile_append_of_pos hother, List.takeWhile_cons_of_neg (by simp),
      List.append_nil] at hr
    exact hpassed r hr
  · obtain ⟨after, hall⟩ : ∃ after, all = all.takeWhile (· ≠ q) ++ q :: after := by
      cases q <;> exact ⟨_, rfl⟩
    exact ⟨_, after, hall, fun r hr => by simp [h r hr]⟩

theorem all_or_first (p : Requirement → Bool) :
    (∀ q, p q = true) ∨ ∃ q : Requirement, q.IsFirst (p · = true) := by
  cases hfind : all.find? (!p ·) with
  | none => exact .inl fun q => by simpa using List.find?_eq_none.1 hfind q q.mem_all
  | some q => exact .inr ⟨q, find?_eq_some_iff.1 hfind⟩

theorem passes_iff_met {q : Requirement} (hq : q ≠ .level) : q.passes s = true ↔ q.Met s := by
  cases q with
  | level => exact absurd rfl hq
  | extension | radare | sifter => simp [passes, Met]
  | bareExtension =>
    simp only [passes, Met, isBare, List.all_eq_true, Bool.and_eq_true, decide_eq_true_eq,
      List.forall_mem_cons]
    grind
  | threads => simp [passes, Met, UInt32.pos_iff_ne_zero]
  | logFiles => simp [passes, Met, UInt64.pos_iff_ne_zero]
  | base =>
    have hpath (p : Path) : p = ⟨""⟩ ↔ p.text = "" := by
      cases p
      simp
    simp only [passes, Met, decide_eq_true_eq]
    cases s.baseDirectory <;> simp [hpath]

theorem passes_level : level.passes s = true ↔ Threshold.Named s.logLevel ∨
    Threshold.Unnamed s.logLevel :=
  Threshold.parse?_isSome_iff

end Requirement

theorem problem?_eq (s : Settings) :
    s.problem? = (Requirement.all.find? (!Requirement.passes s ·)).map (·.problem s) := by
  have hlevel : (Threshold.parse? s.logLevel).isNone = !(Threshold.parse? s.logLevel).isSome := by
    simp
  simp only [problem?, Requirement.all, List.find?_cons, Requirement.passes, hlevel]
  split_ifs <;> simp_all [Requirement.problem]

theorem check_eq_ok (h : ∀ q : Requirement, q.passes s = true) : s.check = .ok () := by
  have hfind : Requirement.all.find? (!Requirement.passes s ·) = none :=
    List.find?_eq_none.2 fun q _ => by simp [h q]
  rw [check, problem?_eq, hfind]
  rfl

theorem check_eq_error {q : Requirement} (h : q.IsFirst (·.passes s = true)) :
    s.check = .error (q.problem s) := by
  rw [check, problem?_eq, Requirement.find?_eq_some_iff.2 h]
  rfl

/-- What is said of settings is what is documented: they are admitted if they meet all that is
asked of them, and else refused for the first requirement that they do not meet. -/
structure AsDocumented (s : Settings) (said : Except Fault Unit) : Prop where
  admitted : said = .ok () ↔ ∀ q : Requirement, q.Met s
  refused : ∀ q : Requirement, q.IsFirst (·.Met s) →
    said = .error (.configuration (q.problem s).message)

/-- What the check of settings says to a run. -/
def said (s : Settings) : Except Fault Unit := s.check.mapError fun p => .configuration p.message

theorem said_of_passes (h : ∀ q : Requirement, q.passes s = true) : s.said = .ok () := by
  rw [said, check_eq_ok h]
  rfl

theorem said_of_first {q : Requirement} (h : q.IsFirst (·.passes s = true)) :
    s.said = .error (.configuration (q.problem s).message) := by
  rw [said, check_eq_error h]
  rfl

theorem asDocumented_of_passes {t : Settings}
    (hmet : ∀ q : Requirement, q.passes s = true ↔ q.Met t)
    (hproblem : ∀ q : Requirement, ¬ q.Met t → q.problem s = q.problem t) :
    AsDocumented t s.said := by
  have hfirst {q : Requirement} : q.IsFirst (·.passes s = true) ↔ q.IsFirst (·.Met t) := by
    simp only [Requirement.IsFirst, hmet]
  refine ⟨⟨fun h => ?_, fun h => said_of_passes fun q => (hmet q).2 (h q)⟩, fun q hq => ?_⟩
  · obtain hall | ⟨q, hq⟩ := Requirement.all_or_first (·.passes s)
    · exact fun q => (hmet q).1 (hall q)
    · rw [said_of_first hq] at h
      cases h
  · rw [said_of_first (hfirst.2 hq), hproblem q hq.1]

theorem asDocumented_of_not_unnamed (h : ¬ Threshold.Unnamed s.logLevel) :
    AsDocumented s s.said := by
  refine asDocumented_of_passes (fun q => ?_) fun _ _ => rfl
  by_cases hq : q = .level
  · rw [hq, Requirement.passes_level]
    exact or_iff_left h
  · exact Requirement.passes_iff_met hq

theorem met_withLevel {q : Requirement} (hq : q ≠ .level) (level : String) :
    q.Met { s with logLevel := level } ↔ q.Met s := by
  cases q with
  | level => exact absurd rfl hq
  | _ => exact Iff.rfl

theorem problem_withLevel {q : Requirement} (hq : q ≠ .level) (level : String) :
    q.problem { s with logLevel := level } = q.problem s := by
  cases q with
  | level => exact absurd rfl hq
  | _ => rfl

theorem asDocumented_of_unnamed (h : Threshold.Unnamed s.logLevel) :
    AsDocumented { s with logLevel := "info" } s.said := by
  have hinfo : Requirement.level.Met { s with logLevel := "info" } :=
    (by decide : Threshold.Named "info")
  refine asDocumented_of_passes (fun q => ?_) fun q hunmet => ?_
  · by_cases hq : q = .level
    · rw [hq]
      exact iff_of_true (Requirement.passes_level.2 (.inr h)) hinfo
    · exact (Requirement.passes_iff_met hq).trans (met_withLevel hq "info").symm
  · have hq : q ≠ .level := by
      rintro rfl
      exact hunmet hinfo
    exact (problem_withLevel hq "info").symm

/-- If a requirement that is checked before the level is not met, the level does not count. -/
theorem asDocumented_of_earlier {r : Requirement} (hr : r ∈ Requirement.level.earlier)
    (hunmet : ¬ r.Met s) : AsDocumented s s.said := by
  by_cases hlevel : Threshold.Unnamed s.logLevel
  · have hnamed := asDocumented_of_unnamed hlevel
    have hrlevel : r ≠ .level := by
      rintro rfl
      exact absurd hr (by decide)
    refine ⟨?_, fun q hq => ?_⟩
    · rw [hnamed.admitted]
      exact iff_of_false (fun h => hunmet ((met_withLevel hrlevel _).1 (h r))) fun h => hunmet (h r)
    · -- What is not met first comes before the level, and so does all that is checked before it.
      have hbase : ∀ r ∈ Requirement.level.earlier, r ∈ Requirement.base.earlier := by decide
      have hq' : q ∈ Requirement.level.earlier := by
        cases q with
        | level => exact absurd (hq.2 r hr) hunmet
        | base => exact absurd (hq.2 r (hbase r hr)) hunmet
        | _ => decide
      have hqlevel : ∀ q ∈ Requirement.level.earlier, q ≠ .level := by decide
      have hbefore : ∀ q ∈ Requirement.level.earlier, ∀ r ∈ q.earlier, r ≠ .level := by decide
      have hfirst : q.IsFirst (·.Met { s with logLevel := "info" }) :=
        ⟨mt (met_withLevel (hqlevel q hq') "info").1 hq.1, fun r hr =>
          (met_withLevel (hbefore q hq' r hr) "info").2 (hq.2 r hr)⟩
      rw [hnamed.refused q hfirst, problem_withLevel (hqlevel q hq') "info"]
  · exact asDocumented_of_not_unnamed hlevel

theorem emptyBase_message_ne (level : String) :
    Problem.emptyBase.message ≠ (Problem.unknownLevel level).message := by
  intro h
  have hunknown : (Problem.unknownLevel level).message.toList.head? = some 'U' := by
    change (("Unknown log level '" ++ level) ++ _).toList.head? = some 'U'
    rw [String.toList_append, String.toList_append]
    rfl
  rw [← h] at hunknown
  exact absurd hunknown (by decide)

theorem not_asDocumented_of_unnamed (h : Threshold.Unnamed s.logLevel)
    (hearlier : ∀ q ∈ Requirement.level.earlier, q.Met s) : ¬ AsDocumented s s.said := by
  intro hdocumented
  have hlevel := hdocumented.refused .level ⟨Threshold.not_named_of_unnamed h, hearlier⟩
  obtain hall | ⟨q, hq⟩ := Requirement.all_or_first (·.passes s)
  · rw [said_of_passes hall] at hlevel
    cases hlevel
  · rw [said_of_first hq] at hlevel
    cases q with
    | level => exact hq.1 (Requirement.passes_level.2 (.inr h))
    | base => exact emptyBase_message_ne _ (Fault.configuration.inj (Except.error.inj hlevel))
    | _ => exact hq.1 ((Requirement.passes_iff_met (by decide)).2 (hearlier _ (by decide)))

/-- Settings are admitted and refused as it is documented unless their log level is a rank or no
text at all: that passes as if it were a name. Where something that is checked before the level is
wrong, it makes no difference. -/
theorem check_documented (s : Settings) :
    (AsDocumented s s.said ↔ ¬ (Threshold.Unnamed s.logLevel ∧
      ∀ q ∈ Requirement.level.earlier, q.Met s)) ∧
    (Threshold.Unnamed s.logLevel → AsDocumented { s with logLevel := "info" } s.said) := by
  refine ⟨⟨fun h ⟨hlevel, hearlier⟩ => not_asDocumented_of_unnamed hlevel hearlier h, fun h => ?_⟩,
    asDocumented_of_unnamed⟩
  by_cases hlevel : Threshold.Unnamed s.logLevel
  · obtain ⟨r, hr, hunmet⟩ : ∃ r ∈ Requirement.level.earlier, ¬ r.Met s := by
      simpa [hlevel] using h
    exact asDocumented_of_earlier hr hunmet
  · exact asDocumented_of_not_unnamed hlevel

/-- No text at all is the name of no level, and neither is a rank, but both pass. -/
theorem check_admits_unnamed :
    let blank : Settings := { logLevel := "" }
    let ranked : Settings := { logLevel := "+03" }
    (blank.said = .ok () ∧ ¬ Requirement.level.Met blank) ∧
      ranked.said = .ok () ∧ ¬ Requirement.level.Met ranked :=
  ⟨⟨by decide, (by decide : ¬ Threshold.Named "")⟩,
    by decide, (by decide : ¬ Threshold.Named "+03")⟩

end Settings
end DumpWorkbench
