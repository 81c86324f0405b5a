import DumpWorkbench.Duration
import DumpWorkbench.Proofs.Text.Cut
import Mathlib.Algebra.GroupWithZero.Nat
import Mathlib.Algebra.Order.BigOperators.Group.List

namespace DumpWorkbench

theorem Number.sum64?_of_lt {m n : Nat} (h : m + n < 2 ^ 64) : Number.sum64? m n = some (m + n) :=
  if_pos h

theorem Number.sum64?_of_le {m n : Nat} (h : 2 ^ 64 ≤ m + n) : Number.sum64? m n = none :=
  if_neg (Nat.not_lt.2 h)

namespace Duration

variable {ds : List Duration} {text : String} {x y : Nat}

theorem seconds_add_fraction (d : Duration) : d.seconds * second + d.fraction = d.nanoseconds :=
  Nat.div_add_mod' d.nanoseconds second

theorem fraction_lt_second (d : Duration) : d.fraction < second := Nat.mod_lt _ (by decide)

namespace Tally

variable {t : Tally}

def value (t : Tally) : Nat := t.seconds * second + t.nanoseconds

/-- The outcome of adding up so many nanoseconds: all of them, or nothing if their seconds do not
fit into 64 bits. -/
def Counts (n : Nat) : Option Tally → Prop
  | some t => t.value = n
  | none => 2 ^ 64 * second ≤ n

theorem carried (t : Tally) :
    (t.seconds + t.nanoseconds / second) * second + t.nanoseconds % second = t.value := by
  rw [Nat.add_mul, Nat.add_assoc, Nat.div_add_mod', value]

/-- Whether or not nanoseconds are carried over, none is lost. -/
theorem counts_add? (t : Tally) (d : Duration) :
    Counts (t.value + d.nanoseconds) (t.add? d) := by
  have hd := d.seconds_add_fraction
  have hcarried := t.carried
  have hvalue : t.seconds * second + t.nanoseconds = t.value := rfl
  unfold add?
  rcases Nat.lt_or_ge (t.seconds + d.seconds) (2 ^ 64) with hs | hs
  · rw [Number.sum64?_of_lt hs, Option.bind_eq_bind, Option.bind_some]
    rcases Nat.lt_or_ge (t.nanoseconds + d.fraction) (2 ^ 64) with hn | hn
    · rw [Number.sum64?_of_lt hn]
      change (t.seconds + d.seconds) * second + (t.nanoseconds + d.fraction) = _
      rw [Nat.add_mul]
      omega
    · rw [Number.sum64?_of_le hn]
      dsimp only
      rw [Nat.add_mul] at hcarried
      rcases Nat.lt_or_ge (t.seconds + d.seconds + t.nanoseconds / second) (2 ^ 64) with hc | hc
      · rw [Number.sum64?_of_lt hc]
        change (t.seconds + d.seconds + t.nanoseconds / second) * second +
          (t.nanoseconds % second + d.fraction) = _
        rw [Nat.add_mul, Nat.add_mul]
        omega
      · rw [Number.sum64?_of_le hc]
        have hroom := Nat.mul_le_mul_right second hc
        change 2 ^ 64 * second ≤ _
        rw [Nat.add_mul, Nat.add_mul] at hroom
        omega
  · rw [Number.sum64?_of_le hs]
    have hroom := Nat.mul_le_mul_right second hs
    change 2 ^ 64 * second ≤ _
    rw [Nat.add_mul] at hroom
    omega

/-- The induction is on the times that are still to be added. -/
theorem counts_foldlM (ds : List Duration) (t : Tally) :
    Counts (t.value + (ds.map (·.nanoseconds)).sum) (ds.foldlM add? t) := by
  induction ds generalizing t with
  | nil =>
    rw [List.map_nil, List.sum_nil, Nat.add_zero, List.foldlM_nil]
    exact Eq.refl t.value
  | cons d ds ih =>
    have hstep := t.counts_add? d
    rw [List.foldlM_cons, List.map_cons, List.sum_cons, ← Nat.add_assoc]
    cases hadd : t.add? d with
    | none =>
      rw [hadd] at hstep
      exact Nat.le_add_right_of_le hstep
    | some t' =>
      rw [hadd] at hstep
      have hvalue : t'.value = t.value + d.nanoseconds := hstep
      rw [← hvalue]
      exact ih t'

theorem total?_eq (t : Tally) :
    t.total? = if t.value < 2 ^ 64 * second then some ⟨t.value⟩ else none := by
  have hcarried := t.carried
  have hlt : t.nanoseconds % second < second := Nat.mod_lt _ (by decide)
  unfold total?
  rcases Nat.lt_or_ge (t.seconds + t.nanoseconds / second) (2 ^ 64) with h | h
  · have hroom := Nat.mul_le_mul_right second (Nat.succ_le_of_lt h)
    rw [Nat.succ_mul] at hroom
    rw [Number.sum64?_of_lt h, if_pos (by omega), ← hcarried]
    rfl
  · have hroom := Nat.mul_le_mul_right second h
    rw [Number.sum64?_of_le h, if_neg (by omega)]
    rfl

end Tally

/-- Adding up yields the exact sum, or nothing where its seconds do not fit into 64 bits. -/
theorem sum?_eq (ds : List Duration) :
    sum? ds = if (ds.map (·.nanoseconds)).sum < 2 ^ 64 * second
      then some ⟨(ds.map (·.nanoseconds)).sum⟩ else none := by
  have hrun := Tally.counts_foldlM ds ⟨0, 0⟩
  have hzero : Tally.value ⟨0, 0⟩ = 0 := rfl
  rw [hzero, Nat.zero_add] at hrun
  unfold sum?
  cases h : ds.foldlM Tally.add? ⟨0, 0⟩ with
  | none =>
    rw [h] at hrun
    exact (if_neg (Nat.not_lt.2 hrun)).symm
  | some t =>
    rw [h] at hrun
    have hvalue : t.value = (ds.map (·.nanoseconds)).sum := hrun
    rw [← hvalue]
    exact t.total?_eq

/-- The nanoseconds that a text tells. Beside minutes the seconds are less than one. -/
inductive Told : String → Nat → Prop
  | minutes (m s : Nat) : s < 60 → Told s!"{m}m {s}s" ((60 * m + s) * second)
  | seconds (s : Nat) : Told s!"{s}s" (s * second)
  | milliseconds (k : Nat) : Told s!"{k}ms" (k * 1000000)

/-- Whole seconds, or whole milliseconds of less than a second. -/
def roughly (n : Nat) : Nat :=
  if n < second then n / 1000000 * 1000000 else n / second * second

theorem told_rough (d : Duration) : Told d.rough (roughly d.nanoseconds) := by
  have hd := d.seconds_add_fraction
  have hlt := d.fraction_lt_second
  have hseconds : d.nanoseconds / second = d.seconds := rfl
  unfold rough roughly
  dsimp only
  rw [hseconds]
  by_cases hmin : 60 ≤ d.seconds
  · rw [if_pos hmin, if_neg]
    · have hvalue : 60 * (d.seconds / 60) + d.seconds % 60 = d.seconds := Nat.div_add_mod _ _
      conv => arg 2; rw [← hvalue]
      exact .minutes _ _ (Nat.mod_lt _ (by decide))
    · have := Nat.mul_le_mul_right second hmin
      omega
  rw [if_neg hmin]
  by_cases hsec : 0 < d.seconds
  · rw [if_pos hsec, if_neg]
    · exact .seconds _
    · have := Nat.mul_le_mul_right second hsec
      omega
  · have hzero : d.seconds = 0 := by omega
    rw [if_neg hsec, if_pos]
    · exact .milliseconds _
    · rw [hzero, Nat.zero_mul] at hd
      omega

theorem toDigits_inj {m n : Nat} (h : Nat.toDigits 10 m = Nat.toDigits 10 n) : m = n := by
  rw [← Nat.ofDigitChars_ten_toDigits (n := m), h, Nat.ofDigitChars_ten_toDigits]

/-- What stands behind the first number of a text, and what it makes of it. -/
inductive Rest : List Char → Nat → Nat → Prop
  | minutes (m s : Nat) :
    Rest ('m' :: ' ' :: (Nat.toDigits 10 s ++ ['s'])) m ((60 * m + s) * second)
  | seconds (s : Nat) : Rest ['s'] s (s * second)
  | milliseconds (k : Nat) : Rest ['m', 's'] k (k * 1000000)

theorem Told.cut (h : Told text x) :
    ∃ n rest, text.toList = Nat.toDigits 10 n ++ rest ∧ Rest rest n x := by
  have hdigits (n : Nat) : (toString n).toList = Nat.toDigits 10 n := String.toList_ofList
  cases h with
  | minutes m s =>
    refine ⟨m, _, ?_, .minutes m s⟩
    simp only [String.toList_append, hdigits, List.append_assoc]
    rfl
  | seconds s =>
    refine ⟨s, _, ?_, .seconds s⟩
    simp only [String.toList_append, hdigits]
    rfl
  | milliseconds k =>
    refine ⟨k, _, ?_, .milliseconds k⟩
    simp only [String.toList_append, hdigits]
    rfl

theorem Rest.head {rest : List Char} {n : Nat} (h : Rest rest n x) :
    ∀ c ∈ rest.head?, c.isDigit = false := by
  cases h <;> (rintro _ ⟨⟩; decide)

theorem Rest.unique {rest : List Char} {n : Nat} (hx : Rest rest n x) (hy : Rest rest n y) :
    x = y := by
  generalize hrest : rest = other at hy
  cases hx with
  | minutes m s =>
    cases hy with
    | minutes m t =>
      have hdigits := List.append_cancel_right (List.cons.inj (List.cons.inj hrest).2).2
      rw [toDigits_inj hdigits]
    | seconds t => simp at hrest
    | milliseconds k => simp at hrest
  | seconds s => cases hy <;> simp_all
  | milliseconds k => cases hy <;> simp_all

theorem Told.unique (hx : Told text x) (hy : Told text y) : x = y := by
  obtain ⟨n, rest, htext, hrest⟩ := hx.cut
  obtain ⟨n', rest', htext', hrest'⟩ := hy.cut
  have hdigit (n : Nat) : ∀ c ∈ Nat.toDigits 10 n, c.isDigit = true :=
    fun _ hc => Nat.isDigit_of_mem_toDigits (by decide) (by decide) hc
  obtain ⟨hn, rfl⟩ := Text.cut_inj (hdigit n) hrest.head (hdigit n') hrest'.head
    (htext.symm.trans htext')
  obtain rfl := toDigits_inj hn
  exact hrest.unique hrest'

/-- The rough text of a time tells it to whole seconds, or below one second to milliseconds. -/
theorem told_rough_iff (d : Duration) : Told d.rough x ↔ x = roughly d.nanoseconds :=
  ⟨fun h => h.unique d.told_rough, fun h => h ▸ d.told_rough⟩

end Duration
end DumpWorkbench
