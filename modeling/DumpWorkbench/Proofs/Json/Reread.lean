import DumpWorkbench.Proofs.Decimal.Greatest
import DumpWorkbench.Proofs.Json.Alike
import DumpWorkbench.Proofs.Json.FirstDigits
import DumpWorkbench.Proofs.Json.RoundTrip

namespace DumpWorkbench.Json

open Utf8 (encodeChars)

variable {n : Number}

/-- What is written for the greatest doubles is read as a double, though not always the same one. -/
theorem number_greatest : ∀ d ∈ Binary64.greatest, ∀ negative,
    (number .quick negative (encodeChars d.text)).map Prod.snd = .ok [] := by
  decide +kernel

namespace Numeral

theorem first_digits_of_significand {x : Numeral} (h : x.significand = 0) : x.first.digits = 0 := by
  have hclose := x.first_close.1
  have hzero : x.decimal.toRat = 0 := by rw [Decimal.toRat, decimal, h, Nat.cast_zero, zero_mul]
  have hpos : (0 : ℚ) < 10 ^ x.first.exponent := by positivity
  rw [hzero, zero_mul, Decimal.toRat] at hclose
  by_contra hne
  have hdigits : (0 : ℚ) < x.first.digits := by exact_mod_cast Nat.pos_of_ne_zero hne
  exact absurd hclose (not_le.2 (mul_pos hdigits hpos))

end Numeral

theorem exists_numeral_real {y : Binary64}
    (h : number .quick y.negative (encodeChars y.shortest.text) = .ok (n, [])) :
    ∃ x : Numeral, x.Denotes .quick n ∧ encodeChars x.chars = encodeChars (Number.real y).text := by
  obtain ⟨x, hx, hchars⟩ := exists_numeral_chars h
  refine ⟨x, hx, ?_⟩
  rw [List.append_nil] at hchars
  rw [← hchars, ← Utf8.encodeChars_append]
  rfl

theorem Number.Stored.exists_denotes (h : n.Stored) :
    ∃ (x : Numeral) (m : Number),
      x.Denotes .quick m ∧ encodeChars x.chars = encodeChars n.text := by
  obtain ⟨x, hx, htext⟩ := exists_numeral_text h
  cases hx with
  | integer hint => exact ⟨x, _, .integer hint, htext⟩
  | @real y hint hpower hy =>
    rw [Numeral.kept_exact] at hpower hy
    by_cases hgreat : Binary64.fifth.magnitude ≤ y.magnitude
    · -- The bounds say nothing about the greatest doubles.
      obtain ⟨k, hk, hyk⟩ := Binary64.exists_greatest h hgreat
      have hshortest : y.shortest ∈ Binary64.greatest := by
        have hmem := Binary64.shortest_mem_greatest k hk
        rw [hyk]
        exact Binary64.shortest_negative ⟨false, 2 ^ 53 - 1 - k, 971⟩ y.negative ▸ hmem
      obtain ⟨⟨m, rest⟩, hm, rfl⟩ := map_eq_ok.1 (number_greatest _ hshortest y.negative)
      obtain ⟨z, hz, htext⟩ := exists_numeral_real hm
      exact ⟨z, m, hz, htext⟩
    · have hlt : x.decimal.toRat < Binary64.fifth.magnitude := by
        by_contra hle
        have hone : (1 : ℚ) ≤ Binary64.fifth.magnitude := by
          rw [Binary64.fifth_magnitude]
          exact one_le_mul_of_one_le_of_one_le (by norm_num)
            (one_le_zpow₀ (by norm_num) (by norm_num))
        have hnearest := Binary64.ofDecimal_nearest hy (hone.trans (not_lt.1 hle))
        exact hgreat (hnearest.le_magnitude Binary64.fifth_canonical (not_lt.1 hle))
      have hfinite : x.Finite := by
        apply Numeral.finite_of_le
        refine le_trans ?_ Binary64.fifth_lt_bound
        exact mul_le_mul_of_nonneg_right hlt.le (by norm_num)
      obtain ⟨m, hm⟩ := x.exists_denotes_iff.2
        ⟨hfinite, fun hne => hpower (mt Numeral.first_digits_of_significand hne)⟩
      exact ⟨x, m, hm, htext⟩

/-- The number that is read where the number is written. -/
def Number.reread (n : Number) : Number :=
  match read (encodeChars n.text) with
  | .ok (.number m) => m
  | _ => n

theorem Number.reread_eq {m : Number} {x : Numeral} (hx : x.Denotes .quick m)
    (htext : encodeChars x.chars = encodeChars n.text) : n.reread = m := by
  have hread : read (encodeChars n.text) = .ok (.number m) :=
    read_eq_ok.2 (padded_bare (text_leaf (htext ▸ .number hx) maxDepth))
  rw [reread, hread]

theorem Number.Stored.denotes_reread (h : n.Stored) :
    ∃ x : Numeral, x.Denotes .quick n.reread ∧ encodeChars x.chars = encodeChars n.text := by
  obtain ⟨x, m, hx, htext⟩ := h.exists_denotes
  exact ⟨x, (Number.reread_eq hx htext).symm ▸ hx, htext⟩

mutual

def Value.reread : Value → Value
  | .null => .null
  | .bool b => .bool b
  | .number n => .number n.reread
  | .string s => .string s
  | .array vs => .array (rereadItems vs)
  | .object ms => .object (rereadMembers ms)

def rereadItems : List Value → List Value
  | [] => []
  | v :: vs => v.reread :: rereadItems vs

def rereadMembers : Members → Members
  | [] => []
  | (k, v) :: ms => (k, v.reread) :: rereadMembers ms

end

theorem rereadItems_eq_map (vs : List Value) : rereadItems vs = vs.map Value.reread := by
  induction vs with
  | nil => rfl
  | cons v vs ih => rw [rereadItems, ih, List.map_cons]

theorem rereadMembers_eq_map (ms : Members) :
    rereadMembers ms = ms.map fun m => (m.1, m.2.reread) := by
  induction ms with
  | nil => rfl
  | cons m ms ih => rw [rereadMembers, ih, List.map_cons]

section

variable {α β : Type} {P : α → Bytes → Prop} {Q : β → Bytes → Prop} {f : α → β} {a : α}
  {as : List α} {s : Bytes}

theorem Padded.map (hpq : ∀ a t, P a t → Q (f a) t) (h : Padded P a s) : Padded Q (f a) s := by
  obtain ⟨hs, ha, hu⟩ := h
  exact .mk hs (hpq _ _ ha) hu

theorem Separated.map (hpq : ∀ a t, P a t → Q (f a) t) (h : Separated P as s) :
    Separated Q (as.map f) s := by
  induction h with
  | one h => exact .one (h.map hpq)
  | comma h _ ih => exact .comma (h.map hpq) ih

theorem Listed.map (hpq : ∀ a t, P a t → Q (f a) t) (h : Listed P as s) :
    Listed Q (as.map f) s := by
  cases h with
  | none h => exact .none h
  | some h => exact .some (h.map hpq)

end

variable {depth : Nat} {v : Value} {s : Bytes}

/-- In a text whose numbers are read as others, the value is read with those in their place. -/
theorem text_reread (h : Text (fun x n => x.Denotes .quick n.reread) depth v s) :
    Text (Numeral.Denotes .quick) depth v.reread s := by
  have hleaf (k : Nat) {v : Value} {s : Bytes}
      (h : Leaf (fun x n => x.Denotes .quick n.reread) v s) :
      Text (Numeral.Denotes .quick) k v.reread s := by
    apply text_leaf
    cases h with
    | null => exact .null
    | true => exact .true
    | false => exact .false
    | number h => exact .number h
    | string h => exact .string h
  induction depth generalizing v s with
  | zero => exact hleaf 0 h
  | succ k ih =>
    rcases h with h | h
    · exact hleaf (k + 1) h
    · refine .inr ?_
      cases h with
      | array h =>
        rw [Value.reread, rereadItems_eq_map]
        exact .array (h.map fun v t ht => ih ht)
      | object h =>
        rw [Value.reread, rereadMembers_eq_map]
        refine .object (h.map fun m t hm => ?_)
        obtain ⟨hkey, hs, hu, hv⟩ := hm
        exact .mk hkey hs hu (ih hv)

/-- The compact text of a value is read as the value with every number read again. -/
theorem read_compact (h : Fits Number.Stored maxDepth v) :
    read (Utf8.encode v.compact) = .ok v.reread := by
  rw [read_eq_ok, Utf8.encode, Value.compact, String.toList_ofList]
  exact padded_bare (text_reread (text_compact (h.mono fun _ hn => hn.denotes_reread)))

theorem Number.reread_integer {i : Int} (h : (Number.integer i).Stored) :
    (Number.integer i).reread = .integer i := by
  obtain ⟨x, hx, htext⟩ := exists_numeral_text h
  generalize hn : Number.integer i = n at hx htext
  cases hx with
  | real => cases hn
  | integer hint => exact reread_eq (.integer hint) htext

theorem Number.reread_real {y : Binary64}
    (h : number .quick y.negative (encodeChars y.shortest.text) = .ok (.real y, [])) :
    (Number.real y).reread = .real y := by
  obtain ⟨x, hx, htext⟩ := exists_numeral_real h
  exact reread_eq hx htext

theorem Fits.reread_eq (h : Fits Number.Stored depth v)
    (hv : ∀ x, Occurs (.number (.real x)) v → (Number.real x).reread = .real x) : v.reread = v := by
  induction h with
  | null => rfl
  | bool => rfl
  | @number k n hn =>
    cases n with
    | integer i => rw [Value.reread, Number.reread_integer hn]
    | real x => rw [Value.reread, hv x .self]
  | string => rfl
  | array _ ih =>
    rw [Value.reread, rereadItems_eq_map, List.map_congr_left fun w hw => ih w hw fun x hx =>
      hv x (.item hw hx), List.map_id']
  | object _ ih =>
    rw [Value.reread, rereadMembers_eq_map, List.map_congr_left fun m hm => congrArg (m.1, ·)
      (ih m hm fun x hx => hv x (.member hm hx)), List.map_id']

theorem Occurs.reread_eq {n : Number} (h : Occurs (.number n) v) (hv : v.reread = v) :
    n.reread = n := by
  induction h with
  | self => exact Value.number.inj hv
  | @item w vs hw _ ih =>
    rw [Value.reread, rereadItems_eq_map] at hv
    exact ih (List.map_inj_left.1 ((Value.array.inj hv).trans (List.map_id' vs).symm) w hw)
  | @member m ms hm _ ih =>
    rw [Value.reread, rereadMembers_eq_map] at hv
    have hall := List.map_inj_left.1 ((Value.object.inj hv).trans (List.map_id' ms).symm)
    exact ih (congrArg Prod.snd (hall m hm))

theorem Fits.of_occurs {S : Number → Prop} {n : Number} (h : Fits S depth v)
    (hn : Occurs (.number n) v) : S n := by
  induction hn generalizing depth with
  | self =>
    cases h with
    | number _ hx => exact hx
  | item hw _ ih =>
    cases h with
    | array hvs => exact ih (hvs _ hw)
  | member hm _ ih =>
    cases h with
    | object hms => exact ih (hms _ hm)

theorem Ordered.reread (h : Ordered v) : Ordered v.reread := by
  induction h with
  | null => exact .null
  | bool b => exact .bool b
  | number x => exact .number _
  | string s => exact .string s
  | array _ ih =>
    rw [Value.reread, rereadItems_eq_map]
    exact .array (List.forall_mem_map.2 ih)
  | object _ ha ih =>
    rw [Value.reread, rereadMembers_eq_map]
    exact .object (List.forall_mem_map.2 ih) (List.pairwise_map.2 ha)

end DumpWorkbench.Json
