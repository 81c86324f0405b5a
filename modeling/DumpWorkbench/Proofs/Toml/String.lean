import DumpWorkbench.Toml.Reader
import DumpWorkbench.Toml.Writer
import Mathlib.Data.List.Infix
import Mathlib.Tactic.FinCases

namespace DumpWorkbench.Toml

variable {a c : Char} {cs r s t u : Chars} {fuel j k run : Nat} {long : Bool}

theorem newline?_cons (hn : c ≠ '\n') (hr : c ≠ '\r') (r : Chars) : newline? (c :: r) = none := by
  unfold newline?
  split
  · rename_i h
    exact absurd (List.cons.inj h).1 hn
  · rename_i h
    exact absurd (List.cons.inj h).1 hr
  · rfl

theorem newline?_text (h : isText c = true) (r : Chars) : newline? (c :: r) = none := by
  apply newline?_cons
  · rintro rfl
    cases h
  · rintro rfl
    cases h

theorem isText_of_plain (h : needsEscape c = false) (hn : c ≠ '\n') : isText c = true := by
  have hn' : c.toNat ≠ '\n'.toNat := fun heq => hn (Char.toNat_inj.1 heq)
  have hten : '\n'.toNat = 10 := rfl
  by_cases ht : c = '\t'
  · rw [ht]
    rfl
  · simp [needsEscape, hn, ht] at h
    simp [isText, ht]
    omega

/-- What stands in double quotes for a character: the character itself, a line end in the long form,
or an escape. No escape joins lines. -/
inductive Shows (long : Bool) : Char → Chars → Prop
  | plain {c : Char} (htext : isText c = true) (hquote : c ≠ '"') (hslash : c ≠ '\\') :
      Shows long c [c]
  | newline (h : long = true) : Shows long '\n' ['\n']
  | escape {a c : Char} {u : Chars} (hblank : isBlank a = false) (hn : a ≠ '\n') (hr : a ≠ '\r')
      (h : ∀ t, escape? (a :: u ++ t) = some (c, u.length + 1)) : Shows long c ('\\' :: a :: u)

theorem Shows.head (h : Shows long c u) :
    ∃ a v, u = a :: v ∧ a ≠ '"' ∧ a ≠ '\r' ∧ (a = '\n' → c = '\n') := by
  cases h with
  | plain htext hquote =>
    refine ⟨c, [], rfl, hquote, ?_, id⟩
    rintro rfl
    cases htext
  | newline => exact ⟨'\n', [], rfl, by decide⟩
  | escape => exact ⟨'\\', _, rfl, by decide, by decide, fun h => absurd h (by decide)⟩

theorem basic_shows (h : Shows false c u) (hr : basic r = .ok (s, t)) :
    basic (u ++ r) = .ok (c :: s, t) := by
  cases h with
  | plain htext hquote hslash =>
    rw [List.singleton_append, basic, if_neg hquote, if_neg hslash, if_pos htext, hr]
    rfl
  | newline h => cases h
  | @escape a c u _ _ _ h =>
    have hdrop : (a :: u ++ r).drop (u.length + 1) = r := List.drop_left' rfl
    rw [List.cons_append, basic, if_neg (by decide), if_pos rfl, h]
    dsimp only
    rw [hdrop, hr]
    rfl

theorem longBasic_shows (h : Shows true c u) (hr : longBasic fuel r = .ok (s, t)) :
    longBasic (fuel + 1) (u ++ r) = .ok (c :: s, t) := by
  cases h with
  | plain htext hquote hslash =>
    rw [List.singleton_append, longBasic, if_neg hquote, if_neg hslash, newline?_text htext]
    dsimp only
    rw [if_pos htext, hr]
    rfl
  | newline =>
    rw [List.singleton_append, longBasic, if_neg (by decide), if_neg (by decide), newline?]
    dsimp only
    rw [hr]
    rfl
  | @escape a c u hblank hn hcr h =>
    have hdrop : (a :: u ++ r).drop (u.length + 1) = r := List.drop_left' rfl
    have hjoin : lineJoin? (a :: u ++ r) = none := by
      simp [lineJoin?, skipBlanks, hblank, newline?_cons hn hcr]
    rw [List.cons_append, longBasic, if_neg (by decide), if_pos rfl, hjoin, h]
    dsimp only
    rw [hdrop, hr]
    rfl

def letters : List (Char × Char) :=
  [('b', '\x08'), ('t', '\t'), ('n', '\n'), ('f', '\x0c'), ('r', '\r'), ('"', '"'), ('\\', '\\')]

theorem shows_letter (h : (a, c) ∈ letters) : Shows long c ['\\', a] := by
  have hletters : ∀ p ∈ letters, isBlank p.1 = false ∧ p.1 ≠ '\n' ∧ p.1 ≠ '\r' := by decide
  obtain ⟨hblank, hn, hr⟩ := hletters _ h
  apply Shows.escape hblank hn hr
  intro t
  fin_cases h <;> rfl

theorem hexValue?_unicode : ∀ n < 128, hexValue?
    ['0', '0', (Nat.digitChar (n / 16 % 16)).toUpper, (Nat.digitChar (n % 16)).toUpper] =
      some n := by
  decide

theorem shows_unicode (h : c.toNat < 128) : Shows long c (unicodeEscape c) := by
  apply Shows.escape (by decide) (by decide) (by decide)
  intro t
  have hvalid : c.toNat.isValidChar := c.valid
  simp [escape?, codePoint?, hexValue?_unicode _ h, hvalid]

theorem basicInside_letter (h : (a, c) ∈ letters) (hquote : c ≠ '"')
    (hn : ¬ (c = '\n' ∧ long = true)) (run : Nat) (r : Chars) :
    basicInside long run (c :: r) = ['\\', a] ++ basicInside long 0 r := by
  fin_cases h
  · rfl
  · rfl
  · simp [basicInside] at hn ⊢
    simp [hn]
  · rfl
  · rfl
  · exact absurd rfl hquote
  · rfl

theorem basicInside_other (h : ∀ a, (a, c) ∉ letters) (run : Nat) (r : Chars) :
    basicInside long run (c :: r) =
      (if needsEscape c then unicodeEscape c else [c]) ++ basicInside long 0 r := by
  simp [letters] at h
  simp [basicInside, h]

/-- Every character but a quote is written in the same way wherever it stands. -/
theorem exists_shows (long : Bool) (hquote : c ≠ '"') : ∃ u, Shows long c u ∧
    ∀ run r, basicInside long run (c :: r) = u ++ basicInside long 0 r := by
  by_cases hletter : ∃ a, (a, c) ∈ letters
  · obtain ⟨a, ha⟩ := hletter
    by_cases hn : c = '\n' ∧ long = true
    · obtain ⟨rfl, rfl⟩ := hn
      exact ⟨_, .newline rfl, fun run r => rfl⟩
    · exact ⟨_, shows_letter ha, basicInside_letter ha hquote hn⟩
  · rw [not_exists] at hletter
    refine ⟨_, ?_, basicInside_other hletter⟩
    split_ifs with hescape
    · apply shows_unicode
      simp [needsEscape] at hescape
      omega
    · have hn : c ≠ '\n' := by
        rintro rfl
        exact hletter 'n' (by decide)
      have hslash : c ≠ '\\' := by
        rintro rfl
        exact hletter '\\' (by decide)
      exact .plain (isText_of_plain (Bool.eq_false_iff.2 hescape) hn) hquote hslash

theorem length_le_inside (long : Bool) (run : Nat) (cs : Chars) :
    cs.length ≤ (basicInside long run cs).length := by
  induction cs generalizing run with
  | nil => exact Nat.le_refl 0
  | cons c cs ih =>
    by_cases hquote : c = '"'
    · have hle := ih (run + 1)
      have hle' := ih 0
      simp only [basicInside, hquote, if_true]
      split_ifs
      · simp only [List.length_cons]
        omega
      · simp only [List.length_cons]
        omega
    · obtain ⟨u, hshows, hinside⟩ := exists_shows long hquote
      obtain ⟨a, v, rfl, -⟩ := hshows.head
      have hle := ih 0
      rw [hinside]
      simp only [List.length_append, List.length_cons]
      omega

theorem runLength_cons_self (c : Char) (r : Chars) : runLength c (c :: r) = runLength c r + 1 := by
  simp [runLength]

theorem runLength_cons_of_ne (h : a ≠ c) (r : Chars) : runLength c (a :: r) = 0 := by
  simp [runLength, h]

theorem runLength_replicate (hr : r.head? ≠ some c) (k : Nat) :
    runLength c (List.replicate k c ++ r) = k := by
  induction k with
  | zero =>
    cases r with
    | nil => rfl
    | cons a r => exact runLength_cons_of_ne (fun h => hr (congrArg some h)) r
  | succ k ih => rw [List.replicate_succ, List.cons_append, runLength_cons_self, ih]

theorem runLength_append (c : Char) (cs : Chars) :
    cs = List.replicate (runLength c cs) c ∨ ∀ t, runLength c (cs ++ t) = runLength c cs := by
  induction cs with
  | nil => exact .inl rfl
  | cons a cs ih =>
    by_cases ha : a = c
    · subst ha
      rw [runLength_cons_self, List.replicate_succ]
      refine ih.imp (congrArg _) fun h t => ?_
      rw [List.cons_append, runLength_cons_self, h]
    · right
      intro t
      rw [List.cons_append, runLength_cons_of_ne ha, runLength_cons_of_ne ha]

/-- The step of `longestRun`: the longest run so far, and the one that goes on. -/
def runStep (c : Char) : Nat × Nat → Char → Nat × Nat := fun (best, run) d =>
  if d = c then (max best (run + 1), run + 1) else (best, 0)

theorem best_le_foldl (c : Char) (cs : Chars) (best run : Nat) :
    best ≤ (cs.foldl (runStep c) (best, run)).1 := by
  induction cs generalizing best run with
  | nil => exact Nat.le_refl best
  | cons a cs ih =>
    rw [List.foldl_cons, runStep]
    split_ifs
    · exact Nat.le_trans (Nat.le_max_left best (run + 1)) (ih _ _)
    · exact ih _ _

/-- Every run in the text is counted, also the one that goes on. -/
theorem le_foldl_runStep (c : Char) (cs : Chars) {best run : Nat} (h : run ≤ best) :
    run + runLength c cs ≤ (cs.foldl (runStep c) (best, run)).1 ∧
      ∀ t, t <:+ cs → runLength c t ≤ (cs.foldl (runStep c) (best, run)).1 := by
  induction cs generalizing best run with
  | nil =>
    refine ⟨h, fun t ht => ?_⟩
    rw [List.suffix_nil.1 ht]
    exact Nat.zero_le _
  | cons a cs ih =>
    rw [List.foldl_cons]
    by_cases ha : a = c
    · subst ha
      have hstep : runStep a (best, run) a = (max best (run + 1), run + 1) := if_pos rfl
      obtain ⟨hrun, hsuffix⟩ := ih (Nat.le_max_right best (run + 1))
      rw [hstep, runLength_cons_self]
      have hle : run + (runLength a cs + 1) ≤
          (cs.foldl (runStep a) (max best (run + 1), run + 1)).1 := by omega
      refine ⟨hle, fun t ht => ?_⟩
      rcases List.suffix_cons_iff.1 ht with rfl | ht
      · rw [runLength_cons_self]
        omega
      · exact hsuffix t ht
    · have hstep : runStep c (best, run) a = (best, 0) := if_neg ha
      obtain ⟨-, hsuffix⟩ := ih (Nat.zero_le best)
      have hbest := best_le_foldl c cs best 0
      rw [hstep, runLength_cons_of_ne ha]
      refine ⟨Nat.le_trans h hbest, fun t ht => ?_⟩
      rcases List.suffix_cons_iff.1 ht with rfl | ht
      · rw [runLength_cons_of_ne ha]
        exact Nat.zero_le _
      · exact hsuffix t ht

theorem runLength_le_longestRun (h : t <:+ cs) (c : Char) : runLength c t ≤ longestRun c cs :=
  (le_foldl_runStep c cs (Nat.le_refl 0)).2 t h

theorem not_mem_of_longestRun (h : longestRun c cs = 0) : c ∉ cs := by
  intro hmem
  obtain ⟨s, t, rfl⟩ := List.append_of_mem hmem
  have hle := runLength_le_longestRun (List.suffix_append s (c :: t)) c
  rw [h, runLength_cons_self] at hle
  omega

theorem closing_quotes (c : Char) (j : Nat) (r : Chars) :
    List.replicate j c ++ c :: c :: c :: r = c :: (List.replicate (j + 2) c ++ r) := by
  have hthree : c :: c :: c :: r = List.replicate 3 c ++ r := rfl
  rw [hthree, ← List.append_assoc, List.replicate_append_replicate, List.replicate_succ]
  rfl

theorem basic_inside (cs r : Chars) (run : Nat) :
    basic (basicInside false run cs ++ '"' :: r) = .ok (cs, r) := by
  induction cs generalizing run with
  | nil => rw [basicInside, List.nil_append, basic, if_pos rfl]
  | cons c cs ih =>
    by_cases hquote : c = '"'
    · subst hquote
      have hinside : basicInside false run ('"' :: cs) =
          ['\\', '"'] ++ basicInside false 0 cs := by
        simp [basicInside]
      rw [hinside, List.append_assoc]
      exact basic_shows (shows_letter (by decide)) (ih 0)
    · obtain ⟨u, hshows, hinside⟩ := exists_shows false hquote
      rw [hinside, List.append_assoc]
      exact basic_shows hshows (ih 0)

/-- The quotes in front of what is written in the long form: either there is nothing else, or they
are too few to close it. -/
theorem leading_quotes (cs : Chars) (hrun : run ≤ 2) :
    (∃ j, j + run ≤ 2 ∧ cs = List.replicate j '"' ∧
      basicInside true run cs = List.replicate j '"') ∨
    ∀ t, runLength '"' (basicInside true run cs ++ t) + run ≤ 2 := by
  induction cs generalizing run with
  | nil => exact .inl ⟨0, by omega, rfl, rfl⟩
  | cons c cs ih =>
    by_cases hquote : c = '"'
    · subst hquote
      by_cases hlt : run < 2
      · have hinside : basicInside true run ('"' :: cs) = '"' :: basicInside true (run + 1) cs := by
          simp [basicInside, hlt]
        rw [hinside]
        have hrun' : run + 1 ≤ 2 := by omega
        rcases ih hrun' with ⟨j, hj, rfl, hreplicate⟩ | h
        · left
          exact ⟨j + 1, by omega, rfl, by rw [hreplicate, List.replicate_succ]⟩
        · right
          intro t
          have hle := h t
          rw [List.cons_append, runLength_cons_self]
          omega
      · -- The third quote in a row is escaped, and its backslash ends the run.
        right
        intro t
        have hinside : basicInside true run ('"' :: cs) =
            '\\' :: '"' :: basicInside true 0 cs := by
          simp [basicInside, hlt]
        rw [hinside, List.cons_append, runLength_cons_of_ne (by decide)]
        omega
    · right
      intro t
      obtain ⟨u, hshows, hinside⟩ := exists_shows true hquote
      obtain ⟨a, v, rfl, ha, -⟩ := hshows.head
      rw [hinside, List.append_assoc, List.cons_append, runLength_cons_of_ne ha]
      omega

/-- Up to two quotes in front of the three that close a long string belong to it. -/
theorem longBasic_close (hj : j ≤ 2) (hr : r.head? ≠ some '"') (hfuel : 0 < fuel) :
    longBasic fuel (List.replicate j '"' ++ '"' :: '"' :: '"' :: r) =
      .ok (List.replicate j '"', r) := by
  obtain ⟨fuel, rfl⟩ := Nat.exists_eq_succ_of_ne_zero (Nat.ne_of_gt hfuel)
  have hrun : runLength '"' ('"' :: (List.replicate (j + 2) '"' ++ r)) = j + 3 := by
    rw [runLength_cons_self, runLength_replicate hr]
  rw [closing_quotes, longBasic, if_pos rfl]
  dsimp only
  rw [hrun, if_neg (by omega), if_pos (by omega)]
  simp

theorem longBasic_inside (hrun : run ≤ 2) (hr : r.head? ≠ some '"') (hfuel : cs.length < fuel) :
    longBasic fuel (basicInside true run cs ++ '"' :: '"' :: '"' :: r) = .ok (cs, r) := by
  induction cs generalizing run fuel with
  | nil => exact longBasic_close (j := 0) (by decide) hr hfuel
  | cons c cs ih =>
    obtain ⟨fuel, rfl⟩ := Nat.exists_eq_succ_of_ne_zero (Nat.ne_of_gt (Nat.zero_lt_of_lt hfuel))
    have hfuel' : cs.length < fuel := Nat.lt_of_succ_lt_succ hfuel
    by_cases hquote : c = '"'
    · subst hquote
      by_cases hlt : run < 2
      · -- Quotes at the end of the text stand in one run with those that close the string.
        rcases leading_quotes ('"' :: cs) hrun with ⟨j, hj, hcs, hinside⟩ | hfew
        · rw [hinside, hcs]
          exact longBasic_close (by omega) hr (Nat.succ_pos fuel)
        · have hinside : basicInside true run ('"' :: cs) =
              '"' :: basicInside true (run + 1) cs := by
            simp [basicInside, hlt]
          have hle := hfew ('"' :: '"' :: '"' :: r)
          rw [hinside, List.cons_append] at hle ⊢
          rw [longBasic, if_pos rfl]
          dsimp only
          rw [if_pos (by omega), ih (by omega) hfuel']
          rfl
      · have hinside : basicInside true run ('"' :: cs) =
            ['\\', '"'] ++ basicInside true 0 cs := by
          simp [basicInside, hlt]
        rw [hinside, List.append_assoc]
        exact longBasic_shows (shows_letter (by decide)) (ih (by decide) hfuel')
    · obtain ⟨u, hshows, hinside⟩ := exists_shows true hquote
      rw [hinside, List.append_assoc]
      exact longBasic_shows hshows (ih (by decide) hfuel')

theorem literal_inside (htext : ∀ c ∈ cs, isText c = true) (hquote : '\'' ∉ cs) (r : Chars) :
    literal (cs ++ '\'' :: r) = .ok (cs, r) := by
  induction cs with
  | nil => rfl
  | cons c cs ih =>
    obtain ⟨hc, hcs⟩ := List.forall_mem_cons.1 htext
    rw [List.mem_cons, not_or] at hquote
    rw [List.cons_append, literal, if_neg (Ne.symm hquote.1), if_pos hc, ih hcs hquote.2]
    rfl

theorem longLiteral_close (hj : j ≤ 2) (hr : r.head? ≠ some '\'') (hfuel : 0 < fuel) :
    longLiteral fuel (List.replicate j '\'' ++ '\'' :: '\'' :: '\'' :: r) =
      .ok (List.replicate j '\'', r) := by
  obtain ⟨fuel, rfl⟩ := Nat.exists_eq_succ_of_ne_zero (Nat.ne_of_gt hfuel)
  have hrun : runLength '\'' ('\'' :: (List.replicate (j + 2) '\'' ++ r)) = j + 3 := by
    rw [runLength_cons_self, runLength_replicate hr]
  rw [closing_quotes, longLiteral, if_pos rfl]
  dsimp only
  rw [hrun, if_neg (by omega), if_pos (by omega)]
  simp

theorem longLiteral_inside (htext : ∀ c ∈ cs, c ≠ '\n' → isText c = true)
    (hruns : ∀ t, t <:+ cs → runLength '\'' t ≤ 2) (hr : r.head? ≠ some '\'')
    (hfuel : cs.length < fuel) :
    longLiteral fuel (cs ++ '\'' :: '\'' :: '\'' :: r) = .ok (cs, r) := by
  induction cs generalizing fuel with
  | nil => exact longLiteral_close (j := 0) (by decide) hr hfuel
  | cons c cs ih =>
    obtain ⟨fuel, rfl⟩ := Nat.exists_eq_succ_of_ne_zero (Nat.ne_of_gt (Nat.zero_lt_of_lt hfuel))
    have hle := hruns (c :: cs) (List.suffix_refl _)
    obtain ⟨hc, hcs⟩ := List.forall_mem_cons.1 htext
    have hrest := ih hcs (fun t ht => hruns t (ht.trans (List.suffix_cons c cs)))
      (Nat.lt_of_succ_lt_succ hfuel)
    by_cases hquote : c = '\''
    · subst hquote
      -- As above: a run at the end goes on into the quotes that close the string.
      rcases runLength_append '\'' ('\'' :: cs) with hall | hfew
      · rw [hall]
        exact longLiteral_close hle hr (Nat.succ_pos fuel)
      · have hrun := hfew ('\'' :: '\'' :: '\'' :: r)
        rw [List.cons_append] at hrun ⊢
        rw [longLiteral, if_pos rfl]
        dsimp only
        rw [hrun, if_pos (by omega), hrest]
        rfl
    · rw [List.cons_append, longLiteral, if_neg hquote]
      by_cases hn : c = '\n'
      · subst hn
        rw [newline?]
        dsimp only
        rw [hrest]
        rfl
      · rw [newline?_text (hc hn)]
        dsimp only
        rw [if_pos (hc hn), hrest]
        rfl

theorem value_double (depth : Nat) (t : Chars) : value depth ('"' :: t) =
    (basicString t).map fun (s, rest) => (.string (String.ofList s), rest) := by
  unfold value
  rfl

theorem value_single (depth : Nat) (t : Chars) : value depth ('\'' :: t) =
    (literalString t).map fun (s, rest) => (.string (String.ofList s), rest) := by
  unfold value
  rfl

theorem basicString_short (h : ∀ u, t ≠ '"' :: '"' :: u) : basicString t = basic t := by
  unfold basicString
  split
  · exact absurd rfl (h _)
  · rfl

theorem literalString_short (h : ∀ u, t ≠ '\'' :: '\'' :: u) : literalString t = literal t := by
  unfold literalString
  split
  · exact absurd rfl (h _)
  · rfl

/-- A line end behind three opening quotes is not part of the string. One is written there if the
string has any, so that none of its own is lost. -/
theorem dropNewline_opening (h : '\n' ∉ cs → newline? t = none) :
    dropNewline (opening cs ++ t) = t := by
  unfold opening
  split_ifs with hn
  · rfl
  · rw [List.contains_iff_mem] at hn
    rw [List.nil_append, dropNewline, h hn, Option.getD_none]

theorem value_basicForm (depth : Nat) (cs : Chars) (hr : r.head? ≠ some '"') :
    value depth (basicForm cs ++ r) = .ok (.string (String.ofList cs), r) := by
  have hshort : ∀ u, basicInside false 0 cs ++ '"' :: r ≠ '"' :: '"' :: u := by
    intro u
    cases cs with
    | nil =>
      intro h
      rw [(List.cons.inj h).2] at hr
      exact hr rfl
    | cons c cs =>
      -- What is written for a character never begins with a quote here.
      by_cases hquote : c = '"'
      · simp [basicInside, hquote]
      · obtain ⟨v, hshows, hinside⟩ := exists_shows false hquote
        obtain ⟨a, w, rfl, ha, -⟩ := hshows.head
        rw [hinside]
        intro h
        exact ha (List.cons.inj h).1
  rw [basicForm, List.cons_append, List.cons_append, List.append_assoc, value_double,
    List.singleton_append, basicString_short hshort, basic_inside]
  rfl

theorem value_literalForm (depth : Nat) (htext : ∀ c ∈ cs, isText c = true) (hquote : '\'' ∉ cs)
    (hr : r.head? ≠ some '\'') :
    value depth (literalForm cs ++ r) = .ok (.string (String.ofList cs), r) := by
  have hshort : ∀ u, cs ++ '\'' :: r ≠ '\'' :: '\'' :: u := by
    intro u h
    cases cs with
    | nil =>
      rw [(List.cons.inj h).2] at hr
      exact hr rfl
    | cons c cs =>
      rw [List.cons_append] at h
      exact hquote ((List.cons.inj h).1 ▸ List.mem_cons_self)
  rw [literalForm, List.cons_append, List.cons_append, List.append_assoc, value_single,
    List.singleton_append, literalString_short hshort, literal_inside htext hquote]
  rfl

theorem value_longBasicForm (depth : Nat) (cs : Chars) (hr : r.head? ≠ some '"') :
    value depth (longBasicForm cs ++ r) = .ok (.string (String.ofList cs), r) := by
  have hnone : '\n' ∉ cs →
      newline? (basicInside true 0 cs ++ '"' :: '"' :: '"' :: r) = none := by
    intro hn
    cases cs with
    | nil => exact newline?_cons (by decide) (by decide) _
    | cons c cs =>
      by_cases hquote : c = '"'
      · subst hquote
        exact newline?_cons (by decide) (by decide) _
      · obtain ⟨u, hshows, hinside⟩ := exists_shows true hquote
        obtain ⟨a, v, rfl, -, hcr, ha⟩ := hshows.head
        rw [hinside]
        exact newline?_cons (fun h => hn (ha h ▸ List.mem_cons_self)) hcr _
  have hform : longBasicForm cs ++ r =
      '"' :: '"' :: '"' :: (opening cs ++ (basicInside true 0 cs ++ '"' :: '"' :: '"' :: r)) := by
    simp [longBasicForm]
  have hlength := length_le_inside true 0 cs
  rw [hform, value_double, basicString]
  dsimp only
  rw [dropNewline_opening hnone, longBasic_inside (Nat.zero_le 2) hr]
  · rfl
  · rw [List.length_append]
    omega

theorem value_longLiteralForm (depth : Nat) (htext : ∀ c ∈ cs, c ≠ '\n' → isText c = true)
    (hruns : ∀ t, t <:+ cs → runLength '\'' t ≤ 2) (hr : r.head? ≠ some '\'') :
    value depth (longLiteralForm cs ++ r) = .ok (.string (String.ofList cs), r) := by
  have hnone : '\n' ∉ cs → newline? (cs ++ '\'' :: '\'' :: '\'' :: r) = none := by
    intro hn
    cases cs with
    | nil => exact newline?_cons (by decide) (by decide) _
    | cons c cs =>
      obtain ⟨hc, -⟩ := List.forall_mem_cons.1 htext
      exact newline?_text (hc fun h => hn (h ▸ List.mem_cons_self)) _
  have hform : longLiteralForm cs ++ r =
      '\'' :: '\'' :: '\'' :: (opening cs ++ (cs ++ '\'' :: '\'' :: '\'' :: r)) := by
    simp [longLiteralForm]
  rw [hform, value_single, literalString]
  dsimp only
  rw [dropNewline_opening hnone, longLiteral_inside htext hruns hr]
  · rfl
  · rw [List.length_append]
    omega

theorem value_stringForm (depth : Nat) (cs : Chars) (hr : r.head? ≠ some '"')
    (hr' : r.head? ≠ some '\'') :
    value depth (stringForm cs ++ r) = .ok (.string (String.ofList cs), r) := by
  unfold stringForm
  dsimp only
  -- Double quotes can show every text; what the single ones cannot show is what is asked for.
  split_ifs with hbasic hliteral hlong hlongLiteral
  · exact value_basicForm depth cs hr
  · simp at hliteral
    obtain ⟨⟨hplain, hruns⟩, hn⟩ := hliteral
    apply value_literalForm depth ?_ (not_mem_of_longestRun hruns) hr'
    intro c hc
    exact isText_of_plain (hplain c hc) fun h => hn (h ▸ hc)
  · exact value_longBasicForm depth cs hr
  · simp at hlongLiteral
    obtain ⟨hplain, hruns⟩ := hlongLiteral
    apply value_longLiteralForm depth ?_ ?_ hr'
    · intro c hc hn
      exact isText_of_plain (hplain c hc) hn
    · intro t ht
      exact Nat.le_trans (runLength_le_longestRun ht '\'') hruns
  · exact value_longBasicForm depth cs hr
  · exact value_basicForm depth cs hr

theorem isBlank_stringForm (cs : Chars) : ∀ c ∈ (stringForm cs).head?, isBlank c = false := by
  have hdouble : ∀ t : Chars, ∀ c ∈ ('"' :: t).head?, isBlank c = false := by simp [isBlank]
  have hsingle : ∀ t : Chars, ∀ c ∈ ('\'' :: t).head?, isBlank c = false := by simp [isBlank]
  unfold stringForm
  dsimp only
  split_ifs
  · exact hdouble _
  · exact hsingle _
  · exact hdouble _
  · exact hsingle _
  · exact hdouble _
  · exact hdouble _

end DumpWorkbench.Toml
