import DumpWorkbench.Proofs.Shell.Quote
import DumpWorkbench.Shell.Word
import DumpWorkbench.Tool
import Mathlib.Data.List.Forall2

namespace DumpWorkbench.Shell

variable {c : Char} {cs ds r rest : List Char} {w v : Word} {fuel : Nat}

/-- Characters that have a meaning unless they are quoted: they expand, quote, separate words,
are operators, match file names, stand for a home directory or begin a comment. -/
def active : List Char :=
  ['$', '\x60', '\\', '\'', '"', ' ', '\t', '\n', '|', '&', ';', '<', '>', '(', ')', '*', '?', '[',
    ']', '~', '#', '!', '\x7b', '\x7d']

/-- The part is a quotation mark, a quoted character, or one without a meaning of its own. -/
def Part.Inert : Part → Prop
  | .plain c => c ∉ active
  | .quoted _ | .quotes => True
  | _ => False

/-- Without its quotation marks the word is a text, and nothing in it is expanded. -/
structure Spells (w : Word) (cs : List Char) : Prop where
  chars : w.filterMap Part.char? = cs
  inert : ∀ p ∈ w, p.Inert

theorem spells_nil : Spells [] [] := ⟨rfl, List.forall_mem_nil _⟩

theorem Spells.quotes (h : Spells w cs) : Spells (.quotes :: w) cs :=
  ⟨h.chars, List.forall_mem_cons.2 ⟨trivial, h.inert⟩⟩

theorem Spells.quoted (h : Spells w cs) (c : Char) : Spells (.quoted c :: w) (c :: cs) :=
  ⟨congrArg (c :: ·) h.chars, List.forall_mem_cons.2 ⟨trivial, h.inert⟩⟩

theorem Spells.plain (h : Spells w cs) (hc : c ∉ active) : Spells (.plain c :: w) (c :: cs) :=
  ⟨congrArg (c :: ·) h.chars, List.forall_mem_cons.2 ⟨hc, h.inert⟩⟩

/-- The word spells the text as it is written: by its characters where they need no quotes, and else
in quotes from its beginning. -/
structure Written (w : Word) (cs : List Char) : Prop extends Spells w cs where
  bare : cs ≠ [] → cs.all isPlain = true → w = cs.map Part.plain
  enclosed : ¬ (cs ≠ [] ∧ cs.all isPlain = true) → ∃ v, w = .quotes :: v

theorem not_active_of_isPlain (h : isPlain c = true) : c ∉ active := by
  intro hc
  have hnone : active.all (fun d => !isPlain d) = true := by decide
  have hplain := List.all_eq_true.1 hnone c hc
  rw [h] at hplain
  cases hplain

theorem ne_of_not_active (h : c ∉ active) {d : Char} (hd : d ∈ active) : c ≠ d := by
  rintro rfl
  exact h hd

theorem endsWord_eq_false (h : c ∉ active) : endsWord c = false := by
  have hends : endsWord c = true → c ∈ active := by
    simp only [endsWord, isBlank, active, Bool.or_eq_true, beq_iff_eq, List.contains_iff_mem,
      List.mem_cons, List.not_mem_nil, or_false]
    grind
  exact Bool.eq_false_iff.2 (mt hends h)

def Ends (rest : List Char) : Prop := rest = [] ∨ ∃ r, rest = ' ' :: r

theorem parts_end (h : Ends rest) (hf : 0 < fuel) : parts .blank fuel rest = .ok ([], rest) := by
  cases fuel with
  | zero => cases hf
  | succ fuel => rcases h with rfl | ⟨r, rfl⟩ <;> (rw [parts.eq_def]; rfl)

theorem parts_plain (hc : c ∉ active) (h : parts .blank fuel r = .ok (w, rest)) :
    parts .blank (fuel + 1) (c :: r) = .ok (.plain c :: w, rest) := by
  have hne {d : Char} (hd : d ∈ active) : c ≠ d := ne_of_not_active hc hd
  have hreach : Border.blank.isReached c = false := endsWord_eq_false hc
  rw [parts.eq_def]
  dsimp only
  rw [hreach, if_neg Bool.false_ne_true, if_neg (hne (by decide)), if_neg (hne (by decide)),
    if_neg (hne (by decide)), if_neg (by simp), if_neg (by decide), if_neg (hne (by decide)),
    if_neg (hne (by decide)), h]
  rfl

theorem parts_single {s t : List Char} (hs : singleQuoted r = some (s, t))
    (h : parts .blank fuel t = .ok (w, rest)) :
    parts .blank (fuel + 1) ('\'' :: r) = .ok (.quotes :: (s.map .quoted ++ w), rest) := by
  rw [parts.eq_def]
  dsimp only
  rw [if_neg (by decide), if_neg (by decide), if_neg (by decide), if_neg (by decide),
    if_neg (by decide), if_neg (by decide), if_pos rfl, hs]
  dsimp only
  rw [h]
  rfl

theorem parts_escaped (h : parts .blank fuel r = .ok (w, rest)) :
    parts .blank (fuel + 1) ('\\' :: '\'' :: r) = .ok (.quoted '\'' :: w, rest) := by
  rw [parts.eq_def]
  dsimp only
  rw [if_neg (by decide), if_neg (by decide), if_neg (by decide), if_pos rfl]
  change (parts .blank fuel r >>= fun x => pure ([Part.quoted '\''] ++ x.1, x.2)) = _
  rw [h]
  rfl

/-- A text between single quotes is read as that text: where the quotes close, a quotation mark
follows behind a backslash, and they open again. -/
theorem parts_quoteInside (hrest : Ends rest) (cs : List Char) :
    ∃ s t, singleQuoted (quoteInside cs ++ '\'' :: rest) = some (s, t) ∧
      t.length ≤ (quoteInside cs ++ rest).length ∧
      ∀ fuel, t.length < fuel →
        ∃ w, parts .blank fuel t = .ok (w, rest) ∧ Spells (s.map .quoted ++ w) cs := by
  induction cs with
  | nil =>
    refine ⟨[], rest, rfl, Nat.le_refl _, fun fuel hf => ?_⟩
    exact ⟨[], parts_end hrest (Nat.zero_lt_of_lt hf), spells_nil⟩
  | cons c cs ih =>
    obtain ⟨s, t, hs, hlength, hw⟩ := ih
    by_cases hc : c = '\''
    · subst hc
      -- The quotes close here, and what follows is a quotation mark and a quoted text again.
      rw [quoteInside_quote_cons]
      refine ⟨[], '\\' :: '\'' :: '\'' :: (quoteInside cs ++ '\'' :: rest), rfl, ?_, ?_⟩
      · simp only [List.length_append, List.length_cons, List.length_nil]
        omega
      · intro fuel hf
        simp only [List.length_append, List.length_cons] at hf hlength
        obtain ⟨fuel, rfl⟩ : ∃ n, fuel = n + 2 := ⟨fuel - 2, by omega⟩
        obtain ⟨w, hw, hspells⟩ := hw fuel (by omega)
        exact ⟨_, parts_escaped (parts_single hs hw), hspells.quotes.quoted '\''⟩
    · rw [quoteInside_cons_ne hc]
      refine ⟨c :: s, t, ?_, Nat.le_succ_of_le hlength, fun fuel hf => ?_⟩
      · rw [List.cons_append, singleQuoted, if_neg hc, hs]
        rfl
      · obtain ⟨w, hw, hspells⟩ := hw fuel hf
        exact ⟨w, hw, hspells.quoted c⟩

theorem parts_all_plain (hrest : Ends rest) (hcs : ∀ c ∈ cs, c ∉ active)
    (hf : (cs ++ rest).length < fuel) :
    parts .blank fuel (cs ++ rest) = .ok (cs.map .plain, rest) := by
  induction cs generalizing fuel with
  | nil => exact parts_end hrest (Nat.zero_lt_of_lt hf)
  | cons c cs ih =>
    obtain ⟨hc, hcs⟩ := List.forall_mem_cons.1 hcs
    cases fuel with
    | zero => cases hf
    | succ fuel => exact parts_plain hc (ih hcs (Nat.lt_of_succ_lt_succ hf))

theorem spells_map_plain (hcs : ∀ c ∈ cs, c ∉ active) : Spells (cs.map .plain) cs := by
  induction cs with
  | nil => exact spells_nil
  | cons c cs ih =>
    obtain ⟨hc, hcs⟩ := List.forall_mem_cons.1 hcs
    exact (ih hcs).plain hc

/-- A quoted word is read up to its end. -/
theorem word_quoteChars (hrest : Ends rest) (cs : List Char) :
    ∃ w, word (quoteChars cs ++ rest) = .ok (w, rest) ∧ Written w cs := by
  unfold word quoteChars
  split
  · rename_i hplain
    have hcs : ∀ c ∈ cs, c ∉ active := fun c hc =>
      not_active_of_isPlain (List.all_eq_true.1 hplain.2 c hc)
    refine ⟨_, parts_all_plain hrest hcs (Nat.lt_succ_self _), spells_map_plain hcs, fun _ _ => rfl,
      fun hquoted => absurd hplain hquoted⟩
  · rename_i hquoted
    obtain ⟨s, t, hs, hlength, hw⟩ := parts_quoteInside hrest cs
    have htext : '\'' :: quoteInside cs ++ ['\''] ++ rest =
        '\'' :: (quoteInside cs ++ '\'' :: rest) := by simp
    rw [htext]
    obtain ⟨w, hw, hspells⟩ := hw ('\'' :: (quoteInside cs ++ '\'' :: rest)).length (by
      simp only [List.length_append, List.length_cons] at hlength ⊢
      omega)
    exact ⟨_, parts_single hs hw, hspells.quotes, fun hne hplain => absurd ⟨hne, hplain⟩ hquoted,
      fun _ => ⟨_, rfl⟩⟩

theorem operator?_eq_none (h : c ∉ ['&', '|', ';', '(', ')']) (r : List Char) :
    operator? (c :: r) = none := by
  unfold operator?
  split <;> simp_all

theorem redirection?_eq_none (h : c ≠ '<' ∧ c ≠ '>') (r : List Char) :
    redirection? (c :: r) = none := by
  unfold redirection?
  split <;> simp_all

theorem descriptor?_eq (h : c.isDigit = true → ∀ d ∈ r.head?, d ≠ '<' ∧ d ≠ '>') :
    descriptor? (c :: r) = (none, c :: r) := by
  cases r with
  | nil => rfl
  | cons d r =>
    dsimp only [descriptor?]
    split_ifs with hd
    · simp only [Bool.and_eq_true, Bool.or_eq_true, decide_eq_true_eq] at hd
      have hne := h hd.1 d rfl
      exact (hd.2.elim hne.1 hne.2).elim
    · rfl

theorem tokensFrom_word (hc : c ∉ active ∨ c = '\'')
    (hr : c.isDigit = true → ∀ d ∈ r.head?, d ≠ '<' ∧ d ≠ '>')
    (hw : word (c :: r) = .ok (w, rest)) (fuel line jump : Nat) :
    ∃ line', tokensFrom (fuel + 1) line jump (c :: r) =
      ⟨.word w, line'⟩ :: tokensFrom fuel line' jump rest := by
  have hne {d : Char} (hd : d ∈ active) (hquote : d ≠ '\'') : c ≠ d := by
    rcases hc with hc | rfl
    · exact ne_of_not_active hc hd
    · exact hquote.symm
  have hblank : isBlank c = false := by
    simp [isBlank, hne (d := ' ') (by decide) (by decide), hne (d := '\t') (by decide) (by decide)]
  have hoperator : c ∉ ['&', '|', ';', '(', ')'] := by
    intro hmem
    have hall : ['&', '|', ';', '(', ')'].all (fun d => decide (d ∈ active ∧ d ≠ '\'')) = true := by
      decide
    have hoperator := of_decide_eq_true (List.all_eq_true.1 hall c hmem)
    exact hne hoperator.1 hoperator.2 rfl
  have hless : c ≠ '<' := hne (by decide) (by decide)
  have hmore : c ≠ '>' := hne (by decide) (by decide)
  refine ⟨line + newlines ((c :: r).take (r.length + 1 - rest.length)), ?_⟩
  -- Nothing but a word begins with such a character.
  rw [tokensFrom.eq_def]
  dsimp only
  rw [hblank, if_neg Bool.false_ne_true, if_neg (hne (by decide) (by decide)),
    if_neg (hne (by decide) (by decide)),
    if_neg (by simp [hne (d := '\\') (by decide) (by decide)]), operator?_eq_none hoperator,
    descriptor?_eq hr]
  dsimp only
  rw [redirection?_eq_none ⟨hless, hmore⟩]
  split
  · rename_i heq
    cases heq
  · rename_i heq
    exact absurd (List.cons.inj heq).1 hless
  · rw [hw]

theorem head_quoteChars (hrest : Ends rest) (cs : List Char) :
    ∃ c r, quoteChars cs ++ rest = c :: r ∧ (c ∉ active ∨ c = '\'') ∧
      (c.isDigit = true → ∀ d ∈ r.head?, d ≠ '<' ∧ d ≠ '>') := by
  unfold quoteChars
  split
  · rename_i hplain
    obtain ⟨c, ds, rfl⟩ := List.exists_cons_of_ne_nil hplain.1
    have hinert : ∀ d ∈ c :: ds, d ∉ active := fun d hd =>
      not_active_of_isPlain (List.all_eq_true.1 hplain.2 d hd)
    refine ⟨c, ds ++ rest, rfl, .inl (hinert c List.mem_cons_self), fun _ d hd => ?_⟩
    -- Another character of the word follows, or the blank behind it.
    cases ds with
    | nil =>
      rcases hrest with rfl | ⟨r, rfl⟩
      · cases hd
      · obtain rfl := Option.some.inj hd
        decide
    | cons e ds =>
      obtain rfl := Option.some.inj hd
      have he := hinert e (List.mem_cons_of_mem c List.mem_cons_self)
      exact ⟨ne_of_not_active he (by decide), ne_of_not_active he (by decide)⟩
  · exact ⟨'\'', _, rfl, .inr rfl, fun hdigit => absurd hdigit (by decide)⟩

theorem tokensFrom_quoteChars (hrest : Ends rest) (cs : List Char) (fuel line jump : Nat) :
    ∃ w line', tokensFrom (fuel + 1) line jump (quoteChars cs ++ rest) =
      ⟨.word w, line'⟩ :: tokensFrom fuel line' jump rest ∧ Written w cs := by
  obtain ⟨w, hw, hwritten⟩ := word_quoteChars hrest cs
  obtain ⟨c, r, htext, hc, hr⟩ := head_quoteChars hrest cs
  rw [htext] at hw ⊢
  obtain ⟨line', htokens⟩ := tokensFrom_word hc hr hw fuel line jump
  exact ⟨w, line', htokens, hwritten⟩

theorem ends_flatMap (words : List (List Char)) : Ends (words.flatMap (' ' :: quoteChars ·)) := by
  cases words with
  | nil => exact .inl rfl
  | cons cs words => exact .inr ⟨_, rfl⟩

theorem quoteChars_ne_nil (cs : List Char) : quoteChars cs ≠ [] := by
  unfold quoteChars
  split
  · rename_i hplain
    exact hplain.1
  · exact List.cons_ne_nil _ _

theorem tokensFrom_words (words : List (List Char)) :
    ∀ fuel line jump, (words.flatMap (' ' :: quoteChars ·)).length ≤ fuel →
      ∃ ws : List Word,
        (tokensFrom fuel line jump (words.flatMap (' ' :: quoteChars ·))).map Lexeme.token =
          ws.map Token.word ++ [.finish] ∧ List.Forall₂ Written ws words := by
  induction words with
  | nil =>
    intro fuel line jump _
    refine ⟨[], ?_, .nil⟩
    rw [tokensFrom.eq_def]
    cases fuel <;> rfl
  | cons cs words ih =>
    intro fuel line jump hf
    have hpos := List.length_pos_iff.2 (quoteChars_ne_nil cs)
    simp only [List.flatMap_cons, List.length_append, List.length_cons] at hf
    obtain ⟨fuel, rfl⟩ : ∃ n, fuel = n + 2 := ⟨fuel - 2, by omega⟩
    obtain ⟨w, line', hw, hwritten⟩ :=
      tokensFrom_quoteChars (ends_flatMap words) cs fuel line jump
    obtain ⟨ws, hws, hall⟩ := ih fuel line' jump (by omega)
    have hblank (r : List Char) : tokensFrom (fuel + 2) line jump (' ' :: r) =
        tokensFrom (fuel + 1) line jump r := by
      rw [tokensFrom.eq_def]
      rfl
    refine ⟨w :: ws, ?_, .cons hwritten hall⟩
    rw [List.flatMap_cons, List.cons_append, hblank, hw, List.map_cons, hws]
    rfl

/-- Words that are put together to a command line are its tokens. -/
theorem tokens_commandLine (text : String) (words : List String) :
    ∃ (w : Word) (ws : List Word),
      (tokens (commandLine (text :: words)).toList).map Lexeme.token =
        Token.word w :: ws.map Token.word ++ [.finish] ∧
      Written w text.toList ∧ List.Forall₂ (fun w text => Written w text.toList) ws words := by
  have htext : (commandLine (text :: words)).toList = quoteChars text.toList ++
      (words.map String.toList).flatMap (' ' :: quoteChars ·) := by
    rw [toList_commandLine, List.map_cons, intercalate_cons, List.flatMap_map, List.flatMap_map]
  obtain ⟨w, line, hw, hwritten⟩ := tokensFrom_quoteChars
    (ends_flatMap (words.map String.toList)) text.toList (commandLine (text :: words)).toList.length
    1 0
  obtain ⟨ws, hws, hall⟩ := tokensFrom_words (words.map String.toList)
    (commandLine (text :: words)).toList.length line 0 (by
      rw [htext, List.length_append]
      exact Nat.le_add_left _ _)
  refine ⟨w, ws, ?_, hwritten, List.forall₂_map_right_iff.1 hall⟩
  rw [← htext] at hw
  rw [tokens, hw, List.map_cons, hws]
  rfl

/-- A command is pasted into a shell as it is: its text is read as its words, one token for each,
and nothing in them is expanded, matched, or taken for an operator or a comment. -/
theorem tokens_rendered (c : Tool.Command) :
    ∃ ws : List Word,
      (tokens c.rendered.toList).map Lexeme.token = ws.map Token.word ++ [.finish] ∧
      List.Forall₂ (fun w text => Spells w text.toList) ws c.words := by
  obtain ⟨w, ws, htokens, hw, hws⟩ := tokens_commandLine c.program.text c.arguments
  exact ⟨w :: ws, htokens, .cons hw.toSpells (hws.imp fun _ _ h => h.toSpells)⟩

end DumpWorkbench.Shell
