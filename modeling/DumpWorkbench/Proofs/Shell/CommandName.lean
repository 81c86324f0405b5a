import DumpWorkbench.Proofs.Outcome
import DumpWorkbench.Proofs.Shell.Fields

namespace DumpWorkbench.Shell

variable {c d : Command} {w : Word} {ws : List Word} {ts rest : Lexemes} {s s' : Simple}
  {fuel line : Nat} {cs : List Char} {text : String}

def Command.isBare : Command → Bool
  | .simple [] _ _ _ => true
  | _ => false

def keywords : List String :=
  ["case", "do", "done", "elif", "else", "esac", "fi", "for", "if", "in", "then", "until", "while"]

/-- The text is a name, an equals sign and a value, none of which needs quotes. -/
def Assigns (text : String) : Prop :=
  text.toList.all isPlain = true ∧
    ∃ name value, isName name = true ∧ text.toList = name.toList ++ '=' :: value

/-- The text is read as one command, a simple one without assignments and redirections, and its
words stand for the given ones whatever shell it is run by. -/
def ReadsAs (text : String) (words : List String) : Prop :=
  ∃ ws line rest, commandLine? (tokens text.toList) = .ok (some (.simple [] ws [] line), rest) ∧
    isFinished rest = true ∧
    ∀ {m : Type → Type} [Monad m] [LawfulMonad m] [Files m] (capture : Capture m),
      commandFields capture [] ws = pure words

def AreWords (ts : Lexemes) (ws : List Word) : Prop :=
  ts.map Lexeme.token = ws.map Token.word ++ [.finish]

theorem areWords_nil : AreWords ts [] ↔ ∃ line, ts = [⟨.finish, line⟩] := by
  unfold AreWords
  constructor
  · intro h
    obtain ⟨x, rfl, hx⟩ := List.map_eq_singleton_iff.1 h
    exact ⟨x.line, by rw [← hx]⟩
  · rintro ⟨line, rfl⟩
    rfl

theorem areWords_cons :
    AreWords ts (w :: ws) ↔ ∃ line r, ts = ⟨.word w, line⟩ :: r ∧ AreWords r ws := by
  unfold AreWords
  constructor
  · intro h
    obtain ⟨x, r, rfl, hx, hr⟩ := List.map_eq_cons_iff.1 h
    exact ⟨x.line, r, by rw [← hx], hr⟩
  · rintro ⟨line, r, rfl, hr⟩
    exact congrArg (Token.word w :: ·) hr

theorem next_word (keywords newlines : Bool) (w : Word) (line : Nat) (r : Lexemes) :
    next keywords newlines (⟨.word w, line⟩ :: r) =
      .ok ⟨(Token.word w).sign keywords, .word w, line, r⟩ := by
  cases newlines <;> rfl

theorem next_finish (keywords newlines : Bool) (line : Nat) :
    next keywords newlines [⟨.finish, line⟩] =
      .ok ⟨.finish, .finish, line, [⟨.finish, line⟩]⟩ := by
  cases newlines <;> rfl

theorem sign_of_not_isReserved (h : w.isReserved = false) : (Token.word w).sign true = .word := by
  simp [Token.sign, h]

theorem sign_of_isReserved (h : w.isReserved = true) :
    ∃ t, w.plain? = some t ∧ (Token.word w).sign true = .mark t := by
  obtain ⟨t, ht, -⟩ := (Option.any_eq_true _ _).1 h
  exact ⟨t, ht, by simp [Token.sign, h, ht]⟩

theorem simpleParts_words (hts : AreWords ts ws) (hne : s.words ≠ []) (hfuel : ws.length ≤ fuel) :
    ∃ line, simpleParts fuel s ts =
      .ok ({ s with words := s.words ++ ws }, [⟨.finish, line⟩]) := by
  induction ws generalizing fuel s ts with
  | nil =>
    obtain ⟨line, rfl⟩ := areWords_nil.1 hts
    rw [List.append_nil]
    cases fuel with
    | zero => exact ⟨line, rfl⟩
    | succ fuel =>
      refine ⟨line, ?_⟩
      rw [simpleParts, next_finish]
      rfl
  | cons w ws ih =>
    obtain ⟨line, r, rfl, hr⟩ := areWords_cons.1 hts
    cases fuel with
    | zero => cases hfuel
    | succ fuel =>
      have hempty : s.words.isEmpty = false := by simpa using hne
      obtain ⟨line', hparts⟩ := ih (s := { s with words := s.words ++ [w] }) hr (by simp)
        (Nat.le_of_succ_le_succ hfuel)
      refine ⟨line', ?_⟩
      rw [simpleParts, next_word]
      dsimp only [bind, Except.bind]
      rw [hempty, if_neg Bool.false_ne_true]
      dsimp only
      rw [hparts, List.append_assoc, List.singleton_append]

theorem simple_words (hts : AreWords ts (w :: ws)) (hw : w.assignment? = none) (fuel line : Nat) :
    ∃ line', simple (fuel + 1) line ts =
      .ok (.simple [] (w :: ws) [] line, [⟨.finish, line'⟩]) := by
  obtain ⟨line₀, r, rfl, hr⟩ := areWords_cons.1 hts
  have hlength : r.length = ws.length + 1 := by simpa using congrArg List.length hr
  obtain ⟨line', hparts⟩ := simpleParts_words (s := { words := [w] }) hr (List.cons_ne_nil _ _)
    (show ws.length ≤ r.length + 1 by omega)
  have hall : simpleParts (r.length + 2) {} (⟨.word w, line₀⟩ :: r) =
      .ok ({ words := w :: ws }, [⟨.finish, line'⟩]) := by
    rw [simpleParts, next_word]
    dsimp only [bind, Except.bind]
    rw [List.isEmpty_nil, if_pos rfl, hw]
    exact hparts
  refine ⟨line', ?_⟩
  rw [simple, List.length_cons, hall]
  cases ws with
  | nil => rfl
  | cons v ws => rfl

/-- A command line whose first word is not a reserved one and sets nothing is a simple command. -/
theorem commandLine?_words (hts : AreWords ts (w :: ws)) (hreserved : w.isReserved = false)
    (hw : w.assignment? = none) :
    ∃ line line', commandLine? ts =
      .ok (some (.simple [] (w :: ws) [] line), [⟨.finish, line'⟩]) := by
  obtain ⟨line, r, rfl, hr⟩ := areWords_cons.1 hts
  have hsign := sign_of_not_isReserved hreserved
  obtain ⟨fuel, hfuel⟩ : ∃ n, 8 * (r.length + 1) + 8 = n + 5 := ⟨8 * r.length + 11, by omega⟩
  obtain ⟨line', hsimple⟩ := simple_words hts hw fuel line
  have hcommand : command (fuel + 2) (⟨.word w, line⟩ :: r) =
      .ok (.simple [] (w :: ws) [] line, [⟨.finish, line'⟩]) := by
    rw [command, next_word, hsign]
    exact hsimple
  have hstages : stages (fuel + 3) (⟨.word w, line⟩ :: r) =
      .ok (.simple [] (w :: ws) [] line, [⟨.finish, line'⟩]) := by
    rw [stages, hcommand]
    rfl
  have hpipeline : pipeline (fuel + 4) (⟨.word w, line⟩ :: r) =
      .ok (.simple [] (w :: ws) [] line, [⟨.finish, line'⟩]) := by
    rw [pipeline, next_word, hsign]
    exact hstages
  have handOr : andOr (fuel + 5) (⟨.word w, line⟩ :: r) =
      .ok (.simple [] (w :: ws) [] line, [⟨.finish, line'⟩]) := by
    rw [andOr, hpipeline]
    rfl
  refine ⟨line, line', ?_⟩
  rw [commandLine?, List.length_cons, hfuel, commandsOfLine, next_word, hsign]
  dsimp only [bind, Except.bind]
  rw [if_neg nofun, if_neg nofun, handOr]
  rfl

theorem isBare_simple {assignments : List (String × Word)} (h : assignments ≠ [])
    (redirects : List Redirect) :
    (Command.simple assignments ws redirects line).isBare = false := by
  cases assignments with
  | nil => exact absurd rfl h
  | cons a as => rfl

theorem simpleParts_assignments (h : simpleParts fuel s ts = .ok (s', rest))
    (hne : s.assignments ≠ []) : s'.assignments ≠ [] := by
  induction fuel generalizing s ts with
  | zero =>
    cases h
    exact hne
  | succ fuel ih =>
    rw [simpleParts] at h
    obtain ⟨n, -, h⟩ := bind_eq_ok.1 h
    split at h
    · split at h
      · exact ih h (by simp)
      · exact ih h hne
    · obtain ⟨x, -, h⟩ := bind_eq_ok.1 h
      split at h
      · exact ih h hne
      · cases h
        exact hne

theorem simple_assignment {a : String × Word} {line₀ : Nat} {r : Lexemes}
    (hw : w.assignment? = some a)
    (h : simple fuel line (⟨.word w, line₀⟩ :: r) = .ok (c, rest)) : c.isBare = false := by
  cases fuel with
  | zero =>
    rw [simple, next_word] at h
    cases h
  | succ fuel =>
    rw [simple] at h
    obtain ⟨⟨s, rest₁⟩, hparts, h⟩ := bind_eq_ok.1 h
    have hne : s.assignments ≠ [] := by
      rw [simpleParts, next_word] at hparts
      dsimp only [bind, Except.bind] at hparts
      rw [List.isEmpty_nil, if_pos rfl, hw] at hparts
      exact simpleParts_assignments hparts (List.cons_ne_nil _ _)
    obtain ⟨n, -, h⟩ := bind_eq_ok.1 h
    dsimp only at h
    split at h
    · rw [if_neg (by simp [hne])] at h
      cases h
      exact isBare_simple hne _
    · cases h
      exact isBare_simple hne _

theorem conditional_not_bare (h : conditional fuel ts = .ok (c, rest)) : c.isBare = false := by
  cases fuel with
  | zero =>
    rw [conditional] at h
    obtain ⟨n, -, h⟩ := bind_eq_ok.1 h
    cases h
  | succ fuel =>
    rw [conditional] at h
    obtain ⟨⟨condition, rest₁⟩, -, h⟩ := bind_eq_ok.1 h
    obtain ⟨⟨body, rest₂⟩, -, h⟩ := bind_eq_ok.1 h
    obtain ⟨n, -, h⟩ := bind_eq_ok.1 h
    split_ifs at h
    · obtain ⟨⟨otherwise, rest₃⟩, -, h⟩ := bind_eq_ok.1 h
      cases h
      rfl
    · obtain ⟨⟨otherwise, rest₃⟩, -, h⟩ := bind_eq_ok.1 h
      cases h
      rfl
    · cases h
      rfl
    · cases h

theorem looping_not_bare {goOn : Bool} (h : looping fuel goOn ts = .ok (c, rest)) :
    c.isBare = false := by
  cases fuel with
  | zero =>
    rw [looping] at h
    obtain ⟨n, -, h⟩ := bind_eq_ok.1 h
    cases h
  | succ fuel =>
    rw [looping] at h
    obtain ⟨⟨condition, rest₁⟩, -, h⟩ := bind_eq_ok.1 h
    obtain ⟨⟨body, rest₂⟩, -, h⟩ := bind_eq_ok.1 h
    cases h
    rfl

theorem each_not_bare (h : each fuel ts = .ok (c, rest)) : c.isBare = false := by
  cases fuel with
  | zero =>
    rw [each] at h
    obtain ⟨n, -, h⟩ := bind_eq_ok.1 h
    cases h
  | succ fuel =>
    rw [each] at h
    obtain ⟨n, -, h⟩ := bind_eq_ok.1 h
    dsimp only at h
    split_ifs at h
    obtain ⟨opening, -, h⟩ := bind_eq_ok.1 h
    -- Wherever the values come from, the body follows.
    split_ifs at h
    all_goals
      obtain ⟨⟨values, rest₁⟩, -, h⟩ := bind_eq_ok.1 h
      obtain ⟨rest₂, -, h⟩ := bind_eq_ok.1 h
      obtain ⟨⟨body, rest₃⟩, -, h⟩ := bind_eq_ok.1 h
      cases h
      rfl

theorem redirected_not_bare {k : Nat} (hd : d.isBare = false)
    (h : (do
      let (rs, r) ← redirects k ts
      return (if rs.isEmpty then d else .redirected d rs line, r)) = .ok (c, rest)) :
    c.isBare = false := by
  obtain ⟨⟨rs, r⟩, -, h⟩ := bind_eq_ok.1 h
  cases h
  split_ifs
  · exact hd
  · rfl

/-- A reserved word makes another command than a simple one. -/
theorem command_mark {r : Lexemes} (hsign : (Token.word w).sign true = .mark text)
    (htext : text ≠ "\x7b") (h : command fuel (⟨.word w, line⟩ :: r) = .ok (c, rest)) :
    c.isBare = false := by
  cases fuel with
  | zero =>
    rw [command, next_word] at h
    cases h
  | succ fuel =>
    rw [command] at h
    obtain ⟨n, hn, h⟩ := bind_eq_ok.1 h
    rw [next_word, hsign] at hn
    obtain rfl := Except.ok.inj hn
    dsimp only at h
    split at h
    · rename_i heq
      cases heq
    · rename_i heq
      cases heq
    · obtain ⟨⟨body, rest₁⟩, -, h⟩ := bind_eq_ok.1 h
      obtain ⟨⟨rs, rest₂⟩, -, h⟩ := bind_eq_ok.1 h
      cases h
      rfl
    · rename_i heq
      exact absurd (Sign.mark.inj heq) htext
    · obtain ⟨⟨body, rest₁⟩, hbody, h⟩ := bind_eq_ok.1 h
      exact redirected_not_bare (conditional_not_bare hbody) h
    · obtain ⟨⟨body, rest₁⟩, hbody, h⟩ := bind_eq_ok.1 h
      exact redirected_not_bare (looping_not_bare hbody) h
    · obtain ⟨⟨body, rest₁⟩, hbody, h⟩ := bind_eq_ok.1 h
      exact redirected_not_bare (looping_not_bare hbody) h
    · obtain ⟨⟨body, rest₁⟩, hbody, h⟩ := bind_eq_ok.1 h
      exact redirected_not_bare (each_not_bare hbody) h
    · obtain ⟨subject, -, h⟩ := bind_eq_ok.1 h
      split at h
      · obtain ⟨opening, -, h⟩ := bind_eq_ok.1 h
        split_ifs at h
        · obtain ⟨⟨cs, rest₁⟩, -, h⟩ := bind_eq_ok.1 h
          exact redirected_not_bare rfl h
        · cases h
      · cases h
    · cases h

/-- Whatever command is read from the tokens, it is not bare. -/
def NothingBare (ts : Lexemes) : Prop :=
  ∀ fuel c rest, command fuel ts = .ok (c, rest) → c.isBare = false

theorem NothingBare.stages (hts : NothingBare ts) (h : stages fuel ts = .ok (c, rest)) :
    c.isBare = false := by
  cases fuel with
  | zero =>
    rw [stages] at h
    obtain ⟨n, -, h⟩ := bind_eq_ok.1 h
    cases h
  | succ fuel =>
    rw [stages] at h
    obtain ⟨⟨d, rest₁⟩, hd, h⟩ := bind_eq_ok.1 h
    obtain ⟨n, -, h⟩ := bind_eq_ok.1 h
    split_ifs at h
    · obtain ⟨⟨cs, rest₂⟩, -, h⟩ := bind_eq_ok.1 h
      cases h
      rfl
    · cases h
      exact hts fuel _ _ hd

theorem NothingBare.pipeline (hts : NothingBare ts) (h : pipeline fuel ts = .ok (c, rest)) :
    c.isBare = false := by
  cases fuel with
  | zero =>
    rw [pipeline] at h
    obtain ⟨n, -, h⟩ := bind_eq_ok.1 h
    cases h
  | succ fuel =>
    rw [pipeline] at h
    obtain ⟨n, -, h⟩ := bind_eq_ok.1 h
    split_ifs at h
    · obtain ⟨⟨body, rest₁⟩, -, h⟩ := bind_eq_ok.1 h
      cases h
      rfl
    · exact hts.stages h

theorem andOrRest_not_bare (hc : c.isBare = false) (h : andOrRest fuel c ts = .ok (d, rest)) :
    d.isBare = false := by
  induction fuel generalizing c ts with
  | zero =>
    rw [andOrRest] at h
    cases h
    exact hc
  | succ fuel ih =>
    rw [andOrRest] at h
    obtain ⟨n, -, h⟩ := bind_eq_ok.1 h
    split_ifs at h
    · obtain ⟨⟨e, rest₁⟩, -, h⟩ := bind_eq_ok.1 h
      exact ih rfl h
    · obtain ⟨⟨e, rest₁⟩, -, h⟩ := bind_eq_ok.1 h
      exact ih rfl h
    · cases h
      exact hc

theorem NothingBare.andOr (hts : NothingBare ts) (h : andOr fuel ts = .ok (c, rest)) :
    c.isBare = false := by
  cases fuel with
  | zero =>
    rw [andOr] at h
    obtain ⟨n, -, h⟩ := bind_eq_ok.1 h
    cases h
  | succ fuel =>
    rw [andOr] at h
    obtain ⟨⟨d, rest₁⟩, hd, h⟩ := bind_eq_ok.1 h
    exact andOrRest_not_bare (hts.pipeline hd) h

/-- Behind a command that is not bare, the line stays one that is not. -/
theorem commandsOfLine_not_bare {turns : Nat} {o : Option Command} (hc : c.isBare = false)
    (h : commandsOfLine turns fuel (some c) ts = .ok (o, rest)) :
    ∃ d, o = some d ∧ d.isBare = false := by
  induction turns generalizing c ts with
  | zero =>
    rw [commandsOfLine] at h
    cases h
    exact ⟨c, rfl, hc⟩
  | succ turns ih =>
    rw [commandsOfLine] at h
    obtain ⟨n, -, h⟩ := bind_eq_ok.1 h
    split_ifs at h
    · cases h
      exact ⟨c, rfl, hc⟩
    · cases h
      exact ⟨c, rfl, hc⟩
    · obtain ⟨⟨d, rest₁⟩, -, h⟩ := bind_eq_ok.1 h
      obtain ⟨n', -, h⟩ := bind_eq_ok.1 h
      dsimp only at h
      split_ifs at h
      · exact ih rfl h
      · exact ih rfl h
      · cases h
        exact ⟨_, rfl, rfl⟩
      · cases h

theorem NothingBare.commandLine? {r : Lexemes} {o : Option Command}
    (hts : NothingBare (⟨.word w, line⟩ :: r))
    (h : commandLine? (⟨.word w, line⟩ :: r) = .ok (o, rest)) :
    ∃ d, o = some d ∧ d.isBare = false := by
  rw [Shell.commandLine?, commandsOfLine] at h
  obtain ⟨n, hn, h⟩ := bind_eq_ok.1 h
  rw [next_word] at hn
  obtain rfl := Except.ok.inj hn
  have hgoes : (Token.word w).sign true ≠ .newline ∧ (Token.word w).sign true ≠ .finish := by
    cases hw : w.isReserved with
    | false => simp [sign_of_not_isReserved hw]
    | true =>
      obtain ⟨t, -, hsign⟩ := sign_of_isReserved hw
      simp [hsign]
  rw [if_neg hgoes.1, if_neg hgoes.2] at h
  obtain ⟨⟨d, rest₁⟩, hd, h⟩ := bind_eq_ok.1 h
  obtain ⟨n, -, h⟩ := bind_eq_ok.1 h
  dsimp only at h
  split_ifs at h
  · exact commandsOfLine_not_bare rfl h
  · exact commandsOfLine_not_bare (hts.andOr hd) h
  · cases h
    exact ⟨d, rfl, hts.andOr hd⟩
  · cases h

theorem plain_injective : Function.Injective (List.map Part.plain) :=
  List.map_injective_iff.2 fun _ _ h => Part.plain.inj h

theorem Written.ne_nil (h : Written w cs) : w ≠ [] := by
  by_cases hplain : cs ≠ [] ∧ cs.all isPlain = true
  · rw [h.bare hplain.1 hplain.2]
    simpa using hplain.1
  · obtain ⟨v, rfl⟩ := h.enclosed hplain
    exact List.cons_ne_nil _ _

theorem Written.plain?_eq_some_iff {t : String} (h : Written w text.toList) :
    w.plain? = some t ↔ t = text ∧ text.toList ≠ [] ∧ text.toList.all isPlain = true := by
  rw [Shell.plain?_eq_some_iff]
  constructor
  · intro hw
    by_cases hplain : text.toList ≠ [] ∧ text.toList.all isPlain = true
    · rw [h.bare hplain.1 hplain.2] at hw
      exact ⟨String.toList_inj.1 (plain_injective hw).symm, hplain⟩
    · obtain ⟨v, rfl⟩ := h.enclosed hplain
      cases ht : t.toList <;> rw [ht] at hw <;> cases hw
  · rintro ⟨rfl, hne, hplain⟩
    exact h.bare hne hplain

theorem Written.isReserved_iff (h : Written w text.toList) :
    w.isReserved = true ↔ text ∈ keywords := by
  have hkeyword : ∀ t ∈ keywords, t.toList ≠ [] ∧ t.toList.all isPlain = true ∧ t ∈ reserved := by
    decide
  have hreserved : ∀ t ∈ reserved, t.toList.all isPlain = true → t ∈ keywords := by decide
  simp only [Word.isReserved, Option.any_eq_true, List.contains_iff_mem, h.plain?_eq_some_iff]
  constructor
  · rintro ⟨t, ⟨rfl, -, hplain⟩, hmem⟩
    exact hreserved t hmem hplain
  · intro hmem
    obtain ⟨hne, hplain, hmem⟩ := hkeyword text hmem
    exact ⟨text, ⟨rfl, hne, hplain⟩, hmem⟩

theorem Written.assignment?_isSome_iff (h : Written w text.toList) :
    w.assignment?.isSome = true ↔ Assigns text := by
  simp only [Option.isSome_iff_exists, Prod.exists, assignment?_eq_some_iff]
  by_cases hplain : text.toList ≠ [] ∧ text.toList.all isPlain = true
  · rw [h.bare hplain.1 hplain.2]
    constructor
    · rintro ⟨name, value, hw, hname⟩
      obtain ⟨ds, es, htext, hds, hes⟩ := List.map_eq_append_iff.1 hw
      obtain ⟨c, es, rfl, hc, -⟩ := List.map_eq_cons_iff.1 hes
      obtain rfl := Part.plain.inj hc
      exact ⟨hplain.2, name, es, hname, by rw [htext, plain_injective hds]⟩
    · rintro ⟨-, name, value, hname, htext⟩
      exact ⟨name, value.map .plain, by rw [htext, List.map_append]; rfl, hname⟩
  · obtain ⟨v, rfl⟩ := h.enclosed hplain
    refine iff_of_false ?_ ?_
    · rintro ⟨name, value, hw, -⟩
      cases hname : name.toList <;> rw [hname] at hw <;> cases hw
    · rintro ⟨hall, name, value, -, htext⟩
      exact hplain ⟨by simp [htext], hall⟩

theorem nothingBare_of_written {r : Lexemes} (hw : Written w text.toList)
    (h : text ∈ keywords ∨ Assigns text) : NothingBare (⟨.word w, line⟩ :: r) := by
  intro fuel c rest hc
  cases hreserved : w.isReserved with
  | true =>
    obtain ⟨t, ht, hsign⟩ := sign_of_isReserved hreserved
    obtain ⟨rfl, -, hplain⟩ := hw.plain?_eq_some_iff.1 ht
    refine command_mark hsign ?_ hc
    rintro rfl
    exact absurd hplain (by decide)
  | false =>
    have hassigns : Assigns text := h.resolve_left fun hmem => by
      rw [hw.isReserved_iff.2 hmem] at hreserved
      cases hreserved
    obtain ⟨a, ha⟩ := Option.isSome_iff_exists.1 (hw.assignment?_isSome_iff.2 hassigns)
    cases fuel with
    | zero =>
      rw [command, next_word] at hc
      cases hc
    | succ fuel =>
      rw [command, next_word, sign_of_not_isReserved hreserved] at hc
      exact simple_assignment ha hc

theorem not_readsAs {all words : List String} (h : text ∈ keywords ∨ Assigns text) :
    ¬ ReadsAs (commandLine (text :: words)) all := by
  obtain ⟨w, ws, htokens, hw, -⟩ := tokens_commandLine text words
  have hts : AreWords (tokens (commandLine (text :: words)).toList) (w :: ws) := htokens
  obtain ⟨line, r, htext, -⟩ := areWords_cons.1 hts
  rintro ⟨ws, line, rest, hline, -⟩
  rw [htext] at hline
  obtain ⟨d, hd, hnot⟩ := (nothingBare_of_written hw h).commandLine? hline
  obtain rfl := Option.some.inj hd
  cases hnot

theorem readsAs_commandLine {words : List String} (hkeyword : text ∉ keywords)
    (hassigns : ¬ Assigns text) : ReadsAs (commandLine (text :: words)) (text :: words) := by
  obtain ⟨w, ws, htokens, hw, hws⟩ := tokens_commandLine text words
  have hts : AreWords (tokens (commandLine (text :: words)).toList) (w :: ws) := htokens
  obtain ⟨line, line', hline⟩ := commandLine?_words hts
    (Bool.eq_false_iff.2 (mt hw.isReserved_iff.1 hkeyword))
    (Option.not_isSome_iff_eq_none.1 (mt hw.assignment?_isSome_iff.1 hassigns))
  refine ⟨w :: ws, line, _, hline, rfl, fun capture => ?_⟩
  exact commandFields_spelled capture (.cons ⟨hw.toSpells, hw.ne_nil⟩
    (hws.imp fun _ _ h => ⟨h.toSpells, h.ne_nil⟩)) []

/-- A rendered command is read by a shell as the command with its program and its arguments, unless
the program is a reserved word, or an assignment that needs no quotes. -/
theorem rendered_readsAs_iff (c : Tool.Command) : ReadsAs c.rendered c.words ↔
    c.program.text ∉ keywords ∧ ¬ Assigns c.program.text := by
  constructor
  · intro h
    exact ⟨fun hmem => not_readsAs (.inl hmem) h, fun hassigns => not_readsAs (.inr hassigns) h⟩
  · rintro ⟨hkeyword, hassigns⟩
    exact readsAs_commandLine hkeyword hassigns

/-- The first word is taken for an assignment, or begins another command. -/
theorem rendered_not_readsAs :
    ¬ ReadsAs (Tool.Command.rendered ⟨"radare2", ⟨"A=b"⟩, ["x"], .idle, false⟩) ["A=b", "x"] ∧
    ¬ ReadsAs (Tool.Command.rendered ⟨"radare2", ⟨"if"⟩, ["x"], .idle, false⟩) ["if", "x"] := by
  have hassigns : Assigns "A=b" := ⟨by decide, "A", ['b'], by decide, by decide⟩
  exact ⟨not_readsAs (.inr hassigns), not_readsAs (.inl (by decide))⟩

end DumpWorkbench.Shell
