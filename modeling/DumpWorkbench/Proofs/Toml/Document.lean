import DumpWorkbench.Proofs.Json.Digits
import DumpWorkbench.Toml.Reader
import Mathlib.Data.List.Nodup

namespace DumpWorkbench.Toml

open Json (ne_of_class)

variable {c : Char} {cs l r t : Chars} {es fs root : Entries} {name : String} {v : Value}
  {current : List String} {s s' s'' : State} {ls ls' : List Chars} {fuel : Nat}

theorem alter_new (h : name ∉ es.map Prod.fst) (change : Option Value → Option Value) :
    es.alter name change = (change none).map fun v => es ++ [(name, v)] := by
  induction es with
  | nil => rfl
  | cons e es ih =>
    obtain ⟨k, w⟩ := e
    rw [List.map_cons, List.mem_cons, not_or] at h
    rw [Entries.alter, if_neg (Ne.symm h.1), ih h.2, Option.map_map]
    rfl

theorem alter_last (h : name ∉ es.map Prod.fst) (change : Option Value → Option Value) :
    Entries.alter name change (es ++ [(name, v)]) =
      (change (some v)).map fun w => es ++ [(name, w)] := by
  induction es with
  | nil => exact if_pos rfl
  | cons e es ih =>
    obtain ⟨k, w⟩ := e
    rw [List.map_cons, List.mem_cons, not_or] at h
    rw [List.cons_append, Entries.alter, if_neg (Ne.symm h.1), ih h.2, Option.map_map]
    rfl

theorem openTable_new (h : name ∉ root.map Prod.fst) :
    root.openTable [] name = some (root ++ [(name, .table .header [])]) := by
  rw [Entries.openTable, Entries.within, alter_new h]
  rfl

theorem assign_last (hroot : name ∉ root.map Prod.fst) {key : String}
    (hkey : key ∉ fs.map Prod.fst) (v : Value) :
    State.assign ⟨root ++ [(name, .table .header fs)], [name]⟩ [] key v =
      some ⟨root ++ [(name, .table .header (fs ++ [(key, v)]))], [name]⟩ := by
  have hinsert : fs.insert [] key v .header = some (fs ++ [(key, v)]) := by
    simp [Entries.insert, Entries.within, alter_new hkey]
  rw [State.assign, Entries.within, alter_last hroot]
  simp [Entries.within, Entries.admits, hinsert]

/-- A key that stands without quotes. -/
structure Bare (name : String) : Prop where
  ne_nil : name.toList ≠ []
  keyChars : ∀ c ∈ name.toList, isKeyChar c = true

theorem bare_iff : (name.toList ≠ [] ∧ name.toList.all isKeyChar = true) ↔ Bare name :=
  ⟨fun h => ⟨h.1, List.all_eq_true.1 h.2⟩, fun h => ⟨h.ne_nil, List.all_eq_true.2 h.keyChars⟩⟩

instance (name : String) : Decidable (Bare name) := decidable_of_iff _ bare_iff

theorem Bare.head (h : Bare name) : ∃ c cs, name.toList = c :: cs ∧ isKeyChar c = true := by
  obtain ⟨c, cs, hcs⟩ := List.exists_cons_of_ne_nil h.ne_nil
  exact ⟨c, cs, hcs, h.keyChars c (hcs ▸ List.mem_cons_self)⟩

theorem skipBlanks_cons (hc : isBlank c = false) (r : Chars) : skipBlanks (c :: r) = c :: r := by
  simp [skipBlanks, hc]

theorem isBlank_of_isKeyChar (hc : isKeyChar c = true) : isBlank c = false := by
  have hspace := ne_of_class hc (b := ' ') rfl
  have htab := ne_of_class hc (b := '\t') rfl
  simp [isBlank, hspace, htab]

theorem keyPart_bare (h : Bare name) (hc : isKeyChar c = false) (r : Chars) :
    keyPart (name.toList ++ c :: r) = .ok (name, c :: r) := by
  have hend : ∀ d ∈ (c :: r).head?, isKeyChar d = false := by
    rintro _ ⟨⟩
    exact hc
  have htake : (name.toList ++ c :: r).takeWhile isKeyChar = name.toList :=
    Text.takeWhile_append_of_head h.keyChars hend
  have hdrop : (name.toList ++ c :: r).dropWhile isKeyChar = c :: r :=
    Text.dropWhile_append_of_head h.keyChars hend
  have hempty : name.toList.isEmpty = false := by
    simpa using h.ne_nil
  obtain ⟨d, ds, hds, hd⟩ := h.head
  unfold keyPart
  split
  · rename_i heq
    rw [hds] at heq
    exact absurd (List.cons.inj heq).1 (ne_of_class hd rfl)
  · rename_i heq
    rw [hds] at heq
    exact absurd (List.cons.inj heq).1 (ne_of_class hd rfl)
  · dsimp only
    rw [htake, hdrop, hempty, String.ofList_toList]
    rfl

theorem key_bare (h : Bare name) (hc : isKeyChar c = false) (hblanks : skipBlanks (c :: r) = t)
    (hdot : ∀ u, t ≠ '.' :: u) : key (name.toList ++ c :: r) = .ok (([], name), t) := by
  obtain ⟨d, ds, hds, hd⟩ := h.head
  have hskip : skipBlanks (name.toList ++ c :: r) = name.toList ++ c :: r := by
    rw [hds, List.cons_append, skipBlanks_cons (isBlank_of_isKeyChar hd)]
  have hparts : keyParts maxParts (name.toList ++ c :: r) = .ok ([name], t) := by
    rw [maxParts, keyParts, hskip, keyPart_bare h hc]
    dsimp only
    rw [hblanks]
    split
    · exact absurd rfl (hdot _)
    · rfl
  rw [key, hparts]
  rfl

/-- A key and a value, as they are written and as they are read. -/
structure Assignment where
  name : String
  form : Chars
  value : Value

namespace Assignment

def chars (a : Assignment) : Chars := a.name.toList ++ ' ' :: '=' :: ' ' :: (a.form ++ ['\n'])

/-- The key is a bare one, and what is written for the value is read as the value. -/
structure Valid (a : Assignment) : Prop where
  bare : Bare a.name
  begins : ∀ c ∈ a.form.head?, isBlank c = false
  reads : ∀ depth r, Toml.value depth (a.form ++ '\n' :: r) = .ok (a.value, '\n' :: r)

end Assignment

def header (name : String) : Chars := '[' :: (name.toList ++ [']', '\n'])

/-- The reader takes a line, and goes on in another state. -/
structure Line (s : State) (l : Chars) (s' : State) : Prop where
  ne_nil : l ≠ []
  reads : ∀ fuel r, statements (fuel + 1) s (l ++ r) = statements fuel s' r

theorem endOfLine_newline (r : Chars) : endOfLine ('\n' :: r) = .ok r := rfl

theorem line_blank (s : State) : Line s ['\n'] s := ⟨List.cons_ne_nil _ _, fun _ _ => rfl⟩

theorem line_of_statement (hl : l = c :: t) (hblank : isBlank c = false) (hcomment : c ≠ '#')
    (hn : c ≠ '\n') (hr : c ≠ '\r') (h : ∀ r, statement s (l ++ r) = .ok (s', r)) :
    Line s l s' := by
  refine ⟨hl ▸ List.cons_ne_nil _ _, fun fuel r => ?_⟩
  have hr := h r
  rw [hl, List.cons_append] at hr ⊢
  rw [statements, skipBlanks_cons hblank]
  dsimp only
  rw [if_neg (by tauto), hr]

theorem line_header (h : Bare name) (hroot : name ∉ root.map Prod.fst) (current : List String) :
    Line ⟨root, current⟩ (header name) ⟨root ++ [(name, .table .header [])], [name]⟩ := by
  have hhead : header name = '[' :: (name.toList ++ [']', '\n']) := rfl
  apply line_of_statement hhead rfl (by decide) (by decide) (by decide)
  intro r
  obtain ⟨c, cs, hcs, hc⟩ := h.head
  have hkey : key (name.toList ++ ']' :: '\n' :: r) = .ok (([], name), ']' :: '\n' :: r) :=
    key_bare h rfl (skipBlanks_cons rfl _) (by simp)
  have hbracket : c ≠ '[' := ne_of_class hc rfl
  have hline : header name ++ r = '[' :: (name.toList ++ ']' :: '\n' :: r) := by simp [header]
  rw [hline]
  -- A bare name begins with no bracket, so the header is a single one.
  unfold statement
  split
  · rename_i heq
    rw [hcs] at heq
    exact absurd (List.cons.inj (List.cons.inj heq).2).1 hbracket
  · rename_i heq
    obtain rfl := (List.cons.inj heq).2
    rw [hkey]
    simp only [openTable_new hroot, endOfLine_newline]
    rfl
  · rename_i hnot
    exact absurd rfl (hnot _)

theorem assignment_valid {a : Assignment} (h : a.Valid) (r : Chars) :
    assignment (value maxDepth) (a.chars ++ r) = .ok (([], a.name, a.value), '\n' :: r) := by
  have hline : a.chars ++ r =
      a.name.toList ++ ' ' :: ('=' :: ' ' :: (a.form ++ '\n' :: r)) := by
    simp [Assignment.chars]
  have hkey : key (a.name.toList ++ ' ' :: ('=' :: ' ' :: (a.form ++ '\n' :: r))) =
      .ok (([], a.name), '=' :: ' ' :: (a.form ++ '\n' :: r)) :=
    key_bare h.bare rfl rfl (by simp)
  have hskip : skipBlanks (' ' :: (a.form ++ '\n' :: r)) = a.form ++ '\n' :: r := by
    rw [skipBlanks, List.dropWhile_cons_of_pos rfl]
    cases hform : a.form with
    | nil => rfl
    | cons c cs => exact skipBlanks_cons (h.begins c (by rw [hform]; rfl)) _
  rw [hline, assignment, hkey]
  simp only [hskip, h.reads]
  rfl

theorem line_assignment {a : Assignment} (h : a.Valid) (hroot : name ∉ root.map Prod.fst)
    (hkey : a.name ∉ fs.map Prod.fst) :
    Line ⟨root ++ [(name, .table .header fs)], [name]⟩ a.chars
      ⟨root ++ [(name, .table .header (fs ++ [(a.name, a.value)]))], [name]⟩ := by
  obtain ⟨c, cs, hcs, hc⟩ := h.bare.head
  have hline : a.chars = c :: (cs ++ ' ' :: '=' :: ' ' :: (a.form ++ ['\n'])) := by
    simp [Assignment.chars, hcs]
  apply line_of_statement hline (isBlank_of_isKeyChar hc) (ne_of_class hc rfl)
    (ne_of_class hc rfl) (ne_of_class hc rfl)
  intro r
  have hassignment := assignment_valid h r
  have hbracket : c ≠ '[' := ne_of_class hc rfl
  rw [hline, List.cons_append] at hassignment ⊢
  unfold statement
  split
  · rename_i heq
    exact absurd (List.cons.inj heq).1 hbracket
  · rename_i heq
    exact absurd (List.cons.inj heq).1 hbracket
  · rw [hassignment]
    simp only [assign_last hroot hkey, endOfLine_newline]
    rfl

/-- Lines that are taken one after the other. -/
inductive Lines : State → List Chars → State → Prop
  | nil (s : State) : Lines s [] s
  | cons {s s' s'' : State} {l : Chars} {ls : List Chars} (h : Line s l s')
      (rest : Lines s' ls s'') : Lines s (l :: ls) s''

theorem Lines.append (h : Lines s ls s') (h' : Lines s' ls' s'') : Lines s (ls ++ ls') s'' := by
  induction h with
  | nil => exact h'
  | cons hl _ ih => exact .cons hl (ih h')

theorem Lines.length_le (h : Lines s ls s') : ls.length ≤ ls.flatten.length := by
  induction h with
  | nil => exact Nat.le_refl 0
  | cons hl _ ih =>
    have hpos := List.length_pos_iff.2 hl.ne_nil
    rw [List.flatten_cons, List.length_append, List.length_cons]
    omega

theorem Lines.statements_eq (h : Lines s ls s') (hfuel : ls.length < fuel) :
    statements fuel s ls.flatten = .ok s'.root := by
  induction h generalizing fuel with
  | nil s =>
    obtain ⟨fuel, rfl⟩ := Nat.exists_eq_succ_of_ne_zero (Nat.ne_of_gt hfuel)
    rfl
  | cons hl _ ih =>
    obtain ⟨fuel, rfl⟩ := Nat.exists_eq_succ_of_ne_zero (Nat.ne_of_gt (Nat.zero_lt_of_lt hfuel))
    rw [List.flatten_cons, hl.reads]
    exact ih (Nat.lt_of_succ_lt_succ hfuel)

/-- What the lines build is what the document holds. -/
theorem Lines.document_eq (h : Lines ⟨[], []⟩ ls s') (hmark : ls.flatten.head? ≠ some '\uFEFF') :
    document ls.flatten = .ok s'.root := by
  have hdrop : dropMark ls.flatten = ls.flatten := by
    unfold dropMark
    split
    · rename_i heq
      rw [heq] at hmark
      exact absurd rfl hmark
    · rfl
  rw [document, hdrop]
  exact h.statements_eq (Nat.lt_succ_of_le h.length_le)

def sectionLines (name : String) (as : List Assignment) : List Chars :=
  header name :: as.map Assignment.chars

theorem lines_assignments {as : List Assignment} (has : ∀ a ∈ as, a.Valid)
    (hroot : name ∉ root.map Prod.fst) (hkeys : (fs.map Prod.fst ++ as.map (·.name)).Nodup) :
    Lines ⟨root ++ [(name, .table .header fs)], [name]⟩ (as.map Assignment.chars)
      ⟨root ++ [(name, .table .header (fs ++ as.map fun a => (a.name, a.value)))], [name]⟩ := by
  induction as generalizing fs with
  | nil =>
    rw [List.map_nil, List.map_nil, List.append_nil]
    exact .nil _
  | cons a as ih =>
    obtain ⟨ha, has⟩ := List.forall_mem_cons.1 has
    have hkey : a.name ∉ fs.map Prod.fst := by
      intro hmem
      exact List.disjoint_of_nodup_append hkeys hmem List.mem_cons_self
    have hkeys' : ((fs ++ [(a.name, a.value)]).map Prod.fst ++ as.map (·.name)).Nodup := by
      simpa using hkeys
    have hrest := ih has hkeys'
    rw [List.append_assoc] at hrest
    exact .cons (line_assignment ha hroot hkey) hrest

theorem lines_section {as : List Assignment} (h : Bare name) (has : ∀ a ∈ as, a.Valid)
    (hroot : name ∉ root.map Prod.fst) (hkeys : (as.map (·.name)).Nodup)
    (current : List String) :
    Lines ⟨root, current⟩ (sectionLines name as)
      ⟨root ++ [(name, .table .header (as.map fun a => (a.name, a.value)))], [name]⟩ :=
  .cons (line_header h hroot current) (lines_assignments has hroot hkeys)

end DumpWorkbench.Toml
