import DumpWorkbench.Console
import DumpWorkbench.Proofs.Json.Pretty
import DumpWorkbench.Proofs.Json.Stream
import DumpWorkbench.Proofs.Report.Decode

namespace DumpWorkbench

open Json (Document Fits Members Numeral Value maxDepth)

/-- What a document says. -/
inductive Statement where
  | message (level text time : String)
  | suggestion (text : String)
  | plan (title : String) (entries : List (String × String))
  | report (name : String) (base : RawPath) (started : String) (records : List Record)
  | nothing

namespace Statement

def message? (v : Value) : Option Statement := do
  return .message (← v.text? "level") (← v.text? "message") (← v.text? "timestamp")

def suggestion? (v : Value) : Option Statement := do
  return .suggestion (← v.text? "message")

def plan? (v : Value) : Option Statement := do
  let entries ← (v.member? "entries").bind Value.members?
  return .plan (← v.text? "title") (← entries.mapM fun (key, w) => w.string?.map (key, ·))

def report? (v : Value) : Option Statement := do
  let operations ← (v.member? "operations").bind Value.items?
  return .report (← v.text? "bin_name") (.ofText (← v.text? "base_dir")) (← v.text? "started_at")
    (← operations.mapM Record.ofValue?)

/-- The type of a document tells what else it holds. Only a report has none, and what stands for a
report of which nothing can be said. -/
def ofValue? (v : Value) : Option Statement :=
  match v.text? "type" with
  | some kind =>
    if kind = "message" then message? v
    else if kind = "suggestion" then suggestion? v
    else if kind = "plan" then plan? v
    else none
  | none =>
    match v with
    | .object [] => some .nothing
    | _ => report? v

end Statement

namespace Notice

/-- The entries of a plan have different keys, and the numbers of a report are those of a
machine. -/
def Printable : Notice → Prop
  | .plan _ entries => (entries.map Prod.fst).Nodup
  | .report r => ∀ record ∈ r.records, record.Measured
  | _ => True

/-- What a notice says. Quietness suppresses all but errors, plans and reports. The entries of a
plan come in the order of their keys, and a report says nothing if one of its paths is no text. -/
def statements (quiet : Bool) (now : Timestamp) : Notice → List Statement
  | .success text => if quiet then [] else [.message "success" text now.offsetText]
  | .error text => [.message "error" text now.offsetText]
  | .warning text => if quiet then [] else [.message "warning" text now.offsetText]
  | .info text => if quiet then [] else [.message "info" text now.offsetText]
  | .start text => if quiet then [] else [.message "operation_start" text now.offsetText]
  | .header _ => []
  | .separator => []
  | .failure f => [.message "error" f.headline now.offsetText, .suggestion f.suggestion]
  | .plan title entries => [.plan title (entries.mergeSort fun a b => a.1 ≤ b.1)]
  | .report r => if r.isText then [.report r.name r.base r.started.text r.records] else [.nothing]

end Notice

namespace Console

variable {c : Console} {st : Statement} {ms : Members} {v : Value} {n : Notice}

/-- A line on the standard output holds a document that says something. -/
def Says (line : Channel × String) (st : Statement) : Prop :=
  line.1 = .stdout ∧ ∃ text v, line.2 = text ++ "\n" ∧
    Document (Numeral.Denotes .quick) v (Utf8.encode text) ∧ Statement.ofValue? v = some st

theorem says_compact (hfits : Fits Json.Number.Whole maxDepth (.object ms))
    (hst : Statement.ofValue? (Value.object ms).sorted = some st) :
    List.Forall₂ Says (document ms) [st] := by
  refine .cons ⟨rfl, _, _, rfl, ?_, hst⟩ .nil
  rw [Utf8.encode, Value.compact, String.toList_ofList]
  exact Json.padded_bare (Json.text_compact (hfits.sorted.mono fun _ hn => hn.spelled .quick))

theorem says_pretty (hfits : Fits Json.Number.Whole maxDepth v)
    (hst : Statement.ofValue? v = some st) :
    List.Forall₂ Says (out v.pretty) [st] := by
  refine .cons ⟨rfl, _, _, rfl, ?_, hst⟩ .nil
  rw [Utf8.encode, Value.pretty, String.toList_ofList]
  exact Json.padded_bare (Json.text_pretty (hfits.mono fun _ hn => hn.spelled .quick) 0)

theorem member?_sorted (h : (ms.map Prod.fst).Nodup) (key : String) :
    (Value.object ms).sorted.member? key = ((Value.object ms).member? key).map Value.sorted :=
  Json.get?_sortedMembers h key

theorem text?_sorted (h : (ms.map Prod.fst).Nodup) (key : String) :
    (Value.object ms).sorted.text? key = (Value.object ms).text? key := by
  have hstring (w : Value) : w.sorted.string? = w.string? := by cases w <;> rfl
  rw [Value.text?, member?_sorted h, Value.text?]
  cases (Value.object ms).member? key with
  | none => rfl
  | some w => exact hstring w

theorem says_message (now : Timestamp) (level text : String) :
    List.Forall₂ Says (messageDocument now level text)
      [.message level text now.offsetText] := by
  apply says_compact
  · apply Fits.object
    simp [Fits.string]
  · unfold Statement.ofValue? Statement.message?
    repeat rw [text?_sorted (by simp)]
    simp [Value.text?, member?_object, Json.get?_cons]

theorem says_suggestion (advice : String) :
    List.Forall₂ Says (document [("type", .string "suggestion"), ("message", .string advice)])
      [.suggestion advice] := by
  apply says_compact
  · apply Fits.object
    simp [Fits.string]
  · unfold Statement.ofValue? Statement.suggestion?
    repeat rw [text?_sorted (by simp)]
    simp [Value.text?, member?_object, Json.get?_cons]

def membersOf (entries : List (String × String)) : Members :=
  entries.map fun (key, text) => (key, .string text)

theorem keys_membersOf (entries : List (String × String)) :
    (membersOf entries).map Prod.fst = entries.map Prod.fst := by
  rw [membersOf, List.map_map]
  rfl

theorem mapM_membersOf (entries : List (String × String)) :
    (membersOf entries).mapM (fun (key, w) => w.string?.map (key, ·)) = some entries := by
  induction entries with
  | nil => rfl
  | cons e entries ih =>
    rw [membersOf, List.map_cons, List.mapM_cons, ← membersOf, ih]
    rfl

theorem sortedMembers_membersOf {entries : List (String × String)}
    (h : (entries.map Prod.fst).Nodup) :
    Json.sortedMembers (membersOf entries) =
      membersOf (entries.mergeSort fun a b => a.1 ≤ b.1) := by
  have hperm := List.mergeSort_perm entries fun a b => a.1 ≤ b.1
  have hle : (entries.mergeSort fun a b => a.1 ≤ b.1).Pairwise
      fun a b => decide (a.1 ≤ b.1) = true := by
    apply List.pairwise_mergeSort
    · intro a b c hab hbc
      simp only [decide_eq_true_eq] at hab hbc ⊢
      exact le_trans hab hbc
    · intro a b
      simpa using le_total a.1 b.1
  generalize entries.mergeSort (fun a b => decide (a.1 ≤ b.1)) = sorted at hperm hle ⊢
  have hkeys : (sorted.map Prod.fst).Nodup := (hperm.map Prod.fst).nodup_iff.2 h
  have hmembers : (membersOf sorted).Perm (membersOf entries) := hperm.map _
  rw [← Json.sortedMembers_of_perm hmembers (keys_membersOf sorted ▸ hkeys)]
  apply Json.sortedMembers_eq_self
  · -- Keys that do not descend and are different ascend.
    apply List.pairwise_map.2
    apply hle.imp₂ _ (List.pairwise_map.1 hkeys)
    intro a b hab hne
    exact lt_of_le_of_ne (of_decide_eq_true hab) hne
  · intro m hm
    obtain ⟨e, -, rfl⟩ := List.mem_map.1 hm
    rfl

theorem fits_membersOf (entries : List (String × String)) (n : Nat) :
    Fits Json.Number.Whole (n + 1) (.object (membersOf entries)) := by
  apply Fits.object
  intro m hm
  obtain ⟨e, -, rfl⟩ := List.mem_map.1 hm
  exact .string n e.2

theorem says_plan {entries : List (String × String)} (h : (entries.map Prod.fst).Nodup)
    (title : String) :
    List.Forall₂ Says (planDocument title entries)
      [.plan title (entries.mergeSort fun a b => a.1 ≤ b.1)] := by
  have hsorted : (Value.object (membersOf entries)).sorted.members? =
      some (membersOf (entries.mergeSort fun a b => a.1 ≤ b.1)) := by
    rw [← sortedMembers_membersOf h]
    rfl
  have hfits := fits_membersOf entries 125
  have hplan : planDocument title entries = document [("type", .string "plan"),
    ("title", .string title), ("entries", .object (membersOf entries))] := rfl
  rw [hplan]
  generalize Value.object (membersOf entries) = v at hsorted hfits ⊢
  apply says_compact
  · apply Fits.object
    simp [Fits.string, hfits]
  · unfold Statement.ofValue? Statement.plan?
    repeat rw [text?_sorted (by simp)]
    rw [member?_sorted (by simp)]
    simp [Value.text?, member?_object, Json.get?_cons, hsorted, mapM_membersOf]

theorem mapM_ofValue? {records : List Record} {vs : List Value}
    (h : ∀ record ∈ records, record.Measured) (hvs : records.mapM Record.value? = some vs) :
    vs.mapM Record.ofValue? = some records := by
  induction records generalizing vs with
  | nil =>
    obtain rfl := Option.some.inj hvs
    rfl
  | cons record records ih =>
    obtain ⟨hrecord, hrecords⟩ := List.forall_mem_cons.1 h
    rw [List.mapM_cons] at hvs
    obtain ⟨w, hw, hvs⟩ := Option.bind_eq_some_iff.1 hvs
    obtain ⟨ws, hws, hvs⟩ := Option.bind_eq_some_iff.1 hvs
    obtain rfl := Option.some.inj hvs
    rw [List.mapM_cons, Record.ofValue?_value hrecord hw, ih hrecords hws]
    rfl

theorem says_report {r : Report} (h : ∀ record ∈ r.records, record.Measured)
    (hv : r.value? = some v) :
    List.Forall₂ Says (out v.pretty) [.report r.name r.base r.started.text r.records] := by
  apply says_pretty (Report.fits_value h hv 123)
  obtain ⟨base, hbase, hrest⟩ := Option.bind_eq_some_iff.1 hv
  obtain ⟨vs, hvs, hvalue⟩ := Option.bind_eq_some_iff.1 hrest
  obtain rfl := Option.some.inj hvalue
  have hmember (key : String) (ms : Members) :
      (Value.object ms).member? key = Members.get? ms key := rfl
  have hrecords := mapM_ofValue? h hvs
  unfold Statement.ofValue? Statement.report?
  simp [Value.text?, hmember, Json.get?_cons, Json.get?_nil, hrecords,
    RawPath.ofText_of_text? hbase]

theorem says_nothing : List.Forall₂ Says (out (Value.object []).pretty) [.nothing] :=
  says_pretty (.object (List.forall_mem_nil _)) rfl

/-- No notice falls through to plain text: what is shown says what the notice says. -/
theorem says_notice (hmode : c.mode = .json) (now : Timestamp) (h : n.Printable) :
    List.Forall₂ Says (c.render now n) (n.statements c.quiet now) := by
  have hshows : c.shows 0 = !c.quiet := by simp [shows]
  have hlevel (level text : String) :
      List.Forall₂ Says (if !c.shows 0 then [] else messageDocument now level text)
        (if c.quiet then [] else [.message level text now.offsetText]) := by
    rw [hshows]
    cases c.quiet with
    | true => exact .nil
    | false => exact says_message now level text
  cases n with
  | success text =>
    simp only [render, success, hmode]
    exact hlevel "success" text
  | error text =>
    simp only [render, error, hmode]
    exact says_message now "error" text
  | warning text =>
    simp only [render, warning, hmode]
    exact hlevel "warning" text
  | info text =>
    simp only [render, info, hmode]
    exact hlevel "info" text
  | start text =>
    simp only [render, start, hmode]
    exact hlevel "operation_start" text
  | header title =>
    simp only [render, header, hmode, ite_self]
    exact .nil
  | separator =>
    simp only [render, separator, hmode, ite_self]
    exact .nil
  | failure f =>
    simp only [render, failure, error, hmode]
    exact List.rel_append (says_message now "error" f.headline) (says_suggestion f.suggestion)
  | plan title entries =>
    simp only [render, plan, hmode]
    exact says_plan h title
  | report r =>
    have htext := r.value?_isSome
    simp only [render, report, hmode, Report.value, Notice.statements]
    cases hv : r.value? with
    | none =>
      rw [hv] at htext
      rw [← htext]
      exact says_nothing
    | some v =>
      rw [hv] at htext
      rw [← htext]
      exact says_report h hv

/-- The bytes that lines put on a channel. -/
def written (channel : Channel) (lines : Lines) : Bytes :=
  (lines.filter (·.1 = channel)).flatMap fun line => Utf8.encode line.2

theorem written_cons_of_eq {line : Channel × String} {channel : Channel} (h : line.1 = channel)
    (lines : Lines) :
    written channel (line :: lines) = Utf8.encode line.2 ++ written channel lines := by
  rw [written, List.filter_cons_of_pos (by simpa using h), List.flatMap_cons]
  rfl

theorem written_stderr {lines : Lines} {statements : List Statement}
    (h : List.Forall₂ Says lines statements) : written .stderr lines = [] := by
  induction h with
  | nil => rfl
  | cons hline _ ih =>
    obtain ⟨hchannel, -⟩ := hline
    rw [written, List.filter_cons_of_neg (by simp [hchannel])]
    exact ih

/-- Documents one after the other are told apart by reading them. The induction is on the lines:
each ends with its line end, where the reader of the rest goes on. -/
theorem stream_written {lines : Lines} {statements : List Statement}
    (h : List.Forall₂ Says lines statements) :
    ∃ values, Json.stream (written .stdout lines) = .ok values ∧
      values.mapM Statement.ofValue? = some statements := by
  induction h with
  | nil => exact ⟨[], Json.stream_of_blank rfl, rfl⟩
  | cons hline _ ih =>
    obtain ⟨values, hvalues, hstatements⟩ := ih
    obtain ⟨hchannel, text, v, htext, hdocument, hst⟩ := hline
    have hbytes : Utf8.encode (text ++ "\n") = Utf8.encode text ++ [0x0A] := by
      rw [Utf8.encode, String.toList_append, Utf8.encodeChars_append]
      rfl
    refine ⟨v :: values, ?_, ?_⟩
    · rw [written_cons_of_eq hchannel, htext, hbytes, List.append_assoc, List.singleton_append,
        Json.stream_line hdocument, hvalues]
      rfl
    · rw [List.mapM_cons, hst, hstatements]
      rfl

theorem says_calls {calls : List (Timestamp × Notice)} (hmode : c.mode = .json)
    (hcalls : ∀ call ∈ calls, call.2.Printable) :
    List.Forall₂ Says (calls.flatMap fun (now, n) => c.render now n)
      (calls.flatMap fun (now, n) => n.statements c.quiet now) := by
  induction calls with
  | nil => exact .nil
  | cons call calls ih =>
    obtain ⟨hcall, hrest⟩ := List.forall_mem_cons.1 hcalls
    exact List.rel_append (says_notice hmode call.1 hcall) (ih hrest)

/-- In JSON mode nothing goes to the standard error, every line on the standard output is one
document, and the documents, read one after the other, say what the calls said. -/
theorem json_read_back (c : Console) (calls : List (Timestamp × Notice)) (hmode : c.mode = .json)
    (hcalls : ∀ call ∈ calls, call.2.Printable) :
    let lines := calls.flatMap fun (now, n) => c.render now n
    let statements := calls.flatMap fun (now, n) => n.statements c.quiet now
    written .stderr lines = [] ∧ List.Forall₂ Says lines statements ∧
    ∃ values, Json.stream (written .stdout lines) = .ok values ∧
      values.mapM Statement.ofValue? = some statements := by
  have hsays := says_calls hmode hcalls
  exact ⟨written_stderr hsays, hsays, stream_written hsays⟩

/-- A quiet console drops the message between a plan and two reports. It keeps the texts of the plan
and of the first report; the base directory of the second is no text. -/
theorem json_read_back_quiet :
    let c : Console := ⟨.json, 2, true, false⟩
    let artifact : RawPath := .ofText "/w\n\"x"
    let record : Record := ⟨.sift, .completed, ⟨1500000000⟩, 7, some (-1), some artifact, none⟩
    let calls := [(Timestamp.epoch, .plan "Plan" [("dump", "é\\"), ("base", "\t")]),
      (Timestamp.epoch, .success "done"),
      (Timestamp.epoch, .report ⟨"a", .ofText "/w", .epoch, [record]⟩),
      (Timestamp.epoch, .report ⟨"a", ⟨[0xFF]⟩, .epoch, [record]⟩)]
    ∃ values, Json.stream (written .stdout (calls.flatMap fun (now, n) => c.render now n)) =
        .ok values ∧
      values.mapM Statement.ofValue? = some [.plan "Plan" [("base", "\t"), ("dump", "é\\")],
        .report "a" (.ofText "/w") Timestamp.epoch.text [record], .nothing] := by
  intro c artifact record calls
  have hsort : [("dump", "é\\"), ("base", "\t")].mergeSort (fun a b => a.1 ≤ b.1) =
      [("base", "\t"), ("dump", "é\\")] := by
    simp [List.mergeSort]
  have hrecord : record.Measured :=
    ⟨by decide, by decide, by simp [record], by simp [record]⟩
  have hcalls : ∀ call ∈ calls, call.2.Printable := by
    simp [calls, Notice.Printable, hrecord]
  have htext : (Report.mk "a" (.ofText "/w") .epoch [record]).isText = true := by decide +kernel
  have hbytes : (Report.mk "a" ⟨[0xFF]⟩ .epoch [record]).isText = false := by decide +kernel
  obtain ⟨-, -, values, hvalues, hstatements⟩ := json_read_back c calls rfl hcalls
  refine ⟨values, hvalues, ?_⟩
  rw [hstatements]
  simp [calls, Notice.statements, c, hsort, htext, hbytes]

/-- Reports on directories whose names are no text are shown alike, and so are plans with the same
entries in another order. -/
theorem json_shown_alike :
    let c : Console := ⟨.json, 0, false, false⟩
    let report (base : RawPath) : Report := ⟨"a", base, .epoch, []⟩
    c.render .epoch (.report (report ⟨[0xFE]⟩)) = [(.stdout, "\x7b\x7d\n")] ∧
    c.render .epoch (.report (report ⟨[0xFF]⟩)) = [(.stdout, "\x7b\x7d\n")] ∧
    c.render .epoch (.plan "Plan" [("b", "1"), ("a", "2")]) =
      c.render .epoch (.plan "Plan" [("a", "2"), ("b", "1")]) := by
  exact ⟨by decide +kernel, by decide +kernel, by decide +kernel⟩

end Console
end DumpWorkbench
