import DumpWorkbench.Proofs.Json.Alike
import DumpWorkbench.Proofs.Json.RoundTrip
import DumpWorkbench.Report

namespace DumpWorkbench

open Json (Fits Members Value)

namespace Json.Value

def member? : Value → String → Option Value
  | .object ms, key => Members.get? ms key
  | _, _ => none

def members? : Value → Option Members
  | .object ms => some ms
  | _ => none

def items? : Value → Option (List Value)
  | .array vs => some vs
  | _ => none

def integer? : Value → Option Int
  | .number (.integer i) => some i
  | _ => none

def text? (v : Value) (key : String) : Option String := (v.member? key).bind string?

def word? (v : Value) (key : String) : Option Nat := (v.member? key).bind word64?

def optional? {α : Type} (read : Value → Option α) : Value → Option (Option α)
  | .null => some none
  | v => (read v).map some

def option? {α : Type} (v : Value) (key : String) (read : Value → Option α) : Option (Option α) :=
  (v.member? key).bind (optional? read)

end Json.Value

def Operation.ofKey? (key : String) : Option Operation := Operation.all.find? (·.key = key)

namespace Tool

def State.all : List State := [.idle, .running, .completed, .failed]

def State.ofKey? (key : String) : Option State := State.all.find? (·.key = key)

end Tool

def Duration.ofValue? (v : Value) : Option Duration := do
  let seconds ← v.word? "secs"
  let nanoseconds ← v.word? "nanos"
  return .of seconds nanoseconds

def Record.ofValue? (v : Value) : Option Record := do
  let operation ← Operation.ofKey? (← v.text? "kind")
  let state ← Tool.State.ofKey? (← v.text? "status")
  let elapsed ← Duration.ofValue? (← v.member? "duration")
  let captured ← v.word? "captured_bytes"
  let exitCode ← v.option? "exit_code" Value.integer?
  let artifact ← v.option? "artifact" fun p => p.string?.map RawPath.ofText
  let sections ← v.option? "sections" Value.word64?
  return { operation, state, elapsed, captured, exitCode, artifact, sections }

/-- The numbers of a record have the sizes that a machine gives them: lengths, counts and seconds
have 64 bits, and an exit code has 32 with its sign. -/
structure Record.Measured (r : Record) : Prop where
  seconds : r.elapsed.seconds < 2 ^ 64
  captured : r.captured < 2 ^ 64
  exitCode : ∀ code, r.exitCode = some code → -(2 ^ 31) ≤ code ∧ code < 2 ^ 31
  sections : ∀ n, r.sections = some n → n < 2 ^ 64

def Record.isText (r : Record) : Bool := r.artifact.all fun p => p.text?.isSome

def Report.isText (r : Report) : Bool := r.base.text?.isSome && r.records.all (·.isText)

variable {r : Record} {v : Value}

theorem RawPath.ofText_of_text? {p : RawPath} {s : String} (h : p.text? = some s) : ofText s = p :=
  congrArg RawPath.mk (Utf8.encode_of_decode? h)

theorem Record.value?_isSome (r : Record) : r.value?.isSome = r.isText := by
  unfold value? isText
  cases r.artifact with
  | none => rfl
  | some p => cases h : p.text? <;> simp [h]

theorem Report.value?_isSome (r : Report) : r.value?.isSome = r.isText := by
  have hrecords (records : List Record) :
      (records.mapM Record.value?).isSome = records.all (·.isText) := by
    induction records with
    | nil => rfl
    | cons record records ih =>
      rw [List.mapM_cons, List.all_cons, ← Record.value?_isSome, ← ih]
      cases record.value? <;> cases records.mapM Record.value? <;> rfl
  unfold value? isText
  rw [← hrecords]
  cases r.base.text? <;> cases r.records.mapM Record.value? <;> rfl

theorem Operation.ofKey?_key (o : Operation) : Operation.ofKey? o.key = some o := by
  cases o <;> decide

theorem Tool.State.ofKey?_key (s : Tool.State) : Tool.State.ofKey? s.key = some s := by
  cases s <;> decide

@[simp] theorem string?_string (s : String) : (Value.string s).string? = some s := rfl

@[simp] theorem items?_array (vs : List Value) : (Value.array vs).items? = some vs := rfl

theorem member?_object (ms : Members) (key : String) :
    (Value.object ms).member? key = Members.get? ms key := rfl

theorem word64?_ofNat {n : Nat} (h : n < 2 ^ 64) : (Value.ofNat n).word64? = some n := by
  have hwords : Number.words64 = 2 ^ 64 := rfl
  simp only [Value.ofNat, Value.word64?, hwords]
  rw [if_pos (by omega), Int.toNat_natCast]

theorem Duration.fraction_lt (d : Duration) : d.fraction < 2 ^ 64 :=
  Nat.lt_trans (Nat.mod_lt d.nanoseconds (by decide)) (by decide)

theorem word?_ofNat {v : Value} {key : String} {n : Nat} (h : v.member? key = some (.ofNat n))
    (hn : n < 2 ^ 64) : v.word? key = some n := by
  rw [Value.word?, h, Option.bind_some, word64?_ofNat hn]

theorem text?_string {v : Value} {key s : String} (h : v.member? key = some (.string s)) :
    v.text? key = some s := by
  rw [Value.text?, h, Option.bind_some, string?_string]

theorem Duration.ofValue?_value {d : Duration} (h : d.seconds < 2 ^ 64) :
    Duration.ofValue? d.value = some d := by
  have hseconds : d.value.word? "secs" = some d.seconds := by
    apply word?_ofNat _ h
    simp [Duration.value, member?_object, Json.get?_cons]
  have hnanos : d.value.word? "nanos" = some d.fraction := by
    apply word?_ofNat _ d.fraction_lt
    simp [Duration.value, member?_object, Json.get?_cons]
  have hsum : Duration.of d.seconds d.fraction = d := by
    rw [Duration.of, seconds, fraction, Nat.div_add_mod']
  simp [Duration.ofValue?, hseconds, hnanos, hsum]

theorem option?_optional {α : Type} {read : Value → Option α} {write : α → Value} {o : Option α}
    {v : Value} {key : String} (h : v.member? key = some (optional write o))
    (hread : ∀ a, o = some a → write a ≠ .null ∧ read (write a) = some a) :
    v.option? key read = some o := by
  rw [Value.option?, h, Option.bind_some]
  cases o with
  | none => rfl
  | some a =>
    obtain ⟨hnull, ha⟩ := hread a rfl
    rw [optional]
    unfold Value.optional?
    split
    · exact absurd ‹_› hnull
    · rw [ha, Option.map_some]

/-- A record is read from any value with its members, in whatever order they stand. -/
theorem Record.ofValue?_eq {w : Value} {artifact : Option String} (h : r.Measured)
    (hkind : v.member? "kind" = some (.string r.operation.key))
    (hstatus : v.member? "status" = some (.string r.state.key))
    (hduration : v.member? "duration" = some w) (helapsed : Duration.ofValue? w = some r.elapsed)
    (hcaptured : v.member? "captured_bytes" = some (.ofNat r.captured))
    (hcode : v.member? "exit_code" = some (optional .ofInt r.exitCode))
    (hartifact : v.member? "artifact" = some (optional .string artifact))
    (htext : artifact.map RawPath.ofText = r.artifact)
    (hsections : v.member? "sections" = some (optional .ofNat r.sections)) :
    Record.ofValue? v = some r := by
  have hcode' : v.option? "exit_code" Value.integer? = some r.exitCode :=
    option?_optional hcode fun _ _ => ⟨nofun, rfl⟩
  have hartifact' : v.option? "artifact" (fun p => p.string?.map RawPath.ofText) =
      some r.artifact := by
    rw [Value.option?, hartifact, Option.bind_some, ← htext]
    cases artifact <;> rfl
  have hsections' : v.option? "sections" Value.word64? = some r.sections :=
    option?_optional hsections fun n hn => ⟨nofun, word64?_ofNat (h.sections n hn)⟩
  simp [Record.ofValue?, text?_string hkind, text?_string hstatus, hduration,
    word?_ofNat hcaptured h.captured, hcode', hartifact', hsections', Operation.ofKey?_key,
    Tool.State.ofKey?_key, helapsed]

theorem artifact_of_text {o : Option RawPath} {artifact : Option String}
    (h : o.mapM RawPath.text? = some artifact) : artifact.map RawPath.ofText = o := by
  cases o with
  | none =>
    obtain rfl := Option.some.inj h
    rfl
  | some p =>
    obtain ⟨s, hs, rfl⟩ := Option.map_eq_some_iff.1 h
    exact congrArg some (RawPath.ofText_of_text? hs)

theorem Record.ofValue?_value (h : r.Measured) (hv : r.value? = some v) :
    Record.ofValue? v = some r := by
  obtain ⟨artifact, hartifact, hvalue⟩ := Option.bind_eq_some_iff.1 hv
  obtain rfl := Option.some.inj hvalue
  have hmember (key : String) (ms : Members) :
      (Value.object ms).member? key = Members.get? ms key := rfl
  refine Record.ofValue?_eq h ?_ ?_ ?_ (Duration.ofValue?_value h.seconds) ?_ ?_ ?_
    (artifact_of_text hartifact) ?_
  all_goals simp [hmember, Json.get?_cons]

theorem fits_ofNat {n : Nat} (h : n < 2 ^ 64) (depth : Nat) :
    Fits Json.Number.Whole depth (.ofNat n) := by
  refine Fits.number _ ⟨⟨?_, ?_⟩, _, rfl⟩
  · omega
  · exact_mod_cast h

theorem fits_optional {α : Type} {S : Json.Number → Prop} {write : α → Value} {o : Option α}
    {depth : Nat} (h : ∀ a, o = some a → Fits S depth (write a)) :
    Fits S depth (optional write o) := by
  cases o with
  | none => exact .null depth
  | some a => exact h a rfl

theorem Duration.fits_value {d : Duration} (h : d.seconds < 2 ^ 64) (depth : Nat) :
    Fits Json.Number.Whole (depth + 1) d.value := by
  apply Fits.object
  simp [fits_ofNat h, fits_ofNat d.fraction_lt]

theorem Record.fits_value (h : r.Measured) (hv : r.value? = some v) (depth : Nat) :
    Fits Json.Number.Whole (depth + 2) v := by
  obtain ⟨artifact, -, hvalue⟩ := Option.bind_eq_some_iff.1 hv
  obtain rfl := Option.some.inj hvalue
  have hcode : Fits Json.Number.Whole (depth + 1) (optional .ofInt r.exitCode) := by
    apply fits_optional
    intro code hcode
    obtain ⟨hlow, hhigh⟩ := h.exitCode code hcode
    refine Fits.number _ ⟨⟨?_, ?_⟩, _, rfl⟩ <;> omega
  have hartifact : Fits Json.Number.Whole (depth + 1) (optional .string artifact) :=
    fits_optional fun s _ => .string _ s
  have hsections : Fits Json.Number.Whole (depth + 1) (optional .ofNat r.sections) :=
    fits_optional fun n hn => fits_ofNat (h.sections n hn) _
  apply Fits.object
  simp [Fits.string, Duration.fits_value h.seconds, fits_ofNat h.captured, hcode, hartifact,
    hsections]

theorem mem_of_mapM {records : List Record} {vs : List Value}
    (h : records.mapM Record.value? = some vs) (hv : v ∈ vs) :
    ∃ record ∈ records, record.value? = some v := by
  induction records generalizing vs with
  | nil =>
    obtain rfl := Option.some.inj h
    cases hv
  | cons record records ih =>
    rw [List.mapM_cons] at h
    obtain ⟨w, hw, h⟩ := Option.bind_eq_some_iff.1 h
    obtain ⟨ws, hws, h⟩ := Option.bind_eq_some_iff.1 h
    obtain rfl := Option.some.inj h
    obtain rfl | hv := List.mem_cons.1 hv
    · exact ⟨record, List.mem_cons_self, hw⟩
    · obtain ⟨found, hfound, hvalue⟩ := ih hws hv
      exact ⟨found, List.mem_cons_of_mem _ hfound, hvalue⟩

theorem Report.fits_value {r : Report} (h : ∀ record ∈ r.records, record.Measured)
    (hv : r.value? = some v) (depth : Nat) : Fits Json.Number.Whole (depth + 4) v := by
  obtain ⟨base, -, hv⟩ := Option.bind_eq_some_iff.1 hv
  obtain ⟨vs, hvs, hvalue⟩ := Option.bind_eq_some_iff.1 hv
  obtain rfl := Option.some.inj hvalue
  have hoperations : Fits Json.Number.Whole (depth + 3) (.array vs) := by
    apply Fits.array
    intro v hv
    obtain ⟨record, hrecord, hvalue⟩ := mem_of_mapM hvs hv
    exact Record.fits_value (h record hrecord) hvalue depth
  apply Fits.object
  simp [Fits.string, hoperations]

end DumpWorkbench
