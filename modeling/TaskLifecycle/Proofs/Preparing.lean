import TaskLifecycle.Proofs.Admission
import TaskLifecycle.Proofs.Json.Normal

/-!
# TaskLifecycle.Proofs.Preparing — drafts and updates that are prepared twice

Inputs are checked first and cleaned then.  A prepared input that comes in again passes its checks in the cleaned form and
has nothing left to clean.

* `Change.prepare_eq_ok_iff`, `Draft.prepare_eq_ok_iff`: when an update or a draft can be prepared, and what comes out.
* `Change.cleaned_cleaned`, `Change.isEmpty_cleaned`: a cleaned update is left as it is, and is empty if the update was.
* `prepare_prepared`: what has been prepared stays as it is; of a draft, where its addresses do.
-/

namespace TaskLifecycle

theorem Json.map_clean_map_clean (v : Option Json) : (v.map clean).map clean = v.map clean := by
  rw [Option.map_map]
  congr 1
  funext v
  exact clean_clean v

/-! ## Updates -/

namespace Change

variable {c d : Change}

theorem prepare_eq_ok_iff : c.prepare = .ok d ↔
    (Input.payload? "extracted_information" c.extract = .ok () ∧ entries? c.errors = .ok () ∧
      Input.steps c.maxSteps = .ok ()) ∧ d = c.cleaned := by
  constructor
  · intro h
    exact ⟨checks_of_prepare h, eq_cleaned h⟩
  · rintro ⟨⟨hextract, herrors, hsteps⟩, rfl⟩
    rw [prepare, hextract, herrors, hsteps]
    rfl

/-- Errors that pass their check pass it in the stored form. -/
theorem entries?_clean {errors : Option (List Json)} (h : entries? errors = .ok ()) :
    entries? (errors.map (·.map Json.clean)) = .ok () := by
  cases errors with
  | none => rfl
  | some vs =>
    have hvs : ∀ v ∈ vs, Input.IsEntry v := Input.entries_eq_ok_iff.mp h
    refine Input.entries_eq_ok_iff.mpr ?_
    rw [List.forall_mem_map]
    exact fun v hv => (hvs v hv).clean

theorem cleaned_cleaned (c : Change) : c.cleaned.cleaned = c.cleaned := by
  have herrors : (c.errors.map (·.map Json.clean)).map (·.map Json.clean) = c.errors.map (·.map Json.clean) := by
    cases c.errors with
    | none => rfl
    | some vs => simp [Json.clean_clean]
  show { c with extract := _, errors := _ } = { c with extract := _, errors := _ }
  rw [cleaned_extract, Json.map_clean_map_clean]
  exact congrArg (fun errors => { c with extract := c.extract.map Json.clean, errors }) herrors

theorem isEmpty_cleaned (c : Change) : c.cleaned.isEmpty = c.isEmpty := by
  simp [isEmpty, cleaned]

/-- A prepared update is prepared as it is. -/
theorem prepare_of_prepare (h : c.prepare = .ok d) : d.prepare = .ok d := by
  obtain ⟨⟨hextract, herrors, hsteps⟩, rfl⟩ := prepare_eq_ok_iff.mp h
  exact prepare_eq_ok_iff.mpr ⟨⟨Input.payload?_clean hextract, entries?_clean herrors, hsteps⟩,
    (cleaned_cleaned c).symm⟩

end Change

/-! ## Drafts -/

namespace Draft

variable {d e : Draft}

theorem prepare_eq_ok_iff : d.prepare = .ok e ↔
    ∃ url webhook, Input.url "url" d.url = .ok url ∧ webhookUrl d.webhook = .ok webhook ∧
      Input.payload? "navigation_payload" d.payload = .ok () ∧
      Input.payload? "extracted_information_schema" d.schema = .ok () ∧ Input.steps d.maxSteps = .ok () ∧
      e = { d with url, webhook, payload := d.payload.map Json.clean, schema := d.schema.map Json.clean } := by
  constructor
  · intro h
    obtain ⟨url, webhook, hurl, hwebhook, he⟩ := of_prepare_eq_ok h
    obtain ⟨hpayload, hschema, hsteps⟩ := checks_of_prepare h
    exact ⟨url, webhook, hurl, hwebhook, hpayload, hschema, hsteps, he⟩
  · rintro ⟨url, webhook, hurl, hwebhook, hpayload, hschema, hsteps, rfl⟩
    rw [prepare, hurl, hwebhook, hpayload, hschema, hsteps]
    rfl

/-- An optional address that is its own normal form. -/
theorem webhookUrl_eq_self {webhook : Option String} (h : ∀ w ∈ webhook, Input.url "webhook_callback_url" w = .ok w) :
    webhookUrl webhook = .ok webhook := by
  cases webhook with
  | none => rfl
  | some w => rw [webhookUrl, h w rfl]; rfl

/-- A prepared draft whose addresses are their own normal forms is prepared as it is. -/
theorem prepare_of_prepare (h : d.prepare = .ok e) (hurl : Input.url "url" e.url = .ok e.url)
    (hwebhook : ∀ w ∈ e.webhook, Input.url "webhook_callback_url" w = .ok w) : e.prepare = .ok e := by
  obtain ⟨url, webhook, -, -, hpayload, hschema, hsteps, rfl⟩ := prepare_eq_ok_iff.mp h
  refine prepare_eq_ok_iff.mpr ⟨url, webhook, hurl, webhookUrl_eq_self hwebhook, Input.payload?_clean hpayload,
    Input.payload?_clean hschema, hsteps, ?_⟩
  rw [Json.map_clean_map_clean, Json.map_clean_map_clean]

end Draft

/-! ## Both -/

/-- A prepared update, prepared again, stays as it is, and it is empty exactly if the update that it was made of is.  A
prepared draft stays as it is too, if each of its addresses is its own normal form. -/
theorem prepare_prepared :
    (∀ c d : Change, c.prepare = .ok d → d.prepare = .ok d ∧ (d.isEmpty = true ↔ c.isEmpty = true)) ∧
    ∀ d e : Draft, d.prepare = .ok e → Input.url "url" e.url = .ok e.url →
      (∀ w ∈ e.webhook, Input.url "webhook_callback_url" w = .ok w) → e.prepare = .ok e := by
  constructor
  · intro c d h
    refine ⟨Change.prepare_of_prepare h, ?_⟩
    rw [Change.eq_cleaned h, Change.isEmpty_cleaned]
  · intro d e h hurl hwebhook
    exact Draft.prepare_of_prepare h hurl hwebhook

/-- An update with keys that become one when it is prepared, and an error with a U+0000 in it. -/
def mergingChange : Change :=
  { Change.empty with
    extract := some (.object [("a", .null), ("a\x00", .string "x\x00"), ("b", .array [.string "\x00"])])
    errors := some [.object [("code\x00", .string "\x00")]] }

/-- A draft with two addresses and such a payload. -/
def mergingDraft : Draft :=
  { Draft.ofUrl " http://[::1]" with
    webhook := some "http://[::2]/done "
    payload := some (.object [("a", .null), ("a\x00", .string "x\x00")]) }

/-- Both change when they are prepared, and only then. -/
theorem prepare_prepared_merging :
    ∃ c d,
      c.extract = some (.object [("a", .string "x"), ("b", .array [.string ""])]) ∧
      c.errors = some [.object [("code", .string "")]] ∧
      mergingChange.prepare = .ok c ∧ c.prepare = .ok c ∧
      d.url = "http://[::1]/" ∧ d.webhook = some "http://[::2]/done" ∧ d.payload = some (.object [("a", .string "x")]) ∧
      mergingDraft.prepare = .ok d ∧ d.prepare = .ok d := by
  obtain ⟨hchange, hdraft⟩ := prepare_prepared
  let c : Change :=
    { Change.empty with
      extract := some (.object [("a", .string "x"), ("b", .array [.string ""])])
      errors := some [.object [("code", .string "")]] }
  let d : Draft :=
    { Draft.ofUrl "http://[::1]/" with
      webhook := some "http://[::2]/done"
      payload := some (.object [("a", .string "x")]) }
  have hc : mergingChange.prepare = .ok c := rfl
  have hd : mergingDraft.prepare = .ok d :=
    Draft.prepare_eq_ok_iff.mpr ⟨"http://[::1]/", some "http://[::2]/done", by decide +kernel, by decide +kernel, rfl, rfl,
      rfl, rfl⟩
  have hurl : Input.url "url" d.url = .ok d.url := by decide +kernel
  have hwebhook : ∀ w ∈ d.webhook, Input.url "webhook_callback_url" w = .ok w := by
    rintro w ⟨⟩
    decide +kernel
  exact ⟨c, d, rfl, rfl, hc, (hchange _ c hc).1, rfl, rfl, rfl, hd, hdraft _ d hd hurl hwebhook⟩

end TaskLifecycle
