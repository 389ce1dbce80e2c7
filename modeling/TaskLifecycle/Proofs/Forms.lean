import TaskLifecycle.Query.Form
import TaskLifecycle.Proofs.Json.Form
import TaskLifecycle.Proofs.Moment

/-!
# TaskLifecycle.Proofs.Forms — records read from their own JSON

A record writes each of its fields, and reads each by its name.  Texts, numbers, statuses and moments come back as they
were.  A field of any JSON value does too, unless the value is null, for null is also how an absent one is written.

* `withoutNull` of `Task`, `Draft` and `Change`: the record with its null values absent; `withoutNull_eq_self_iff`;
* `ofJson?_toJson` of each record: what is read from its JSON;
* `read_of_written`: all of them, and so that what was read once is written and read again without change.
-/

namespace TaskLifecycle

/-! ## Words, moments and plain values -/

theorem Status.ofJson?_toJson (s : Status) : ofJson? s.toJson = some s :=
  ofWord?_word s

theorem Moment.ofJson?_toJson (m : Moment) : ofJson? m.toJson = some m := by
  rw [ofJson?, toJson, Json.text?_string, Option.bind_some, read?_text]

theorem OrderKey.ofJson?_toJson (key : OrderKey) : ofJson? key.toJson = some key := by
  cases key <;> rfl

theorem Direction.ofJson?_toJson (direction : Direction) : ofJson? direction.toJson = some direction := by
  cases direction <;> rfl

namespace Json

theorem orNull?_text (o : Option String) : orNull? text? (ofOption .string o) = some o :=
  orNull?_ofOption text?_string rfl o

theorem orNull?_int32 (o : Option Int32) : orNull? int32? (ofOption ofInt32 o) = some o :=
  orNull?_ofOption int32?_ofInt32 rfl o

theorem orNull?_items (o : Option (List Json)) : orNull? items? (ofOption .array o) = some o :=
  orNull?_ofOption items?_array rfl o

theorem orNull?_status (o : Option Status) : orNull? Status.ofJson? (ofOption Status.toJson o) = some o :=
  orNull?_ofOption Status.ofJson?_toJson rfl o

theorem orNull?_moment (o : Option Moment) : orNull? Moment.ofJson? (ofOption Moment.toJson o) = some o :=
  orNull?_ofOption Moment.ofJson?_toJson rfl o

end Json

open Json

/-! ## Tasks -/

namespace Task

/-- The task with its null values absent. -/
def withoutNull (t : Task) : Task :=
  { t with payload := nonNull t.payload, extract := nonNull t.extract, schema := nonNull t.schema }

theorem withoutNull_eq_self_iff {t : Task} :
    t.withoutNull = t ↔ t.payload ≠ some .null ∧ t.extract ≠ some .null ∧ t.schema ≠ some .null := by
  rw [← nonNull_eq_self_iff, ← nonNull_eq_self_iff, ← nonNull_eq_self_iff]
  constructor
  · intro h
    exact ⟨congrArg payload h, congrArg extract h, congrArg schema h⟩
  · rintro ⟨hpayload, hextract, hschema⟩
    rw [withoutNull, hpayload, hextract, hschema]

theorem ofJson?_toJson (t : Task) : ofJson? t.toJson = some t.withoutNull := by
  -- Each field is found by its name among the entries, so their order does not matter.
  simp only [ofJson?, toJson, withoutNull, ofJson?_object, required?_cons, optional?_cons, String.reduceEq, ↓reduceIte,
    text?_string, items?_array, orNull?_text, orNull?_int32, orNull?_moment, orNull?_getD, Status.ofJson?_toJson,
    Moment.ofJson?_toJson, some_bind, Option.pure_def]

/-- A task that was read has no null values. -/
theorem withoutNull_of_ofJson? {j : Json} {t : Task} (h : ofJson? j = some t) : t.withoutNull = t := by
  simp only [ofJson?, optional?_some, some_bind, bind_eq_some_iff] at h
  -- Only the fields of any JSON value bear on the claim, and those are known without looking at `h`.
  obtain ⟨fields, -, id, -, organization, -, title, -, url, -, status, -, goal, -, extraction, -, h⟩ := h
  obtain ⟨reason, -, webhook, -, failure, -, run, -, order, -, retry, -, steps, -, errors, -, h⟩ := h
  obtain ⟨application, -, created, -, modified, -, queued, -, started, -, finished, -, h⟩ := h
  cases h
  simp only [withoutNull, nonNull_nonNull]

end Task

/-! ## Drafts and updates -/

namespace Draft

/-- The draft with its null values absent. -/
def withoutNull (d : Draft) : Draft :=
  { d with payload := nonNull d.payload, schema := nonNull d.schema }

theorem withoutNull_eq_self_iff {d : Draft} :
    d.withoutNull = d ↔ d.payload ≠ some .null ∧ d.schema ≠ some .null := by
  rw [← nonNull_eq_self_iff, ← nonNull_eq_self_iff]
  constructor
  · intro h
    exact ⟨congrArg payload h, congrArg schema h⟩
  · rintro ⟨hpayload, hschema⟩
    rw [withoutNull, hpayload, hschema]

theorem ofJson?_toJson (d : Draft) : ofJson? d.toJson = some d.withoutNull := by
  simp only [ofJson?, toJson, withoutNull, ofJson?_object, required?_cons, optional?_cons, String.reduceEq, ↓reduceIte,
    text?_string, orNull?_text, orNull?_int32, orNull?_getD, some_bind, Option.pure_def]

/-- A draft that was read has no null values. -/
theorem withoutNull_of_ofJson? {j : Json} {d : Draft} (h : ofJson? j = some d) : d.withoutNull = d := by
  simp only [ofJson?, optional?_some, some_bind, bind_eq_some_iff] at h
  obtain ⟨fields, -, organization, -, title, -, url, -, goal, -, extraction, -, h⟩ := h
  obtain ⟨webhook, -, run, -, order, -, retry, -, steps, -, application, -, h⟩ := h
  cases h
  simp only [withoutNull, nonNull_nonNull]

end Draft

namespace Change

/-- The update with a null value absent. -/
def withoutNull (c : Change) : Change :=
  { c with extract := nonNull c.extract }

theorem withoutNull_eq_self_iff {c : Change} : c.withoutNull = c ↔ c.extract ≠ some .null := by
  rw [← nonNull_eq_self_iff]
  constructor
  · intro h
    exact congrArg extract h
  · intro hextract
    rw [withoutNull, hextract]

theorem ofJson?_toJson (c : Change) : ofJson? c.toJson = some c.withoutNull := by
  simp only [ofJson?, toJson, withoutNull, ofJson?_object, optional?_cons, String.reduceEq, ↓reduceIte, orNull?_text,
    orNull?_int32, orNull?_items, orNull?_status, orNull?_getD, some_bind, Option.pure_def]

/-- An update that was read has no null value. -/
theorem withoutNull_of_ofJson? {j : Json} {c : Change} (h : ofJson? j = some c) : c.withoutNull = c := by
  simp only [ofJson?, optional?_some, some_bind, bind_eq_some_iff] at h
  obtain ⟨fields, -, status, -, reason, -, failure, -, errors, -, steps, -, h⟩ := h
  cases h
  simp only [withoutNull, nonNull_nonNull]

end Change

/-! ## Filters and listings -/

theorem Filter.ofJson?_toJson (f : Filter) : ofJson? f.toJson = some f := by
  simp only [ofJson?, toJson, ofJson?_object, required?_cons, optional?_cons, String.reduceEq, ↓reduceIte, flag?_bool,
    orNull?_text, list?_map Status.ofJson?_toJson, some_bind, Option.pure_def]

theorem Listing.ofJson?_toJson (l : Listing) : ofJson? l.toJson = some l := by
  simp only [ofJson?, toJson, ofJson?_object, required?_cons, String.reduceEq, ↓reduceIte, uint32?_ofUInt32,
    Filter.ofJson?_toJson, OrderKey.ofJson?_toJson, Direction.ofJson?_toJson, some_bind, Option.pure_def]

/-! ## Every record -/

/-- A task, a draft or an update reads from its own JSON with its null values absent, and without change where it has none;
a filter or a listing reads without change.  So what any JSON value was read as is written and read again without change. -/
theorem read_of_written :
    (∀ t : Task, Task.ofJson? t.toJson = some t.withoutNull ∧
      (t.withoutNull = t ↔ t.payload ≠ some .null ∧ t.extract ≠ some .null ∧ t.schema ≠ some .null)) ∧
    (∀ d : Draft, Draft.ofJson? d.toJson = some d.withoutNull ∧
      (d.withoutNull = d ↔ d.payload ≠ some .null ∧ d.schema ≠ some .null)) ∧
    (∀ c : Change, Change.ofJson? c.toJson = some c.withoutNull ∧ (c.withoutNull = c ↔ c.extract ≠ some .null)) ∧
    (∀ f : Filter, Filter.ofJson? f.toJson = some f) ∧
    (∀ l : Listing, Listing.ofJson? l.toJson = some l) ∧
    ∀ j : Json,
      (∀ t, Task.ofJson? j = some t → Task.ofJson? t.toJson = some t) ∧
      (∀ d, Draft.ofJson? j = some d → Draft.ofJson? d.toJson = some d) ∧
      (∀ c, Change.ofJson? j = some c → Change.ofJson? c.toJson = some c) ∧
      (∀ f, Filter.ofJson? j = some f → Filter.ofJson? f.toJson = some f) ∧
      ∀ l, Listing.ofJson? j = some l → Listing.ofJson? l.toJson = some l := by
  refine ⟨fun t => ⟨t.ofJson?_toJson, Task.withoutNull_eq_self_iff⟩,
    fun d => ⟨d.ofJson?_toJson, Draft.withoutNull_eq_self_iff⟩,
    fun c => ⟨c.ofJson?_toJson, Change.withoutNull_eq_self_iff⟩, Filter.ofJson?_toJson, Listing.ofJson?_toJson,
    fun j => ⟨fun t h => ?_, fun d h => ?_, fun c h => ?_, fun f _ => f.ofJson?_toJson, fun l _ => l.ofJson?_toJson⟩⟩
  · rw [t.ofJson?_toJson, Task.withoutNull_of_ofJson? h]
  · rw [d.ofJson?_toJson, Draft.withoutNull_of_ofJson? h]
  · rw [c.ofJson?_toJson, Change.withoutNull_of_ofJson? h]

/-- A task with a null payload, created in a leap second before the year 0 and updated after the year 9999. -/
def nullTask : Task :=
  { (Draft.ofUrl "https://example.com/").task "tsk_1" ⟨-5, 12, 31, 23, 59, 60, 120000, by decide, by decide⟩ with
    payload := some .null
    modified := ⟨12024, 2, 29, 0, 0, 0, 0, by decide, by decide⟩ }

/-- Null entries, left out entries and an array of all entries. -/
theorem read_of_nullTask :
    Task.ofJson? nullTask.toJson = some { nullTask with payload := none } ∧
    Task.ofJson? (Task.toJson { nullTask with payload := none }) = some { nullTask with payload := none } ∧
    (Draft.ofJson? (.object [("navigation_payload", .null), ("url", .string "a")]) = some (Draft.ofUrl "a") ∧
      Draft.ofJson? (Draft.ofUrl "a").toJson = some (Draft.ofUrl "a")) ∧
    (Change.ofJson? (.object [("extracted_information", .null)]) = some Change.empty ∧
      Change.ofJson? Change.empty.toJson = some Change.empty) ∧
    (Filter.ofJson? (.array [.null, .array [], .null, .bool false, .null]) = some Filter.default ∧
      Filter.ofJson? Filter.default.toJson = some Filter.default) ∧
    Listing.ofJson? (.array [Filter.default.toJson, .int 1, .int 10, .string "created_at", .string "desc"]) =
      some (Listing.first Filter.default Paging.default) ∧
    Listing.ofJson? (Listing.first Filter.default Paging.default).toJson =
      some (Listing.first Filter.default Paging.default) := by
  obtain ⟨tasks, -, -, -, -, again⟩ := read_of_written
  have htask := (tasks nullTask).1
  have hdraft : Draft.ofJson? (.object [("navigation_payload", .null), ("url", .string "a")]) = some (Draft.ofUrl "a") :=
    rfl
  have hchange : Change.ofJson? (.object [("extracted_information", .null)]) = some Change.empty := rfl
  have hfilter : Filter.ofJson? (.array [.null, .array [], .null, .bool false, .null]) = some Filter.default := rfl
  have hlisting :
      Listing.ofJson? (.array [Filter.default.toJson, .int 1, .int 10, .string "created_at", .string "desc"]) =
        some (Listing.first Filter.default Paging.default) := rfl
  exact ⟨htask, (again _).1 _ htask, ⟨hdraft, (again _).2.1 _ hdraft⟩, ⟨hchange, (again _).2.2.1 _ hchange⟩,
    ⟨hfilter, (again _).2.2.2.1 _ hfilter⟩, hlisting, (again _).2.2.2.2 _ hlisting⟩

end TaskLifecycle
