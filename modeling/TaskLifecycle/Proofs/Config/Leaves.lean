import Mathlib.Logic.Function.Basic
import TaskLifecycle.Config.Layers
import TaskLifecycle.Proofs.Decimal
import TaskLifecycle.Proofs.Setting

/-!
# TaskLifecycle.Proofs.Config.Leaves — the keys of a configuration

* `Config.Leaf`: the keys of a configuration with their tables, variables and kinds; `Config.value`: the value
  of a key.  `Config.eq_of_value`: the values of all keys make a configuration.
* `Config.Kind.Fits`: the values of a kind; `Config.Kind.Means`: the value that the text of a variable means;
  `Config.valueOf_of_means`: which it is read as.
* `Setting.Holds`: a tree with a value for every key; `Setting.Holds.ofSetting?`: the configuration that it describes.
-/

namespace TaskLifecycle
namespace Config

/-- The kind of a key: text, a truth value, or a whole number below a bound. -/
inductive Kind where
  | text
  | flag
  | whole (bound : Nat)

/-- The keys of a configuration. -/
inductive Leaf where
  | url
  | maxConnections
  | acquireTimeout
  | level
  | json
  | defaultSize
  | maxSize
deriving DecidableEq

namespace Leaf

/-- The table of a key. -/
def table : Leaf → String
  | url | maxConnections | acquireTimeout => "database"
  | level | json => "logging"
  | defaultSize | maxSize => "pagination"

/-- The name of a key in its table. -/
def name : Leaf → String
  | url => "url"
  | maxConnections => "max_connections"
  | acquireTimeout => "acquire_timeout_seconds"
  | level => "level"
  | json => "json"
  | defaultSize => "default_page_size"
  | maxSize => "max_page_size"

/-- The variable for a key. -/
def variableName : Leaf → String
  | url => "TASKFORGE__DATABASE__URL"
  | maxConnections => "TASKFORGE__DATABASE__MAX_CONNECTIONS"
  | acquireTimeout => "TASKFORGE__DATABASE__ACQUIRE_TIMEOUT_SECONDS"
  | level => "TASKFORGE__LOGGING__LEVEL"
  | json => "TASKFORGE__LOGGING__JSON"
  | defaultSize => "TASKFORGE__PAGINATION__DEFAULT_PAGE_SIZE"
  | maxSize => "TASKFORGE__PAGINATION__MAX_PAGE_SIZE"

/-- The kind of a key.  Numbers of a file and of variables have 63 bits. -/
def kind : Leaf → Kind
  | url | level => .text
  | json => .flag
  | maxConnections | defaultSize | maxSize => .whole 4294967296
  | acquireTimeout => .whole 9223372036854775808

/-- The place of a key. -/
def place (l : Leaf) : String :=
  l.table ++ "." ++ l.name

theorem name_injective {l l' : Leaf} (h : l.name = l'.name) : l = l' := by
  cases l <;> cases l' <;> first | rfl | exact absurd h (by decide)

theorem variableName_injective {l l' : Leaf} (h : l.variableName = l'.variableName) : l = l' := by
  cases l <;> cases l' <;> first | rfl | exact absurd h (by decide)

@[simp] theorem lower_table (l : Leaf) : lower l.table = l.table := by
  cases l <;> decide

@[simp] theorem lower_name (l : Leaf) : lower l.name = l.name := by
  cases l <;> decide

theorem read_table (l : Leaf) : Place.read l.table = [.key l.table] := by
  cases l <;> decide

theorem read_place (l : Leaf) : Place.read l.place = [.key l.table, .key l.name] := by
  cases l <;> decide

theorem placeOf_variableName (l : Leaf) : placeOf l.variableName = some l.place := by
  cases l <;> decide

end Leaf

/-- The value of a key. -/
def value (c : Config) : Leaf → Setting
  | .url => .text c.database.url
  | .maxConnections => .whole c.database.maxConnections.toNat
  | .acquireTimeout => .whole c.database.acquireTimeout.toNat
  | .level => (c.logging.level.map Setting.text).getD .nil
  | .json => .flag c.logging.json
  | .defaultSize => .whole c.pagination.defaultSize.toNat
  | .maxSize => .whole c.pagination.maxSize.toNat

/-- The values of all keys make a configuration. -/
theorem eq_of_value {c d : Config} (h : ∀ l, c.value l = d.value l) : c = d := by
  obtain ⟨⟨url, connections, timeout⟩, ⟨level, json⟩, ⟨defaultSize, maxSize⟩⟩ := c
  obtain ⟨⟨url', connections', timeout'⟩, ⟨level', json'⟩, ⟨defaultSize', maxSize'⟩⟩ := d
  have hurl : url = url' := Setting.text.inj (h .url)
  have hword {n m : UInt32} (hvalue : Setting.whole n.toNat = Setting.whole m.toNat) : n = m :=
    UInt32.toNat_inj.mp (Int.ofNat.inj (Setting.whole.inj hvalue))
  have hconnections : connections = connections' := hword (h .maxConnections)
  have htimeout : timeout = timeout' := UInt64.toNat_inj.mp (Int.ofNat.inj (Setting.whole.inj (h .acquireTimeout)))
  have hjson : json = json' := Setting.flag.inj (h .json)
  have hdefault : defaultSize = defaultSize' := hword (h .defaultSize)
  have hmax : maxSize = maxSize' := hword (h .maxSize)
  have hlevel : level = level' := by
    have hvalue : (level.map Setting.text).getD .nil = (level'.map Setting.text).getD .nil := h .level
    cases level <;> cases level' <;> simp_all
  subst hurl hconnections htimeout hjson hdefault hmax hlevel
  rfl

/-! ## Values of variables -/

/-- Text that is neither a truth value nor a number. -/
def Plain (s : String) : Prop :=
  lower s ≠ "true" ∧ lower s ≠ "false" ∧ (∀ n, ¬ Decimal.Writes s.toList n) ∧ Extended.read? s.toList = none

namespace Kind

/-- The values of a kind. -/
def Fits : Kind → Setting → Prop
  | text, v => ∃ s, v = .text s
  | flag, v => ∃ b, v = .flag b
  | whole bound, v => ∃ n : Nat, v = .whole n ∧ n < bound

/-- The value of a kind that text means. -/
def Means : Kind → String → Setting → Prop
  | text, s, v => v = .text s ∧ Plain s
  | flag, s, v => lower s = "true" ∧ v = .flag true ∨ lower s = "false" ∧ v = .flag false
  | whole bound, s, v => ∃ n : Nat, v = .whole n ∧ n < bound ∧ Decimal.Writes s.toList n

variable {kind : Kind} {s : String} {v : Setting}

theorem Means.fits (h : kind.Means s v) : kind.Fits v := by
  cases kind with
  | text => exact ⟨s, h.1⟩
  | flag =>
    rcases h with ⟨-, hv⟩ | ⟨-, hv⟩
    · exact ⟨true, hv⟩
    · exact ⟨false, hv⟩
  | whole bound =>
    obtain ⟨n, hv, hn, -⟩ := h
    exact ⟨n, hv, hn⟩

theorem Fits.isValue (h : kind.Fits v) : v.IsValue := by
  rintro es rfl
  cases kind <;> simp [Fits] at h

end Kind

theorem valueOf_of_true {s : String} (h : lower s = "true") : valueOf s = .flag true := by
  simp only [valueOf, h]

theorem valueOf_of_false {s : String} (h : lower s = "false") : valueOf s = .flag false := by
  simp only [valueOf, h]

theorem lowerChar_of_isDigit {c : Char} (h : Decimal.isDigit c = true) : lowerChar c = c := by
  have hlower := Decimal.toLower_of_isDigit h
  simp only [Decimal.isDigit, Bool.and_eq_true, decide_eq_true_eq] at h
  rw [lowerChar, if_neg (by omega), hlower]

/-- Text that writes an integer begins with a digit or a sign, also in lower case. -/
theorem head_lower_of_writes {s : String} {n : Int} (h : Decimal.Writes s.toList n) :
    ∃ c rest, (lower s).toList = c :: rest ∧ (Decimal.isDigit c = true ∨ c = '+' ∨ c = '-') := by
  rw [lower, String.toList_ofList]
  generalize s.toList = cs at h
  cases h with
  | @digits ds hsome hall =>
    obtain ⟨d, rest, rfl⟩ := List.exists_cons_of_ne_nil hsome
    have hd : Decimal.isDigit d = true := hall d List.mem_cons_self
    exact ⟨d, rest.map lowerChar, by rw [List.map_cons, lowerChar_of_isDigit hd], .inl hd⟩
  | plus => exact ⟨'+', _, rfl, .inr (.inl rfl)⟩
  | minus => exact ⟨'-', _, rfl, .inr (.inr rfl)⟩

theorem lower_ne_of_writes {s : String} {n : Int} (h : Decimal.Writes s.toList n) : lower s ≠ "true" ∧ lower s ≠ "false" := by
  obtain ⟨c, rest, hcs, hc⟩ := head_lower_of_writes h
  constructor
  · intro htrue
    obtain ⟨rfl, -⟩ := List.cons_eq_cons.mp (hcs.symm.trans (congrArg String.toList htrue))
    exact absurd hc (by decide)
  · intro hfalse
    obtain ⟨rfl, -⟩ := List.cons_eq_cons.mp (hcs.symm.trans (congrArg String.toList hfalse))
    exact absurd hc (by decide)

theorem valueOf_of_whole {s : String} {n : Int} (h : Decimal.Writes s.toList n) (hlow : -9223372036854775808 ≤ n)
    (hhigh : n ≤ 9223372036854775807) : valueOf s = .whole n := by
  obtain ⟨htrue, hfalse⟩ := lower_ne_of_writes h
  have hread : Decimal.readInteger (Nat.pow 2 63 - 1) s.toList = .ok n :=
    Decimal.readInteger_eq_ok_iff.mpr ⟨h, hlow, hhigh⟩
  simp only [valueOf, hread]

theorem valueOf_of_plain {s : String} (h : Plain s) : valueOf s = .text s := by
  obtain ⟨htrue, hfalse, hinteger, hreal⟩ := h
  simp only [valueOf]
  split
  · rename_i n hread
    exact absurd (Decimal.readInteger_eq_ok_iff.mp hread).1 (hinteger n)
  · rw [hreal]

/-- The text of a variable is read as the value that it means. -/
theorem valueOf_of_means {l : Leaf} {s : String} {v : Setting} (h : l.kind.Means s v) : valueOf s = v := by
  cases hkind : l.kind with
  | text =>
    rw [hkind] at h
    obtain ⟨rfl, hplain⟩ := h
    exact valueOf_of_plain hplain
  | flag =>
    rw [hkind] at h
    rcases h with ⟨hlower, rfl⟩ | ⟨hlower, rfl⟩
    · exact valueOf_of_true hlower
    · exact valueOf_of_false hlower
  | whole bound =>
    rw [hkind] at h
    obtain ⟨n, rfl, hn, hwrites⟩ := h
    have hbound : bound ≤ 9223372036854775808 := by
      cases l <;> cases hkind <;> decide
    exact valueOf_of_whole hwrites (by omega) (by omega)

/-! ## Configurations with given values -/

theorem fits_default {l : Leaf} (h : l ≠ .level) : l.kind.Fits (default.value l) := by
  cases l with
  | url => exact ⟨_, rfl⟩
  | json => exact ⟨_, rfl⟩
  | level => exact absurd rfl h
  | maxConnections | acquireTimeout | defaultSize | maxSize => exact ⟨_, rfl, by decide⟩

/-- Values of the kinds of their keys, or built-in ones, are those of a configuration. -/
theorem exists_of_fits {values : Leaf → Setting} (h : ∀ l, l.kind.Fits (values l) ∨ values l = default.value l) :
    ∃ c : Config, ∀ l, c.value l = values l := by
  have hfits (l : Leaf) (hl : l ≠ .level) : l.kind.Fits (values l) := by
    rcases h l with hvalue | hvalue
    · exact hvalue
    · rw [hvalue]
      exact fits_default hl
  obtain ⟨url, hurl⟩ := hfits .url (by decide)
  obtain ⟨connections, hconnections, connectionsBound⟩ := hfits .maxConnections (by decide)
  obtain ⟨timeout, htimeout, timeoutBound⟩ := hfits .acquireTimeout (by decide)
  obtain ⟨json, hjson⟩ := hfits .json (by decide)
  obtain ⟨defaultSize, hdefaultSize, defaultBound⟩ := hfits .defaultSize (by decide)
  obtain ⟨maxSize, hmaxSize, maxBound⟩ := hfits .maxSize (by decide)
  -- the level alone has a built-in value that is no text
  obtain ⟨level, hlevel⟩ : ∃ t : Option String, values .level = (t.map Setting.text).getD .nil := by
    rcases h .level with ⟨t, ht⟩ | ht
    · exact ⟨some t, ht⟩
    · exact ⟨none, ht⟩
  refine ⟨⟨⟨url, .ofNat connections, .ofNat timeout⟩, ⟨level, json⟩, ⟨.ofNat defaultSize, .ofNat maxSize⟩⟩, fun l => ?_⟩
  cases l with
  | url => rw [hurl, value]
  | maxConnections => rw [hconnections, value, UInt32.toNat_ofNat_of_lt' connectionsBound]
  | acquireTimeout => rw [htimeout, value, UInt64.toNat_ofNat_of_lt' (Nat.lt_trans timeoutBound (by decide))]
  | level => rw [hlevel, value]
  | json => rw [hjson, value]
  | defaultSize => rw [hdefaultSize, value, UInt32.toNat_ofNat_of_lt' defaultBound]
  | maxSize => rw [hmaxSize, value, UInt32.toNat_ofNat_of_lt' maxBound]

end Config

/-! ## Trees with a value for every key -/

namespace Setting

open Config (Leaf)

/-- A tree with a value for every key. -/
def Holds (s : Setting) (values : Leaf → Setting) : Prop :=
  ∀ l, ∃ es, s.get? l.table = some (.table es) ∧ find? l.name es = some (values l)

variable {s : Setting} {values : Leaf → Setting} {es : List (String × Setting)}

/-- The values of the keys of a table. -/
theorem Holds.find? (h : s.Holds values) {l : Leaf} (hes : s.get? l.table = some (.table es)) :
    find? l.name es = some (values l) := by
  obtain ⟨es', hes', hfind⟩ := h l
  obtain rfl : es = es' := Setting.table.inj (Option.some.inj (hes.symm.trans hes'))
  exact hfind

theorem word?_toNat (n : UInt32) : word? (.whole n.toNat) = some n := by
  have hsize : n.toNat < UInt32.size := n.toNat_lt
  rw [word?, natural?, if_pos (Int.natCast_nonneg _), Option.bind_some, Int.toNat_natCast, if_pos hsize, UInt32.ofNat_toNat]

theorem longWord?_toNat (n : UInt64) : longWord? (.whole n.toNat) = some n := by
  rw [longWord?, natural?, if_pos (Int.natCast_nonneg _), Option.map_some, Int.toNat_natCast, UInt64.ofNat_toNat]

theorem optionalString?_getD (t : Option String) : optionalString? ((t.map text).getD nil) = some t := by
  cases t <;> rfl

theorem field?_of_find? {α : Type} {form : Setting → Option α} {name : String} {value : α} {v : Setting}
    (h : Setting.find? name es = some v) : field? form name value es = form v := by
  rw [field?, h]

/-- A tree with the values of a configuration describes it. -/
theorem Holds.ofSetting? {c : Config} (h : s.Holds c.value) : Config.ofSetting? s = some c := by
  obtain ⟨ds, hds, -⟩ := h .url
  obtain ⟨ls, hls, -⟩ := h .level
  obtain ⟨ps, hps, -⟩ := h .defaultSize
  have hdatabase : DatabaseConfig.ofSetting? (.table ds) = some c.database := by
    have hurl : Setting.find? "url" ds = some (.text c.database.url) := h.find? (l := .url) hds
    have hconnections : Setting.find? "max_connections" ds = some (.whole c.database.maxConnections.toNat) :=
      h.find? (l := .maxConnections) hds
    have htimeout : Setting.find? "acquire_timeout_seconds" ds = some (.whole c.database.acquireTimeout.toNat) :=
      h.find? (l := .acquireTimeout) hds
    simp only [DatabaseConfig.ofSetting?, fields?, bind, Option.bind_some]
    rw [field?_of_find? hurl, field?_of_find? hconnections, field?_of_find? htimeout, string?, word?_toNat,
      longWord?_toNat]
    rfl
  have hlogging : LoggingConfig.ofSetting? (.table ls) = some c.logging := by
    have hlevel : Setting.find? "level" ls = some ((c.logging.level.map text).getD nil) := h.find? (l := .level) hls
    have hjson : Setting.find? "json" ls = some (.flag c.logging.json) := h.find? (l := .json) hls
    simp only [LoggingConfig.ofSetting?, fields?, bind, Option.bind_some]
    rw [field?_of_find? hlevel, field?_of_find? hjson, optionalString?_getD, truth?]
    rfl
  have hpagination : Paging.ofSetting? (.table ps) = some c.pagination := by
    have hdefaultSize : Setting.find? "default_page_size" ps = some (.whole c.pagination.defaultSize.toNat) :=
      h.find? (l := .defaultSize) hps
    have hmaxSize : Setting.find? "max_page_size" ps = some (.whole c.pagination.maxSize.toNat) :=
      h.find? (l := .maxSize) hps
    simp only [Paging.ofSetting?, fields?, bind, Option.bind_some]
    rw [field?_of_find? hdefaultSize, field?_of_find? hmaxSize, word?_toNat, word?_toNat]
    rfl
  obtain ⟨entries, rfl⟩ := eq_table_of_get? hds
  have hds' : Setting.find? "database" entries = some (.table ds) := hds
  have hls' : Setting.find? "logging" entries = some (.table ls) := hls
  have hps' : Setting.find? "pagination" entries = some (.table ps) := hps
  simp only [Config.ofSetting?, fields?, bind, Option.bind_some]
  rw [field?_of_find? hds', field?_of_find? hls', field?_of_find? hps', hdatabase, hlogging, hpagination]
  rfl

end Setting
end TaskLifecycle
