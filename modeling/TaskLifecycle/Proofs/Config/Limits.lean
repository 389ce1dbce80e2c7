import TaskLifecycle.Proofs.Config.Layers
import TaskLifecycle.Proofs.Number
import TaskLifecycle.Proofs.Toml.Numeral
import TaskLifecycle.Proofs.Toml.Refusal

/-!
# TaskLifecycle.Proofs.Config.Limits — limits that a file or a variable writes

* `Setting.value?`: what stands at a key; `Setting.Gives`, `Setting.Spares`: what one entry of a layer does to it.
* `Setting.value?_layer`: the last entry that does not spare a key decides what stands there, by induction on the entries
  behind it.
* `Setting.StandsFor`: what an integer is read as; `Config.standsFor_valueOf`: from the text of a variable.
* `Config.exists_word?_of_ofSetting?`: a configuration has the limit that stands at its key.
* `Config.Written`: an integer that is written for a key in the layer that wins there; `Config.written_variable`,
  `Config.written_entryText`: each can be.  `limit_of_written`: it is the limit of what is loaded, if anything is.
-/

namespace TaskLifecycle

open Config (Leaf)

/-! ## One entry -/

namespace Setting

/-- What stands at a key. -/
def value? (s : Setting) (l : Leaf) : Option Setting :=
  (s.get? l.table).bind fun t => t.get? l.name

/-- An entry at a place that leaves what stands at a key: for another table, for another name, or with other names only. -/
inductive Spares (l : Leaf) : List Place → Setting → Prop where
  | table {t : String} {rest : List Place} {v : Setting} (other : lower t ≠ l.table) : Spares l (.key t :: rest) v
  | name {t k : String} {rest : List Place} {v : Setting} (other : lower k ≠ l.name) :
    Spares l (.key t :: .key k :: rest) v
  | entries {t : String} {es : List (String × Setting)} (others : ∀ e ∈ es, lower e.1 ≠ l.name) :
    Spares l [.key t] (.table es)

/-- An entry at a place that puts a value at a key, by itself or in a table whose later entries have other names. -/
inductive Gives (l : Leaf) (v : Setting) : List Place → Setting → Prop where
  | single {t k : String} (table : lower t = l.table) (name : lower k = l.name) : Gives l v [.key t, .key k] v
  | entry {t k : String} {before after : List (String × Setting)} (table : lower t = l.table) (name : lower k = l.name)
    (last : ∀ e ∈ after, lower e.1 ≠ l.name) : Gives l v [.key t] (.table (before ++ (k, v) :: after))

variable {l : Leaf} {s v w : Setting} {path : List Place}

theorem value?_insert {t : String} :
    (s.insert t w).value? l = if t = l.table then w.get? l.name else s.value? l := by
  rw [value?, get?_insert]
  split <;> rfl

theorem value?_assign_of_gives (hv : v.IsValue) (h : Gives l v path w) (below : Option Setting) :
    (assign w path below).value? l = some v := by
  cases h with
  | single table name =>
    rw [assign, value?_insert, if_pos table, assign, get?_insert, if_pos name, merge_of_value hv]
    exact List.cons_ne_nil _ _
  | @entry t k before after table name last =>
    rw [assign, value?_insert, if_pos table, merge, mergeEntries_append, mergeEntries,
      get?_mergeEntries_of_forall_ne last, get?_insert, if_pos name, merge_of_value hv]

/-- A place that begins with a name changes what stands under that name only. -/
theorem exists_assign_eq (w : Setting) (k : String) (rest : List Place) (below : Option Setting) :
    ∃ u, assign w (.key k :: rest) below = (below.getD nil).insert (lower k) u := by
  cases rest with
  | nil => exact ⟨_, rfl⟩
  | cons => exact ⟨_, rfl⟩

theorem value?_assign_of_spares (h : Spares l path w) (hs : s.value? l = some v) :
    (assign w path (some s)).value? l = some v := by
  obtain ⟨below, hbelow, hv⟩ := Option.bind_eq_some_iff.mp hs
  cases h with
  | @table t rest _ other =>
    obtain ⟨u, hu⟩ := exists_assign_eq w t rest (some s)
    rw [hu, value?_insert, if_neg other]
    exact hs
  | @name t k rest _ other =>
    rw [assign, value?_insert, Option.getD_some]
    · split
      · rename_i htable
        obtain ⟨u, hu⟩ := exists_assign_eq w k rest (s.get? (lower t))
        rw [hu, get?_insert, if_neg other, htable, hbelow, Option.getD_some]
        exact hv
      · exact hs
    · exact List.cons_ne_nil _ _
  | @entries t es others =>
    rw [assign, value?_insert, Option.getD_some]
    split
    · rename_i htable
      rw [merge, get?_mergeEntries_of_forall_ne others, htable, hbelow, Option.getD_some]
      exact hv
    · exact hs

/-! ## A whole layer -/

/-- Entries of which the last that does not spare a key puts a value there. -/
def LastGives (l : Leaf) (v : Setting) (entries : List (String × Setting)) : Prop :=
  ∃ before key w after, entries = before ++ (key, w) :: after ∧ Gives l v (Place.read key) w ∧
    ∀ e ∈ after, Spares l (Place.read e.1) e.2

variable {entries : List (String × Setting)}

theorem value?_layer_of_spares (h : ∀ e ∈ entries, Spares l (Place.read e.1) e.2) (hs : s.value? l = some v) :
    (s.layer entries).value? l = some v := by
  induction entries generalizing s with
  | nil => exact hs
  | cons e rest ih =>
    obtain ⟨he, hrest⟩ := List.forall_mem_cons.mp h
    exact ih hrest (value?_assign_of_spares he hs)

theorem layer_append (s : Setting) (before after : List (String × Setting)) :
    s.layer (before ++ after) = (s.layer before).layer after :=
  List.foldl_append

/-- Whatever lies below a layer, the last entry that does not spare a key decides what stands there. -/
theorem value?_layer (hv : v.IsValue) (h : LastGives l v entries) (s : Setting) : (s.layer entries).value? l = some v := by
  obtain ⟨before, key, w, after, rfl, hgives, hspares⟩ := h
  rw [layer_append]
  exact value?_layer_of_spares (s := assign w (Place.read key) _) hspares (value?_assign_of_gives hv hgives _)

/-! ## Integers as limits -/

theorem isValue_whole (n : Int) : (whole n).IsValue :=
  fun _ h => nomatch h

theorem word?_whole (n : Int) : word? (.whole n) = if 0 ≤ n ∧ n < 4294967296 then some (.ofNat n.toNat) else none := by
  have hsize : UInt32.size = 4294967296 := rfl
  simp only [word?, natural?, hsize]
  by_cases hlow : 0 ≤ n
  · by_cases hhigh : n < 4294967296
    · rw [if_pos hlow, if_pos ⟨hlow, hhigh⟩, Option.bind_some, if_pos (by omega)]
    · rw [if_pos hlow, if_neg fun h => hhigh h.2, Option.bind_some, if_neg (by omega)]
  · rw [if_neg hlow, if_neg fun h => hlow h.1, Option.bind_none]

/-- A setting that stands for an integer: the integer itself, or a double instead of one of more than 64 bits, which as a
limit counts as zero below zero and is refused above. -/
inductive StandsFor : Setting → Int → Prop where
  | whole (n : Int) : StandsFor (.whole n) n
  | below {v : Setting} {n : Int} (range : n < -9223372036854775808) (zero : v.word? = some 0) : StandsFor v n
  | above {v : Setting} {n : Int} (range : 9223372036854775808 ≤ n) (refused : v.word? = none) : StandsFor v n

end Setting

/-! ## Integers in variables -/

namespace Config

variable {text : String} {n : Int}

theorem valueOf_of_read {x : Extended} (h : Decimal.Writes text.toList n)
    (hn : n < -9223372036854775808 ∨ 9223372036854775808 ≤ n) (hx : Extended.read? text.toList = some x) :
    valueOf text = .real x := by
  obtain ⟨htrue, hfalse⟩ := lower_ne_of_writes h
  cases hread : Decimal.readInteger (Nat.pow 2 63 - 1) text.toList with
  | ok m =>
    obtain ⟨hm, hlow, hhigh⟩ := Decimal.readInteger_eq_ok_iff.mp hread
    have hpow : ((Nat.pow 2 63 - 1 : Nat) : Int) = 9223372036854775807 := by decide
    obtain rfl := h.unique hm
    omega
  | error fault => simp only [valueOf, hread, hx]

/-- Text that writes an integer writes a double too, the one nearest to it. -/
theorem read?_of_writes {cs : List Char} (h : Decimal.Writes cs n) (hn : n ≠ 0) :
    Extended.read? cs = some (Extended.ofDecimal (decide (n < 0)) n.natAbs 0) := by
  cases h with
  | digits hsome hall =>
    have hsign : decide ((Decimal.value cs : Int) < 0) = false := decide_eq_false (by omega)
    rw [(Extended.read?_of_digits hsome hall).1, hsign, Int.natAbs_natCast]
  | @plus ds hsome hall =>
    have hsign : decide ((Decimal.value ds : Int) < 0) = false := decide_eq_false (by omega)
    rw [(Extended.read?_of_digits hsome hall).2.1, hsign, Int.natAbs_natCast]
  | @minus ds hsome hall =>
    have hsign : decide (-(Decimal.value ds : Int) < 0) = true := decide_eq_true (by omega)
    rw [(Extended.read?_of_digits hsome hall).2.2, hsign, Int.natAbs_neg, Int.natAbs_natCast]

/-- Text that writes an integer stands for it. -/
theorem standsFor_valueOf (h : Decimal.Writes text.toList n) : (valueOf text).StandsFor n := by
  by_cases hlow : n < -9223372036854775808
  · have hread := read?_of_writes h (by omega)
    rw [decide_eq_true (by omega)] at hread
    rw [valueOf_of_read h (.inl hlow) hread]
    refine .below hlow ?_
    rw [Setting.word?, Setting.natural?, Extended.toNatural_negative]
    rfl
  · by_cases hhigh : 9223372036854775808 ≤ n
    · have hread := read?_of_writes h (by omega)
      rw [decide_eq_false (by omega)] at hread
      have hpow : Nat.pow 2 52 = 4503599627370496 := by decide
      have hlarge : Nat.pow 2 52 ≤ (Extended.ofDecimal false n.natAbs 0).toNatural (UInt64.size - 1) :=
        Extended.le_toNatural (by omega) (by decide)
      have hsize : UInt32.size = 4294967296 := rfl
      rw [valueOf_of_read h (.inr hhigh) hread]
      refine .above hhigh ?_
      rw [Setting.word?, Setting.natural?, Option.bind_some, if_neg (by omega)]
    · rw [valueOf_of_whole h (by omega) (by omega)]
      exact .whole n

/-! ## Limits -/

/-- The keys of limits. -/
def Leaf.limits : List Leaf :=
  [.maxConnections, .defaultSize, .maxSize]

theorem Leaf.eq_of_mem_limits {l : Leaf} (h : l ∈ limits) : l = .maxConnections ∨ l = .defaultSize ∨ l = .maxSize := by
  simpa only [limits, List.mem_cons, List.not_mem_nil, or_false] using h

theorem Leaf.ne_url_of_mem_limits {l : Leaf} (h : l ∈ limits) : l ≠ .url := by
  rintro rfl
  exact absurd h (by decide)

section

variable {s v : Setting} {c : Config} {l : Leaf} {es : List (String × Setting)}

theorem DatabaseConfig.word?_of_ofSetting? {d : DatabaseConfig} (h : DatabaseConfig.ofSetting? (.table es) = some d)
    (hv : Setting.find? Leaf.maxConnections.name es = some v) : v.word? = some d.maxConnections := by
  simp only [DatabaseConfig.ofSetting?, Setting.fields?, bind, Option.bind_some, Option.bind_eq_some_iff] at h
  obtain ⟨url, -, connections, hconnections, timeout, -, heq⟩ := h
  cases heq
  rw [← hconnections]
  exact (Setting.field?_of_find? hv).symm

theorem Paging.word?_of_ofSetting? {p : Paging} (h : Paging.ofSetting? (.table es) = some p) :
    (Setting.find? Leaf.defaultSize.name es = some v → v.word? = some p.defaultSize) ∧
      (Setting.find? Leaf.maxSize.name es = some v → v.word? = some p.maxSize) := by
  simp only [Paging.ofSetting?, Setting.fields?, bind, Option.bind_some, Option.bind_eq_some_iff] at h
  obtain ⟨defaultSize, hdefault, maxSize, hmax, heq⟩ := h
  cases heq
  constructor
  · intro hv
    rw [← hdefault]
    exact (Setting.field?_of_find? hv).symm
  · intro hv
    rw [← hmax]
    exact (Setting.field?_of_find? hv).symm

/-- A configuration has the limit that stands at its key. -/
theorem exists_word?_of_ofSetting? (hl : l ∈ Leaf.limits) (hs : s.value? l = some v) (hc : ofSetting? s = some c) :
    ∃ w, v.word? = some w ∧ c.value l = .whole w.toNat := by
  obtain ⟨t, ht, hv⟩ := Option.bind_eq_some_iff.mp hs
  obtain ⟨entries, rfl⟩ := Setting.eq_table_of_get? ht
  obtain ⟨es, rfl⟩ := Setting.eq_table_of_get? hv
  simp only [ofSetting?, Setting.fields?, bind, Option.bind_some, Option.bind_eq_some_iff] at hc
  obtain ⟨database, hdatabase, logging, -, pagination, hpagination, heq⟩ := hc
  cases heq
  rcases Leaf.eq_of_mem_limits hl with rfl | rfl | rfl
  · have hfields : DatabaseConfig.ofSetting? (.table es) = some database := (Setting.field?_of_find? ht).symm.trans hdatabase
    exact ⟨_, DatabaseConfig.word?_of_ofSetting? hfields hv, rfl⟩
  · have hfields : Paging.ofSetting? (.table es) = some pagination := (Setting.field?_of_find? ht).symm.trans hpagination
    exact ⟨_, (Paging.word?_of_ofSetting? hfields).1 hv, rfl⟩
  · have hfields : Paging.ofSetting? (.table es) = some pagination := (Setting.field?_of_find? ht).symm.trans hpagination
    exact ⟨_, (Paging.word?_of_ofSetting? hfields).2 hv, rfl⟩

theorem check_eq_ok_iff :
    c.check = .ok () ↔ Text.trim c.database.url ≠ "" ∧ c.database.maxConnections ≠ 0 ∧ c.pagination.maxSize ≠ 0 ∧
      c.pagination.defaultSize ≠ 0 ∧ ¬ c.pagination.maxSize < c.pagination.defaultSize := by
  unfold check
  split
  · rename_i hurl
    simp [hurl]
  · rename_i hurl
    split
    · rename_i hconnections
      simp [hconnections]
    · rename_i hconnections
      split
      · rename_i hmax
        simp [hmax]
      · rename_i hmax
        rw [← not_or]
        split
        · rename_i hdefault
          simp [hdefault]
        · rename_i hdefault
          simp [hurl, hconnections, hmax, hdefault]

/-- In a configuration that can be used no limit is zero. -/
theorem value_ne_zero_of_check (hl : l ∈ Leaf.limits) (h : c.check = .ok ()) : c.value l ≠ .whole 0 := by
  have hword {w : UInt32} (hw : w ≠ 0) : Setting.whole w.toNat ≠ .whole 0 :=
    fun hzero => hw (UInt32.toNat_inj.mp (Int.ofNat.inj (Setting.whole.inj hzero)))
  obtain ⟨-, hconnections, hmax, hdefault, -⟩ := check_eq_ok_iff.mp h
  rcases Leaf.eq_of_mem_limits hl with rfl | rfl | rfl
  · exact hword hconnections
  · exact hword hdefault
  · exact hword hmax

theorem exists_of_load {file : File} {env : Environment} (h : load file env = .ok c) :
    ∃ entries, file.settings = .ok entries ∧ ofSetting? (layered entries env) = some c ∧ c.check = .ok () := by
  unfold load at h
  split at h
  · cases h
  · rename_i entries hentries
    split at h
    · cases h
    · rename_i loaded hloaded
      split at h
      · cases h
      · rename_i hcheck
        cases h
        exact ⟨entries, hentries, hloaded, hcheck⟩

/-! ## Written limits -/

/-- An integer that is written for a key in the layer that wins there: as the text of a variable behind which all others
spare the key, or as a numeral of the file, where all variables spare the key and what is read of the numeral is what the
last entry of the file that does not spare the key puts there. -/
inductive Written : File → Environment → Leaf → Int → Prop where
  | ofVariable {file : File} {before after : Environment} {name text : String} {l : Leaf} {n : Int}
    (place : placeOf name = some l.place) (writes : Decimal.Writes text.toList n)
    (spared : ∀ e ∈ ofEnvironment after, Setting.Spares l (Place.read e.1) e.2) :
    Written file (before ++ (name, text) :: after) l n
  | ofNumeral {content : String} {env : Environment} {l : Leaf} {n : Int} {text behind : List Char} {fuel depth : Nat}
    (numeral : Toml.Numeral text n) (ends : Toml.Ends behind)
    (reaches : (Toml.Call.start content).Reaches (.value (fuel + 1) depth (text ++ behind)))
    (gives : ∀ v rest entries, Toml.value (fuel + 1) depth (text ++ behind) = some (.scalar (.value v), rest) →
      Toml.read content = some entries → Setting.LastGives l v entries)
    (spared : ∀ e ∈ ofEnvironment env, Setting.Spares l (Place.read e.1) e.2) : Written (.text content) env l n

/-- Every integer can be written for every key, as the only variable. -/
theorem written_variable (file : File) (l : Leaf) {text : String} {n : Int} (h : Decimal.Writes text.toList n) :
    Written file [(l.variableName, text)] l n := by
  have hwritten : Written file ([] ++ [(l.variableName, text)]) l n :=
    .ofVariable l.placeOf_variableName h (List.forall_mem_nil _)
  exact hwritten

/-- Every integer can be written for every key, in a file of one line. -/
theorem written_entryText (l : Leaf) {text : List Char} {n : Int} {env : Environment} (h : Toml.Numeral text n)
    (hspared : ∀ e ∈ ofEnvironment env, Setting.Spares l (Place.read e.1) e.2) :
    Written (.text (Toml.entryText l.table.toList l.name.toList text)) env l n := by
  have hneeds : (Toml.Call.start (Toml.entryText l.table.toList l.name.toList text)).Needs
      (.value (text.length + 1 + 1) 0 (text ++ [])) := by
    rw [List.append_nil]
    exact Toml.start_needs_value l.bare_table l.bare_name h
  refine .ofNumeral h Toml.ends_nil (.single hneeds) (fun v rest entries hvalue hread => ?_) hspared
  rw [Toml.value_of_numeral h Toml.ends_nil] at hvalue
  rw [Toml.read_entryText l.bare_table l.bare_name h, String.ofList_toList, String.ofList_toList] at hread
  obtain ⟨w, hw, hnode⟩ := Option.map_eq_some_iff.mp hvalue
  obtain ⟨w', hw', hentries⟩ := Option.map_eq_some_iff.mp hread
  have hv : w' = v := by
    cases hnode
    exact Option.some.inj (hw'.symm.trans hw)
  rw [hv] at hentries
  have hgives : Setting.Gives l v [.key l.table] (.table ([] ++ [(l.name, v)])) :=
    .entry l.lower_table l.lower_name (List.forall_mem_nil _)
  exact ⟨[], l.table, _, [], hentries.symm, l.read_table ▸ hgives, List.forall_mem_nil _⟩

theorem isValue_valueOf (text : String) : (valueOf text).IsValue := by
  intro es h
  simp only [valueOf] at h
  split at h
  · cases h
  · cases h
  · split at h
    · cases h
    · split at h
      · cases h
      · cases h

/-- The variable for the address leaves all other keys. -/
theorem value?_layered {env : Environment} (hl : l ≠ .url)
    (h : ((((Setting.table []).layer default.toSetting.entries).layer es).layer (ofEnvironment env)).value? l = some v) :
    (layered es env).value? l = some v := by
  unfold layered
  split
  · rename_i url _
    refine Setting.value?_layer_of_spares (fun e he => ?_) h
    obtain rfl := List.mem_singleton.mp he
    have hread : Place.read "database.url" = [.key "database", .key "url"] := by decide
    have hlower : lower "url" = Leaf.url.name := Leaf.url.lower_name
    rw [hread]
    exact .name fun hname => hl (Leaf.name_injective (hname.symm.trans hlower))
  · exact h

/-- What stands at the key of a written limit stands for that limit. -/
theorem exists_value?_of_written {file : File} {env : Environment} {n : Int} (hl : l ≠ .url) (h : Written file env l n)
    (hfile : file.settings = .ok es) :
    ∃ v, (layered es env).value? l = some v ∧ v.StandsFor n := by
  cases h with
  | @ofVariable _ before after name text _ _ hplace hwrites hspared =>
    refine ⟨valueOf text, value?_layered hl ?_, standsFor_valueOf hwrites⟩
    refine Setting.value?_layer (isValue_valueOf text)
      ⟨ofEnvironment before, l.place, valueOf text, ofEnvironment after, ?_, ?_, hspared⟩ _
    · simp only [ofEnvironment, List.filterMap_append, List.filterMap_cons, hplace, Option.map_some]
    · rw [Leaf.read_place]
      exact .single l.lower_table l.lower_name
  | @ofNumeral content _ _ _ text behind fuel depth hnumeral hends hreaches hgives hspared =>
    have hread : Toml.read content = some es := by
      simp only [File.settings] at hfile
      split at hfile
      · rename_i hread
        cases hfile
        exact hread
      · cases hfile
    have hvalue := Toml.value_of_numeral hnumeral hends fuel depth
    -- a document with a larger numeral is not read at all
    cases hn : Toml.longWord? n with
    | none =>
      rw [hn] at hvalue
      exact absurd ((Toml.read_of_reaches hreaches hvalue).symm.trans hread) (Option.some_ne_none _).symm
    | some v =>
      rw [hn] at hvalue
      obtain ⟨-, hsome⟩ := Option.ite_none_right_eq_some.mp hn
      obtain rfl := Option.some.inj hsome
      exact ⟨_, value?_layered hl (Setting.value?_layer_of_spares hspared
        (Setting.value?_layer (Setting.isValue_whole n) (hgives _ _ _ hvalue hread) _)), .whole n⟩

/-- Nothing is loaded from a written limit but that limit. -/
theorem load_of_written {file : File} {env : Environment} {n : Int} (hl : l ∈ Leaf.limits) (h : Written file env l n)
    (hload : load file env = .ok c) : c.value l = .whole n ∧ 1 ≤ n ∧ n < 4294967296 := by
  obtain ⟨entries, hfile, hsetting, hcheck⟩ := exists_of_load hload
  obtain ⟨v, hv, hstands⟩ := exists_value?_of_written (Leaf.ne_url_of_mem_limits hl) h hfile
  obtain ⟨w, hw, hc⟩ := exists_word?_of_ofSetting? hl hv hsetting
  have hzero : w ≠ 0 := by
    rintro rfl
    exact value_ne_zero_of_check hl hcheck hc
  cases hstands with
  | whole =>
    rw [Setting.word?_whole] at hw
    obtain ⟨⟨hlow, hhigh⟩, hsome⟩ := Option.ite_none_right_eq_some.mp hw
    obtain rfl := Option.some.inj hsome
    have hsize : UInt32.size = 4294967296 := rfl
    have hn : (UInt32.ofNat n.toNat).toNat = n.toNat := UInt32.toNat_ofNat_of_lt' (by omega)
    have hpos : n ≠ 0 := by
      rintro rfl
      exact hzero rfl
    refine ⟨?_, by omega, hhigh⟩
    rw [hc, hn, Int.toNat_of_nonneg hlow]
  | below _ hword => exact absurd (Option.some.inj (hw.symm.trans hword)) hzero
  | above _ hword =>
    rw [hword] at hw
    cases hw

theorem bounds_of_value {n : Int} (hl : l ∈ Leaf.limits) (h : c.value l = .whole n) : 0 ≤ n ∧ n < 4294967296 := by
  have hword {w : UInt32} (hw : Setting.whole w.toNat = .whole n) : 0 ≤ n ∧ n < 4294967296 := by
    have hsize : w.toNat < 4294967296 := w.toNat_lt
    have hn := Setting.whole.inj hw
    omega
  rcases Leaf.eq_of_mem_limits hl with rfl | rfl | rfl
  · exact hword h
  · exact hword h
  · exact hword h

/-- Where a written limit and all other values are those of a configuration, it is loaded if it can be used. -/
theorem load_of_values {file : File} {env : Environment} {n : Int} (hl : l ∈ Leaf.limits) (h : Written file env l n)
    (hfile : file.settings = .ok es) (hc : c.value l = .whole n)
    (hothers : ∀ l', l' ≠ l → (layered es env).value? l' = some (c.value l')) :
    load file env = c.check.map fun _ => c := by
  obtain ⟨hlow, hhigh⟩ := bounds_of_value hl hc
  obtain ⟨v, hv, hstands⟩ := exists_value?_of_written (Leaf.ne_url_of_mem_limits hl) h hfile
  have hwhole : v = .whole n := by
    cases hstands with
    | whole => rfl
    | below => omega
    | above => omega
  have hall (l' : Leaf) : (layered es env).value? l' = some (c.value l') := by
    by_cases hl' : l' = l
    · rw [hl', hv, hwhole, hc]
    · exact hothers l' hl'
  refine load_of_holds hfile fun l' => ?_
  obtain ⟨t, ht, hname⟩ := Option.bind_eq_some_iff.mp (hall l')
  obtain ⟨entries, rfl⟩ := Setting.eq_table_of_get? hname
  exact ⟨entries, ht, hname⟩

end

end Config

open Config (Leaf load layered)

/-- Where an integer is written as a limit, either no configuration is loaded or one with exactly this limit, and none is
loaded where the integer is not from 1 to 2^32 - 1.  Where all other values are those of a configuration with this limit, it
is loaded if it can be used. -/
theorem limit_of_written {file : Config.File} {env : Environment} {l : Leaf} {n : Int} (hl : l ∈ Leaf.limits)
    (h : Config.Written file env l n) :
    ((∃ fault, load file env = .error fault) ∨ ∃ c, load file env = .ok c ∧ c.value l = .whole n) ∧
      (n < 1 ∨ 4294967296 ≤ n → ∃ fault, load file env = .error fault) ∧
      ∀ entries (c : Config), file.settings = .ok entries → c.value l = .whole n →
        (∀ l', l' ≠ l → (layered entries env).value? l' = some (c.value l')) → load file env = c.check.map fun _ => c := by
  refine ⟨?_, fun hn => ?_, fun entries c hfile hc hothers => Config.load_of_values hl h hfile hc hothers⟩
  · cases hload : load file env with
    | error fault => exact .inl ⟨fault, rfl⟩
    | ok c => exact .inr ⟨c, rfl, (Config.load_of_written hl h hload).1⟩
  · cases hload : load file env with
    | error fault => exact ⟨fault, rfl⟩
    | ok c =>
      obtain ⟨-, hlow, hhigh⟩ := Config.load_of_written hl h hload
      omega

/-! ## A file, and a variable with an integer beyond 32 bits -/

/-- A variable with an integer whose last 32 bits are 50. -/
def wrappingVariable : Environment :=
  [(Leaf.maxSize.variableName, "4294967346")]

/-- The built-in configuration with the limit of the file. -/
def fourConnections : Config :=
  ⟨⟨Config.default.database.url, 4, 30⟩, LoggingConfig.default, Paging.default⟩

/-- The limit of the file is taken; the variable is refused, and not taken for 50. -/
theorem limits_of_wrappingVariable :
    load (.text oneKeyText) [] = .ok fourConnections ∧ ∃ fault, load (.text oneKeyText) wrappingVariable = .error fault := by
  constructor
  · have hnumeral : Toml.Numeral ['4'] 4 := Toml.numeral_digit rfl
    have hwritten : Config.Written (.text oneKeyText) [] .maxConnections 4 :=
      oneKeyText_eq ▸ Config.written_entryText .maxConnections hnumeral (List.forall_mem_nil _)
    have hfile : (Config.File.text oneKeyText).settings = .ok [("database", .table [("max_connections", .whole 4)])] := by
      rw [Config.File.settings, read_oneKeyText]
    have hcheck : fourConnections.check = .ok () := rfl
    have hload : load (.text oneKeyText) [] = fourConnections.check.map fun _ => fourConnections := by
      refine (limit_of_written (by decide) hwritten).2.2 _ fourConnections hfile rfl fun l hl => ?_
      cases l with
      | maxConnections => exact absurd rfl hl
      | url | acquireTimeout | level | json | defaultSize | maxSize => rfl
    rw [hload, hcheck]
    rfl
  · have hwrites : Decimal.Writes "4294967346".toList 4294967346 := .digits (by decide) (List.all_eq_true.mp (by decide))
    have hwritten : Config.Written (.text oneKeyText) wrappingVariable .maxSize 4294967346 :=
      Config.written_variable _ .maxSize hwrites
    exact (limit_of_written (by decide) hwritten).2.1 (.inr (by decide))

end TaskLifecycle
