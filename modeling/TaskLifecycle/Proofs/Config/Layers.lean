import TaskLifecycle.Proofs.Config.Leaves
import TaskLifecycle.Proofs.Toml.Distinct
import TaskLifecycle.Proofs.Toml.Line

/-!
# TaskLifecycle.Proofs.Config.Layers — which layer a key has its value from

* `Setting.Holds.insert`, `Setting.Holds.assign`, `Setting.Holds.assign_table`: what one entry of a layer does to the
  values of the keys.
* `Setting.Holds.layer_file`, `Setting.Holds.layer_environment`: what a whole layer does, by induction on its entries.
* `Config.File.Assigns`, `Environment.Assigns`: a file, or an environment, that gives values to some keys.
* `Config.holds_layered`: the values in all layers; `Config.load_of_holds`: what is loaded then.
* `load_of_layers`: every key has its value from the highest layer that has one, and the configuration is loaded if it
  can be used.
-/

namespace TaskLifecycle

open Config (Leaf)

/-! ## One entry -/

namespace Setting

variable {s : Setting} {values : Leaf → Setting}

/-- A table put in the place of another one decides the values of its keys, and leaves those of all other keys. -/
theorem Holds.insert (h : s.Holds values) (l : Leaf) {es : List (String × Setting)} {values' : Leaf → Setting}
    (hinside : ∀ l', l.table = l'.table → Setting.find? l'.name es = some (values' l'))
    (houtside : ∀ l', l.table ≠ l'.table → values' l' = values l') : (s.insert l.table (table es)).Holds values' := by
  intro l'
  by_cases htable : l.table = l'.table
  · exact ⟨es, by rw [get?_insert, if_pos htable], hinside l' htable⟩
  · obtain ⟨es', hes', hfind⟩ := h l'
    refine ⟨es', ?_, ?_⟩
    · rw [get?_insert, if_neg htable, hes']
    · rw [houtside l' htable, hfind]

/-- A value at the place of a key leaves the values of all other keys. -/
theorem Holds.assign (h : s.Holds values) (l : Leaf) {v : Setting} (hv : v.IsValue) :
    (Setting.assign v (Place.read l.place) (some s)).Holds (Function.update values l v) := by
  obtain ⟨es, hes, -⟩ := h l
  have hassign : Setting.assign v (Place.read l.place) (some s) = s.insert l.table (table (put l.name v es)) := by
    simp only [Leaf.read_place, Setting.assign, Option.getD_some, Leaf.lower_table, Leaf.lower_name, merge_of_value hv,
      hes]
    rfl
  rw [hassign]
  refine h.insert l (fun l' htable => ?_) fun l' htable => ?_
  · rw [find?_put]
    by_cases hl : l' = l
    · rw [hl, if_pos rfl, Function.update_self]
    · rw [if_neg fun hname => hl (Leaf.name_injective hname).symm, Function.update_of_ne hl]
      exact h.find? (htable ▸ hes)
  · rw [Function.update_of_ne fun hl => htable (congrArg Leaf.table hl.symm)]

/-- Entries for a table leave the values of all other keys. -/
theorem Holds.assign_table (h : s.Holds values) (l : Leaf) {es : List (String × Setting)}
    (hkeys : (es.map Prod.fst).Nodup) (hlower : ∀ e ∈ es, lower e.1 = e.1) (hvalues : ∀ e ∈ es, e.2.IsValue) :
    (Setting.assign (.table es) (Place.read l.table) (some s)).Holds fun l' =>
      if l.table = l'.table then (Setting.find? l'.name es).getD (values l') else values l' := by
  obtain ⟨below, hbelow, -⟩ := h l
  obtain ⟨out, hout⟩ := mergeEntries_eq_table below es
  have hassign : Setting.assign (.table es) (Place.read l.table) (some s) = s.insert l.table (table out) := by
    simp only [Leaf.read_table, Setting.assign, Option.getD_some, Leaf.lower_table, hbelow, merge, hout]
  rw [hassign]
  refine h.insert l (fun l' htable => ?_) fun l' htable => if_neg htable
  have hbelow' : Setting.find? l'.name below = some (values l') := h.find? (htable ▸ hbelow)
  have hmerged : (mergeEntries (table below) es).get? l'.name =
      (Setting.find? l'.name es).or ((table below).get? l'.name) := get?_mergeEntries hkeys hlower hvalues
  have hfind : Setting.find? l'.name out = (Setting.find? l'.name es).or (Setting.find? l'.name below) := by
    rwa [hout] at hmerged
  rw [if_pos htable, hfind, hbelow']
  cases Setting.find? l'.name es <;> rfl

end Setting

/-! ## A whole layer -/

namespace Config

/-- Tables with nothing but keys of a configuration, and with values of their kinds. -/
def OfLeaves (entries : List (String × Setting)) : Prop :=
  ∀ e ∈ entries, ∃ l : Leaf, ∃ es, e = (l.table, .table es) ∧
    ∀ e' ∈ es, ∃ l' : Leaf, ∃ v, e' = (l'.name, v) ∧ l'.table = l.table ∧ l'.kind.Fits v

/-- The value of a key in tables. -/
def inTables (entries : List (String × Setting)) (l : Leaf) : Option Setting :=
  (Setting.find? l.table entries).bind (Setting.get? l.name)

/-- The value of a key in an environment. -/
def inEnvironment (env : Environment) (l : Leaf) : Option Setting :=
  (env.lookup l.variableName).map valueOf

/-- A variable that is not for settings. -/
def Foreign (name : String) : Prop :=
  ¬ "taskforge__".toList <+: (lower name).toList

/-- The name of a variable for a key with text that means a value of its kind, or of one that is not for settings. -/
def IsVariable (e : String × String) : Prop :=
  Foreign e.1 ∨ ∃ l : Leaf, ∃ v, e.1 = l.variableName ∧ l.kind.Means e.2 v

theorem placeOf_of_foreign {name : String} (h : Foreign name) : placeOf name = none := by
  have hlower : (lower name).toList = name.toList.map lowerChar := String.toList_ofList
  rw [Foreign, hlower, ← List.isPrefixOf_iff_prefix] at h
  exact if_neg h

theorem variableName_ne_of_foreign {name : String} (h : Foreign name) (l : Leaf) : l.variableName ≠ name := by
  rintro rfl
  have hplace := l.placeOf_variableName
  rw [placeOf_of_foreign h] at hplace
  cases hplace

end Config

namespace Setting

open Config (OfLeaves inTables inEnvironment IsVariable)

variable {s : Setting} {values : Leaf → Setting}

/-- The values of a file lie over those below it. -/
theorem Holds.layer_file (h : s.Holds values) {entries : List (String × Setting)} (hdistinct : (table entries).Distinct)
    (hleaves : OfLeaves entries) : (s.layer entries).Holds fun l => (inTables entries l).getD (values l) := by
  induction entries generalizing s values with
  | nil => exact h
  | cons e rest ih =>
    obtain ⟨⟨l, es, rfl, hes⟩, hrestLeaves⟩ := List.forall_mem_cons.mp hleaves
    obtain ⟨hkeys, hvalues⟩ := Setting.distinct_table_iff.mp hdistinct
    rw [List.map_cons, List.nodup_cons] at hkeys
    obtain ⟨htable, hrestValues⟩ := List.forall_mem_cons.mp hvalues
    obtain ⟨hesKeys, -⟩ := Setting.distinct_table_iff.mp htable
    have hlower : ∀ e ∈ es, lower e.1 = e.1 := by
      intro e he
      obtain ⟨l', v, rfl, -, -⟩ := hes e he
      exact l'.lower_name
    have hplain : ∀ e ∈ es, e.2.IsValue := by
      intro e he
      obtain ⟨l', v, rfl, -, hfits⟩ := hes e he
      exact hfits.isValue
    have hstep := ih (h.assign_table l hesKeys hlower hplain) (.table hkeys.2 hrestValues) hrestLeaves
    -- no later table has the name of the first, so nothing is laid over its values
    refine Eq.subst (motive := Holds _) (funext fun l' => ?_) hstep
    by_cases hl : l.table = l'.table
    · have hrest : inTables rest l' = none := by
        rw [inTables, find?_eq_none (hl ▸ hkeys.1)]
        rfl
      rw [if_pos hl, hrest, inTables, Setting.find?, if_pos hl]
      rfl
    · rw [if_neg hl, inTables, inTables, Setting.find?, if_neg hl]

/-- The values of an environment lie over those below it. -/
theorem Holds.layer_environment (h : s.Holds values) {env : Environment} (hnames : (env.map Prod.fst).Nodup)
    (hvariables : ∀ e ∈ env, IsVariable e) :
    (s.layer (Config.ofEnvironment env)).Holds fun l => (inEnvironment env l).getD (values l) := by
  induction env generalizing s values with
  | nil => exact h
  | cons e rest ih =>
    obtain ⟨name, text⟩ := e
    rw [List.map_cons, List.nodup_cons] at hnames
    obtain ⟨hvariable, hrest⟩ := List.forall_mem_cons.mp hvariables
    rcases hvariable with hforeign | ⟨l, v, rfl, hmeans⟩
    · have hplace : Config.placeOf name = none := Config.placeOf_of_foreign hforeign
      have hlayer : Config.ofEnvironment ((name, text) :: rest) = Config.ofEnvironment rest := by
        simp only [Config.ofEnvironment, List.filterMap_cons, hplace, Option.map_none]
      rw [hlayer]
      refine Eq.subst (motive := Holds _) (funext fun l => ?_) (ih h hnames.2 hrest)
      rw [inEnvironment, inEnvironment, List.lookup_cons, beq_false_of_ne (Config.variableName_ne_of_foreign hforeign l)]
    · have hlayer : Config.ofEnvironment ((l.variableName, text) :: rest) =
          (l.place, v) :: Config.ofEnvironment rest := by
        simp only [Config.ofEnvironment, List.filterMap_cons, l.placeOf_variableName, Option.map_some,
          Config.valueOf_of_means hmeans]
      rw [hlayer]
      have hstep := ih (h.assign l hmeans.fits.isValue) hnames.2 hrest
      -- no later variable has the name of the first
      refine Eq.subst (motive := Holds _) (funext fun l' => ?_) hstep
      by_cases hl : l' = l
      · subst hl
        rw [inEnvironment, inEnvironment, lookup_eq_none hnames.1, List.lookup_cons, beq_self_eq_true, Function.update_self]
        exact (Config.valueOf_of_means hmeans).symm
      · have hname : l'.variableName ≠ l.variableName := fun hname => hl (Leaf.variableName_injective hname)
        rw [inEnvironment, inEnvironment, List.lookup_cons, beq_false_of_ne hname, Function.update_of_ne hl]

end Setting

/-! ## What is loaded -/

/-- A file gives the values of `values` to some keys, in tables with nothing else. -/
def Config.File.Assigns (file : Config.File) (values : Leaf → Option Setting) : Prop :=
  ∃ entries, file.settings = .ok entries ∧ Config.OfLeaves entries ∧
    ∀ l v, values l = some v ↔ ∃ es, (l.table, .table es) ∈ entries ∧ (l.name, v) ∈ es

/-- The variables of an environment give the values of `values` to some keys. -/
structure Environment.Assigns (env : Environment) (values : Leaf → Option Setting) : Prop where
  names : (env.map Prod.fst).Nodup
  known : ∀ e ∈ env, Config.IsVariable e
  values : ∀ l v, values l = some v ↔ ∃ text, (l.variableName, text) ∈ env ∧ l.kind.Means text v

namespace Config

variable {file : File} {entries : List (String × Setting)} {env : Environment} {F E : Leaf → Option Setting} {c : Config}

/-- What is read from a file has distinct keys. -/
theorem File.distinct_settings (h : file.settings = .ok entries) : (Setting.table entries).Distinct := by
  cases file with
  | none =>
    cases h
    exact .table List.nodup_nil (by simp)
  | missing path => cases h
  | unreadable => cases h
  | text content =>
    simp only [File.settings] at h
    split at h
    · cases h
      exact Toml.distinct_read ‹_›
    · cases h

theorem inTables_eq (hdistinct : (Setting.table entries).Distinct)
    (h : ∀ l v, F l = some v ↔ ∃ es, (l.table, .table es) ∈ entries ∧ (l.name, v) ∈ es) : inTables entries = F := by
  obtain ⟨hkeys, hvalues⟩ := Setting.distinct_table_iff.mp hdistinct
  funext l
  ext v
  rw [h, inTables, Option.bind_eq_some_iff]
  constructor
  · rintro ⟨s, hs, hv⟩
    obtain ⟨es, rfl⟩ := Setting.eq_table_of_get? hv
    have hmem := (Setting.find?_eq_some_iff hkeys).mp hs
    obtain ⟨hesKeys, -⟩ := Setting.distinct_table_iff.mp (hvalues _ hmem)
    exact ⟨es, hmem, (Setting.find?_eq_some_iff hesKeys).mp hv⟩
  · rintro ⟨es, hmem, hv⟩
    obtain ⟨hesKeys, -⟩ := Setting.distinct_table_iff.mp (hvalues _ hmem)
    exact ⟨.table es, (Setting.find?_eq_some_iff hkeys).mpr hmem, (Setting.find?_eq_some_iff hesKeys).mpr hv⟩

theorem inEnvironment_eq (h : env.Assigns E) : inEnvironment env = E := by
  funext l
  ext v
  rw [h.values, inEnvironment, Option.map_eq_some_iff]
  constructor
  · rintro ⟨text, htext, rfl⟩
    have hmem := (lookup_eq_some_iff h.names).mp htext
    refine ⟨text, hmem, ?_⟩
    rcases h.known _ hmem with hforeign | ⟨l', v, hname, hmeans⟩
    · exact absurd rfl (variableName_ne_of_foreign hforeign l)
    · obtain rfl := Leaf.variableName_injective hname
      rwa [valueOf_of_means hmeans]
  · rintro ⟨text, hmem, hmeans⟩
    exact ⟨text, (lookup_eq_some_iff h.names).mpr hmem, valueOf_of_means hmeans⟩

theorem holds_default : ((Setting.table []).layer default.toSetting.entries).Holds default.value := by
  intro l
  cases l <;> exact ⟨_, rfl, rfl⟩

/-- The values of the keys in all layers. -/
def merged (env : Environment) (F E : Leaf → Option Setting) : Leaf → Setting :=
  let values l := ((E l).or (F l)).getD (default.value l)
  match env.lookup databaseVariable with
  | some url => Function.update values .url (.text url)
  | none => values

theorem merged_url {url : String} (h : env.lookup databaseVariable = some url) : merged env F E .url = .text url := by
  simp only [merged, h, Function.update_self]

theorem merged_of_none {l : Leaf} (h : l = .url → env.lookup databaseVariable = none) :
    merged env F E l = ((E l).or (F l)).getD (default.value l) := by
  cases hurl : env.lookup databaseVariable with
  | none => simp only [merged, hurl]
  | some url =>
    have hl : l ≠ .url := fun hl => Option.some_ne_none _ (hurl.symm.trans (h hl))
    simp only [merged, hurl, Function.update_of_ne hl]

theorem holds_layered (hdistinct : (Setting.table entries).Distinct) (hleaves : OfLeaves entries)
    (henv : env.Assigns E) : (layered entries env).Holds (merged env (inTables entries) E) := by
  have hbelow := (holds_default.layer_file hdistinct hleaves).layer_environment henv.names henv.known
  have hvalues : (fun l => (inEnvironment env l).getD ((inTables entries l).getD (default.value l))) =
      fun l => ((E l).or (inTables entries l)).getD (default.value l) := by
    funext l
    rw [inEnvironment_eq henv]
    cases E l <;> rfl
  rw [hvalues] at hbelow
  cases hurl : env.lookup databaseVariable with
  | none => simpa only [layered, merged, hurl] using hbelow
  | some url =>
    have hplace : Leaf.url.place = "database.url" := by decide
    have hassign := hbelow.assign .url (v := .text url) fun es h => nomatch h
    rw [hplace] at hassign
    simp only [layered, merged, hurl]
    exact hassign

/-- Where all layers have the values of a configuration, it is loaded if it can be used. -/
theorem load_of_holds (hfile : file.settings = .ok entries) (h : (layered entries env).Holds c.value) :
    load file env = c.check.map fun _ => c := by
  simp only [load, hfile, h.ofSetting?]
  cases c.check <;> rfl

/-- The values of all layers are those of a configuration. -/
theorem fits_merged (hfile : ∀ l v, F l = some v → l.kind.Fits v) (henv : ∀ l v, E l = some v → l.kind.Fits v) (l : Leaf) :
    l.kind.Fits (merged env F E l) ∨ merged env F E l = default.value l := by
  by_cases h : l = .url → env.lookup databaseVariable = none
  · rw [merged_of_none h]
    cases hE : E l with
    | some v => exact .inl (henv l v hE)
    | none =>
      cases hF : F l with
      | some v => exact .inl (hfile l v hF)
      | none => exact .inr rfl
  · obtain ⟨rfl, hurl⟩ := Classical.not_imp.mp h
    obtain ⟨url, hurl⟩ := Option.ne_none_iff_exists'.mp hurl
    rw [merged_url hurl]
    exact .inl ⟨url, rfl⟩

theorem fits_of_file (hleaves : OfLeaves entries)
    (h : ∀ l v, F l = some v ↔ ∃ es, (l.table, .table es) ∈ entries ∧ (l.name, v) ∈ es) (l : Leaf) (v : Setting)
    (hv : F l = some v) : l.kind.Fits v := by
  obtain ⟨es, hes, hmem⟩ := (h l v).mp hv
  obtain ⟨l₀, es', htable, hall⟩ := hleaves _ hes
  obtain ⟨-, hes'⟩ := Prod.mk.inj htable
  obtain rfl := Setting.table.inj hes'
  obtain ⟨l', v', hentry, -, hfits⟩ := hall _ hmem
  obtain ⟨hname, rfl⟩ := Prod.mk.inj hentry
  obtain rfl := Leaf.name_injective hname
  exact hfits

end Config

open Config (databaseVariable load)

/-- Where a file gives values `F`, and the variables of an environment values `E`, to some keys, a configuration is loaded
exactly if the one with these values can be used, and then it is that one: its address is the one of `DATABASE_URL` if that
is set, and otherwise every key has its value from the environment, if not there from the file, and if not there the
built-in one. -/
theorem load_of_layers {file : Config.File} {env : Environment} {F E : Leaf → Option Setting} (hfile : file.Assigns F)
    (henv : env.Assigns E) :
    ∃ c : Config,
      (∀ url, env.lookup databaseVariable = some url → c.value .url = .text url) ∧
      (∀ l, (l = .url → env.lookup databaseVariable = none) →
        c.value l = ((E l).or (F l)).getD (Config.default.value l)) ∧
      ((∃ loaded, load file env = .ok loaded) ↔ c.check = .ok ()) ∧
      (∀ loaded, load file env = .ok loaded → loaded = c) ∧
      ∀ fault, load file env = .error fault ↔ c.check = .error fault := by
  obtain ⟨entries, hsettings, hleaves, hF⟩ := hfile
  have hdistinct := Config.File.distinct_settings hsettings
  have hE (l : Leaf) (v : Setting) (hv : E l = some v) : l.kind.Fits v := by
    obtain ⟨text, -, hmeans⟩ := (henv.values l v).mp hv
    exact hmeans.fits
  obtain ⟨c, hc⟩ : ∃ c : Config, ∀ l, c.value l = Config.merged env F E l :=
    Config.exists_of_fits (Config.fits_merged (Config.fits_of_file hleaves hF) hE)
  have hholds : (Config.layered entries env).Holds c.value := by
    have hlayered := Config.holds_layered hdistinct hleaves henv
    rwa [Config.inTables_eq hdistinct hF, ← funext hc] at hlayered
  have hload := Config.load_of_holds hsettings hholds
  refine ⟨c, fun url hurl => ?_, fun l hl => ?_, ?_, ?_, ?_⟩
  · rw [hc, Config.merged_url hurl]
  · rw [hc, Config.merged_of_none hl]
  all_goals
    rw [hload]
    cases c.check <;> simp [Except.map]

/-! ## A file and an environment that share a table -/

theorem Config.Leaf.bare_table (l : Leaf) : Toml.Bare l.table.toList := by
  cases l <;> exact ⟨by decide, List.all_eq_true.mp (by decide)⟩

theorem Config.Leaf.bare_name (l : Leaf) : Toml.Bare l.name.toList := by
  cases l <;> exact ⟨by decide, List.all_eq_true.mp (by decide)⟩

/-- A document with one key. -/
def oneKeyText : String :=
  "database.max_connections = 4"

theorem oneKeyText_eq :
    oneKeyText = Toml.entryText Leaf.maxConnections.table.toList Leaf.maxConnections.name.toList ['4'] := by
  decide

theorem read_oneKeyText : Toml.read oneKeyText = some [("database", .table [("max_connections", .whole 4)])] := by
  have hnumeral : Toml.Numeral ['4'] 4 := Toml.numeral_digit rfl
  have hword : Toml.longWord? 4 = some (.whole 4) := rfl
  rw [oneKeyText_eq, Toml.read_entryText (Leaf.bare_table _) (Leaf.bare_name _) hnumeral, hword, Option.map_some,
    String.ofList_toList, String.ofList_toList]
  rfl

/-- The variable for another key of the same table, and the one for the address. -/
def twoVariables : Environment :=
  [("TASKFORGE__DATABASE__ACQUIRE_TIMEOUT_SECONDS", "60"), ("DATABASE_URL", "postgresql://env/db")]

theorem assigns_oneKeyText :
    (Config.File.text oneKeyText).Assigns fun l => if l = .maxConnections then some (.whole 4) else none := by
  refine ⟨_, by rw [Config.File.settings, read_oneKeyText], ?_, fun l v => ?_⟩
  · intro e he
    obtain rfl := List.mem_singleton.mp he
    refine ⟨.maxConnections, _, rfl, fun e' he' => ?_⟩
    obtain rfl := List.mem_singleton.mp he'
    exact ⟨.maxConnections, _, rfl, rfl, 4, rfl, by decide⟩
  · cases l <;> simp [Leaf.table, Leaf.name, eq_comm]

theorem mem_twoVariables {e : String × String} (h : e ∈ twoVariables) :
    e = (Leaf.acquireTimeout.variableName, "60") ∨ e = ("DATABASE_URL", "postgresql://env/db") :=
  (List.mem_cons.mp h).imp_right List.mem_singleton.mp

theorem assigns_twoVariables :
    twoVariables.Assigns fun l => if l = .acquireTimeout then some (.whole 60) else none := by
  have hwrites : Decimal.Writes "60".toList 60 := .digits (by decide) (List.all_eq_true.mp (by decide))
  have hmeans : Leaf.acquireTimeout.kind.Means "60" (.whole 60) := ⟨60, rfl, by decide, hwrites⟩
  have hforeign : Config.Foreign "DATABASE_URL" := by
    unfold Config.Foreign
    decide
  refine ⟨by decide, fun e he => ?_, fun l v => ?_⟩
  · rcases mem_twoVariables he with rfl | rfl
    · exact .inr ⟨.acquireTimeout, _, rfl, hmeans⟩
    · exact .inl hforeign
  · constructor
    · intro hv
      obtain ⟨rfl, hv⟩ := Option.ite_none_right_eq_some.mp hv
      obtain rfl := Option.some.inj hv
      exact ⟨"60", List.mem_cons_self, hmeans⟩
    · rintro ⟨text, hmem, htext⟩
      rcases mem_twoVariables hmem with hentry | hentry
      · obtain ⟨hname, rfl⟩ := Prod.mk.inj hentry
        obtain rfl := Leaf.variableName_injective hname
        rw [if_pos rfl, ← Config.valueOf_of_means htext, Config.valueOf_of_means hmeans]
      · exact absurd (Prod.mk.inj hentry).1 (Config.variableName_ne_of_foreign hforeign l)

/-- The file has one key of a table and the environment another one; a third one has its value from `DATABASE_URL`. -/
theorem load_of_two_layers :
    load (.text oneKeyText) twoVariables =
      .ok ⟨⟨"postgresql://env/db", 4, 60⟩, LoggingConfig.default, Paging.default⟩ := by
  obtain ⟨c, hurl, hvalues, hloaded, hunique, -⟩ := load_of_layers assigns_oneKeyText assigns_twoVariables
  have hc : c = ⟨⟨"postgresql://env/db", 4, 60⟩, LoggingConfig.default, Paging.default⟩ := by
    refine Config.eq_of_value fun l => ?_
    cases l with
    | url => exact hurl _ (by decide)
    | maxConnections | acquireTimeout | level | json | defaultSize | maxSize => exact hvalues _ (by decide)
  subst hc
  obtain ⟨loaded, hload⟩ := hloaded.mpr rfl
  rw [hload, hunique loaded hload]

end TaskLifecycle
