import TaskLifecycle.Toml.Document

/-!
# TaskLifecycle.Proofs.Toml.Distinct — the keys of every table of a document are distinct

* `Setting.Distinct`, `Toml.Node.Distinct`: the keys of a table are distinct, and so on within it.
* `Toml.Node.Keeps`: a change that keeps this; `keeps_define`, `keeps_openTable`, `keeps_openSeries`: what a line does.
* `Toml.distinct_value`, `Toml.distinct_lines`: so all that is read has distinct keys.
* `Toml.distinct_settings`: settings have the keys of their nodes.
* `Toml.distinct_read`: the settings that a document writes have distinct keys.
-/

namespace TaskLifecycle

/-- The keys of every table are distinct. -/
inductive Setting.Distinct : Setting → Prop where
  | nil : Distinct .nil
  | flag (b : Bool) : Distinct (.flag b)
  | whole (n : Int) : Distinct (.whole n)
  | real (x : Extended) : Distinct (.real x)
  | text (s : String) : Distinct (.text s)
  | list {items : List Setting} (values : ∀ s ∈ items, s.Distinct) : Distinct (.list items)
  | table {entries : List (String × Setting)} (keys : (entries.map Prod.fst).Nodup)
    (values : ∀ e ∈ entries, e.2.Distinct) : Distinct (.table entries)

theorem Setting.distinct_table_iff {entries : List (String × Setting)} :
    (Setting.table entries).Distinct ↔ (entries.map Prod.fst).Nodup ∧ ∀ e ∈ entries, e.2.Distinct := by
  constructor
  · rintro (_ | _ | _ | _ | _ | _ | ⟨keys, values⟩)
    exact ⟨keys, values⟩
  · rintro ⟨keys, values⟩
    exact .table keys values

namespace Toml

/-- The keys of every table are distinct. -/
inductive Node.Distinct : Node → Prop where
  | value {v : Setting} (h : v.Distinct) : Distinct (.scalar (.value v))
  | date (text : String) : Distinct (.scalar (.date text))
  | array {items : List Node} (values : ∀ n ∈ items, n.Distinct) : Distinct (.array items)
  | inline {entries : List (String × Node)} (keys : (entries.map Prod.fst).Nodup)
    (values : ∀ e ∈ entries, e.2.Distinct) : Distinct (.inline entries)
  | table {made : Made} {entries : List (String × Node)} (keys : (entries.map Prod.fst).Nodup)
    (values : ∀ e ∈ entries, e.2.Distinct) : Distinct (.table made entries)
  | series {earlier : List Node} {last : Node} (values : ∀ n ∈ earlier, n.Distinct) (latest : last.Distinct) :
    Distinct (.series earlier last)

/-! ## Tables while they are read -/

namespace Node

/-- Entries whose keys are distinct, also within their nodes. -/
structure DistinctEntries (entries : List (String × Node)) : Prop where
  keys : (entries.map Prod.fst).Nodup
  values : ∀ e ∈ entries, e.2.Distinct

variable {key : String} {node v : Node} {entries : List (String × Node)} {made : Made} {viaDots : Bool}
  {path : List String}

theorem distinct_table_iff : (table made entries).Distinct ↔ DistinctEntries entries := by
  constructor
  · rintro (_ | _ | _ | _ | ⟨keys, values⟩)
    exact ⟨keys, values⟩
  · rintro ⟨keys, values⟩
    exact .table keys values

theorem mem_of_find? (h : find? key entries = some node) : (key, node) ∈ entries := by
  induction entries with
  | nil => simp [find?] at h
  | cons e rest ih =>
    obtain ⟨k, n⟩ := e
    by_cases hk : k = key
    · rw [find?, if_pos hk, Option.some.injEq] at h
      rw [hk, h]
      exact List.mem_cons_self
    · rw [find?, if_neg hk] at h
      exact List.mem_cons_of_mem _ (ih h)

theorem mem_put {e : String × Node} (h : e ∈ put key node entries) : e = (key, node) ∨ e ∈ entries := by
  induction entries with
  | nil => exact .inl (List.mem_singleton.mp h)
  | cons first rest ih =>
    obtain ⟨k, n⟩ := first
    by_cases hk : k = key
    · rw [put, if_pos hk, hk, List.mem_cons] at h
      exact h.imp_right (List.mem_cons_of_mem _)
    · rw [put, if_neg hk, List.mem_cons] at h
      rcases h with rfl | h
      · exact .inr List.mem_cons_self
      · exact (ih h).imp_right (List.mem_cons_of_mem _)

theorem nodup_keys_put (h : (entries.map Prod.fst).Nodup) : ((put key node entries).map Prod.fst).Nodup := by
  induction entries with
  | nil => simp [put]
  | cons first rest ih =>
    obtain ⟨k, n⟩ := first
    rw [List.map_cons, List.nodup_cons] at h
    by_cases hk : k = key
    · rw [put, if_pos hk, List.map_cons, List.nodup_cons]
      exact h
    · rw [put, if_neg hk, List.map_cons, List.nodup_cons]
      refine ⟨fun hmem => ?_, ih h.2⟩
      obtain ⟨e, he, hkey⟩ := List.mem_map.mp hmem
      rcases mem_put he with rfl | he
      · exact hk hkey.symm
      · exact h.1 (List.mem_map.mpr ⟨e, he, hkey⟩)

theorem DistinctEntries.find? (h : DistinctEntries entries) (hfind : find? key entries = some node) : node.Distinct :=
  h.values _ (mem_of_find? hfind)

theorem DistinctEntries.put (h : DistinctEntries entries) (hnode : node.Distinct) :
    DistinctEntries (put key node entries) := by
  refine ⟨nodup_keys_put h.keys, fun e he => ?_⟩
  rcases mem_put he with rfl | he
  · exact hnode
  · exact h.values e he

theorem DistinctEntries.remove (h : DistinctEntries entries) (key : String) : DistinctEntries (remove key entries) :=
  ⟨h.keys.sublist (List.filter_sublist.map _), fun e he => h.values e (List.mem_filter.mp he).1⟩

theorem distinct_table_nil (made : Made) : (table made []).Distinct :=
  .table List.nodup_nil (by simp)

/-- A change after which all keys are distinct if they were before. -/
def Keeps (f : Node → Option Node) : Prop :=
  ∀ n n', n.Distinct → f n = some n' → n'.Distinct

/-- A change of the table that a path leads to keeps what the change of that table keeps. -/
theorem Keeps.change {f : Node → Option Node} (hf : Keeps f) : Keeps (change viaDots f path) := by
  induction path with
  | nil => exact hf
  | cons key path ih =>
    intro n n' hn h
    cases n with
    | table made entries =>
      have hentries := distinct_table_iff.mp hn
      simp only [Node.change] at h
      split at h
      · obtain ⟨under, hunder, rfl⟩ := Option.map_eq_some_iff.mp h
        exact distinct_table_iff.mpr (hentries.put (ih _ _ (distinct_table_nil _) hunder))
      · rename_i earlier last hfind
        obtain ⟨under, hunder, rfl⟩ := Option.map_eq_some_iff.mp h
        cases hentries.find? hfind with
        | series hearlier hlast =>
          exact distinct_table_iff.mpr (hentries.put (.series hearlier (ih _ _ hlast hunder)))
      · rename_i below inner hfind
        split at h
        · cases h
        · obtain ⟨under, hunder, rfl⟩ := Option.map_eq_some_iff.mp h
          exact distinct_table_iff.mpr (hentries.put (ih _ _ (hentries.find? hfind) hunder))
      · cases h
    | scalar | array | inline | series => cases h

theorem keeps_defineHere (hv : v.Distinct) : Keeps (defineHere viaDots key v) := by
  intro n n' hn h
  cases n with
  | table made entries =>
    simp only [defineHere] at h
    split at h
    · cases h
    · cases h
      exact distinct_table_iff.mpr ((distinct_table_iff.mp hn).put hv)
  | scalar | array | inline | series => cases h

theorem keeps_openHere : Keeps (openHere key) := by
  intro n n' hn h
  cases n with
  | table made entries =>
    have hentries := distinct_table_iff.mp hn
    simp only [openHere] at h
    split at h
    · cases h
      exact distinct_table_iff.mpr (hentries.put (distinct_table_nil _))
    · rename_i under hfind
      cases h
      have hunder := distinct_table_iff.mp (hentries.find? hfind)
      exact distinct_table_iff.mpr ((hentries.remove key).put (distinct_table_iff.mpr hunder))
    · cases h
  | scalar | array | inline | series => cases h

theorem keeps_openNextHere : Keeps (openNextHere key) := by
  intro n n' hn h
  cases n with
  | table made entries =>
    have hentries := distinct_table_iff.mp hn
    simp only [openNextHere] at h
    split at h
    · cases h
      exact distinct_table_iff.mpr (hentries.put (.series (by simp) (distinct_table_nil _)))
    · rename_i earlier last hfind
      cases h
      cases hentries.find? hfind with
      | series hearlier hlast =>
        exact distinct_table_iff.mpr
          (hentries.put (.series (List.forall_mem_cons.mpr ⟨hlast, hearlier⟩) (distinct_table_nil _)))
    · cases h
  | scalar | array | inline | series => cases h

theorem keeps_define (key : List String) (hv : v.Distinct) : Keeps fun node => define node path key v := by
  intro n n' hn h
  simp only [define] at h
  split at h
  · cases h
  · exact (keeps_defineHere hv).change.change n n' hn h

theorem keeps_openTable : Keeps (openTable path) := by
  intro n n' hn h
  simp only [openTable] at h
  split at h
  · cases h
  · exact keeps_openHere.change n n' hn h

theorem keeps_openSeries : Keeps (openSeries path) := by
  intro n n' hn h
  simp only [openSeries] at h
  split at h
  · cases h
  · exact keeps_openNextHere.change n n' hn h

theorem Distinct.closed {n : Node} (h : n.Distinct) : n.closed.Distinct := by
  cases h with
  | table keys values => exact .inline keys values
  | value h => exact .value h
  | date text => exact .date text
  | array values => exact .array values
  | inline keys values => exact .inline keys values
  | series values last => exact .series values last

end Node

/-! ## Values -/

theorem distinct_signedWord {negative : Bool} {n : Nat} {v : Setting} (h : signedWord negative n = some v) :
    v.Distinct := by
  simp only [signedWord] at h
  split at h <;> split at h <;> cases h <;> exact .whole _

theorem distinct_float {negative : Bool} {whole fraction : List Char} {exponent : Int} {v : Setting}
    (h : float negative whole fraction exponent = some v) : v.Distinct := by
  simp only [float] at h
  split at h <;> cases h
  exact .real _

theorem distinct_special {negative : Bool} {cs : List Char} {v : Setting} {rest : List Char}
    (h : special negative cs = some (v, rest)) : v.Distinct := by
  unfold special at h
  split at h <;> cases h <;> exact .real _

theorem distinct_decimal {negative : Bool} {cs : List Char} {v : Setting} {rest : List Char}
    (h : decimal negative cs = some (v, rest)) : v.Distinct := by
  simp only [decimal, Option.bind_eq_some_iff, Prod.exists] at h
  obtain ⟨whole, _, -, fraction, behind, -, exponent, last, -, h⟩ := h
  split at h
  · obtain ⟨w, hw, heq⟩ := Option.map_eq_some_iff.mp h
    cases heq
    exact distinct_signedWord hw
  · obtain ⟨w, hw, heq⟩ := Option.map_eq_some_iff.mp h
    cases heq
    exact distinct_float hw

theorem distinct_inBase {base : Nat} {isDigit : Char → Bool} {cs : List Char} {v : Setting} {rest : List Char}
    (h : inBase base isDigit cs = some (v, rest)) : v.Distinct := by
  simp only [inBase, Option.bind_eq_some_iff, Prod.exists] at h
  obtain ⟨ds, _, -, h⟩ := h
  obtain ⟨w, hw, heq⟩ := Option.map_eq_some_iff.mp h
  cases heq
  exact distinct_signedWord hw

theorem distinct_number {cs : List Char} {v : Setting} {rest : List Char} (h : number cs = some (v, rest)) :
    v.Distinct := by
  have hsigned {negative : Bool} {cs : List Char} (h : (special negative cs).or (decimal negative cs) = some (v, rest)) :
      v.Distinct := by
    rcases Option.or_eq_some_iff.mp h with h | ⟨-, h⟩
    · exact distinct_special h
    · exact distinct_decimal h
  unfold number at h
  split at h
  · exact distinct_inBase h
  · exact distinct_inBase h
  · exact distinct_inBase h
  · exact hsigned h
  · exact hsigned h
  · exact hsigned h

theorem distinct_scalar {cs : List Char} {s : Scalar} {rest : List Char} (h : scalar cs = some (s, rest)) :
    (Node.scalar s).Distinct := by
  unfold scalar at h
  split at h
  · obtain ⟨⟨text, _⟩, -, heq⟩ := Option.map_eq_some_iff.mp h
    cases heq
    exact .value (.text _)
  · obtain ⟨⟨text, _⟩, -, heq⟩ := Option.map_eq_some_iff.mp h
    cases heq
    exact .value (.text _)
  · cases h
    exact .value (.flag _)
  · cases h
    exact .value (.flag _)
  · split at h
    · cases h
      exact .date _
    · obtain ⟨⟨v, _⟩, hv, heq⟩ := Option.map_eq_some_iff.mp h
      cases heq
      exact .value (distinct_number hv)

mutual

theorem distinct_value : ∀ {fuel depth : Nat} {cs : List Char} {v : Node} {rest : List Char},
    value fuel depth cs = some (v, rest) → v.Distinct
  | 0, _, _, _, _, h => by simp [value] at h
  | fuel + 1, depth, cs, v, rest, h => by
    unfold value at h
    split at h
    · split at h
      · exact distinct_arrayItems (by simp) h
      · cases h
    · split at h
      · cases h
      · split at h
        · cases h
          exact .inline List.nodup_nil (by simp)
        · exact distinct_inlineEntries (Node.distinct_table_nil _) h
    · obtain ⟨⟨s, _⟩, hs, heq⟩ := Option.map_eq_some_iff.mp h
      cases heq
      exact distinct_scalar hs

theorem distinct_arrayItems : ∀ {fuel depth : Nat} {done : List Node} {cs : List Char} {v : Node} {rest : List Char},
    (∀ n ∈ done, n.Distinct) → arrayItems fuel depth done cs = some (v, rest) → v.Distinct
  | 0, _, _, _, _, _, _, h => by simp [arrayItems] at h
  | fuel + 1, depth, done, cs, v, rest, hdone, h => by
    unfold arrayItems at h
    split at h
    · cases h
      exact .array (by simpa using hdone)
    · obtain ⟨⟨item, _⟩, hitem, h⟩ := Option.bind_eq_some_iff.mp h
      have hmore : ∀ n ∈ item :: done, n.Distinct := List.forall_mem_cons.mpr ⟨distinct_value hitem, hdone⟩
      dsimp only at h
      split at h
      · exact distinct_arrayItems hmore h
      · cases h
        exact .array fun n hn => hmore n (List.mem_reverse.mp hn)
      · cases h

theorem distinct_inlineEntries : ∀ {fuel depth : Nat} {node : Node} {cs : List Char} {v : Node} {rest : List Char},
    node.Distinct → inlineEntries fuel depth node cs = some (v, rest) → v.Distinct
  | 0, _, _, _, _, _, _, h => by simp [inlineEntries] at h
  | fuel + 1, depth, node, cs, v, rest, hnode, h => by
    simp only [inlineEntries, Option.bind_eq_some_iff, Prod.exists] at h
    obtain ⟨key, _, -, _, -, item, _, hitem, node', hnode', h⟩ := h
    have hkept : node'.Distinct := Node.keeps_define key (distinct_value hitem) node node' hnode hnode'
    split at h
    · exact distinct_inlineEntries hkept h
    · cases h
      exact hkept.closed
    · cases h

end

/-! ## Documents -/

theorem distinct_line {node node' : Node} {path path' : List String} {cs rest : List Char} (hnode : node.Distinct)
    (h : line node path cs = some (node', path', rest)) : node'.Distinct := by
  unfold line at h
  split at h
  · simp only [bind, Option.bind_eq_some_iff, Prod.exists] at h
    obtain ⟨key, _, -, _, -, h⟩ := h
    split at h
    · simp only [Option.bind_eq_some_iff] at h
      obtain ⟨_, -, opened, hopened, heq⟩ := h
      cases heq
      exact Node.keeps_openSeries _ _ hnode hopened
    · cases h
  · simp only [bind, Option.bind_eq_some_iff, Prod.exists] at h
    obtain ⟨key, _, -, _, -, opened, hopened, heq⟩ := h
    cases heq
    exact Node.keeps_openTable _ _ hnode hopened
  · split at h
    · cases h
      exact hnode
    · simp only [bind, Option.bind_eq_some_iff, Prod.exists] at h
      obtain ⟨key, _, -, _, -, v, _, hv, _, -, defined, hdefined, heq⟩ := h
      cases heq
      exact Node.keeps_define key (distinct_value hv) _ _ hnode hdefined

theorem distinct_lines {fuel : Nat} {node node' : Node} {path : List String} {cs : List Char} (hnode : node.Distinct)
    (h : lines fuel node path cs = some node') : node'.Distinct := by
  induction fuel generalizing node path cs with
  | zero =>
    cases cs with
    | nil =>
      cases h
      exact hnode
    | cons c cs => cases h
  | succ fuel ih =>
    cases cs with
    | nil =>
      cases h
      exact hnode
    | cons c cs =>
      obtain ⟨⟨next, path', rest⟩, hline, h⟩ := Option.bind_eq_some_iff.mp h
      exact ih (distinct_line hnode hline) h

open Node (settings? allSettings? tableSettings? entrySettings?)

mutual

/-- The settings in a node have distinct keys where the node has. -/
theorem distinct_settings : ∀ {node : Node} {s : Setting}, node.Distinct → settings? node = some s → s.Distinct
  | .scalar (.value v), s, hnode, h => by
    cases hnode with
    | value hv =>
      cases h
      exact hv
  | .scalar (.date text), s, _, h => by
    cases h
    exact .text _
  | .array items, s, hnode, h => by
    cases hnode with
    | array values =>
      obtain ⟨out, hout, rfl⟩ := Option.map_eq_some_iff.mp h
      exact .list (distinct_allSettings values hout)
  | .inline entries, s, hnode, h => by
    cases hnode with
    | inline keys values => exact distinct_tableSettings keys values h
  | .table made entries, s, hnode, h => by
    cases hnode with
    | table keys values => exact distinct_tableSettings keys values h
  | .series earlier last, s, hnode, h => by
    cases hnode with
    | series values hlast =>
      simp only [settings?, bind, Option.bind_eq_some_iff] at h
      obtain ⟨out, hout, item, hitem, heq⟩ := h
      cases heq
      refine .list fun s hs => ?_
      rcases List.mem_append.mp hs with hs | hs
      · exact distinct_allSettings values hout s (List.mem_reverse.mp hs)
      · obtain rfl := List.mem_singleton.mp hs
        exact distinct_settings hlast hitem

theorem distinct_allSettings : ∀ {nodes : List Node} {out : List Setting}, (∀ n ∈ nodes, n.Distinct) →
    allSettings? nodes = some out → ∀ s ∈ out, s.Distinct
  | [], out, _, h => by
    cases h
    simp
  | node :: rest, out, hnodes, h => by
    simp only [allSettings?, bind, Option.bind_eq_some_iff] at h
    obtain ⟨s, hs, others, hothers, heq⟩ := h
    cases heq
    obtain ⟨hnode, hrest⟩ := List.forall_mem_cons.mp hnodes
    exact List.forall_mem_cons.mpr ⟨distinct_settings hnode hs, distinct_allSettings hrest hothers⟩

theorem distinct_tableSettings : ∀ {entries : List (String × Node)} {s : Setting}, (entries.map Prod.fst).Nodup →
    (∀ e ∈ entries, e.2.Distinct) → tableSettings? entries = some s → s.Distinct
  | [], s, _, _, h => by
    cases h
    exact .table List.nodup_nil (by simp)
  | (key, node) :: rest, s, hkeys, hvalues, h => by
    simp only [tableSettings?] at h
    split at h
    · obtain ⟨text, -, rfl⟩ := Option.map_eq_some_iff.mp h
      exact .text _
    · simp only [bind, Option.bind_eq_some_iff] at h
      obtain ⟨v, hv, others, hothers, heq⟩ := h
      cases heq
      obtain ⟨hnode, hrest⟩ := List.forall_mem_cons.mp hvalues
      obtain ⟨hnames, hall⟩ := distinct_entrySettings hrest hothers
      refine .table ?_ (List.forall_mem_cons.mpr ⟨distinct_settings hnode hv, hall⟩)
      rw [List.map_cons, hnames]
      exact hkeys

/-- The entries of a table keep their keys. -/
theorem distinct_entrySettings : ∀ {entries : List (String × Node)} {out : List (String × Setting)},
    (∀ e ∈ entries, e.2.Distinct) → entrySettings? entries = some out →
      out.map Prod.fst = entries.map Prod.fst ∧ ∀ e ∈ out, e.2.Distinct
  | [], out, _, h => by
    cases h
    simp
  | (key, node) :: rest, out, hvalues, h => by
    simp only [entrySettings?, bind, Option.bind_eq_some_iff] at h
    obtain ⟨v, hv, others, hothers, heq⟩ := h
    cases heq
    obtain ⟨hnode, hrest⟩ := List.forall_mem_cons.mp hvalues
    obtain ⟨hnames, hall⟩ := distinct_entrySettings hrest hothers
    refine ⟨?_, List.forall_mem_cons.mpr ⟨distinct_settings hnode hv, hall⟩⟩
    rw [List.map_cons, hnames, List.map_cons]

end

/-- The settings that a document writes have distinct keys. -/
theorem distinct_read {s : String} {entries : List (String × Setting)} (h : read s = some entries) :
    (Setting.table entries).Distinct := by
  simp only [read, Option.bind_eq_some_iff] at h
  obtain ⟨tree, ⟨node, hnode, htree⟩, h⟩ := h
  split at h
  · cases h
    exact distinct_settings (distinct_lines (Node.distinct_table_nil _) hnode) htree
  · cases h

end Toml
end TaskLifecycle
