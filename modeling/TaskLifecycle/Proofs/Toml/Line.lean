import TaskLifecycle.Proofs.Toml.Numeral
import TaskLifecycle.Proofs.Toml.Refusal

/-!
# TaskLifecycle.Proofs.Toml.Line — documents of one line

* `Toml.Bare`: keys that need no quotes; `Toml.simpleKey_append`, `Toml.dottedKey_entryLine`: how they are read.
* `Toml.line_of_entry`: what a line with a key and a value does.
* `Toml.entryText`: the document of one line that has a numeral under a dotted key; `Toml.start_needs_value`: the reader comes
  to the numeral; `Toml.read_entryText`: the document is a table with one entry.
-/

namespace TaskLifecycle
namespace Toml

/-- Characters of a key that needs no quotes. -/
structure Bare (cs : List Char) : Prop where
  nonempty : cs ≠ []
  all : ∀ c ∈ cs, isKeyChar c = true

/-- A line with a key of two names and the text of its value. -/
def entryLine (table name text : List Char) : List Char :=
  table ++ '.' :: (name ++ ' ' :: '=' :: ' ' :: text)

variable {cs table name text behind rest : List Char} {n : Int}

/-! ## Keys -/

theorem Bare.exists_cons (h : Bare cs) : ∃ c tail, cs = c :: tail ∧ isKeyChar c = true := by
  obtain ⟨c, tail, rfl⟩ := List.exists_cons_of_ne_nil h.nonempty
  exact ⟨c, tail, rfl, h.all c List.mem_cons_self⟩

theorem Bare.append_ne_cons {c : Char} (h : Bare cs) (hc : isKeyChar c = false) : cs ++ behind ≠ c :: rest := by
  obtain ⟨d, tail, rfl, hd⟩ := h.exists_cons
  intro hcons
  obtain ⟨rfl, -⟩ := List.cons_eq_cons.mp hcons
  rw [hc] at hd
  cases hd

/-- No blanks are skipped before a bare key. -/
theorem Bare.skipSpace_append (h : Bare cs) : skipSpace (cs ++ behind) = cs ++ behind := by
  obtain ⟨c, tail, rfl, hc⟩ := h.exists_cons
  refine List.dropWhile_cons_of_neg fun hspace => ?_
  simp only [isSpace, Bool.or_eq_true, beq_iff_eq] at hspace
  rcases hspace with rfl | rfl <;> exact absurd hc (by decide)

/-- A bare key is read up to a character that is none of a key. -/
theorem simpleKey_append {c : Char} (h : Bare cs) (hc : isKeyChar c = false) :
    simpleKey (cs ++ c :: rest) = some (String.ofList cs, c :: rest) := by
  have hstop (d : Char) (hd : (c :: rest).head? = some d) : isKeyChar d = false := by
    obtain rfl := Option.some.inj hd
    exact hc
  unfold simpleKey
  split
  · exact absurd ‹_› (h.append_ne_cons (by decide))
  · exact absurd ‹_› (h.append_ne_cons (by decide))
  · simp only [takeWhile_append_of_stop h.all hstop, List.isEmpty_eq_false_iff.mpr h.nonempty, Bool.false_eq_true, if_false,
      List.drop_left]

theorem dottedKey_entryLine (htable : Bare table) (hname : Bare name) :
    dottedKey (entryLine table name text) =
      some ([String.ofList table, String.ofList name], '=' :: ' ' :: text) := by
  obtain ⟨k, hk⟩ : ∃ k, (entryLine table name text).length = k + 1 := by
    refine ⟨(entryLine table name text).length - 1, ?_⟩
    simp only [entryLine, List.length_append, List.length_cons]
    omega
  have hfirst : simpleKey (entryLine table name text) =
      some (String.ofList table, '.' :: (name ++ ' ' :: '=' :: ' ' :: text)) := simpleKey_append htable (by decide)
  have hsecond : simpleKey (name ++ ' ' :: '=' :: ' ' :: text) = some (String.ofList name, ' ' :: '=' :: ' ' :: text) :=
    simpleKey_append hname (by decide)
  have hspace : skipSpace (entryLine table name text) = entryLine table name text := htable.skipSpace_append
  have hdot (more : List Char) : skipSpace ('.' :: more) = '.' :: more := rfl
  have hmark : skipSpace (' ' :: '=' :: ' ' :: text) = '=' :: ' ' :: text := rfl
  rw [dottedKey, hk]
  simp only [keys, hspace, hfirst, hdot, hname.skipSpace_append, hsecond, hmark, Option.bind_some]
  rfl

/-! ## A line -/

/-- A line with a key and its value. -/
theorem line_of_entry {node node' v : Node} {path key : List String}
    {cs behindKey behindMark behindValue rest : List Char} (hstart : (skipSpace cs).head? ≠ some '[')
    (hmore : lineEnd (skipSpace cs) = none) (hkey : dottedKey (skipSpace cs) = some (key, behindKey))
    (hmark : mark '=' behindKey = some behindMark)
    (hvalue : value (behindMark.length + 1) 0 (skipSpace behindMark) = some (v, behindValue))
    (hend : lineEnd behindValue = some rest) (hdefine : node.define path key v = some node') :
    line node path cs = some (node', path, rest) := by
  unfold line
  split
  · exact absurd (congrArg List.head? ‹_›) hstart
  · exact absurd (congrArg List.head? ‹_›) hstart
  · rw [hmore]
    simp only [bind, hkey, hmark, hvalue, hend, hdefine, Option.bind_some]
    rfl

theorem skipSpace_of_numeral (h : Numeral text n) : skipSpace (' ' :: text) = text := by
  obtain ⟨c, tail, rfl, hc, -⟩ := h.exists_cons
  have hspace : skipSpace (' ' :: c :: tail) = skipSpace (c :: tail) := rfl
  rw [hspace]
  refine List.dropWhile_cons_of_neg fun hspace => ?_
  simp only [isSpace, Bool.or_eq_true, beq_iff_eq] at hspace
  rcases hspace with rfl | rfl <;> exact absurd hc (by decide)

/-- A line with something on it does not end where it begins. -/
theorem lineEnd_bare (h : Bare cs) : lineEnd (cs ++ behind) = none := by
  have hcomment : skipComment (cs ++ behind) = cs ++ behind := by
    unfold skipComment
    split
    · exact absurd ‹_› (h.append_ne_cons (by decide))
    · rfl
  obtain ⟨c, tail, htail, -⟩ := h.exists_cons
  rw [lineEnd, h.skipSpace_append, hcomment]
  split
  · rename_i hnil
    rw [htail] at hnil
    cases hnil
  · unfold newline
    split
    · exact absurd ‹_› (h.append_ne_cons (by decide))
    · exact absurd ‹_› (h.append_ne_cons (by decide))
    · rfl

theorem head_entryLine_ne {c : Char} (htable : Bare table) (hc : isKeyChar c = false) :
    (entryLine table name text).head? ≠ some c := by
  obtain ⟨d, tail, rfl, hd⟩ := htable.exists_cons
  intro hhead
  obtain rfl := Option.some.inj hhead
  rw [hc] at hd
  cases hd

/-- The line begins with its key and not with a bracket. -/
theorem entryLine_parts (htable : Bare table) (hname : Bare name) :
    (skipSpace (entryLine table name text)).head? ≠ some '[' ∧ lineEnd (skipSpace (entryLine table name text)) = none ∧
      dottedKey (skipSpace (entryLine table name text)) =
        some ([String.ofList table, String.ofList name], '=' :: ' ' :: text) := by
  have hspace : skipSpace (entryLine table name text) = entryLine table name text := htable.skipSpace_append
  rw [hspace]
  exact ⟨head_entryLine_ne htable (by decide), lineEnd_bare htable, dottedKey_entryLine htable hname⟩

/-! ## The document of one line -/

/-- The document of one line. -/
def entryText (table name text : List Char) : String :=
  String.ofList (entryLine table name text)

theorem start_entryText (htable : Bare table) :
    Call.start (entryText table name text) =
      .lines ((entryLine table name text).length + 1) Node.empty [] (entryLine table name text) := by
  have hmark : (entryLine table name text).head? ≠ some '\uFEFF' := head_entryLine_ne htable (by decide)
  simp only [Call.start, entryText, String.toList_ofList, if_neg hmark]

/-- The reader comes to the numeral. -/
theorem start_needs_value (htable : Bare table) (hname : Bare name) (h : Numeral text n) :
    (Call.start (entryText table name text)).Needs (.value (text.length + 1 + 1) 0 text) := by
  obtain ⟨hstart, hmore, hkey⟩ := entryLine_parts htable hname
  have hneeds : Call.Needs (.lines ((entryLine table name text).length + 1) Node.empty [] (entryLine table name text))
      (.value ((' ' :: text).length + 1) 0 (skipSpace (' ' :: text))) := .lineValue hstart hmore hkey rfl
  rw [skipSpace_of_numeral h] at hneeds
  rw [start_entryText htable]
  exact hneeds

theorem Bare.ne_dateKey (h : Bare cs) : String.ofList cs ≠ Node.dateKey := by
  obtain ⟨c, tail, rfl, hc⟩ := h.exists_cons
  intro hdate
  have hhead : Node.dateKey.toList.head? = some '$' := by decide
  rw [← hdate, String.toList_ofList, List.head?_cons, Option.some.injEq] at hhead
  rw [hhead] at hc
  exact absurd hc (by decide)

/-- A document of one line is a table in which one name has the integer, if that has 64 bits. -/
theorem read_entryText (htable : Bare table) (hname : Bare name) (h : Numeral text n) :
    read (entryText table name text) =
      (longWord? n).map fun v => [(String.ofList table, .table [(String.ofList name, v)])] := by
  have hvalue := value_of_numeral h ends_nil (text.length + 1) 0
  rw [List.append_nil] at hvalue
  cases hn : longWord? n with
  | none =>
    rw [hn] at hvalue
    exact read_of_reaches (.single (start_needs_value htable hname h)) hvalue
  | some v =>
    rw [hn] at hvalue
    obtain ⟨hstart, hmore, hkey⟩ := entryLine_parts htable hname
    have hread : value ((' ' :: text).length + 1) 0 (skipSpace (' ' :: text)) = some (.scalar (.value v), []) := by
      rw [skipSpace_of_numeral h]
      exact hvalue
    have hline : line Node.empty [] (entryLine table name text) =
        some (.table .header [(String.ofList table, .table .dotted [(String.ofList name, .scalar (.value v))])], [], []) :=
      line_of_entry hstart hmore hkey rfl hread rfl rfl
    have hlines : lines ((entryLine table name text).length + 1) Node.empty [] (entryLine table name text) =
        some (.table .header [(String.ofList table, .table .dotted [(String.ofList name, .scalar (.value v))])]) := by
      cases hcs : entryLine table name text with
      | nil => exact absurd (congrArg List.length hcs) (by simp [entryLine])
      | cons c tail =>
        rw [hcs] at hline
        rw [lines, hline, Option.bind_some]
        · rfl
        · exact List.cons_ne_nil _ _
    have hmark : (entryLine table name text).head? ≠ some '\uFEFF' := head_entryLine_ne htable (by decide)
    simp only [read, entryText, String.toList_ofList, if_neg hmark, hlines, Option.bind_some, Node.settings?,
      Node.tableSettings?, if_neg htable.ne_dateKey, if_neg hname.ne_dateKey, Node.entrySettings?]
    rfl

end Toml
end TaskLifecycle
