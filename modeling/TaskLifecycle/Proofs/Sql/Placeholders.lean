import TaskLifecycle.Proofs.Sql.Template

/-!
# TaskLifecycle.Proofs.Sql.Placeholders — no value stands in the text of a statement

A statement grows by extensions in any order.  Each clause is written behind the text so far, and has a placeholder where
an argument is meant.

* `Statement.text_add`, `Statement.bindings_add`: what further clauses add to the text and to the values.
* `placesIn`: the places in a text; `placesIn_text`: those of a statement are numbered from left to right, one for each
  value.
* `Clause.erase`, `Extension.Alike`: clauses without their arguments, and extensions that differ in arguments only;
  `text_eq_of_alike`: the text is the same.
* `placeholders_of_extensions`: all of it, for every sequence of extensions.
-/

namespace TaskLifecycle
namespace Sql

/-! ## Clauses and their arguments -/

def Condition.arguments : Condition → List Value
  | .equals _ s => [.text s]
  | .absent _ => []
  | .among _ texts => [.texts texts]

/-- The values that a clause is about, in the order in which they stand in it. -/
def Clause.arguments : Clause → List Value
  | .condition c => c.arguments
  | .page limit offset => [.number limit, .number offset]
  | .order _ _ | .lock => []

/-- The word that joins a clause to those before it: the first condition follows `WHERE`, every later one `AND`. -/
def Clause.joint (before : List Clause) : Clause → List Token
  | .condition _ => [.text (if before.any Clause.isCondition then "AND" else "WHERE")]
  | .order _ _ | .page _ _ | .lock => []

/-- The words that join conditions. -/
def Token.joins (t : Token) : Bool :=
  t == .text "WHERE" || t == .text "AND"

/-- The number of the place that a token is. -/
def Token.place? : Token → Option Nat
  | .place n => some n
  | .text _ => none

/-- The places of values in a text, from left to right. -/
def placesIn (text : String) : List Nat :=
  (tokens text).filterMap Token.place?

namespace Clause

variable (hasCondition : Bool) (n : Nat) (c : Clause) (cs ds : List Clause)

theorem values_parts : values (c.parts hasCondition) = c.arguments := by
  cases c with
  | condition c => cases c <;> rfl
  | order | page | lock => rfl

/-- The places within a clause behind `n` values are the next ones, one for each argument. -/
theorem filterMap_place_tokens :
    (c.tokens hasCondition n).filterMap Token.place? = List.range' (n + 1) c.arguments.length := by
  cases c with
  | condition c => cases c <;> rfl
  | order | page | lock => rfl

/-- A condition begins with its joint, and no other joint stands in a clause. -/
theorem tokens_eq_joint (before : List Clause) : ∃ body,
    c.tokens (before.any isCondition) n = c.joint before ++ body ∧ ∀ t ∈ body, t.joins = false := by
  cases c with
  | condition c =>
    refine ⟨c.tokens n, rfl, ?_⟩
    cases c with
    | equals column | absent column | among column =>
      cases column <;> simp [Condition.tokens, Token.joins, Column.name]
  | order key direction => exact ⟨_, rfl, by cases key <;> cases direction <;> decide⟩
  | page => exact ⟨_, rfl, by simp [Token.joins]⟩
  | lock => exact ⟨_, rfl, by decide⟩

theorem allParts_append :
    allParts hasCondition (cs ++ ds) = allParts hasCondition cs ++ allParts (hasCondition || cs.any isCondition) ds := by
  induction cs generalizing hasCondition with
  | nil => rw [List.any_nil, Bool.or_false]; rfl
  | cons c cs ih => rw [List.cons_append, allParts, allParts, ih, List.any_cons, Bool.or_assoc, List.append_assoc]

theorem values_allParts : values (allParts hasCondition cs) = cs.flatMap arguments := by
  induction cs generalizing hasCondition with
  | nil => rfl
  | cons c cs ih => rw [allParts, values_append, values_parts, ih, List.flatMap_cons]

end Clause

/-! ## Statements -/

namespace Statement

variable (s : Statement) (sel : Selection) (cs : List Clause)

theorem bindings_eq : s.bindings = s.clauses.flatMap Clause.arguments :=
  Clause.values_allParts false s.clauses

/-- Further clauses are written behind the text so far; their values are numbered on. -/
theorem text_add : (s.add cs).text =
    s.text ++ render s.bindings.length (Clause.allParts (s.clauses.any Clause.isCondition) cs) := by
  unfold text parts add
  rw [Clause.allParts_append, Bool.false_or, ← List.cons_append, render_append, Nat.zero_add]
  rfl

/-- Further clauses are read on their own. -/
theorem tokens_add : tokens (s.add cs).text =
    tokens s.text ++ tokens (render s.bindings.length (Clause.allParts (s.clauses.any Clause.isCondition) cs)) := by
  rw [text_add, tokens_append (.inr (opens_allParts _ _ _))]

theorem build_eq (es : List Extension) : build sel es = ⟨sel, es.flatMap Extension.clauses⟩ := by
  have h : ∀ s : Statement, es.foldl extend s = ⟨s.selection, s.clauses ++ es.flatMap Extension.clauses⟩ := by
    induction es with
    | nil => exact fun s => by rw [List.flatMap_nil, List.append_nil]; rfl
    | cons e es ih => exact fun s => by rw [List.foldl_cons, ih, List.flatMap_cons, ← List.append_assoc]; rfl
  exact h (start sel)

theorem build_concat (es : List Extension) (e : Extension) : build sel (es ++ [e]) = (build sel es).extend e := by
  rw [build, List.foldl_append]
  rfl

/-! ### Places -/

theorem placesIn_selection : placesIn sel.text = [] := by
  have hnames : ∀ names : List String, (names.map Token.text).filterMap Token.place? = [] := by
    intro names
    rw [List.filterMap_map]
    exact List.filterMap_eq_nil_iff.mpr fun _ _ => rfl
  rw [placesIn, tokens_selection]
  cases sel with
  | rows => rfl
  | count => rfl

/-- The places in what is written behind `n` values. -/
theorem placesIn_allParts (hasCondition : Bool) (n : Nat) :
    placesIn (render n (Clause.allParts hasCondition cs)) = List.range' (n + 1) (cs.flatMap Clause.arguments).length := by
  induction cs generalizing hasCondition n with
  | nil => rfl
  | cons c cs ih =>
    have hrest := ih (hasCondition || c.isCondition) (n + c.arguments.length)
    rw [placesIn] at hrest ⊢
    rw [tokens_allParts, List.filterMap_append, Clause.filterMap_place_tokens, Clause.values_parts, hrest,
      Nat.add_right_comm, List.range'_append_1, List.flatMap_cons, List.length_append]

/-- The places in a statement are numbered from left to right, one for each value. -/
theorem placesIn_text : placesIn s.text = List.range' 1 s.bindings.length := by
  have htext : s.text = s.selection.text ++ render 0 (Clause.allParts false s.clauses) := rfl
  have hclauses := placesIn_allParts s.clauses false 0
  rw [placesIn] at hclauses ⊢
  rw [htext, tokens_append (.inr (opens_allParts _ _ _)), List.filterMap_append, hclauses, ← bindings_eq]
  exact congrArg (· ++ List.range' 1 s.bindings.length) (placesIn_selection s.selection)

end Statement

/-- The values at the places that are numbered on behind other values. -/
theorem map_valueAt?_range' (vs ws rest : List Value) :
    (List.range' (vs.length + 1) ws.length).map (valueAt? (vs ++ (ws ++ rest))) = ws.map some := by
  induction ws generalizing vs with
  | nil => rfl
  | cons w ws ih =>
    have htail := ih (vs ++ [w])
    rw [List.length_append, List.append_assoc] at htail
    rw [List.length_cons, List.range'_succ, List.map_cons, List.map_cons, List.cons_append, valueAt?_append]
    exact congrArg (some w :: ·) htail

/-! ## Other arguments -/

namespace Condition

/-- A condition without its arguments. -/
def erase : Condition → Condition
  | .equals column _ => .equals column ""
  | .absent column => .absent column
  | .among column _ => .among column []

end Condition

namespace Clause

/-- A clause without its arguments. -/
def erase : Clause → Clause
  | .condition c => .condition c.erase
  | .order key direction => .order key direction
  | .page _ _ => .page 0 0
  | .lock => .lock

theorem render_erase (hasCondition : Bool) (n : Nat) (c : Clause) :
    render n (c.erase.parts hasCondition) = render n (c.parts hasCondition) := by
  cases c with
  | condition c => cases c <;> rfl
  | order | page | lock => rfl

theorem length_arguments_erase (c : Clause) : c.erase.arguments.length = c.arguments.length := by
  cases c with
  | condition c => cases c <;> rfl
  | order | page | lock => rfl

theorem isCondition_erase (c : Clause) : c.erase.isCondition = c.isCondition := by
  cases c <;> rfl

/-- Clauses are written alike without their arguments. -/
theorem render_allParts_erase (hasCondition : Bool) (n : Nat) (cs : List Clause) :
    render n (allParts hasCondition (cs.map erase)) = render n (allParts hasCondition cs) := by
  induction cs generalizing hasCondition n with
  | nil => rfl
  | cons c cs ih =>
    rw [List.map_cons, allParts, allParts, render_append, render_append, render_erase, values_parts, values_parts,
      length_arguments_erase, isCondition_erase, ih]

end Clause

/-- Filters that restrict the same columns in the same way. -/
structure FiltersAlike (f f' : Filter) : Prop where
  organization : f.organization.isSome = f'.organization.isSome
  statuses : f.statuses.isEmpty = f'.statuses.isEmpty
  workflowRun : f.workflowRun.isSome = f'.workflowRun.isSome
  onlyStandalone : f.onlyStandalone = f'.onlyStandalone
  application : f.application.isSome = f'.application.isSome

/-- Extensions that differ at most in the texts and the numbers that they are about. -/
inductive Extension.Alike : Extension → Extension → Prop
  | ofOrganization {o o' : Option String} (h : o.isSome = o'.isSome) : Alike (.ofOrganization o) (.ofOrganization o')
  | withId {id id' : String} : Alike (.withId id) (.withId id')
  | withIds {ids ids' : List String} : Alike (.withIds ids) (.withIds ids')
  | inStatuses {l l' : List Status} (h : l.isEmpty = l'.isEmpty) : Alike (.inStatuses l) (.inStatuses l')
  | inWorkflowRun {run run' : String} : Alike (.inWorkflowRun run) (.inWorkflowRun run')
  | standalone : Alike .standalone .standalone
  | forApplication {a a' : String} : Alike (.forApplication a) (.forApplication a')
  | filtered {f f' : Filter} (h : FiltersAlike f f') : Alike (.filtered f) (.filtered f')
  | ordered {key : OrderKey} {direction : Direction} : Alike (.ordered key direction) (.ordered key direction)
  | paged {limit limit' offset offset' : Int} : Alike (.paged limit offset) (.paged limit' offset')
  | listed {l l' : Listing} (filter : FiltersAlike l.filter l'.filter) (key : l.key = l'.key)
      (direction : l.direction = l'.direction) : Alike (.listed l) (.listed l')
  | locked : Alike .locked .locked

theorem erase_scope {o o' : Option String} (h : o.isSome = o'.isSome) :
    (scope o).map Clause.erase = (scope o').map Clause.erase := by
  cases o <;> cases o' <;> first | rfl | cases h

theorem erase_inStatuses {l l' : List Status} (h : l.isEmpty = l'.isEmpty) :
    (inStatuses l).map Clause.erase = (inStatuses l').map Clause.erase := by
  cases l <;> cases l' <;> first | rfl | cases h

theorem erase_withText (column : Column) {o o' : Option String} (h : o.isSome = o'.isSome) :
    (withText column o).map Clause.erase = (withText column o').map Clause.erase := by
  cases o <;> cases o' <;> first | rfl | cases h

theorem erase_filtered {f f' : Filter} (h : FiltersAlike f f') :
    (filtered f).map Clause.erase = (filtered f').map Clause.erase := by
  simp only [filtered, List.map_append]
  rw [erase_scope h.organization, erase_inStatuses h.statuses, erase_withText _ h.workflowRun, h.onlyStandalone,
    erase_withText _ h.application]

theorem Extension.Alike.erase_clauses {e e' : Extension} (h : e.Alike e') :
    e.clauses.map Clause.erase = e'.clauses.map Clause.erase := by
  cases h with
  | ofOrganization h => exact erase_scope h
  | inStatuses h => exact erase_inStatuses h
  | filtered h => exact erase_filtered h
  | listed filter key direction =>
    simp only [clauses, Sql.listed, List.map_append]
    rw [erase_filtered filter, key, direction]
    rfl
  | withId | withIds | inWorkflowRun | standalone | forApplication | ordered | paged | locked => rfl

/-- Other arguments leave the text as it is. -/
theorem text_eq_of_alike (sel : Selection) {es es' : List Extension} (h : List.Forall₂ Extension.Alike es es') :
    (Statement.build sel es).text = (Statement.build sel es').text := by
  have hclauses : (es.flatMap Extension.clauses).map Clause.erase = (es'.flatMap Extension.clauses).map Clause.erase := by
    induction h with
    | nil => rfl
    | cons he _ ih => rw [List.flatMap_cons, List.flatMap_cons, List.map_append, List.map_append, he.erase_clauses, ih]
  have herased := Clause.render_allParts_erase false 0 (es.flatMap Extension.clauses)
  rw [hclauses, Clause.render_allParts_erase] at herased
  rw [Statement.build_eq, Statement.build_eq]
  exact congrArg (sel.text ++ ·) herased.symm

/-! ## Texts -/

/-- What a clause adds to a text: its joint and other words, with places for its own arguments. -/
theorem exists_piece (sel : Selection) (before : List Clause) (c : Clause) (later : List Clause) : ∃ piece rest,
    (Statement.mk sel (before ++ c :: later)).text = (Statement.mk sel before).text ++ piece ++ rest ∧
      tokens (Statement.mk sel (before ++ c :: later)).text =
        tokens (Statement.mk sel before).text ++ tokens piece ++ tokens rest ∧
      (placesIn piece).map (valueAt? (Statement.mk sel (before ++ c :: later)).bindings) = c.arguments.map some ∧
      ∃ body, tokens piece = c.joint before ++ body ∧ ∀ t ∈ body, t.joins = false := by
  have htext := Statement.text_add ⟨sel, before⟩ (c :: later)
  have htokens := Statement.tokens_add ⟨sel, before⟩ (c :: later)
  have hbindings : (Statement.mk sel (before ++ c :: later)).bindings =
      (Statement.mk sel before).bindings ++ (c.arguments ++ later.flatMap Clause.arguments) := by
    rw [Statement.bindings_eq, Statement.bindings_eq, List.flatMap_append, List.flatMap_cons]
  rw [Clause.allParts, render_append, ← String.append_assoc] at htext
  rw [tokens_allParts, ← tokens_clause, ← List.append_assoc] at htokens
  refine ⟨_, _, htext, htokens, ?_, ?_⟩
  · rw [placesIn, tokens_clause, Clause.filterMap_place_tokens, hbindings]
    exact map_valueAt?_range' _ _ _
  · rw [tokens_clause]
    exact Clause.tokens_eq_joint _ c before

end Sql

open Sql

/-- For every sequence of extensions of a statement: a further one only adds to the end of the text; the places in the
text are numbered from left to right, one for each bound value; every clause has a piece of the text to itself, in which
the values at the places are the arguments of the clause, and which begins with `WHERE` or `AND` if the clause is a
condition, `WHERE` for the first one and `AND` for every later one, and has no such word elsewhere; and the text is the
same for extensions that differ in texts and numbers alone. -/
theorem placeholders_of_extensions (sel : Selection) (es : List Extension) :
    (∀ e, ∃ more, (Statement.build sel (es ++ [e])).text = (Statement.build sel es).text ++ more) ∧
    placesIn (Statement.build sel es).text = List.range' 1 (Statement.build sel es).bindings.length ∧
    (∀ before c later, es.flatMap Extension.clauses = before ++ c :: later → ∃ piece rest,
      (Statement.build sel es).text = (Statement.mk sel before).text ++ piece ++ rest ∧
        tokens (Statement.build sel es).text =
          tokens (Statement.mk sel before).text ++ tokens piece ++ tokens rest ∧
        (placesIn piece).map (valueAt? (Statement.build sel es).bindings) = c.arguments.map some ∧
        ∃ body, tokens piece = c.joint before ++ body ∧ ∀ t ∈ body, t.joins = false) ∧
    ∀ es', List.Forall₂ Extension.Alike es es' → (Statement.build sel es').text = (Statement.build sel es).text := by
  refine ⟨fun e => ?_, Statement.placesIn_text _, fun before c later hclauses => ?_, fun es' h => ?_⟩
  · rw [Statement.build_concat, Statement.extend, Statement.text_add]
    exact ⟨_, rfl⟩
  · rw [Statement.build_eq, hclauses]
    exact exists_piece sel before c later
  · exact (text_eq_of_alike sel h).symm

/-- A page is asked for before the rows are restricted, to two applications in turn. -/
def hastyExtensions : List Extension :=
  [.paged 10 20, .forApplication "' OR 1 = 1 --", .ordered .created .ascending, .withIds ["tsk_1", "$3"]]

/-- The second condition follows `AND`, and its place, the fourth, has the identifiers that were asked for; other
applications and identifiers make no other text. -/
theorem placeholders_of_hastyExtensions :
    placesIn (Statement.build .count hastyExtensions).text = [1, 2, 3, 4] ∧
      (∃ piece body, tokens piece = .text "AND" :: body ∧
        (placesIn piece).map (valueAt? (Statement.build .count hastyExtensions).bindings) =
          [some (.texts ["tsk_1", "$3"])]) ∧
      (Statement.build .count [.paged 1 0, .forApplication "forms", .ordered .created .ascending, .withIds []]).text =
        (Statement.build .count hastyExtensions).text := by
  obtain ⟨-, hplaces, hclauses, htext⟩ := placeholders_of_extensions .count hastyExtensions
  obtain ⟨piece, -, -, -, hvalues, body, hbody, -⟩ := hclauses
    [.page 10 20, .condition (.equals .application "' OR 1 = 1 --"), .order .created .ascending]
    (.condition (.among .id ["tsk_1", "$3"])) [] rfl
  refine ⟨hplaces, ⟨piece, body, hbody, hvalues⟩, htext _ ?_⟩
  exact .cons .paged (.cons .forApplication (.cons .ordered (.cons .withIds .nil)))

end TaskLifecycle
