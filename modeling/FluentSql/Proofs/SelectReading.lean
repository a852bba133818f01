import FluentSql.Proofs.ClauseReading
import FluentSql.Proofs.WhereReading
import FluentSql.Query.Statement

/-!
# Selecting queries read from their statements

Two selecting queries have one statement with the same values if and only if
they read the same. What is not written does not count: the connectives of
first members, the absence of columns, which stands for all of them, and what
is assigned.
-/

set_option autoImplicit false

namespace FluentSql

open Reading

/-! ## Names -/

def Value.IsName (v : Value) : Prop :=
  ∃ s, v = .text s ∧ IsToken s

theorem readable_name : Readable (fun v : Value => v.plain.toList) id Value.IsName Stops := by
  rintro a b ⟨s, rfl, hs⟩ ⟨t, rfl, ht⟩ r r' hr hr' same
  obtain ⟨names, ends⟩ := readable_token hs ht hr hr' same
  exact ⟨congrArg Value.text names, ends⟩

theorem texts_of_names {vs : List Value} (h : ∀ v ∈ vs, v.IsName) :
    Value.texts vs = .ok (vs.map Value.plain) := by
  have named : (vs.map Value.plain).map .text = vs := by
    rw [List.map_map]
    refine (List.map_congr_left fun v hv => ?_).trans (List.map_id vs)
    obtain ⟨s, rfl, -⟩ := h v hv
    rfl
  have texts := Value.texts_map_text (vs.map Value.plain)
  rwa [named] at texts

namespace Query

/-- A selecting query whose names are tokens, whose operators are made of comparison signs, and
whose bounds are whole numbers. -/
structure IsLegible (q : Query) : Prop where
  selects : q.kind = .select
  columns : ∀ v ∈ q.columns, v.IsName
  table : q.table.IsName
  joins : ∀ j ∈ q.joins, j.IsLegible
  wheres : Where.AllLegible q.wheres
  orders : ∀ o ∈ q.orders, IsToken o.column
  page : q.page.IsLegible

def selected (q : Query) : List Value :=
  if q.columns.isEmpty then [.text "*"] else q.columns

/-- The query as its statement reads. -/
def settled (q : Query) : Query :=
  { q with
    columns := q.selected
    wheres := Where.settled q.wheres
    joins := q.joins.map Join.settled
    assignments := [] }

variable {q : Query}

theorem IsLegible.selected (h : q.IsLegible) : q.selected ≠ [] ∧ ∀ v ∈ q.selected, v.IsName := by
  unfold Query.selected
  split
  · exact ⟨by simp, by simpa using ⟨"*", rfl, by decide⟩⟩
  · next filled => exact ⟨by simpa using filled, h.columns⟩

theorem IsLegible.columnText (h : q.IsLegible) :
    q.columnText = .ok (", ".intercalate (q.selected.map Value.plain)) := by
  unfold Query.columnText Query.selected
  split
  · next none => simp [none, Value.plain]
  · next columns filled =>
    have some : q.columns.isEmpty = false := by simpa using filled
    rw [some, texts_of_names h.columns]
    rfl

/-! ## The text of a statement -/

def clauses (q : Query) (columns : String) : List Fragment :=
  [[.sql ("SELECT " ++ columns ++ " FROM " ++ q.tableText)], Fragment.ofText q.joinText,
    Where.clause q.wheres, Fragment.ofText (Order.clause q.orders),
    Fragment.ofText q.page.clause]

def pageTail (q : Query) : List Char :=
  spacedAfter q.page.clause

def orderTail (q : Query) : List Char :=
  spacedAfter (Order.clause q.orders) ++ q.pageTail

def whereTail (q : Query) : List Char :=
  spacedAfter (Where.clause q.wheres).sql ++ q.orderTail

def joinTail (q : Query) : List Char :=
  q.joins.flatMap Join.spacedText ++ q.whereTail

theorem joinText_chars (q : Query) :
    spacedAfter q.joinText = q.joins.flatMap Join.spacedText := by
  unfold joinText
  cases q.joins with
  | nil => rfl
  | cons j rest =>
    have filled : (" ".intercalate ((j :: rest).map Join.sql)).isEmpty = false := by
      cases rest <;> simp [Join.sql, String.intercalate_cons_cons]
    rw [spacedAfter, filled, List.map_cons, toList_intercalate_cons, List.flatMap_map]
    rfl

theorem isEmpty_clauses (q : Query) (columns : String) :
    ∀ f ∈ q.clauses columns, f.isEmpty = f.sql.isEmpty := by
  intro f hf
  simp only [clauses, List.mem_cons, List.not_mem_nil, or_false] at hf
  rcases hf with rfl | rfl | rfl | rfl | rfl
  · simp [Fragment.sql]
  · rw [Fragment.ofText_isEmpty, Fragment.sql_ofText]
  · cases q.wheres <;> simp [Where.clause, Fragment.sql]
  · rw [Fragment.ofText_isEmpty, Fragment.sql_ofText]
  · rw [Fragment.ofText_isEmpty, Fragment.sql_ofText]

theorem clauses_chars (q : Query) (columns : String) :
    (Fragment.spaced (q.clauses columns)).sql.toList =
      "SELECT ".toList ++ (columns.toList ++
        (" FROM ".toList ++ (q.table.plain.toList ++ q.joinTail))) := by
  rw [Fragment.sql_spaced _ (q.isEmpty_clauses columns), clauses, List.map_cons,
    toList_spacedTexts _ (by simp [Fragment.sql])]
  simp only [List.map_cons, List.map_nil, List.flatMap_cons, List.flatMap_nil, Fragment.sql,
    Fragment.sql_ofText, String.append_empty, String.toList_append, List.append_assoc,
    List.append_nil, joinText_chars, joinTail, whereTail, orderTail, pageTail, tableText]

theorem prepared_select (selects : q.kind = .select) :
    q.prepared = q.columnText.map fun columns =>
      ((Fragment.spaced (q.clauses columns)).sql, Where.valuesAll q.wheres) := by
  have compiled :
      q.compile = q.columnText.map fun columns => Fragment.spaced (q.clauses columns) := by
    rw [compile, selects]
    rfl
  have bindings : q.bindings = Where.valuesAll q.wheres := by
    rw [Query.bindings, selects]
    rfl
  rw [Query.prepared, compiled, bindings]
  cases q.columnText <;> rfl

/-! ## What follows a clause -/

variable {words : List String}

theorem ends_pageTail (q : Query) (apart : ∀ w ∈ ["", "LIMIT", "OFFSET"], w ∉ words) :
    Ends words q.pageTail := by
  have ended : Ends words [] := ends_nil (apart "" (by simp))
  have offset :=
    Page.ends_bounds "OFFSET" (by decide) (apart _ (by simp)) q.page.offset.toList ended
  rw [List.append_nil] at offset
  rw [pageTail, Page.clause_chars]
  exact Page.ends_bounds "LIMIT" (by decide) (apart _ (by simp)) q.page.limit.toList offset

theorem ends_orderTail (q : Query) (apart : ∀ w ∈ ["", "LIMIT", "OFFSET", "ORDER"], w ∉ words) :
    Ends words q.orderTail :=
  (q.ends_pageTail fun w hw => apart w (List.mem_append_left ["ORDER"] hw)).behind
    (fun os => spacedAfter (Order.clause os)) "ORDER" (by decide) rfl Order.goesOn_clause
    (apart "ORDER" (by simp)) q.orders

theorem ends_whereTail (q : Query)
    (apart : ∀ w ∈ ["", "LIMIT", "OFFSET", "ORDER", "WHERE"], w ∉ words) : Ends words q.whereTail :=
  (q.ends_orderTail fun w hw => apart w (List.mem_append_left ["WHERE"] hw)).behind
    (fun ws => spacedAfter (Where.clause ws).sql) "WHERE" (by decide) rfl Where.goesOn_clause
    (apart "WHERE" (by simp)) q.wheres

theorem ends_joinTail (q : Query) : Ends [] q.joinTail :=
  follow_flatMap (fun j _ r => Join.goesOn_spacedText j r)
    (fun _ goes => goes.ends (by decide)) (fun _ _ => trivial) (q.ends_whereTail (by simp))

/-! ## Reading a statement -/

theorem readable_columns :
    Readable (fun vs : List Value => (", ".intercalate (vs.map Value.plain)).toList) id
      (fun vs => vs ≠ [] ∧ ∀ v ∈ vs, v.IsName) (fun r => Stops r ∧ r.head? ≠ some ',') := by
  simpa using readable_name.commas stops_comma

theorem settled_eq (h : q.IsLegible) :
    q.settled =
      { table := q.table, columns := q.selected, wheres := Where.settled q.wheres,
        joins := q.joins.map Join.settled, orders := q.orders, page := q.page } := by
  rw [settled, h.selects]

theorem settled_eq_of_prepared_eq {r : Query} (hq : q.IsLegible) (hr : r.IsLegible)
    (same : q.prepared = r.prepared) : q.settled = r.settled := by
  rw [prepared_select hq.selects, hq.columnText, prepared_select hr.selects, hr.columnText] at same
  obtain ⟨text, values⟩ := Prod.mk.inj (Except.ok.inj same)
  replace text := congrArg String.toList text
  rw [clauses_chars, clauses_chars] at text
  have blank (rest : List Char) : Stops (" FROM ".toList ++ rest) ∧
      (" FROM ".toList ++ rest).head? ≠ some ',' := ⟨stops_blank _, by simp⟩
  obtain ⟨columns, text⟩ := readable_columns hq.selected hr.selected (blank _) (blank _)
    (List.append_cancel_left text)
  obtain ⟨table, text⟩ := readable_name hq.table hr.table q.ends_joinTail.stops
    r.ends_joinTail.stops (List.append_cancel_left text)
  obtain ⟨joins, text⟩ := Join.readable_joins hq.joins hr.joins (q.ends_whereTail (by decide))
    (r.ends_whereTail (by decide)) text
  obtain ⟨wheres, text, -⟩ := Where.clause_read hq.wheres hr.wheres
    (q.ends_orderTail (by decide)) (r.ends_orderTail (by decide)) text
    (congrArg (· ++ []) values)
  obtain ⟨orders, text⟩ := Order.readable_clause hq.orders hr.orders
    (q.ends_pageTail (by decide)) (r.ends_pageTail (by decide)) text
  obtain ⟨page, -⟩ := Page.readable_clause hq.page hr.page (ends_nil (by decide))
    (ends_nil (by decide)) (congrArg (· ++ []) text)
  rw [settled_eq hq, settled_eq hr]
  simp only [id] at columns table orders page
  rw [columns, table, joins, wheres, orders, page]

theorem prepared_settled (selects : q.kind = .select) : q.settled.prepared = q.prepared := by
  have columns : q.settled.columnText = q.columnText := by
    unfold columnText settled selected
    cases q.columns <;> rfl
  obtain ⟨wheres, values⟩ := Where.clause_settled q.wheres
  have joins : (q.joins.map Join.settled).flatMap Join.spacedText =
      q.joins.flatMap Join.spacedText := by
    rw [List.flatMap_map]
    exact congrArg q.joins.flatMap (funext Join.spacedText_settled)
  have tails : q.settled.joinTail = q.joinTail := by
    simp only [joinTail, whereTail, orderTail, pageTail, settled, joins, wheres]
  have texts (c : String) : (Fragment.spaced (q.settled.clauses c)).sql =
      (Fragment.spaced (q.clauses c)).sql := by
    apply String.toList_injective
    rw [clauses_chars, clauses_chars, tails]
    rfl
  have selects' : q.settled.kind = .select := selects
  rw [prepared_select selects, prepared_select selects', columns]
  simp only [texts, show Where.valuesAll q.settled.wheres = Where.valuesAll q.wheres from values]

/-- Two selecting queries have one statement with the same values if and only if they read the
same. -/
theorem select_unambiguous (q r : Query) (hq : q.IsLegible) (hr : r.IsLegible) :
    q.prepared = r.prepared ↔ q.settled = r.settled := by
  refine ⟨settled_eq_of_prepared_eq hq hr, fun same => ?_⟩
  rw [← prepared_settled hq.selects, same, prepared_settled hr.selects]

/-- People by age, with their orders; the connectives of first members are not written. -/
def people (columns : List Value) (first : Connective) : Query where
  table := .text "people"
  columns := columns
  joins := [{ kind := .left, table := "orders", conditions := [
    ⟨first, "people.id", "=", "orders.person"⟩, ⟨.or, "people.id", "=", "orders.payer"⟩] }]
  wheres := [
    .group first [
      .leaf first (.between "AND" (.int 18) (.int 65)), .leaf .or (.oneOf "name" [.text "?"])],
    .leaf .and (.compare "id" ">=" (.int 3)), .group .or []]
  orders := [⟨"age", .descending⟩]
  page := { limit := some (.int 10) }

theorem people_legible (columns : List Value) (first : Connective)
    (names : ∀ v ∈ columns, v.IsName) : (people columns first).IsLegible where
  selects := rfl
  columns := names
  table := ⟨"people", rfl, by decide⟩
  joins := by
    intro j hj
    obtain rfl := List.mem_singleton.mp hj
    have orders : IsToken "orders" := by decide
    have person : IsToken "people.id" ∧ IsToken "=" ∧ IsToken "orders.person" := by decide
    have payer : IsToken "people.id" ∧ IsToken "=" ∧ IsToken "orders.payer" := by decide
    refine ⟨orders, fun c hc => ?_⟩
    simp only [List.mem_cons, List.not_mem_nil, or_false] at hc
    rcases hc with rfl | rfl
    · exact person
    · exact payer
  wheres := by
    have range : IsToken "AND" := by decide
    have name : IsToken "name" := by decide
    have compared : IsToken "id" ∧ IsOperator ">=" := ⟨by decide, by decide⟩
    exact ⟨⟨range, name, trivial⟩, compared, trivial, trivial⟩
  orders := by
    intro o ho
    obtain rfl := List.mem_singleton.mp ho
    decide
  page := ⟨by simp [people, Value.IsNumber], by simp [people]⟩

theorem people_unambiguous :
    (people [] .or).IsLegible ∧ (people [.text "*"] .and).IsLegible ∧
      (people [.text "name"] .or).IsLegible ∧
      (people [] .or).prepared = (people [.text "*"] .and).prepared ∧
      (people [] .or).prepared ≠ (people [.text "name"] .or).prepared := by
  have named (s : String) (token : IsToken s) : ∀ v ∈ [Value.text s], v.IsName := by
    intro v hv
    exact ⟨s, List.mem_singleton.mp hv, token⟩
  have none := people_legible [] .or (by simp)
  have all := people_legible [.text "*"] .and (named "*" (by decide))
  have one := people_legible [.text "name"] .or (named "name" (by decide))
  refine ⟨none, all, one, (select_unambiguous _ _ none all).mpr rfl, fun same => ?_⟩
  have columns := congrArg Query.columns ((select_unambiguous _ _ none one).mp same)
  simp [settled, selected, people] at columns

end Query

end FluentSql
