import Analytics.Proofs.Source.Rowwise

/-!
Isolation of websites. An answer about one website depends on the rows of that website alone: the
rows of others may come and go.
-/

namespace Analytics

def Table.isOfWebsite (t : Table) (website : String) (row : TableRow) : Bool :=
  (compareCells .equal ((t.affinity? "website_id").getD .none) (TableRow.cell row "website_id")
    (.text website)).holds

/-- Whether two tables have the same columns, and the same rows of a website in the same order. -/
structure SameWebsite (website : String) (t t' : Table) : Prop where
  columns : t.columns = t'.columns
  rows : t.rows.filter (t.isOfWebsite website) = t'.rows.filter (t'.isOfWebsite website)

namespace Internal

variable {website : String} {t t' : Table} {db db' : Database}

theorem scope_holds (t : Table) (website : String) (row : TableRow) :
    (Condition.plain (scope website)).holdsOn (t.view Source.eventRows row)
      = t.isOfWebsite website row := by
  simp only [Condition.holdsOn, scope, Predicate.eval, Scalar.affinity, Scalar.eval,
    Affinity.common_none, Table.isOfWebsite]
  rfl

theorem filter_scoped {cs : List Condition} (t : Table)
    (inside : .plain (scope website) ∈ cs) :
    (t.rows.map (t.view Source.eventRows)).filter (Condition.allHold cs)
      = ((t.rows.filter (t.isOfWebsite website)).map (t.view Source.eventRows)).filter
          (Condition.allHold cs) := by
  rw [List.filter_map, List.filter_map, List.filter_filter]
  congr 1
  apply List.filter_congr
  intro row _
  have own : Condition.allHold cs (t.view Source.eventRows row) = true →
      t.isOfWebsite website row = true := by
    intro all
    rw [← scope_holds]
    exact List.all_eq_true.mp all _ inside
  cases held : Condition.allHold cs (t.view Source.eventRows row) with
  | false => simp [held]
  | true => simp [held, own held]

theorem filter_same {cs : List Condition} (same : SameWebsite website t t')
    (inside : .plain (scope website) ∈ cs) :
    (t.rows.map (t.view Source.eventRows)).filter (Condition.allHold cs)
      = (t'.rows.map (t'.view Source.eventRows)).filter (Condition.allHold cs) := by
  rw [filter_scoped t inside, filter_scoped t' inside, same.rows, Table.view_congr same.columns]

theorem knows_same (columns : t.columns = t'.columns)
    (found : db.table? event.table.text = some t) (found' : db'.table? event.table.text = some t')
    (read : List Column) : db.knows [event] read = db'.knows [event] read := by
  apply Database.knows_congr
  intro r member
  rw [List.mem_singleton.mp member, found, found', Option.map_some, Option.map_some, columns]

/-- Whether a branch counts rows of a website, and reads its table alone. -/
structure Confines (website : String) (b : Branch) : Prop where
  single : b.IsSingle
  relation : b.relation = event
  inside : .plain (scope website) ∈ b.conditions

theorem confines {p : QueryPlan} {selection : Selection} {b : Branch}
    (made : (source website).Makes p selection b) : Confines website b := by
  obtain ⟨event, filters, _, _, confined⟩ := Source.conditions_ok made.conditions
  refine ⟨(source_rowwise website).single made, made.relation, ?_⟩
  rw [confined]
  exact List.mem_append_left _ List.mem_cons_self

theorem answer_same {b : Branch} (confined : Confines website b) (same : SameWebsite website t t')
    (found : db.table? event.table.text = some t) (found' : db'.table? event.table.text = some t') :
    b.answer db = b.answer db' := by
  have own : db.table? b.relation.table.text = some t := confined.relation ▸ found
  have other : db'.table? b.relation.table.text = some t' := confined.relation ▸ found'
  have views : b.views db = b.views db' := by
    rw [Branch.views_single confined.single own, Branch.views_single confined.single other,
      confined.relation]
    exact filter_same same confined.inside
  rw [Branch.answer_views, Branch.answer_views, views]

theorem series_same {s : SeriesStatement} (confined : ∀ b ∈ s.branches, Confines website b)
    (same : SameWebsite website t t') (found : db.table? event.table.text = some t)
    (found' : db'.table? event.table.text = some t') : db.series? s = db'.series? s := by
  apply Database.series_congr
  · intro b member
    have own := confined b member
    rw [Branch.relations_single own.single, own.relation]
    exact knows_same same.columns found found' b.columns
  · intro b member
    exact answer_same (confined b member) same found found'

end Internal

namespace Listing

def viewFirst (l : Listing) (v v' : RowView Column) : Bool :=
  let order := Cell.order (v.cell l.key) (v'.cell l.key)
  match l.order with
  | .ascending => order ≠ .gt
  | .descending => order ≠ .lt

def viewRow (l : Listing) (v : RowView Column) : ResultRow :=
  Json.sortMembers (l.columns.map fun c => (c.name.text, (v.cell c).toJson))

theorem cut_map {α β : Type} (f : α → β) (limit : Int) (rows : List α) :
    (cut limit rows).map f = cut limit (rows.map f) := by
  unfold cut
  split
  · rfl
  · exact List.map_take

theorem rows_views (l : Listing) (scopes : List RowScope) :
    (cut l.limit (scopes.mergeSort l.comesFirst)).map l.resultRow
      = (cut l.limit ((scopes.map RowScope.view).mergeSort l.viewFirst)).map l.viewRow := by
  have sorted : (scopes.mergeSort l.comesFirst).map RowScope.view
      = (scopes.map RowScope.view).mergeSort l.viewFirst := List.map_mergeSort fun _ _ _ _ => rfl
  rw [← sorted, ← cut_map, List.map_map]
  rfl

end Listing

namespace Internal

variable {website : String} {t t' : Table} {db db' : Database}

structure Lists (website : String) (l : Listing) : Prop where
  relation : l.relation = event
  plain : ∀ c ∈ l.conditions, c.isPlain = true
  inside : .plain (scope website) ∈ l.conditions

theorem lists {r : EventListRequest} {limit : Int} {l : Listing} (listed : r.listing limit = .ok l) :
    Lists r.insightId l := by
  unfold EventListRequest.listing at listed
  split at listed
  · cases listed
  rename_i time timed
  obtain ⟨filters, filtered, rfl⟩ := map_ok listed
  refine ⟨rfl, ?_, List.mem_cons_self⟩
  intro c member
  rcases List.mem_cons.mp member with rfl | later
  · rfl
  rcases List.mem_append.mp later with early | late
  · unfold EventListRequest.timeConditions at timed
    split at timed
    · cases timed
      cases early
    · obtain ⟨window, _, rfl⟩ := map_ok timed
      rcases List.mem_singleton.mp early with rfl
      rfl
  · obtain ⟨f, _, made⟩ := matched_right (checkAll_ok filtered) late
    unfold EventListRequest.filterCondition at made
    split at made
    · cases made
    · exact filter_plain made

theorem listing_same {l : Listing} (own : Lists website l) (same : SameWebsite website t t')
    (found : db.table? event.table.text = some t) (found' : db'.table? event.table.text = some t')
    (after : Option Int) : db.listing? l after = db'.listing? l after := by
  have relations : l.relations = [event] := by
    have linked := Condition.linked_none own.plain
    unfold Listing.relations
    rw [own.relation]
    exact congrArg (event :: ·) linked
  have known := knows_same same.columns found found' l.readColumns
  have scopes : (l.scopes db after).map RowScope.view = (l.scopes db' after).map RowScope.view := by
    have behind (cs : List Condition) (plain : ∀ c ∈ cs, c.isPlain = true) :
        ((event.extend db []).filter fun s => (l.conditions ++ cs).all fun c => c.holds db s).map
            RowScope.view
          = ((event.extend db' []).filter fun s =>
              (l.conditions ++ cs).all fun c => c.holds db' s).map RowScope.view := by
      have all : ∀ c ∈ l.conditions ++ cs, c.isPlain = true :=
        List.forall_mem_append.mpr ⟨own.plain, plain⟩
      rw [Condition.filter_extend found all, Condition.filter_extend found' all]
      exact filter_same same (List.mem_append_left _ own.inside)
    unfold Listing.scopes
    rw [own.relation]
    cases after with
    | none => exact behind [] fun c member => absurd member List.not_mem_nil
    | some key => exact behind [.plain (l.behind key)] (List.forall_mem_singleton.mpr rfl)
  unfold Database.listing?
  rw [relations, known, l.rows_views, l.rows_views, scopes]

end Internal

namespace Engine

variable {w w' : World}

theorem prepare_internal {e : Engine} {q : InsightQuery} (own : q.insightType = .internal) :
    e.prepare w q = e.prepare w' q := by
  have located : e.locate w q = e.locate w' q := by
    unfold Engine.locate
    split
    · rfl
    · rename_i plan planned
      have type : plan.insightType = .internal := (InsightQuery.passes planned).type.trans own
      unfold Registry.resolve
      rw [if_pos type, if_pos type]
  unfold Engine.prepare
  rw [located]

/-- What an engine answers about a website depends on the rows of that website alone. -/
theorem answers_isolated {e : Engine} {website : String} {t t' : Table}
    (found : w.internal.table? "website_event" = some t)
    (found' : w'.internal.table? "website_event" = some t') (same : SameWebsite website t t') :
    (∀ q : InsightQuery, q.insightType = .internal → q.insightId = website →
      e.query w q = e.query w' q) ∧
    (∀ r : EventListRequest, r.insightId = website → e.listEvents w r = e.listEvents w' r) := by
  constructor
  · intro q internal id
    have prepared : e.prepare w q = e.prepare w' q := prepare_internal internal
    unfold Engine.query
    rw [← prepared]
    cases done : e.prepare w q with
    | mk answer e' =>
      cases answer with
      | error fault => rfl
      | ok p =>
        obtain ⟨planned, resolved, built⟩ := prepare_ok done
        have passes := InsightQuery.passes planned
        have type : p.plan.insightType = .internal := passes.type.trans internal
        -- Requests of this type read the own store, whatever the registry holds.
        unfold Registry.resolve at resolved
        rw [if_pos type] at resolved
        have backend : p.resolved = .internal := (Except.ok.inj resolved).symm
        rw [backend] at built
        have confined : ∀ b ∈ p.statement.branches, Internal.Confines website b := by
          intro b member
          obtain ⟨selection, _, made⟩ := matched_right (Source.built built) member
          rw [← id, ← passes.id]
          exact Internal.confines made
        have series := Internal.series_same confined same found found'
        simp only [Engine.run, backend, Resolved.database, series]
  · intro r id
    unfold Engine.listEvents
    split
    · rfl
    split
    · rfl
    rename_i l listed
    have own := Internal.lists listed
    rw [id] at own
    have rows := Internal.listing_same own same found found'
    simp only [Engine.page, rows]

def sampleEvents (websites : List String) : Table :=
  ⟨sampleColumns, websites.map fun website =>
    [("id", .int 1), ("website_id", .text website), ("event_name", .text "visit"),
      ("created_at", .text "1970-01-01 10:00:00"), ("os", .text "BSD")]⟩

theorem answers_isolated_sample :
    sampleEngine.query (sampleWorld (sampleEvents ["site"])) sampleRequest
      = sampleEngine.query (sampleWorld (sampleEvents ["other", "site"])) sampleRequest ∧
    sampleEngine.listEvents (sampleWorld (sampleEvents ["site"]))
        ⟨"site", [], none, none, .ascending, none⟩
      = sampleEngine.listEvents (sampleWorld (sampleEvents ["other", "site"]))
          ⟨"site", [], none, none, .ascending, none⟩ := by
  have same : SameWebsite "site" (sampleEvents ["site"]) (sampleEvents ["other", "site"]) :=
    ⟨rfl, by decide +kernel⟩
  have found (events : Table) : (sampleWorld events).internal.table? "website_event"
      = some events := by
    simp [sampleWorld, Database.table?]
  have isolated := answers_isolated (e := sampleEngine) (found _) (found _) same
  exact ⟨isolated.1 sampleRequest rfl rfl, isolated.2 _ rfl⟩

end Engine

end Analytics
