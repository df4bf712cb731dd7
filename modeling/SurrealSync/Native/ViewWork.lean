import SurrealSync.Native.ViewListing

open Std Except
open surrealdb_sync_protocol surrealdb_sync_client
open surrealdb_rn_core.sync_read (NativeSyncError)

namespace surrealdb_rn_core.sync_view

variable {F : Type}

/-- The counters are within their limits. -/
structure Work.Bounded (work : Work) : Prop where
  visits : work.records_visited + work.operations_visited ≤ MAX_VISITS
  nodes : work.value_nodes_visited ≤ MAX_NODES
  bytes : work.value_bytes_visited ≤ MAX_VALUE_BYTES

/-- The counters never go back, and stay within their limits. -/
structure Work.Spent (before after : Work) : Prop where
  records : before.records_visited ≤ after.records_visited
  operations : before.operations_visited ≤ after.operations_visited
  bounded : before.Bounded → after.Bounded

theorem Work.Spent.refl (work : Work) : work.Spent work := ⟨Nat.le_refl _, Nat.le_refl _, id⟩

theorem Work.Spent.trans {before between after : Work} (hfirst : before.Spent between) (hsecond : between.Spent after) :
    before.Spent after where
  records := Nat.le_trans hfirst.records hsecond.records
  operations := Nat.le_trans hfirst.operations hsecond.operations
  bounded hbefore := hsecond.bounded (hfirst.bounded hbefore)

theorem Work.default_bounded : Work.default.Bounded := ⟨by decide, by decide, by decide⟩

/-! ### One step of the counters -/

theorem visit_record_spent (work : Work) :
    Charged (fun next => work.Spent next ∧ next.records_visited = work.records_visited + 1) (work.visit false) := by
  refine (Within.refuse _).bind fun _ hvisits => .ok ⟨⟨?_, ?_, fun hwork => ⟨?_, hwork.nodes, hwork.bytes⟩⟩, rfl⟩
  · exact Nat.le_succ _
  · exact Nat.le_refl _
  · exact Nat.not_lt.mp hvisits

theorem visit_operation_spent (work : Work) :
    Charged (fun next => work.Spent next ∧ next.operations_visited = work.operations_visited + 1) (work.visit true) := by
  refine (Within.refuse _).bind fun _ hvisits => .ok ⟨⟨?_, ?_, fun hwork => ⟨?_, hwork.nodes, hwork.bytes⟩⟩, rfl⟩
  · exact Nat.le_refl _
  · exact Nat.le_succ _
  · exact Nat.not_lt.mp hvisits

theorem bytes_spent (work : Work) (n : Nat) : Charged (work.Spent ·) (work.bytes n) := by
  refine (Within.refuse _).bind fun _ hbytes => .ok ⟨Nat.le_refl _, Nat.le_refl _, fun hwork => ?_⟩
  exact ⟨hwork.visits, hwork.nodes, Nat.not_lt.mp hbytes⟩

/-- One more node, which its check let through. -/
theorem node_spent {work : Work} (hnodes : work.value_nodes_visited + 1 ≤ MAX_NODES) :
    work.Spent { work with value_nodes_visited := work.value_nodes_visited + 1 } :=
  ⟨Nat.le_refl _, Nat.le_refl _, fun hwork => ⟨hwork.visits, hnodes, hwork.bytes⟩⟩

theorem spent_of_limits {work : Work} {deep : Prop} (hlimits : ¬ (work.value_nodes_visited + 1 > MAX_NODES ∨ deep)) :
    work.Spent { work with value_nodes_visited := work.value_nodes_visited + 1 } :=
  node_spent (Nat.not_lt.mp (not_or.mp hlimits).1)

/-- A step that spends, after others that did. -/
theorem Work.Spent.after {before work : Work} {x : Except NativeSyncError Work} (hbefore : before.Spent work)
    (hx : Charged (work.Spent ·) x) : Charged (before.Spent ·) x :=
  hx.mono fun _ hnext => hbefore.trans hnext

theorem value_spent (value : serde_json.Value F) (work : Work) (depth : Nat) :
    Charged (work.Spent ·) (work.value depth value) := by
  induction value generalizing work depth with
  | Null =>
    rw [Work.value]
    exact (Within.refuse _).bind fun _ hlimits => (spent_of_limits hlimits).after (bytes_spent _ _)
  | Bool value =>
    rw [Work.value]
    exact (Within.refuse _).bind fun _ hlimits => (spent_of_limits hlimits).after (bytes_spent _ _)
  | Number value =>
    rw [Work.value]
    exact (Within.refuse _).bind fun _ hlimits => (spent_of_limits hlimits).after (bytes_spent _ _)
  | String text =>
    rw [Work.value]
    exact (Within.refuse _).bind fun _ hlimits => (spent_of_limits hlimits).after (bytes_spent _ _)
  | Array values ih =>
    rw [Work.value]
    refine (Within.refuse _).bind fun _ hlimits => (spent_of_limits hlimits).after ?_
    suffices hvalues : ∀ work depth, Charged (work.Spent ·) (Work.values work depth values) from hvalues _ _
    intro work depth
    induction values generalizing work with
    | nil =>
      rw [Work.values]
      exact .ok (.refl work)
    | cons value values ihs =>
      obtain ⟨hvalue, hvalues⟩ := List.forall_mem_cons.mp ih
      rw [Work.values]
      exact (hvalue work depth).bind fun next hnext => hnext.after (ihs hvalues next)
  | Object entries ih =>
    rw [Work.value]
    refine (Within.refuse _).bind fun _ hlimits => (spent_of_limits hlimits).after ?_
    suffices hentries : ∀ work depth, Charged (work.Spent ·) (Work.entries work depth entries) from hentries _ _
    intro work depth
    induction entries generalizing work with
    | nil =>
      rw [Work.entries]
      exact .ok (.refl work)
    | cons entry entries ihs =>
      obtain ⟨key, value⟩ := entry
      obtain ⟨hvalue, hentries⟩ := List.forall_mem_cons.mp ih
      rw [Work.entries]
      refine (bytes_spent work _).bind fun between hbetween => hbetween.after ?_
      exact (hvalue between depth).bind fun next hnext => hnext.after (ihs hentries next)

theorem field_spent (path : List String) (value : serde_json.Value F) (work : Work) :
    Charged (fun found => work.Spent found.2) (field work value path) := by
  induction path generalizing value work with
  | nil => exact .ok (.refl work)
  | cons key path ih =>
    rw [field]
    split
    · exact .ok (.refl work)
    · refine (Within.refuse _).bind fun _ hnodes => ?_
      have hnode := node_spent (Nat.not_lt.mp hnodes)
      cases serde_json.get_key value key with
      | none => exact .ok hnode
      | some next => exact (ih next _).mono fun found hfound => hnode.trans hfound

/-! ### The effective rows -/

theorem confirmed_entry_spent (found : Rows F × Work) (entry : RecordId × RecordState (serde_json.Value F)) :
    Charged (fun next => found.2.Spent next.2) (confirmed_entry found entry) := by
  obtain ⟨rows, work⟩ := found
  refine (visit_record_spent work).bind fun visited hvisited => (Within.refuse _).bind fun _ _ => ?_
  refine (bytes_spent visited _).bind fun next hnext => ?_
  have hspent : work.Spent next := hvisited.1.trans hnext
  cases entry.2 with
  | Absent => exact .ok hspent
  | Tombstone version => exact .ok hspent
  | Present value version reference =>
    exact (value_spent value next 0).bind fun last hlast => .ok (hspent.trans hlast)

theorem charge_operation_spent (work : Work) (operation : Operation (serde_json.Value F)) :
    Charged (work.Spent ·) (charge_operation work operation) := by
  refine (visit_operation_spent work).bind fun visited hvisited => hvisited.1.after ?_
  refine (bytes_spent visited _).bind fun next hnext => hnext.after ?_
  cases operation with
  | Upsert record_id base_version value reference => exact value_spent value next 0
  | Delete record_id base_version => exact .ok (.refl next)

theorem charge_commit_spent (work : Work) (commit : ClientCommit (serde_json.Value F)) :
    Charged (work.Spent ·) (charge_commit work commit) := by
  refine (visit_operation_spent work).bind fun visited hvisited => hvisited.1.after ?_
  refine (bytes_spent visited _).bind fun named hnamed => hnamed.after ?_
  refine (bytes_spent named _).bind fun next hnext => hnext.after ?_
  exact Within.foldlM_keep (fun kept hkept operation _ => hkept.after (charge_operation_spent kept operation)) (.refl next)

theorem overlay_operation_spent (found : Rows F × Work) (operation : Operation (serde_json.Value F)) :
    Charged (fun next => found.2.Spent next.2) (overlay_operation found operation) := by
  obtain ⟨rows, work⟩ := found
  refine (visit_operation_spent work).bind fun next hnext => ?_
  cases operation with
  | Upsert record_id base_version value reference => exact .ok hnext.1
  | Delete record_id base_version => exact .ok hnext.1

variable [DecidableEq F]

theorem effective_spent (runtime : ClientRuntime (serde_json.Value F)) (work : Work) :
    Charged (fun found => work.Spent found.2) (effective runtime work) := by
  refine (Within.foldlM_keep (P := fun found : Rows F × Work => work.Spent found.2)
    (fun kept hkept entry _ => (confirmed_entry_spent kept entry).mono fun _ hnext => hkept.trans hnext)
    (.refl work)).bind fun confirmed hconfirmed => ?_
  refine (Within.foldlM_keep (fun kept hkept commit _ => hkept.after (charge_commit_spent kept commit))
    hconfirmed).bind fun charged hcharged => ?_
  refine (Within.foldlM_keep (fun kept hkept _ _ => (visit_operation_spent kept).mono fun _ hnext =>
    hkept.trans hnext.1) hcharged).bind fun visited hvisited => ?_
  exact Within.foldlM_keep (P := fun found : Rows F × Work => work.Spent found.2)
    (fun kept hkept operation _ => (overlay_operation_spent kept operation).mono fun _ hnext => hkept.trans hnext)
    hvisited

/-! ### Selecting -/

mutual

theorem matches_spent (selector : Selector F) (value : serde_json.Value F) (work : Work) :
    Charged (fun found => work.Spent found.2) (matches_selector selector value work) := by
  cases selector with
  | All =>
    rw [matches_selector]
    exact .ok (.refl work)
  | Eq path wanted =>
    rw [matches_selector]
    exact (field_spent path value work).bind fun found hfound => .ok hfound
  | And terms =>
    rw [matches_selector]
    exact matches_terms_spent terms value work

theorem matches_terms_spent (terms : List (Selector F)) (value : serde_json.Value F) (work : Work) :
    Charged (fun found => work.Spent found.2) (matches_terms terms value work) := by
  cases terms with
  | nil =>
    rw [matches_terms]
    exact .ok (.refl work)
  | cons term terms =>
    rw [matches_terms]
    refine (matches_spent term value work).bind ?_
    rintro ⟨matched, between⟩ hbetween
    cases matched with
    | true => exact (matches_terms_spent terms value between).mono fun _ hlast => hbetween.trans hlast
    | false => exact .ok hbetween

end

/-- Every record that is counted was visited. -/
theorem count_rows_spent (selector : Selector F) (entries : List (Entry F)) (count : Nat) (work : Work)
    (hcount : count ≤ work.records_visited) :
    Charged (fun found => work.Spent found.2 ∧ found.1 ≤ found.2.records_visited)
      (count_rows selector entries count work) := by
  induction entries generalizing count work with
  | nil => exact .ok ⟨.refl work, hcount⟩
  | cons entry entries ih =>
    obtain ⟨id, value⟩ := entry
    rw [count_rows]
    refine (visit_record_spent work).bind fun visited hvisited => (matches_spent selector value visited).bind ?_
    rintro ⟨matched, next⟩ hnext
    have hspent : work.Spent next := hvisited.1.trans hnext
    have hrecords : visited.records_visited ≤ next.records_visited := hnext.records
    refine (ih _ next ?_).mono fun found hfound => ⟨hspent.trans hfound.1, hfound.2⟩
    split
    · omega
    · omega

theorem select_rows_spent (selector : Selector F) (after : Option String) (limit : Nat) (entries : List (Entry F))
    (selected : List (Entry F)) (work : Work) :
    Charged (fun found => work.Spent found.2.2) (select_rows selector after limit entries selected work) := by
  induction entries generalizing selected work with
  | nil => exact .ok (.refl work)
  | cons entry entries ih =>
    obtain ⟨id, value⟩ := entry
    rw [select_rows]
    refine (visit_record_spent work).bind fun visited hvisited => ?_
    split
    · exact (ih selected visited).mono fun found hfound => hvisited.1.trans hfound
    · refine (matches_spent selector value visited).bind ?_
      rintro ⟨matched, next⟩ hnext
      have hspent : work.Spent next := hvisited.1.trans hnext
      dsimp only
      split
      · split
        · exact .ok hspent
        · exact (ih _ next).mono fun found hfound => hspent.trans hfound
      · exact (ih selected next).mono fun found hfound => hspent.trans hfound

/-! ### Summaries -/

/-- What is told of a record comes from the commits of the state, in no more entries than operations were visited. -/
structure Summary.Told (state : DurableClientState (serde_json.Value F)) (visits : Nat) (summary : Summary) : Prop where
  pending : ∀ identity ∈ summary.pending, ∃ commit ∈ state.outbox, commit.identity = identity
  conflicts : ∀ conflict ∈ summary.conflicts, ∃ resolved ∈ state.outcomes,
    conflict.identity = resolved.local_commit.identity ∧ conflict.resolution = resolved.resolution
  accepted : ∀ accepted ∈ summary.accepted, ∃ resolved ∈ state.outcomes,
    accepted.identity = resolved.local_commit.identity
  pending_length : summary.pending.length ≤ visits
  conflicts_length : summary.conflicts.length ≤ visits
  accepted_length : summary.accepted.length ≤ visits

variable {state : DurableClientState (serde_json.Value F)}

omit [DecidableEq F] in
theorem Summary.Told.mono {visits more : Nat} {summary : Summary} (htold : summary.Told state visits)
    (hmore : visits ≤ more) : summary.Told state more where
  pending := htold.pending
  conflicts := htold.conflicts
  accepted := htold.accepted
  pending_length := Nat.le_trans htold.pending_length hmore
  conflicts_length := Nat.le_trans htold.conflicts_length hmore
  accepted_length := Nat.le_trans htold.accepted_length hmore

omit [DecidableEq F] in
theorem Summary.told_empty (visits : Nat) : (Summary.mk [] [] []).Told state visits :=
  ⟨by simp, by simp, by simp, Nat.zero_le _, Nat.zero_le _, Nat.zero_le _⟩

omit [DecidableEq F] in
theorem Summary.Told.add_pending {visits : Nat} {summary : Summary} (htold : summary.Told state visits)
    {commit : ClientCommit (serde_json.Value F)} (hcommit : commit ∈ state.outbox) :
    { summary with pending := summary.pending ++ [commit.identity] }.Told state (visits + 1) where
  pending identity hidentity := by
    rcases List.mem_append.mp hidentity with hearlier | hlast
    · exact htold.pending identity hearlier
    · exact ⟨commit, hcommit, (List.mem_singleton.mp hlast).symm⟩
  conflicts := htold.conflicts
  accepted := htold.accepted
  pending_length := by
    rw [List.length_append, List.length_singleton]
    exact Nat.succ_le_succ htold.pending_length
  conflicts_length := Nat.le_succ_of_le htold.conflicts_length
  accepted_length := Nat.le_succ_of_le htold.accepted_length

omit [DecidableEq F] in
theorem Summary.Told.add_conflict {visits : Nat} {summary : Summary} (htold : summary.Told state visits)
    {resolved : ResolvedCommit (serde_json.Value F)} (hresolved : resolved ∈ state.outcomes) :
    { summary with conflicts := summary.conflicts ++ [ReadConflictV1.mk resolved.local_commit.identity resolved.resolution] }.Told state
      (visits + 1) where
  pending := htold.pending
  conflicts conflict hconflict := by
    rcases List.mem_append.mp hconflict with hearlier | hlast
    · exact htold.conflicts conflict hearlier
    · cases List.mem_singleton.mp hlast
      exact ⟨resolved, hresolved, rfl, rfl⟩
  accepted := htold.accepted
  pending_length := Nat.le_succ_of_le htold.pending_length
  conflicts_length := by
    rw [List.length_append, List.length_singleton]
    exact Nat.succ_le_succ htold.conflicts_length
  accepted_length := Nat.le_succ_of_le htold.accepted_length

omit [DecidableEq F] in
theorem Summary.Told.add_accepted {visits : Nat} {summary : Summary} (htold : summary.Told state visits)
    {resolved : ResolvedCommit (serde_json.Value F)} (hresolved : resolved ∈ state.outcomes) {sequence : UInt64}
    {status : ReadAcceptedStatusV1} :
    { summary with accepted := summary.accepted ++ [ReadAcceptedV1.mk resolved.local_commit.identity sequence status] }.Told state
      (visits + 1) where
  pending := htold.pending
  conflicts := htold.conflicts
  accepted accepted haccepted := by
    rcases List.mem_append.mp haccepted with hearlier | hlast
    · exact htold.accepted accepted hearlier
    · cases List.mem_singleton.mp hlast
      exact ⟨resolved, hresolved, rfl⟩
  pending_length := Nat.le_succ_of_le htold.pending_length
  conflicts_length := Nat.le_succ_of_le htold.conflicts_length
  accepted_length := by
    rw [List.length_append, List.length_singleton]
    exact Nat.succ_le_succ htold.accepted_length

/-- The rows that are summarized so far, and the counters. -/
structure Telling (state : DurableClientState (serde_json.Value F)) (before : Work) (found : Summaries × Work) : Prop where
  spent : before.Spent found.2
  told : ∀ (id : RecordId) summary, found.1[id]? = some summary → summary.Told state found.2.operations_visited

variable {before : Work}

omit [DecidableEq F] in
theorem Telling.visit {found : Summaries × Work} (htelling : Telling state before found) :
    Charged (fun next => Telling state before (found.1, next) ∧
      next.operations_visited = found.2.operations_visited + 1) (found.2.visit true) := by
  refine (visit_operation_spent found.2).mono fun next hnext => ⟨⟨htelling.spent.trans hnext.1, ?_⟩, hnext.2⟩
  intro id summary hsummary
  exact (htelling.told id summary hsummary).mono hnext.1.operations

omit [DecidableEq F] in
/-- A row that grows by an entry, behind the visit of an operation. -/
theorem Telling.insert {found : Summaries × Work} (htelling : Telling state before found) {visited next : Work}
    (hvisited : found.2.Spent visited) (hcount : visited.operations_visited = found.2.operations_visited + 1)
    (hnext : visited.Spent next) (id : RecordId) {summary : Summary}
    (htold : summary.Told state (found.2.operations_visited + 1)) :
    Telling state before (found.1.insert id summary, next) := by
  have hvisits : found.2.operations_visited + 1 ≤ next.operations_visited := by
    have hle := hnext.operations
    omega
  refine ⟨(htelling.spent.trans hvisited).trans hnext, fun other held hheld => ?_⟩
  rw [ExtTreeMap.getElem?_insert] at hheld
  split at hheld
  · cases hheld
    exact htold.mono hvisits
  · exact (htelling.told other held hheld).mono (Nat.le_of_succ_le hvisits)

omit [DecidableEq F] in
theorem summarize_pending_telling {commit : ClientCommit (serde_json.Value F)} (hcommit : commit ∈ state.outbox)
    {found : Summaries × Work} (htelling : Telling state before found) (operation : Operation (serde_json.Value F)) :
    Charged (Telling state before) (summarize_pending commit found operation) := by
  obtain ⟨rows, work⟩ := found
  refine (visit_operation_spent work).bind fun visited hvisited => ?_
  cases hrow : rows[operation.record_id]? with
  | none =>
    refine .ok ⟨htelling.spent.trans hvisited.1, fun id summary hsummary => ?_⟩
    exact (htelling.told id summary hsummary).mono hvisited.1.operations
  | some row =>
    refine (bytes_spent visited _).bind fun next hnext => .ok ?_
    exact htelling.insert hvisited.1 hvisited.2 hnext _ ((htelling.told _ row hrow).add_pending hcommit)

omit [DecidableEq F] in
theorem summarize_outcome_telling {resolved : ResolvedCommit (serde_json.Value F)} (hresolved : resolved ∈ state.outcomes)
    {found : Summaries × Work} (htelling : Telling state before found) (operation : Operation (serde_json.Value F)) :
    Charged (Telling state before) (summarize_outcome resolved found operation) := by
  obtain ⟨rows, work⟩ := found
  refine (visit_operation_spent work).bind fun visited hvisited => ?_
  cases hrow : rows[operation.record_id]? with
  | none =>
    refine .ok ⟨htelling.spent.trans hvisited.1, fun id summary hsummary => ?_⟩
    exact (htelling.told id summary hsummary).mono hvisited.1.operations
  | some row =>
    have htold := htelling.told _ row hrow
    refine (bytes_spent visited _).bind fun named hnamed => ?_
    extract_lets summary insert_row
    have hinsert : ∀ next, visited.Spent next → Charged (Telling state before) (insert_row next) := by
      intro next hnext
      refine .ok (htelling.insert hvisited.1 hvisited.2 hnext _ ?_)
      dsimp only [summary]
      cases resolved.outcome with
      | Accepted identity sequence id_mappings => exact htold.add_accepted hresolved
      | Conflict identity record_id authoritative => exact htold.add_conflict hresolved
      | Rejected identity reason => exact htold.mono (Nat.le_succ _)
    cases replacement_of resolved.resolution with
    | none => exact hinsert named hnamed
    | some replacement => exact (bytes_spent named _).bind fun next hnext => hinsert next (hnamed.trans hnext)

omit [DecidableEq F] in
theorem getElem?_empty_summaries (ids : List RecordId) (id : RecordId) {summary : Summary}
    (hsummary : (ExtTreeMap.ofList (ids.map fun id => (id, Summary.mk [] [] [])) compare : Summaries)[id]? = some summary) :
    summary = ⟨[], [], []⟩ := by
  rw [ExtTreeMap.ofList_eq_foldl] at hsummary
  revert id summary
  refine List.foldlRecOn (motive := fun rows : Summaries => ∀ (id : RecordId) summary, rows[id]? = some summary →
    summary = ⟨[], [], []⟩) _ _ (fun id summary hsummary => ?_) fun rows hrows entry hentry id summary hsummary => ?_
  · simp at hsummary
  · obtain ⟨first, _, rfl⟩ := List.mem_map.mp hentry
    rw [ExtTreeMap.getElem?_insert] at hsummary
    split at hsummary
    · exact (Option.some.inj hsummary).symm
    · exact hrows id summary hsummary

theorem summaries_telling (runtime : ClientRuntime (serde_json.Value F)) (ids : List RecordId) (work : Work) :
    Charged (Telling runtime.state work) (summaries runtime ids work) := by
  have hfirst : Telling runtime.state work
      (ExtTreeMap.ofList (ids.map fun id => (id, Summary.mk [] [] [])) compare, work) := by
    refine ⟨.refl work, fun id summary hsummary => ?_⟩
    rw [getElem?_empty_summaries ids id hsummary]
    exact Summary.told_empty _
  refine (Within.foldlM_keep (P := Telling runtime.state work) (fun found hfound commit hcommit => ?_) hfirst).bind
    fun found hfound => Within.foldlM_keep (P := Telling runtime.state work) (fun found hfound resolved hresolved => ?_) hfound
  · refine hfound.visit.bind fun next hnext => ?_
    exact Within.foldlM_keep (P := Telling runtime.state work)
      (fun kept hkept operation _ => summarize_pending_telling hcommit hkept operation) hnext.1
  · refine hfound.visit.bind fun next hnext => ?_
    exact Within.foldlM_keep (P := Telling runtime.state work)
      (fun kept hkept operation _ => summarize_outcome_telling hresolved hkept operation) hnext.1

/-! ### Rows -/

/-- What a row tells of its record. -/
def Row.summary (row : Row F) : Summary := ⟨row.pending, row.conflicts, row.accepted⟩

omit [DecidableEq F] in
theorem project_path_spent (value : serde_json.Value F) (found : List (Field F) × Work) (path : List String) :
    Charged (fun next => found.2.Spent next.2) (project_path value found path) := by
  refine (field_spent path value found.2).bind ?_
  rintro ⟨item, work⟩ hwork
  cases item with
  | none => exact .ok hwork
  | some shown => exact (value_spent shown work 0).bind fun next hnext => .ok (hwork.trans hnext)

omit [DecidableEq F] in
/-- The rows that are projected tell what the summaries tell of their records. -/
theorem project_rows_told {summary : Summaries} {visits : Nat}
    (htold : ∀ (id : RecordId) held, summary[id]? = some held → held.Told state visits) (projection : List (List String))
    (selected : List (Entry F)) (work : Work) :
    Charged (fun next => work.Spent next.2 ∧ ∀ row ∈ next.1, row.summary.Told state visits)
      (selected.foldlM (project_row projection summary) ([], work)) := by
  refine Within.foldlM_keep (P := fun next : List (Row F) × Work =>
    work.Spent next.2 ∧ ∀ row ∈ next.1, row.summary.Told state visits) (fun found hfound entry _ => ?_)
    ⟨.refl work, by simp⟩
  have hfields : Charged (fun next : List (Field F) × Work => work.Spent next.2)
      (projection.foldlM (project_path entry.2) ([], found.2)) :=
    Within.foldlM_keep (P := fun next : List (Field F) × Work => work.Spent next.2)
      (fun kept hkept path _ => (project_path_spent entry.2 kept path).mono fun _ hnext => hkept.trans hnext) hfound.1
  refine hfields.bind fun next hnext => .ok ⟨hnext, fun row hrow => ?_⟩
  rcases List.mem_append.mp hrow with hearlier | hlast
  · exact hfound.2 row hearlier
  · cases List.mem_singleton.mp hlast
    cases hheld : summary[entry.1]? with
    | none => exact Summary.told_empty visits
    | some held => exact htold entry.1 held hheld

/-! ### Answers -/

/-- The counters of an answer are within their limits, and so is what it counts. -/
theorem read_count_spent (runtime : ClientRuntime (serde_json.Value F)) (selector : Selector F) :
    Charged (fun response => ∃ count work, response = .count count runtime.read_metadata work ∧ work.Bounded ∧
      count ≤ MAX_VISITS) (read_count runtime selector) := by
  refine (effective_spent runtime _).bind ?_
  rintro ⟨rows, work⟩ hrows
  refine (count_rows_spent selector rows.toList 0 work (Nat.zero_le _)).bind ?_
  rintro ⟨count, last⟩ ⟨hspent, hcount⟩
  have hbounded : last.Bounded := (hrows.trans hspent).bounded Work.default_bounded
  have hvisits : last.records_visited ≤ MAX_VISITS := Nat.le_trans (Nat.le_add_right _ _) hbounded.visits
  exact .ok ⟨count, last, rfl, hbounded, Nat.le_trans hcount hvisits⟩

theorem spent_of_read_page {serde : Serde F} {runtime : ClientRuntime (serde_json.Value F)} {journal : ViewJournal}
    {token query : String} {after : Option String} {selector : Selector F} {projection : List (List String)}
    {limit : UInt32} {response : Response F}
    (hread : read_page serde runtime journal token query after selector projection limit = .ok response) :
    ∃ rows cursor work, response = .page rows cursor runtime.read_metadata work ∧ work.Bounded ∧
      ∀ row ∈ rows, row.summary.Told runtime.state MAX_VISITS := by
  obtain ⟨⟨rows, work⟩, heffective, hread⟩ := bind_eq_ok_iff.mp hread
  obtain ⟨⟨selected, has_more, picked⟩, hselect, hread⟩ := bind_eq_ok_iff.mp hread
  obtain ⟨⟨summary, summarized⟩, hsummaries, hread⟩ := bind_eq_ok_iff.mp hread
  obtain ⟨⟨shown, last⟩, hproject, hread⟩ := bind_eq_ok_iff.mp hread
  obtain ⟨cursor, _, hread⟩ := bind_eq_ok_iff.mp hread
  cases hread
  have hwork : Work.default.Spent work := (effective_spent runtime _).of_ok heffective
  have hpicked : work.Spent picked := (select_rows_spent selector after limit.toNat rows.toList [] work).of_ok hselect
  have htelling := (summaries_telling runtime (selected.map (·.1)) picked).of_ok hsummaries
  have hsummarized : summarized.Bounded :=
    ((hwork.trans hpicked).trans htelling.spent).bounded Work.default_bounded
  have hvisits : summarized.operations_visited ≤ MAX_VISITS :=
    Nat.le_trans (Nat.le_add_left _ _) hsummarized.visits
  obtain ⟨hlast, htold⟩ := (project_rows_told htelling.told projection selected summarized).of_ok hproject
  exact ⟨shown, cursor, last, rfl, hlast.bounded hsummarized, fun row hrow => (htold row hrow).mono hvisits⟩

variable {serde : Serde F} {runtime : ClientRuntime (serde_json.Value F)} {journal : ViewJournal} {token input : String}
  {selector : Selector F} {response : Response F}

theorem count_answer_of_read (hrequest : serde.request input = some (.Count 1 selector))
    (hread : read serde runtime journal token input = .ok response) :
    ∃ count work, response = .count count runtime.read_metadata work ∧ work.Bounded ∧ count ≤ MAX_VISITS := by
  simp only [read, hrequest, okOr, ok_bind, query_of, after_cursor] at hread
  obtain ⟨_, _, hread⟩ := bind_eq_ok_iff.mp hread
  obtain ⟨_, _, hread⟩ := bind_eq_ok_iff.mp hread
  obtain ⟨_, _, hread⟩ := bind_eq_ok_iff.mp hread
  obtain ⟨_, _, hread⟩ := bind_eq_ok_iff.mp hread
  obtain ⟨_, _, hread⟩ := bind_eq_ok_iff.mp hread
  exact (read_count_spent runtime selector).of_ok hread

/-- The answer to a page request without a cursor is a page, with its counters and summaries within their limits. -/
theorem page_answer_of_read {projection : List (List String)} {limit : UInt32}
    (hrequest : serde.request input = some (.Page 1 selector projection limit none))
    (hread : read serde runtime journal token input = .ok response) :
    ∃ query rows cursor work, response = .page rows cursor runtime.read_metadata work ∧
      PageAccepted serde runtime selector projection limit query ∧
      PageShown serde runtime journal token query none selector projection limit rows cursor ∧ work.Bounded ∧
      ∀ row ∈ rows, row.summary.Told runtime.state MAX_VISITS := by
  have hspent : ∃ rows cursor work, response = .page rows cursor runtime.read_metadata work ∧ work.Bounded ∧
      ∀ row ∈ rows, row.summary.Told runtime.state MAX_VISITS := by
    simp only [read, hrequest, okOr, ok_bind, after_cursor] at hread
    obtain ⟨_, _, hread⟩ := bind_eq_ok_iff.mp hread
    obtain ⟨_, _, hread⟩ := bind_eq_ok_iff.mp hread
    obtain ⟨_, _, hread⟩ := bind_eq_ok_iff.mp hread
    obtain ⟨_, _, hread⟩ := bind_eq_ok_iff.mp hread
    obtain ⟨query, _, hread⟩ := bind_eq_ok_iff.mp hread
    obtain ⟨_, _, hread⟩ := bind_eq_ok_iff.mp hread
    exact spent_of_read_page hread
  obtain ⟨rows, cursor, work, rfl, hbounded, htold⟩ := hspent
  obtain ⟨query, after, haccepted, hafter, hshown⟩ := page_of_read hrequest hread
  cases hafter
  exact ⟨query, rows, cursor, work, rfl, haccepted, hshown, hbounded, htold⟩

end surrealdb_rn_core.sync_view
