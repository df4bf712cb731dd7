import Mathlib.Data.List.TakeDrop
import SurrealSync.Native.BootstrapStore
import SurrealSync.Native.Stored

open Std Except
open surrealdb_sync_protocol surrealdb_sync_protocol.canonical surrealdb_sync_protocol.bootstrap_codec
open surrealdb_sync_client
open surrealdb_rn_core.sync_state

namespace surrealdb_rn_core.sync_bootstrap_store

/-! ### The text of a fence -/

def fence_text (counter : UInt64) (active : Bool) : String := counter.to_string ++ if active then ":a" else ":i"

theorem toList_fence_text (counter : UInt64) (active : Bool) :
    (fence_text counter active).toList = Nat.toDigits 10 counter.toNat ++ [':', if active then 'a' else 'i'] := by
  unfold fence_text UInt64.to_string
  rw [String.toList_append, Nat.toList_repr]
  cases active <;> rfl

theorem span_digits (n : Nat) (rest : List Char) :
    (Nat.toDigits 10 n ++ ':' :: rest).span (· ≠ ':') = (Nat.toDigits 10 n, ':' :: rest) := by
  have hdigits : ∀ c ∈ Nat.toDigits 10 n, decide (c ≠ ':') = true := by
    intro c hc
    have hdigit := Nat.isDigit_of_mem_toDigits (by omega) (by omega) hc
    rw [decide_eq_true_eq]
    rintro rfl
    cases hdigit
  rw [List.span_eq_takeWhile_dropWhile, List.takeWhile_append_of_pos hdigits, List.dropWhile_append_of_pos hdigits]
  simp

theorem parse_metadata_fence_text (counter : UInt64) (active : Bool) :
    parse_metadata_fence (fence_text counter active) = .ok (counter, active) := by
  have hcounter : String.ofList (Nat.toDigits 10 counter.toNat) = counter.to_string := by
    rw [← Nat.toList_repr, String.ofList_toList]
    rfl
  unfold parse_metadata_fence
  rw [toList_fence_text, span_digits]
  cases active <;> simp [hcounter, parse_revision_to_string]

/-- A fence is short enough to be read whole. -/
theorem take_fence_text (counter : UInt64) (active : Bool) :
    String.ofList ((fence_text counter active).toList.take 24) = fence_text counter active := by
  have hdigits : (Nat.toDigits 10 counter.toNat).length ≤ 20 := by
    rw [Nat.length_toDigits_le_iff (by omega) (by omega)]
    have := counter.toNat_lt
    omega
  rw [List.take_of_length_le, String.ofList_toList]
  rw [toList_fence_text, List.length_append]
  simp only [List.length_cons, List.length_nil]
  omega

theorem next_fence_text {counter : UInt64} {active : Bool} {next : String}
    (hnext : next_fence (some (fence_text counter active)) = .ok next) :
    ∃ later : UInt64, later.toNat = counter.toNat + 1 ∧ next = fence_text later active := by
  unfold next_fence at hnext
  dsimp only at hnext
  rw [parse_metadata_fence_text] at hnext
  obtain ⟨_, hcurrent, hnext⟩ := bind_eq_ok_iff.mp hnext
  cases hcurrent
  obtain ⟨later, hlater, hnext⟩ := bind_eq_ok_iff.mp hnext
  rw [okOr_eq_ok_iff, UInt64.checked_add_eq_some_iff] at hlater
  cases hnext
  exact ⟨later, hlater, rfl⟩

theorem next_fence_none : next_fence none = .ok (fence_text 1 true) := by
  decide

variable {F V C S : Type}

/-- The fence in the metadata of a journal. -/
def fence (db : Database C S) (key : SyncStateKey) : Option String :=
  db.metas[record_id key]?.bind (·.bootstrap_fence)

theorem read_fence_none {db : Database C S} {key : SyncStateKey} (hfence : fence db key = none) :
    read_fence db key = .ok none := by
  unfold fence at hfence
  unfold read_fence
  rw [hfence]

theorem read_fence_text {db : Database C S} {key : SyncStateKey} {counter : UInt64} {active : Bool}
    (hfence : fence db key = some (fence_text counter active)) :
    read_fence db key = .ok (some (fence_text counter active)) := by
  unfold fence at hfence
  unfold read_fence
  rw [hfence]
  dsimp only
  rw [take_fence_text, parse_metadata_fence_text]
  rfl

theorem fence_write_fence {db : Database C S} {key : SyncStateKey} (hmeta : db.metas[record_id key]?.isSome)
    (next : String) : fence (write_fence db key next) key = some next := by
  obtain ⟨row, hrow⟩ := Option.isSome_iff_exists.mp hmeta
  unfold fence write_fence
  rw [hrow]
  simp

theorem isSome_of_fence {db : Database C S} {key : SyncStateKey} {text : String} (hfence : fence db key = some text) :
    db.metas[record_id key]?.isSome := by
  obtain ⟨row, hrow, -⟩ := Option.bind_eq_some_iff.mp hfence
  exact Option.isSome_of_eq_some hrow

theorem fence_write_fence_of_ne {db : Database C S} {key other : SyncStateKey} (hne : other ≠ key) (next : String) :
    fence (write_fence db key next) other = fence db other := by
  have hid : record_id other ≠ record_id key := fun hsame => hne (record_id_injective hsame)
  unfold fence write_fence
  split
  · rw [BTreeMap.getElem?_insert_of_ne hid]
  · rfl

theorem fence_text_injective {counter counter' : UInt64} {active active' : Bool}
    (hsame : fence_text counter active = fence_text counter' active') : counter = counter' ∧ active = active' := by
  have hparse := parse_metadata_fence_text counter active
  rw [hsame, parse_metadata_fence_text] at hparse
  cases hparse
  exact ⟨rfl, rfl⟩

/-! ### The stage of one key -/

/-- What the database has of the stage of one key: the header, the fence, and the pages by the text of their index. -/
@[ext]
structure StageView where
  header : Option Header
  fence : Option String
  pages : String → Option PageRow

def view (db : Database C StageTables) (key : SyncStateKey) : StageView where
  header := db.stages.headers[header_id key]?
  fence := fence db key
  pages index := db.stages.pages[[key.partition_id.val, key.client_id.val, index]]?

/-- The row of a page of this key, under its own index. -/
def PageOf (key : SyncStateKey) (index : String) (row : PageRow) : Prop :=
  row.partition_id = key.partition_id.val ∧ row.client_id = key.client_id.val ∧ row.index = index

/-- A stage under a fence with this counter. -/
structure HasStage (view : StageView) (header : Header) (incarnation counter : UInt64) : Prop where
  found : view.header = some header
  fence : view.fence = some (fence_text counter (!header.cancelled))
  numbered : header.incarnation = incarnation.to_string
  le_counter : incarnation ≤ counter
  pages : header.cancelled → ∀ index, view.pages index = none
  consumed : header.consumed_receipt.isSome → header.cancelled = true

/-- There is no stage, and nothing of one. -/
structure Unstaged (view : StageView) : Prop where
  header : view.header = none
  fence : view.fence = none
  pages : ∀ index, view.pages index = none

/-- What holds of the stage of a key in every reachable state. -/
structure Fenced (key : SyncStateKey) (view : StageView) : Prop where
  pages : ∀ index row, view.pages index = some row → PageOf key index row
  stage : Unstaged view ∨ ∃ header incarnation counter, HasStage view header incarnation counter

/-- The header of a new stage. -/
def fresh_header (incarnation : UInt64) (start manifest : Bytes) : Header where
  format_version := 1
  cancelled := false
  incarnation := incarnation.to_string
  start
  manifest
  consumed_receipt := none
  consumed_revision := none

/-- A new stage, in the place of none or of a closed one, numbered by the next fence. -/
inductive Created : UInt64 → StageView → StageView → Prop where
  | first {view : StageView} (start manifest : Bytes) (hview : Unstaged view) :
      Created 1 view { view with header := some (fresh_header 1 start manifest), fence := some (fence_text 1 true) }
  | replaced {view : StageView} {header : Header} {incarnation counter next : UInt64} (start manifest : Bytes)
      (hview : HasStage view header incarnation counter) (hclosed : header.cancelled = true)
      (hnext : next.toNat = counter.toNat + 1) :
      Created next view
        { view with header := some (fresh_header next start manifest), fence := some (fence_text next true) }

/-- The steps of a stage, apart from those that leave it alone. -/
inductive StageStep (key : SyncStateKey) : StageView → StageView → Prop where
  | created {view next : StageView} {incarnation : UInt64} (hcreated : Created incarnation view next) :
      StageStep key view next
  | rotated {view : StageView} {header : Header} {incarnation counter next : UInt64}
      (hview : HasStage view header incarnation counter) (hnext : next.toNat = counter.toNat + 1) :
      StageStep key view { view with fence := some (fence_text next (!header.cancelled)) }
  | paged {view : StageView} {header : Header} {incarnation counter next : UInt64} {index : String} {row : PageRow}
      (hview : HasStage view header incarnation counter) (hopen : header.cancelled = false)
      (hnext : next.toNat = counter.toNat + 1) (hrow : PageOf key index row) :
      StageStep key view
        { view with fence := some (fence_text next true), pages := Function.update view.pages index (some row) }
  | closed {view : StageView} {header next_header : Header} {incarnation counter next : UInt64}
      (hview : HasStage view header incarnation counter) (hconsumed : header.consumed_receipt = none)
      (hnext : counter.toNat < next.toNat) (hclosed : next_header.cancelled = true)
      (hincarnation : next_header.incarnation = header.incarnation) :
      StageStep key view ⟨some next_header, some (fence_text next false), fun _ => none⟩

theorem HasStage.le_later {view : StageView} {header : Header} {incarnation counter next : UInt64}
    (hview : HasStage view header incarnation counter) (hlater : counter.toNat < next.toNat) : incarnation ≤ next := by
  have hle := UInt64.le_iff_toNat_le.mp hview.le_counter
  exact UInt64.le_iff_toNat_le.mpr (by omega)

theorem Created.hasStage {view next : StageView} {incarnation : UInt64} (hcreated : Created incarnation view next) :
    ∃ start manifest, HasStage next (fresh_header incarnation start manifest) incarnation incarnation ∧
      next.pages = view.pages := by
  cases hcreated with
  | first start manifest hview =>
    exact ⟨start, manifest, ⟨rfl, rfl, rfl, UInt64.le_refl _, fun h => (nomatch h), fun h => (nomatch h)⟩, rfl⟩
  | replaced start manifest hview hclosed hnext =>
    exact ⟨start, manifest, ⟨rfl, rfl, rfl, UInt64.le_refl _, fun h => (nomatch h), fun h => (nomatch h)⟩, rfl⟩

/-- There is a stage after every step. Its counter is above the one before, and so is its number if it is a new one. -/
theorem StageStep.hasStage {key : SyncStateKey} {view next : StageView} (hstep : StageStep key view next) :
    ∃ header' incarnation' counter', HasStage next header' incarnation' counter' ∧
      (Unstaged view ∨ ∃ header incarnation counter, HasStage view header incarnation counter ∧ counter < counter' ∧
        ((incarnation' = incarnation ∧ (header.consumed_receipt.isSome → header' = header)) ∨ counter < incarnation')) := by
  cases hstep with
  | @created _ incarnation hcreated =>
    obtain ⟨start, manifest, hstage, _⟩ := hcreated.hasStage
    refine ⟨fresh_header incarnation start manifest, incarnation, incarnation, hstage, ?_⟩
    cases hcreated with
    | first _ _ hview => exact .inl hview
    | @replaced _ header first counter _ _ _ hview hclosed hnext =>
      have hlater : counter < incarnation := UInt64.lt_iff_toNat_lt.mpr (by omega)
      exact .inr ⟨header, first, counter, hview, hlater, .inr hlater⟩
  | @rotated header incarnation counter next hview hnext =>
    have hlater : counter.toNat < next.toNat := by omega
    exact ⟨header, incarnation, next, { hview with fence := rfl, le_counter := hview.le_later hlater },
      .inr ⟨header, incarnation, counter, hview, UInt64.lt_iff_toNat_lt.mpr hlater, .inl ⟨rfl, fun _ => rfl⟩⟩⟩
  | @paged header incarnation counter next index row hview hopen hnext hrow =>
    have hlater : counter.toNat < next.toNat := by omega
    refine ⟨header, incarnation, next, ⟨hview.found, ?_, hview.numbered, hview.le_later hlater, ?_, hview.consumed⟩,
      .inr ⟨header, incarnation, counter, hview, UInt64.lt_iff_toNat_lt.mpr hlater, .inl ⟨rfl, fun _ => rfl⟩⟩⟩
    · rw [hopen]
      rfl
    · rw [hopen]
      exact fun h => (nomatch h)
  | @closed header next_header incarnation counter next hview hconsumed hnext hclosed hincarnation =>
    refine ⟨next_header, incarnation, next, ⟨rfl, ?_, ?_, hview.le_later hnext, fun _ _ => rfl, fun _ => hclosed⟩,
      .inr ⟨header, incarnation, counter, hview, UInt64.lt_iff_toNat_lt.mpr hnext, .inl ⟨rfl, ?_⟩⟩⟩
    · rw [hclosed]
      rfl
    · rw [hincarnation]
      exact hview.numbered
    · rw [hconsumed]
      exact fun h => (nomatch h)

theorem Fenced.step {key : SyncStateKey} {view next : StageView} (hfenced : Fenced key view)
    (hstep : StageStep key view next) : Fenced key next := by
  obtain ⟨header, incarnation, counter, hstage, _⟩ := hstep.hasStage
  refine ⟨?_, .inr ⟨header, incarnation, counter, hstage⟩⟩
  cases hstep with
  | created hcreated =>
    obtain ⟨start, manifest, _, hpages⟩ := hcreated.hasStage
    rw [hpages]
    exact hfenced.pages
  | rotated hview hnext => exact hfenced.pages
  | @paged header incarnation counter next index row hview hopen hnext hrow =>
    intro other found hfound
    change Function.update view.pages index (some row) other = some found at hfound
    by_cases hsame : other = index
    · subst hsame
      rw [Function.update_self] at hfound
      cases hfound
      exact hrow
    · rw [Function.update_of_ne hsame] at hfound
      exact hfenced.pages other found hfound
  | closed hview hconsumed hnext hclosed hincarnation => exact fun _ _ h => (nomatch h)

/-! ### What an inspection finds -/

variable {store : Store F V C} {db after : Database C StageTables} {key : SyncStateKey}

theorem parse_revision_eq_ok {text : String} {value : UInt64} (hparse : parse_revision text = .ok value) :
    text = value.to_string := by
  unfold parse_revision at hparse
  obtain ⟨parsed, _, hparse⟩ := bind_eq_ok_iff.mp hparse
  obtain ⟨_, hcanonical, hparse⟩ := bind_eq_ok_iff.mp hparse
  cases hparse
  rw [refuse_eq_ok_iff, not_not] at hcanonical
  exact hcanonical.symm

theorem mem_of_admit_pages {rows : List PageRow} {pages found : BTreeMap UInt64 Bytes}
    (hadmits : rows.foldlM admit_page pages = .ok found) :
    (∀ index, index ∈ pages → index ∈ found) ∧
      ∀ row ∈ rows, ∃ index, row.index = index.to_string ∧ index ∈ found := by
  induction rows generalizing pages with
  | nil =>
    cases hadmits
    exact ⟨fun _ h => h, fun _ h => (nomatch h)⟩
  | cons row rows ih =>
    obtain ⟨next, hfirst, hrest⟩ := foldlM_cons_eq_ok_iff.mp hadmits
    unfold admit_page at hfirst
    obtain ⟨index, hindex, hfirst⟩ := bind_eq_ok_iff.mp hfirst
    obtain ⟨_, _, hfirst⟩ := bind_eq_ok_iff.mp hfirst
    cases hfirst
    obtain ⟨hkept, hrows⟩ := ih hrest
    refine ⟨fun other hother => hkept other ?_, List.forall_mem_cons.mpr ⟨⟨index, parse_revision_eq_ok hindex, ?_⟩, hrows⟩⟩
    · exact ExtTreeMap.mem_insert.mpr (.inr hother)
    · exact hkept index ExtTreeMap.mem_insert_self

/-- Fewer rows are selected than the limit of the statement, so none is missing. -/
theorem mem_select_pages (hroom : (select_pages store db key).length ≤ MAX_COMPONENT_ITEMS) {index : String}
    {row : PageRow} (hrow : (view db key).pages index = some row) (hpage : PageOf key index row) :
    (some [key.partition_id.val, key.client_id.val, index], row) ∈ select_pages store db key := by
  obtain ⟨hpartition, hclient, -⟩ := hpage
  unfold select_pages at hroom ⊢
  dsimp only at hroom ⊢
  rw [List.length_take] at hroom
  rw [List.take_of_length_le (by unfold MAX_COMPONENT_ITEMS at hroom; omega)]
  refine List.mem_filter.mpr ⟨List.mem_append_left _ ?_, by simp [hpartition, hclient]⟩
  exact List.mem_map.mpr ⟨(_, row), ExtTreeMap.mem_toList_iff_getElem?_eq_some.mpr hrow, rfl⟩

/-- An inspection finds the header of the key, and all the pages with it. -/
theorem inspect_stage_eq_ok {inspected : InspectedStage} (hinspect : inspect_stage store db key = .ok inspected) :
    inspected.stage.map (·.header) = db.stages.headers[header_id key]? ∧
      ∀ stage, inspected.stage = some stage → ∀ index row, (view db key).pages index = some row → PageOf key index row →
        ∃ number : UInt64, index = number.to_string ∧ number ∈ stage.pages := by
  unfold inspect_stage at hinspect
  obtain ⟨_, _, hinspect⟩ := bind_eq_ok_iff.mp hinspect
  obtain ⟨current, _, hinspect⟩ := bind_eq_ok_iff.mp hinspect
  obtain ⟨aggregate, _, hinspect⟩ := bind_eq_ok_iff.mp hinspect
  obtain ⟨_, hroom, hinspect⟩ := bind_eq_ok_iff.mp hinspect
  rw [refuse_eq_ok_iff, not_or] at hroom
  cases hheader : db.stages.headers[header_id key]? with
  | none =>
    rw [hheader] at hinspect
    obtain ⟨_, _, hinspect⟩ := bind_eq_ok_iff.mp hinspect
    cases hinspect
    exact ⟨rfl, fun _ h => (nomatch h)⟩
  | some header =>
    rw [hheader] at hinspect
    obtain ⟨_, _, hinspect⟩ := bind_eq_ok_iff.mp hinspect
    obtain ⟨manifest, _, hinspect⟩ := bind_eq_ok_iff.mp hinspect
    obtain ⟨pages, hpages, hinspect⟩ := bind_eq_ok_iff.mp hinspect
    cases hinspect
    refine ⟨rfl, ?_⟩
    intro stage hstage index row hrow hpage
    cases hstage
    obtain ⟨-, hadmitted⟩ := mem_of_admit_pages hpages
    have hfew : (select_pages store db key).length ≤ MAX_COMPONENT_ITEMS := by omega
    have hselected := mem_select_pages hfew hrow hpage
    obtain ⟨number, hnumber, hmem⟩ := hadmitted row (List.mem_map_of_mem hselected)
    exact ⟨number, hpage.2.2 ▸ hnumber, hmem⟩

/-! ### Writes -/

theorem header_id_ne {key other : SyncStateKey} (hne : other ≠ key) : header_id other ≠ header_id key :=
  fun hsame => hne (record_id_injective hsame)

theorem page_key_ne {key other : SyncStateKey} (hne : other ≠ key) (index index' : String) :
    [other.partition_id.val, other.client_id.val, index] ≠ [key.partition_id.val, key.client_id.val, index'] := by
  intro hsame
  rw [List.cons.injEq, List.cons.injEq] at hsame
  exact hne (record_id_injective (by rw [record_id, record_id, hsame.1, hsame.2.1]))

theorem getElem?_delete_pages (stage : Stage) (pages : BTreeMap (List String) PageRow) (id : List String) :
    (delete_pages key stage pages)[id]? = if id ∈ stage.pages.keys.map (page_id key) then none else pages[id]? := by
  unfold delete_pages
  generalize stage.pages.keys = indices
  induction indices generalizing pages with
  | nil => rfl
  | cons first indices ih =>
    rw [List.foldl_cons, ih]
    by_cases hsame : id = page_id key first
    · subst hsame
      simp
    · rw [BTreeMap.getElem?_erase_of_ne hsame]
      simp [hsame]

/-- The pages that an inspection found are all that there are. -/
theorem delete_pages_eq_none {inspected : InspectedStage} (hinspect : inspect_stage store db key = .ok inspected)
    {stage : Stage} (hstage : inspected.stage = some stage) (hfenced : Fenced key (view db key)) (index : String) :
    (delete_pages key stage db.stages.pages)[[key.partition_id.val, key.client_id.val, index]]? = none := by
  rw [getElem?_delete_pages]
  split
  · rfl
  · rename_i hkept
    by_contra hne
    obtain ⟨row, hrow⟩ := Option.ne_none_iff_exists'.mp hne
    obtain ⟨number, rfl, hmem⟩ := (inspect_stage_eq_ok hinspect).2 stage hstage index row hrow (hfenced.pages index row hrow)
    exact hkept (List.mem_map_of_mem (ExtTreeMap.mem_keys.mpr hmem))

theorem delete_pages_of_ne {other : SyncStateKey} (hne : other ≠ key) (stage : Stage)
    (pages : BTreeMap (List String) PageRow) (index : String) :
    (delete_pages key stage pages)[[other.partition_id.val, other.client_id.val, index]]? =
      pages[[other.partition_id.val, other.client_id.val, index]]? := by
  rw [getElem?_delete_pages, if_neg]
  intro hmem
  obtain ⟨number, -, hsame⟩ := List.mem_map.mp hmem
  exact page_key_ne hne index number.to_string hsame.symm

theorem stages_write_fence (db : Database C StageTables) (key : SyncStateKey) (next : String) :
    (write_fence db key next).stages = db.stages := by
  unfold write_fence
  split <;> rfl

/-- The stage of one key after the tables of the stages and the fence of the key were replaced. -/
theorem view_write {stages : StageTables} (hmeta : db.metas[record_id key]?.isSome) (next : String) :
    view (write_fence { db with stages } key next) key =
      ⟨stages.headers[header_id key]?, some next,
        fun index => stages.pages[[key.partition_id.val, key.client_id.val, index]]?⟩ := by
  have hstages := stages_write_fence { db with stages } key next
  have hnext := @fence_write_fence C StageTables { db with stages } key hmeta next
  unfold view
  rw [hstages, hnext]

/-- The stages of the other keys are left alone. -/
theorem view_write_of_ne {other : SyncStateKey} (hne : other ≠ key) {stages : StageTables} (next : String)
    (hheader : stages.headers[header_id other]? = db.stages.headers[header_id other]?)
    (hpages : ∀ index : String, stages.pages[[other.partition_id.val, other.client_id.val, index]]? =
      db.stages.pages[[other.partition_id.val, other.client_id.val, index]]?) :
    view (write_fence { db with stages } key next) other = view db other := by
  have hstages := stages_write_fence { db with stages } key next
  have hfence := @fence_write_fence_of_ne C StageTables { db with stages } key other hne next
  unfold view
  rw [hstages, hfence]
  ext1
  · exact hheader
  · rfl
  · exact funext hpages

end surrealdb_rn_core.sync_bootstrap_store
