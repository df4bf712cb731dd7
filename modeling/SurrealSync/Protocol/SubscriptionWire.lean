import SurrealSync.Protocol.SubscriptionCodec

open Std Except

namespace surrealdb_sync_protocol.subscription_codec

open canonical subscription Serde

variable {ciborium : Ciborium}

private theorem forall_mem_iff_of_forall₂ {α β : Type} {R : α → β → Prop} {P : α → Prop} {Q : β → Prop}
    {as : List α} {bs : List β} (h : List.Forall₂ R as bs) (hiff : ∀ a ∈ as, ∀ b, R a b → (P a ↔ Q b)) :
    (∀ a ∈ as, P a) ↔ ∀ b ∈ bs, Q b := by
  induction h with
  | nil => simp
  | cons hab _ ih =>
    obtain ⟨hhead, htail⟩ := List.forall_mem_cons.mp hiff
    rw [List.forall_mem_cons, List.forall_mem_cons, hhead _ hab, ih htail]

private theorem forall₂_of_mem {α β : Type} {R S : α → β → Prop} {as : List α} {bs : List β}
    (h : List.Forall₂ R as bs) (himp : ∀ a ∈ as, ∀ b, R a b → S a b) : List.Forall₂ S as bs := by
  induction h with
  | nil => exact .nil
  | cons hab _ ih =>
    obtain ⟨hhead, htail⟩ := List.forall_mem_cons.mp himp
    exact .cons (hhead _ hab) (ih htail)

/-! ### What the sorter does -/

theorem sorted_list_forall₂ {values items : List Cbor} (h : sorted_list ciborium values = .ok items) :
    List.Forall₂ (fun value item => sorted ciborium value = .ok item) values items := by
  induction values generalizing items with
  | nil =>
    cases h
    exact .nil
  | cons value values ih =>
    simp only [sorted_list, bind_eq_ok_iff, pure, Except.pure, ok.injEq] at h
    obtain ⟨item, hitem, rest, hrest, rfl⟩ := h
    exact .cons hitem (ih hrest)

/-- The sorter encodes the key of an entry and sorts its value. -/
def SortsEntry (ciborium : Ciborium) (entry : Cbor × Cbor) (item : List UInt8 × Cbor × Cbor) : Prop :=
  encode_cbor_value ciborium entry.1 = .ok item.1 ∧ entry.1 = item.2.1 ∧ sorted ciborium entry.2 = .ok item.2.2

theorem sorted_entries_forall₂ {entries : List (Cbor × Cbor)} {items : List (List UInt8 × Cbor × Cbor)}
    (h : sorted_entries ciborium entries = .ok items) :
    List.Forall₂ (SortsEntry ciborium) entries items := by
  induction entries generalizing items with
  | nil =>
    cases h
    exact .nil
  | cons entry entries ih =>
    simp only [sorted_entries, bind_eq_ok_iff, pure, Except.pure, ok.injEq] at h
    obtain ⟨encoded, hencoded, value, hvalue, rest, hrest, rfl⟩ := h
    exact .cons ⟨hencoded, rfl, hvalue⟩ (ih hrest)

theorem sorted_Array {values : List Cbor} {item : Cbor} (h : sorted ciborium (.Array values) = .ok item) :
    ∃ items, item = .Array items ∧
      List.Forall₂ (fun value item => sorted ciborium value = .ok item) values items := by
  rw [sorted] at h
  cases hlist : sorted_list ciborium values with
  | error e =>
    rw [hlist] at h
    cases h
  | ok items =>
    rw [hlist] at h
    cases h
    exact ⟨items, rfl, sorted_list_forall₂ hlist⟩

/-- The entries of a sorted map: those of the map, reordered, with sorted values. -/
theorem sorted_Map {entries : List (Cbor × Cbor)} {item : Cbor} (h : sorted ciborium (.Map entries) = .ok item) :
    ∃ items, item = .Map ((items.insertionSort fun a b => (entry_cmp a b).isLE).map Prod.snd) ∧
      List.Forall₂ (SortsEntry ciborium) entries items := by
  simp only [sorted, bind_eq_ok_iff, pure, Except.pure, ok.injEq] at h
  obtain ⟨items, hitems, rfl⟩ := h
  exact ⟨items, rfl, sorted_entries_forall₂ hitems⟩

/-- The sorter keeps every property that holds of all arrays and maps. -/
theorem every_sorted_iff {p : Cbor → Prop} (harray : ∀ values, p (.Array values))
    (hmap : ∀ entries, p (.Map entries)) {tree item : Cbor} (h : sorted ciborium tree = .ok item) :
    tree.Every p ↔ item.Every p := by
  induction tree generalizing item with
  | Integer value => cases h; rfl
  | Bytes value => cases h; rfl
  | Float bits => cases h; rfl
  | Text value => cases h; rfl
  | Bool value => cases h; rfl
  | Null => cases h; rfl
  | Tag tag value ih => cases h; rfl
  | Array values ih =>
    obtain ⟨items, rfl, hitems⟩ := sorted_Array h
    have hall := forall_mem_iff_of_forall₂ hitems fun value hvalue item hsorted => ih value hvalue hsorted
    simp only [Cbor.Every_Array_iff, harray, true_and, hall]
  | Map entries ih =>
    obtain ⟨items, rfl, hitems⟩ := sorted_Map h
    have hall : (∀ entry ∈ entries, entry.1.Every p ∧ entry.2.Every p) ↔
        ∀ item ∈ items, item.2.1.Every p ∧ item.2.2.Every p := by
      apply forall_mem_iff_of_forall₂ hitems
      rintro entry hentry item ⟨-, hkey, hvalue⟩
      rw [hkey, (ih entry hentry).2 hvalue]
    simp only [Cbor.Every_Map_iff, hmap, true_and, hall, List.forall_mem_map, List.mem_insertionSort]

theorem regular_sorted {tree item : Cbor} (htree : tree.Every Cbor.Regular) (h : sorted ciborium tree = .ok item) :
    item.Every Cbor.Regular :=
  (every_sorted_iff (fun _ => trivial) (fun _ => trivial) h).mp htree

theorem buffered_sorted {tree item : Cbor} (h : sorted ciborium tree = .ok item) : buffered item = buffered tree := by
  rw [Bool.eq_iff_iff, buffered_iff, buffered_iff]
  exact (every_sorted_iff (fun _ => trivial) (fun _ => trivial) h).symm

/-! ### Row values -/

theorem compare_append_left (common left right : List UInt8) :
    compare (common ++ left) (common ++ right) = compare left right := by
  induction common with
  | nil => rfl
  | cons byte common ih => simpa [List.compare_cons_cons] using ih

private theorem length_argument_mono {n m : Nat} (h : n ≤ m) :
    (Cbor.argument n).length ≤ (Cbor.argument m).length := by
  unfold Cbor.argument
  split_ifs <;> simp only [List.length_nil, Cbor.length_bigEndian] <;> omega

private theorem length_encode_Text (value : String) :
    (Cbor.Text value).encode.length = 1 + (Cbor.argument value.utf8ByteSize).length + value.utf8ByteSize := by
  rw [Cbor.encode, List.length_append, Cbor.head, List.length_cons, String.length_as_bytes]
  omega

/-- Encoded texts are ordered as object keys are: heads of longer texts are not
shorter, and texts of one length share the head. -/
theorem entry_cmp_Text (left right : String) (a b : Cbor × Cbor) :
    entry_cmp ((Cbor.Text left).encode, a) ((Cbor.Text right).encode, b) = key_cmp left right := by
  simp only [entry_cmp, key_cmp, length_encode_Text]
  rcases Nat.lt_trichotomy left.utf8ByteSize right.utf8ByteSize with hlt | heq | hgt
  · have hmono := length_argument_mono (Nat.le_of_lt hlt)
    rw [Nat.compare_eq_lt.mpr hlt, Nat.compare_eq_lt.mpr (by omega)]
    rfl
  · rw [heq, Cbor.encode, Cbor.encode, heq, compare_append_left, Nat.compare_eq_eq.mpr rfl, Nat.compare_eq_eq.mpr rfl]
  · have hmono := length_argument_mono (Nat.le_of_lt hgt)
    rw [Nat.compare_eq_gt.mpr hgt, Nat.compare_eq_gt.mpr (by omega)]
    rfl

/-- The CBOR form of a value is already in the order of the sorter. -/
theorem sorted_to_cbor {value : CanonicalTree} {item : Cbor} (h : sorted ciborium (to_cbor value) = .ok item) :
    item = to_cbor value := by
  induction value generalizing item with
  | None => cases h; rfl
  | Null => cases h; rfl
  | Bool value => cases h; rfl
  | Int value => cases h; rfl
  | Float value => cases h; rfl
  | String value => cases h; rfl
  | Bytes value => cases h; rfl
  | RecordId table key ih => cases h; rfl
  | Array values ih =>
    rw [to_cbor, to_cbor_list_eq] at h
    obtain ⟨items, rfl, hitems⟩ := sorted_Array h
    rw [List.forall₂_map_left_iff] at hitems
    have hsame : items = values.map to_cbor := by
      rw [← List.forall₂_eq_eq_eq, List.forall₂_map_right_iff]
      exact (forall₂_of_mem hitems fun value hvalue item hsorted => ih value hvalue hsorted).flip
    rw [to_cbor, to_cbor_list_eq, hsame]
  | Object values ih =>
    rw [to_cbor_Object, object_entries_eq] at h
    obtain ⟨items, rfl, hitems⟩ := sorted_Map h
    rw [List.forall₂_map_left_iff] at hitems
    have hsame : items = (sort_entries values).map fun entry =>
        ((Cbor.Text entry.1).encode, .Text entry.1, to_cbor entry.2) := by
      rw [← List.forall₂_eq_eq_eq, List.forall₂_map_right_iff]
      refine (forall₂_of_mem hitems ?_).flip
      rintro entry hentry item ⟨hencoded, hkey, hvalue⟩
      rw [sort_entries, List.mem_insertionSort] at hentry
      have hvalue := ih entry hentry hvalue
      have hencoded := (encode_cbor_value_eq_ok_iff.mp hencoded).1
      ext1
      · exact hencoded
      · exact Prod.ext hkey.symm hvalue
    have hpairwise : items.Pairwise fun a b => (entry_cmp a b).isLE = true := by
      rw [hsame, List.pairwise_map]
      simp only [entry_cmp_Text]
      exact sort_entries_pairwise values
    rw [hpairwise.insertionSort_eq, hsame, List.map_map, to_cbor_Object, object_entries_eq]
    rfl

/-- Values whose CBOR form has no tag at their top. -/
def Untagged : CanonicalTree → Prop
  | .None | .RecordId _ _ => False
  | .Null | .Bool _ | .Int _ | .Float _ | .String _ | .Bytes _ | .Array _ | .Object _ => True

theorem buffered_to_cbor_iff {value : CanonicalTree} :
    buffered (to_cbor value) = true ↔ EachValue Untagged value := by
  induction value with
  | None => simp [to_cbor, buffered, EachValue, Untagged]
  | Null => simp [to_cbor, buffered, EachValue, Untagged]
  | Bool value => simp [to_cbor, buffered, EachValue, Untagged]
  | Int value => simp [to_cbor, buffered, EachValue, Untagged]
  | Float value => simp [to_cbor, buffered, EachValue, Untagged]
  | String value => simp [to_cbor, buffered, EachValue, Untagged]
  | Bytes value => simp [to_cbor, buffered, EachValue, Untagged]
  | RecordId table key ih => simp [to_cbor, buffered, EachValue, Untagged]
  | Array values ih =>
    rw [to_cbor, to_cbor_list_eq, buffered_Array, List.all_eq_true, List.forall_mem_map, EachValue_Array_iff,
      Untagged, true_and]
    exact forall₂_congr ih
  | Object values ih =>
    have hmem := fun entry => (object_entries_perm values).mem_iff (a := entry)
    rw [to_cbor_Object, buffered_Map, List.all_eq_true, EachValue_Object_iff, Untagged, true_and]
    simp only [hmem, List.forall_mem_map, buffered, Bool.true_and]
    exact forall₂_congr ih

theorem from_cbor_of_untagged {value : CanonicalValue} (huntagged : EachValue Untagged value.tree) :
    from_cbor (to_cbor value.tree) = .ok value := by
  apply from_cbor_eq_ok_iff.mpr
  apply tree_from_cbor_to_cbor value.ordered
  apply huntagged.imp
  intro part hpart
  cases part <;> simp_all [RecordValidates, Untagged]

/-! ### Reading a sorted item -/

/-- The reader gives `value` on whatever the sorter makes of the item. -/
def Reads {α : Type} (ciborium : Ciborium) (read : Cbor → Option α) (tree : Cbor) (value : Option α) : Prop :=
  ∀ item, sorted ciborium tree = .ok item → read item = value

/-- The sorter keeps the name of a field and sorts its value. -/
def SortsField (ciborium : Ciborium) (f entry : String × Cbor) : Prop :=
  f.1 = entry.1 ∧ sorted ciborium f.2 = .ok entry.2

/-- The fields in another order, each with its sorted value. -/
def Rearranged (ciborium : Ciborium) (fs entries : List (String × Cbor)) : Prop :=
  ∃ others, others.Perm fs ∧ List.Forall₂ (SortsField ciborium) others entries

private theorem exists_entries {fs : List (String × Cbor)} {items : List (List UInt8 × Cbor × Cbor)}
    (h : List.Forall₂ (fun f item => SortsEntry ciborium (.Text f.1, f.2) item) fs items) :
    ∃ entries, items.map Prod.snd = entries.map (fun entry => (Cbor.Text entry.1, entry.2)) ∧
      List.Forall₂ (SortsField ciborium) fs entries := by
  induction h with
  | nil => exact ⟨[], rfl, .nil⟩
  | @cons f item fs items hhead _ ih =>
    obtain ⟨entries, hitems, hentries⟩ := ih
    obtain ⟨-, hkey, hvalue⟩ := hhead
    refine ⟨(f.1, item.2.2) :: entries, ?_, .cons ⟨rfl, hvalue⟩ hentries⟩
    rw [List.map_cons, List.map_cons, hitems]
    exact congrArg (· :: _) (Prod.ext hkey.symm rfl)

theorem sorted_struct {fs : List (String × Cbor)} {item : Cbor} (h : sorted ciborium (struct fs) = .ok item) :
    ∃ entries, item = struct entries ∧ Rearranged ciborium fs entries := by
  obtain ⟨items, rfl, hitems⟩ := sorted_Map h
  rw [List.forall₂_map_left_iff] at hitems
  obtain ⟨others, hothers, hperm⟩ :=
    List.perm_comp_forall₂ (List.perm_insertionSort (fun a b => (entry_cmp a b).isLE) items) hitems.flip
  obtain ⟨entries, hentries, hsorted⟩ := exists_entries hothers.flip
  exact ⟨entries, by rw [hentries, struct], others, hperm, hsorted⟩

namespace Rearranged

variable {fs entries : List (String × Cbor)}

theorem names (h : Rearranged ciborium fs entries) : (entries.map Prod.fst).Perm (fs.map Prod.fst) := by
  obtain ⟨others, hperm, hentries⟩ := h
  have hsame : others.map Prod.fst = entries.map Prod.fst := by
    rw [← List.forall₂_eq_eq_eq, List.forall₂_map_left_iff, List.forall₂_map_right_iff]
    exact hentries.imp fun _ _ hsorts => hsorts.1
  exact hsame ▸ hperm.map Prod.fst

theorem exists_of_mem (h : Rearranged ciborium fs entries) {name : String} {tree : Cbor}
    (hmem : (name, tree) ∈ fs) : ∃ item, (name, item) ∈ entries ∧ sorted ciborium tree = .ok item := by
  obtain ⟨others, hperm, hentries⟩ := h
  obtain ⟨⟨_, item⟩, hitem, rfl, hsorted⟩ := List.Forall₂.exists_of_mem hentries (hperm.mem_iff.mpr hmem)
  exact ⟨item, hitem, hsorted⟩

/-- A reader of a struct gets every field that the writer wrote. -/
theorem fields (h : Rearranged ciborium fs entries) (names : List String) (hnames : fs.map Prod.fst = names)
    (hnodup : names.Nodup) :
    ∃ known, Serde.fields names (struct entries) = some known ∧
      ∀ {α : Type} name tree (read : Cbor → Option α) value, (name, tree) ∈ fs → Reads ciborium read tree value →
        required known name read = value := by
  obtain ⟨hknown, hlookup⟩ := fields_of_perm hnodup (hnames ▸ h.names)
  refine ⟨entries, hknown, ?_⟩
  intro α name tree read value hmem hreads
  obtain ⟨item, hitem, hsorted⟩ := h.exists_of_mem hmem
  rw [required, hlookup name item hitem, Option.bind_some, hreads item hsorted]

/-- The reader of an internally tagged enum gets the tag, and buffers the other
fields unless one of them contains a tagged item. -/
theorem internally_tagged {tag kind : String} (h : Rearranged ciborium ((tag, .Text kind) :: fs) entries)
    (hfresh : tag ∉ fs.map Prod.fst) :
    ∃ rest, Rearranged ciborium fs rest ∧ Serde.internally_tagged tag (struct entries) =
      if fs.all fun f => buffered f.2 then some (kind, struct rest) else none := by
  obtain ⟨others, hperm, hentries⟩ := h
  have hother : ∀ f ∈ fs, f.1 ≠ tag := fun f hf heq => hfresh (List.mem_map.mpr ⟨f, hf, heq⟩)
  have hrest : Rearranged ciborium fs (entries.filter fun entry => entry.1 ≠ tag) := by
    refine ⟨others.filter fun f => f.1 ≠ tag, ?_, ?_⟩
    · have hall : fs.filter (fun f => f.1 ≠ tag) = fs := List.filter_eq_self.mpr (by simpa using hother)
      have hfilter := hperm.filter fun f => f.1 ≠ tag
      rw [List.filter_cons_of_neg (by simp), hall] at hfilter
      exact hfilter
    · exact List.rel_filter (fun f entry hsorts => by simp [hsorts.1]) hentries
  have htag : entries.filter (fun entry => entry.1 = tag) = [(tag, .Text kind)] := by
    have hfilter := hperm.filter fun f => f.1 = tag
    have hnone : fs.filter (fun f => f.1 = tag) = [] := List.filter_eq_nil_iff.mpr (by simpa using hother)
    rw [List.filter_cons_of_pos (by simp), hnone, List.perm_singleton] at hfilter
    have hforall : List.Forall₂ (SortsField ciborium) (others.filter fun f => f.1 = tag)
        (entries.filter fun entry => entry.1 = tag) :=
      List.rel_filter (fun f entry hsorts => by simp [hsorts.1]) hentries
    rw [hfilter, List.forall₂_cons_left_iff] at hforall
    obtain ⟨⟨_, item⟩, _, ⟨rfl, hitem⟩, hnil, htail⟩ := hforall
    cases hnil
    cases hitem
    exact htail
  have hbuffered : ((entries.filter fun entry => entry.1 ≠ tag).all fun entry => buffered entry.2) =
      fs.all fun f => buffered f.2 := by
    obtain ⟨middle, hmiddle, hrest⟩ := hrest
    rw [Bool.eq_iff_iff, List.all_eq_true, List.all_eq_true]
    simp only [← hmiddle.mem_iff]
    exact (forall_mem_iff_of_forall₂ hrest fun f _ entry hsorts => by rw [buffered_sorted hsorts.2]).symm
  refine ⟨_, hrest, ?_⟩
  rw [struct, Serde.internally_tagged, text_entries_map, Option.bind_eq_bind, Option.bind_some, htag]
  dsimp only
  rw [hbuffered]

/-- A reader of an internally tagged enum gets every field of the variant. -/
theorem tagged_fields {tag kind : String} (h : Rearranged ciborium ((tag, .Text kind) :: fs) entries)
    (names : List String) (hnames : fs.map Prod.fst = names) (hnodup : (tag :: names).Nodup) :
    ∃ content known, Serde.internally_tagged tag (struct entries) =
        (if fs.all fun f => buffered f.2 then some (kind, content) else none) ∧
      Serde.fields names content = some known ∧
      ∀ {α : Type} name tree (read : Cbor → Option α) value, (name, tree) ∈ fs → Reads ciborium read tree value →
        required known name read = value := by
  obtain ⟨hfresh, hnodup⟩ := List.nodup_cons.mp hnodup
  obtain ⟨rest, hrest, htagged⟩ := h.internally_tagged (hnames ▸ hfresh)
  obtain ⟨known, hfields, hread⟩ := hrest.fields names hnames hnodup
  exact ⟨struct rest, known, htagged, hfields, hread⟩

end Rearranged

/-! ### The derived readers -/

theorem reads_leaf {α : Type} {tree : Cbor} (read : Cbor → Option α) (hleaf : sorted ciborium tree = .ok tree) :
    Reads ciborium read tree (read tree) := by
  intro item h
  rw [hleaf] at h
  cases h
  rfl

theorem reads_text (value : String) : Reads ciborium text (.Text value) (some value) := reads_leaf text rfl

theorem reads_u64 (value : UInt64) : Reads ciborium u64 (integer value) (some value) := by
  have hvalue : u64 (integer value) = some value := CborInteger.toUInt64?_ofUInt64 value
  exact hvalue ▸ reads_leaf u64 rfl

theorem reads_u16 (value : UInt16) : Reads ciborium u16 (integer value.toUInt64) (some value) := by
  have hread : u64 (integer value.toUInt64) = some value.toUInt64 := CborInteger.toUInt64?_ofUInt64 _
  have hvalue : u16 (integer value.toUInt64) = some value := by
    have hlt := value.toNat_lt
    simp only [u16, hread, Option.bind_eq_bind, Option.bind_some, UInt16.toNat_toUInt64, UInt16.size]
    rw [if_pos hlt, UInt16.ofNat_toNat]
  exact hvalue ▸ reads_leaf u16 rfl

theorem reads_record_id (id : RecordId) : Reads ciborium deserialize.record_id (.Text id.val) (some id) :=
  reads_leaf deserialize.record_id rfl

theorem reads_opaque_checkpoint (token : OpaqueCheckpoint) :
    Reads ciborium deserialize.opaque_checkpoint (.Text token.val) (some token) :=
  reads_leaf deserialize.opaque_checkpoint rfl

/-- A reader of a sequence reads every item of it. -/
theorem reads_seq {α β : Type} {read : Cbor → Option β} {tree : α → Cbor} {value : α → Option β}
    (hread : ∀ a, Reads ciborium read (tree a) (value a)) (as : List α) :
    Reads ciborium (seq read) (.Array (as.map tree)) (as.mapM value) := by
  intro item h
  obtain ⟨items, rfl, hitems⟩ := sorted_Array h
  rw [seq]
  rw [List.forall₂_map_left_iff] at hitems
  clear h
  induction hitems with
  | nil => rfl
  | cons hhead _ ih => rw [List.mapM_cons, List.mapM_cons, ih, hread _ _ hhead]

theorem reads_scalar_kind (kind : ScalarKind) :
    Reads ciborium deserialize.scalar_kind (serialize.scalar_kind kind) (some kind) := by
  cases kind <;> exact reads_leaf deserialize.scalar_kind rfl

theorem reads_direction (direction : SortDirection) :
    Reads ciborium deserialize.direction (serialize.direction direction) (some direction) := by
  cases direction <;> exact reads_leaf deserialize.direction rfl

theorem reads_reset_reason (reason : WindowResetReason) :
    Reads ciborium deserialize.reset_reason (serialize.reset_reason reason) (some reason) := by
  cases reason <;> exact reads_leaf deserialize.reset_reason rfl

theorem reads_scalar (scalar : QueryScalar) :
    Reads ciborium deserialize.scalar (serialize.scalar scalar) (some scalar) := by
  intro item h
  cases scalar with
  | Bool value =>
    obtain ⟨entries, rfl, hentries⟩ := sorted_struct h
    obtain ⟨known, hfields, hread⟩ := hentries.fields ["kind", "value"] rfl (by decide)
    have hkind := hread "kind" _ text _ (by simp) (reads_text "bool")
    have hvalue := hread "value" (.Bool value) bool _ (by simp) (reads_leaf bool rfl)
    simp [deserialize.scalar, hfields, hkind, hvalue, Serde.bool]
  | Int value =>
    obtain ⟨entries, rfl, hentries⟩ := sorted_struct h
    obtain ⟨known, hfields, hread⟩ := hentries.fields ["kind", "value"] rfl (by decide)
    have hkind := hread "kind" _ text _ (by simp) (reads_text "int")
    have hvalue := hread "value" (.Integer (.ofInt64 value)) i64 _ (by simp) (reads_leaf i64 rfl)
    simp [deserialize.scalar, hfields, hkind, hvalue, i64]
  | Text value =>
    obtain ⟨entries, rfl, hentries⟩ := sorted_struct h
    obtain ⟨known, hfields, hread⟩ := hentries.fields ["kind", "value"] rfl (by decide)
    have hkind := hread "kind" _ text _ (by simp) (reads_text "text")
    have hvalue := hread "value" _ text _ (by simp) (reads_text value)
    simp [deserialize.scalar, hfields, hkind, hvalue]

theorem reads_scope (scope : ScopeSnapshot) :
    Reads ciborium deserialize.scope (serialize.scope scope) (some scope) := by
  intro item h
  obtain ⟨entries, rfl, hentries⟩ := sorted_struct h
  obtain ⟨known, hfields, hread⟩ :=
    hentries.fields ["identity", "authorizationRevision", "subscriptionRevision"] rfl (by decide)
  have hidentity := hread "identity" _ text _ (by simp) (reads_text scope.identity.val)
  have hauthorization := hread "authorizationRevision" _ u64 _ (by simp) (reads_u64 scope.authorization_revision)
  have hsubscription := hread "subscriptionRevision" _ u64 _ (by simp) (reads_u64 scope.subscription_revision)
  simp [deserialize.scope, hfields, hidentity, hauthorization, hsubscription]

theorem reads_cursor (cursor : Cursor) :
    Reads ciborium deserialize.cursor (serialize.cursor cursor) (some cursor) := by
  intro item h
  obtain ⟨entries, rfl, hentries⟩ := sorted_struct h
  obtain ⟨known, hfields, hread⟩ := hentries.fields ["epoch", "sequence"] rfl (by decide)
  have hepoch := hread "epoch" _ u64 _ (by simp) (reads_u64 cursor.epoch)
  have hsequence := hread "sequence" _ u64 _ (by simp) (reads_u64 cursor.sequence)
  simp [deserialize.cursor, hfields, hepoch, hsequence]

theorem reads_coverage (coverage : WindowCoverage) :
    Reads ciborium deserialize.coverage (serialize.coverage coverage) (some coverage) := by
  intro item h
  obtain ⟨entries, rfl, hentries⟩ := sorted_struct h
  obtain ⟨known, hfields, hread⟩ :=
    hentries.fields ["definitionId", "limit", "orderField", "orderKind", "direction"] rfl (by decide)
  have hdefinition := hread "definitionId" _ text _ (by simp) (reads_text coverage.definition_id)
  have hlimit := hread "limit" _ u16 _ (by simp) (reads_u16 coverage.limit)
  have hfield := hread "orderField" _ text _ (by simp) (reads_text coverage.order_field)
  have hkind := hread "orderKind" _ deserialize.scalar_kind _ (by simp) (reads_scalar_kind coverage.order_kind)
  have hdirection := hread "direction" _ deserialize.direction _ (by simp) (reads_direction coverage.direction)
  simp [deserialize.coverage, hfields, hdefinition, hlimit, hfield, hkind, hdirection]

/-- The parameters are read back whatever the order of their entries. -/
theorem reads_parameters (parameters : BTreeMap String QueryScalar) :
    Reads ciborium deserialize.parameters (serialize.parameters parameters) (some parameters) := by
  intro item h
  obtain ⟨entries, rfl, others, hperm, hentries⟩ := sorted_struct h
  obtain ⟨list, rfl, hlist⟩ := (congr_fun₂ (List.eq_map_comp_perm _) _ _).mpr hperm
  rw [List.forall₂_map_left_iff] at hentries
  have hread : entries.mapM (fun entry => (deserialize.scalar entry.2).map fun value => (entry.1, value)) =
      some list := by
    clear hlist hperm h
    induction hentries with
    | nil => rfl
    | cons hhead _ ih =>
      obtain ⟨hname, hvalue⟩ := hhead
      rw [List.mapM_cons, ih, ← hname, reads_scalar _ _ hvalue]
      rfl
  rw [struct, deserialize.parameters, map, text_entries_map, Option.bind_eq_bind, Option.bind_some, hread,
    Option.map_some, BTreeMap.ofList_of_perm hlist]

@[simp]
theorem buffered_integer (value : UInt64) : buffered (integer value) = true := by
  simp [integer, buffered]

@[simp]
theorem buffered_scalar (scalar : QueryScalar) : buffered (serialize.scalar scalar) = true := by
  cases scalar <;> simp [serialize.scalar, buffered]

@[simp]
theorem buffered_parameters (parameters : BTreeMap String QueryScalar) :
    buffered (serialize.parameters parameters) = true := by
  simp [serialize.parameters]

theorem reads_command (command : SubscriptionCommand) :
    Reads ciborium deserialize.command (serialize.command command) (some command) := by
  intro item h
  cases command with
  | Start subscription_id generation definition_id parameters limit =>
    obtain ⟨entries, rfl, hentries⟩ := sorted_struct h
    obtain ⟨content, known, htagged, hfields, hread⟩ := hentries.tagged_fields
      ["subscriptionId", "generation", "definitionId", "parameters", "limit"] rfl (by decide)
    have hid := hread "subscriptionId" _ text _ (by simp) (reads_text subscription_id)
    have hgeneration := hread "generation" _ u64 _ (by simp) (reads_u64 generation)
    have hdefinition := hread "definitionId" _ text _ (by simp) (reads_text definition_id)
    have hparameters := hread "parameters" _ deserialize.parameters _ (by simp) (reads_parameters parameters)
    have hlimit := hread "limit" _ u16 _ (by simp) (reads_u16 limit)
    rw [if_pos (by simp [buffered])] at htagged
    simp [deserialize.command, htagged, hfields, hid, hgeneration, hdefinition, hparameters, hlimit]
  | Resume subscription_id generation token =>
    obtain ⟨entries, rfl, hentries⟩ := sorted_struct h
    obtain ⟨content, known, htagged, hfields, hread⟩ :=
      hentries.tagged_fields ["subscriptionId", "generation", "token"] rfl (by decide)
    have hid := hread "subscriptionId" _ text _ (by simp) (reads_text subscription_id)
    have hgeneration := hread "generation" _ u64 _ (by simp) (reads_u64 generation)
    have htoken := hread "token" _ deserialize.opaque_checkpoint _ (by simp) (reads_opaque_checkpoint token)
    rw [if_pos (by simp [buffered])] at htagged
    simp [deserialize.command, htagged, hfields, hid, hgeneration, htoken]
  | Cancel subscription_id generation =>
    obtain ⟨entries, rfl, hentries⟩ := sorted_struct h
    obtain ⟨content, known, htagged, hfields, hread⟩ :=
      hentries.tagged_fields ["subscriptionId", "generation"] rfl (by decide)
    have hid := hread "subscriptionId" _ text _ (by simp) (reads_text subscription_id)
    have hgeneration := hread "generation" _ u64 _ (by simp) (reads_u64 generation)
    rw [if_pos (by simp [buffered])] at htagged
    simp [deserialize.command, htagged, hfields, hid, hgeneration]

theorem reads_request (request : SubscriptionRequest) :
    Reads ciborium deserialize.request (serialize.request request) (some request) := by
  intro item h
  obtain ⟨entries, rfl, hentries⟩ := sorted_struct h
  obtain ⟨known, hfields, hread⟩ := hentries.fields
    ["partitionId", "clientId", "requestedScope", "subscriptionRevision", "command"] rfl (by decide)
  have hpartition := hread "partitionId" _ text _ (by simp) (reads_text request.partition_id.val)
  have hclient := hread "clientId" _ text _ (by simp) (reads_text request.client_id.val)
  have hscope := hread "requestedScope" _ text _ (by simp) (reads_text request.requested_scope.val)
  have hrevision := hread "subscriptionRevision" _ u64 _ (by simp) (reads_u64 request.subscription_revision)
  have hcommand := hread "command" _ deserialize.command _ (by simp) (reads_command request.command)
  simp [deserialize.request, hfields, hpartition, hclient, hscope, hrevision, hcommand]

theorem reads_response_kind (response : WindowResponseKind) :
    Reads ciborium deserialize.response_kind (serialize.response_kind response) (some response) := by
  intro item h
  cases response with
  | Snapshot reason =>
    obtain ⟨entries, rfl, hentries⟩ := sorted_struct h
    obtain ⟨content, known, htagged, hfields, hread⟩ := hentries.tagged_fields ["reason"] rfl (by decide)
    have hreason := hread "reason" _ deserialize.reset_reason _ (by simp) (reads_reset_reason reason)
    rw [if_pos (by cases reason <;> rfl)] at htagged
    simp [deserialize.response_kind, htagged, hfields, hreason]
  | Delta before_revision =>
    obtain ⟨entries, rfl, hentries⟩ := sorted_struct h
    obtain ⟨content, known, htagged, hfields, hread⟩ := hentries.tagged_fields ["beforeRevision"] rfl (by decide)
    have hbefore := hread "beforeRevision" _ u64 _ (by simp) (reads_u64 before_revision)
    rw [if_pos (by simp)] at htagged
    simp [deserialize.response_kind, htagged, hfields, hbefore]
  | Cancelled =>
    obtain ⟨entries, rfl, hentries⟩ := sorted_struct h
    obtain ⟨content, known, htagged, hfields, hread⟩ := hentries.tagged_fields [] rfl (by decide)
    rw [if_pos (by rfl)] at htagged
    simp [deserialize.response_kind, htagged]

/-! ### Responses -/

def row_to_cbor (row : SubscriptionRow CanonicalValue) : SubscriptionRow Cbor :=
  ⟨row.record_id, to_cbor row.value.tree, row.version, row.sort_key⟩

def change_to_cbor : MembershipChange CanonicalValue → MembershipChange Cbor
  | .Upsert row => .Upsert (row_to_cbor row)
  | .Leave record_id => .Leave record_id
  | .Delete record_id version => .Delete record_id version

/-- The response with the CBOR form of its row values. -/
def response_to_cbor (response : SubscriptionResponse CanonicalValue) : SubscriptionResponse Cbor :=
  { response with changes := response.changes.map change_to_cbor }

theorem map_response_to_cbor (response : SubscriptionResponse CanonicalValue) :
    map_response (fun value => .ok (to_cbor value.tree)) response = .ok (response_to_cbor response) := by
  have hchanges : response.changes.mapM (map_change fun value => .ok (to_cbor value.tree)) =
      (.ok (response.changes.map change_to_cbor) : Result _) := by
    generalize response.changes = changes
    induction changes with
    | nil => rfl
    | cons change changes ih =>
      rw [List.mapM_cons, ih]
      cases change <;> rfl
  rw [map_response, hchanges]
  rfl

/-- The values of the change have no tagged item. -/
def UntaggedChange (change : MembershipChange CanonicalValue) : Prop :=
  ∀ row, change.row = some row → EachValue Untagged row.value.tree

theorem map_response_from_cbor {response : SubscriptionResponse CanonicalValue}
    (huntagged : ∀ change ∈ response.changes, UntaggedChange change) :
    map_response from_cbor (response_to_cbor response) = .ok response := by
  have hchange : ∀ change ∈ response.changes, map_change from_cbor (change_to_cbor change) = .ok change := by
    intro change hmem
    cases change with
    | Upsert row => simp [map_change, change_to_cbor, map_row, row_to_cbor,
        from_cbor_of_untagged (huntagged _ hmem row rfl), pure, Except.pure]
    | Leave record_id => rfl
    | Delete record_id version => rfl
  have hchanges : (response.changes.map change_to_cbor).mapM (map_change from_cbor) = .ok response.changes := by
    clear huntagged
    generalize response.changes = changes at hchange
    induction changes with
    | nil => rfl
    | cons change changes ih =>
      obtain ⟨hhead, htail⟩ := List.forall_mem_cons.mp hchange
      rw [List.map_cons, List.mapM_cons, hhead, ih htail]
      rfl
  simp [map_response, response_to_cbor, hchanges, pure, Except.pure]

theorem reads_row (row : SubscriptionRow CanonicalValue) :
    Reads ciborium deserialize.row (serialize.row (row_to_cbor row)) (some (row_to_cbor row)) := by
  intro item h
  obtain ⟨entries, rfl, hentries⟩ := sorted_struct h
  obtain ⟨known, hfields, hread⟩ := hentries.fields ["recordId", "value", "version", "sortKey"] rfl (by decide)
  have hvalue : Reads ciborium some (row_to_cbor row).value (some (row_to_cbor row).value) :=
    fun item hitem => congrArg some (sorted_to_cbor hitem)
  have hid := hread "recordId" _ deserialize.record_id _ (by simp) (reads_record_id (row_to_cbor row).record_id)
  have hvalue := hread "value" _ some _ (by simp) hvalue
  have hversion := hread "version" _ u64 _ (by simp) (reads_u64 (row_to_cbor row).version)
  have hsort := hread "sortKey" _ deserialize.scalar _ (by simp) (reads_scalar (row_to_cbor row).sort_key)
  simp [deserialize.row, hfields, hid, hvalue, hversion, hsort]

open Classical in
/-- A change with a tagged item is what the derived reader cannot buffer. -/
theorem reads_change (change : MembershipChange CanonicalValue) :
    Reads ciborium deserialize.change (serialize.change (change_to_cbor change))
      (if UntaggedChange change then some (change_to_cbor change) else none) := by
  intro item h
  cases change with
  | Upsert row =>
    have hbuffered : UntaggedChange (.Upsert row) ↔ buffered (serialize.row (row_to_cbor row)) = true := by
      simp [UntaggedChange, MembershipChange.row, serialize.row, row_to_cbor, buffered, buffered_to_cbor_iff]
    obtain ⟨entries, rfl, hentries⟩ := sorted_struct h
    obtain ⟨content, known, htagged, hfields, hread⟩ := hentries.tagged_fields ["row"] rfl (by decide)
    have hrow := hread "row" _ deserialize.row _ (by simp) (reads_row row)
    rw [List.all_cons, List.all_nil, Bool.and_true] at htagged
    simp only [hbuffered]
    split_ifs at htagged ⊢ with huntagged
    · simp [deserialize.change, htagged, hfields, hrow, change_to_cbor]
    · simp [deserialize.change, htagged]
  | Leave record_id =>
    obtain ⟨entries, rfl, hentries⟩ := sorted_struct h
    obtain ⟨content, known, htagged, hfields, hread⟩ := hentries.tagged_fields ["recordId"] rfl (by decide)
    have hid := hread "recordId" _ deserialize.record_id _ (by simp) (reads_record_id record_id)
    rw [if_pos (by simp [buffered])] at htagged
    simp [deserialize.change, htagged, hfields, hid, change_to_cbor, UntaggedChange, MembershipChange.row]
  | Delete record_id version =>
    obtain ⟨entries, rfl, hentries⟩ := sorted_struct h
    obtain ⟨content, known, htagged, hfields, hread⟩ := hentries.tagged_fields ["recordId", "version"] rfl (by decide)
    have hid := hread "recordId" _ deserialize.record_id _ (by simp) (reads_record_id record_id)
    have hversion := hread "version" _ u64 _ (by simp) (reads_u64 version)
    rw [if_pos (by simp [buffered])] at htagged
    simp [deserialize.change, htagged, hfields, hid, hversion, change_to_cbor, UntaggedChange, MembershipChange.row]

private theorem token_of_required {known : List (String × Cbor)} {token : Option OpaqueCheckpoint}
    (h : required known "token" (option deserialize.opaque_checkpoint) = some token) :
    deserialize.token known = some token := by
  obtain ⟨item, hlookup, hitem⟩ := Option.bind_eq_some_iff.mp h
  rw [deserialize.token, hlookup]
  exact hitem

theorem reads_token (token : Option OpaqueCheckpoint) :
    Reads ciborium (option deserialize.opaque_checkpoint) (serialize.token token) (some token) := by
  cases token <;> exact reads_leaf (option deserialize.opaque_checkpoint) rfl

theorem reads_ordered_ids (ids : List RecordId) :
    Reads ciborium (seq deserialize.record_id) (.Array (ids.map fun id => .Text id.val)) (some ids) := by
  have hids : ids.mapM (fun id => some id) = some ids := by
    simpa using @List.mapM_pure Option RecordId RecordId _ _ ids id
  exact hids ▸ reads_seq reads_record_id ids

private theorem some_bind {α β : Type} (a : α) (f : α → Option β) : (some a >>= f) = f a := rfl

/-- A response is read up to its changes. -/
theorem reads_response_of_changes {response : SubscriptionResponse Cbor}
    {changes : Option (List (MembershipChange Cbor))}
    (hchanges : Reads ciborium (seq deserialize.change) (.Array (response.changes.map serialize.change)) changes) :
    Reads ciborium deserialize.response (serialize.response response)
      (changes.map fun changes => { response with changes }) := by
  intro item h
  obtain ⟨entries, rfl, hentries⟩ := sorted_struct h
  obtain ⟨known, hfields, hread⟩ := hentries.fields ["partitionId", "clientId", "subscriptionId", "generation",
    "planFingerprint", "scope", "frontier", "viewRevision", "coverage", "response", "token", "orderedIds", "changes"]
    rfl (by decide)
  have hpartition := hread "partitionId" _ text _ (by simp) (reads_text response.partition_id.val)
  have hclient := hread "clientId" _ text _ (by simp) (reads_text response.client_id.val)
  have hid := hread "subscriptionId" _ text _ (by simp) (reads_text response.subscription_id)
  have hgeneration := hread "generation" _ u64 _ (by simp) (reads_u64 response.generation)
  have hplan := hread "planFingerprint" _ text _ (by simp) (reads_text response.plan_fingerprint)
  have hscope := hread "scope" _ deserialize.scope _ (by simp) (reads_scope response.scope)
  have hfrontier := hread "frontier" _ deserialize.cursor _ (by simp) (reads_cursor response.frontier)
  have hview := hread "viewRevision" _ u64 _ (by simp) (reads_u64 response.view_revision)
  have hcoverage := hread "coverage" _ deserialize.coverage _ (by simp) (reads_coverage response.coverage)
  have hkind := hread "response" _ deserialize.response_kind _ (by simp) (reads_response_kind response.response)
  have htoken := token_of_required (hread "token" _ _ _ (by simp) (reads_token response.token))
  have hids := hread "orderedIds" _ (seq deserialize.record_id) _ (by simp) (reads_ordered_ids response.ordered_ids)
  have hchanges := hread "changes" _ (seq deserialize.change) _ (by simp) hchanges
  rw [deserialize.response, hfields, some_bind, hpartition, some_bind, hclient, some_bind, hid, some_bind,
    hgeneration, some_bind, hplan, some_bind, hscope, some_bind, hfrontier, some_bind, hview, some_bind, hcoverage,
    some_bind, hkind, some_bind, htoken, some_bind, hids, some_bind, hchanges]
  cases changes <;> rfl

open Classical in
private theorem mapM_ite {α β : Type} {p : α → Prop} {f : α → β} (as : List α) :
    (as.mapM fun a => if p a then some (f a) else none) = if ∀ a ∈ as, p a then some (as.map f) else none := by
  induction as with
  | nil => simp
  | cons a as ih =>
    rw [List.mapM_cons, ih]
    by_cases ha : p a
    · by_cases has : ∀ a ∈ as, p a
      · rw [if_pos ha, if_pos has, if_pos (List.forall_mem_cons.mpr ⟨ha, has⟩)]
        rfl
      · rw [if_pos ha, if_neg has, if_neg fun hall => has (List.forall_mem_cons.mp hall).2]
        rfl
    · rw [if_neg ha, if_neg fun hall => ha (List.forall_mem_cons.mp hall).1]
      rfl

open Classical in
theorem reads_response (response : SubscriptionResponse CanonicalValue) :
    Reads ciborium deserialize.response (serialize.response (response_to_cbor response))
      (if ∀ change ∈ response.changes, UntaggedChange change then some (response_to_cbor response) else none) := by
  have hchanges := reads_seq (@reads_change ciborium) response.changes
  have hmap : response.changes.map (fun change => serialize.change (change_to_cbor change)) =
      (response_to_cbor response).changes.map serialize.change := by
    rw [response_to_cbor, List.map_map]
    rfl
  rw [mapM_ite, hmap] at hchanges
  have hresponse := reads_response_of_changes hchanges
  split_ifs at hresponse ⊢ <;> exact hresponse

/-! ### The codec -/

theorem regular_struct_iff {fs : List (String × Cbor)} :
    (struct fs).Every Cbor.Regular ↔ ∀ f ∈ fs, f.2.Every Cbor.Regular := by
  rw [struct, Cbor.Every_Map_iff, List.forall_mem_map]
  simp [Cbor.Regular, Cbor.Every]

theorem regular_scalar (scalar : QueryScalar) : (serialize.scalar scalar).Every Cbor.Regular := by
  cases scalar <;> rw [serialize.scalar, regular_struct_iff] <;> simp [Cbor.Every, Cbor.Regular]

theorem regular_request (request : SubscriptionRequest) : (serialize.request request).Every Cbor.Regular := by
  have hcommand : (serialize.command request.command).Every Cbor.Regular := by
    cases request.command with
    | Start subscription_id generation definition_id parameters limit =>
      have hparameters : (serialize.parameters parameters).Every Cbor.Regular := by
        rw [serialize.parameters, regular_struct_iff, List.forall_mem_map]
        exact fun entry _ => regular_scalar entry.2
      rw [serialize.command, regular_struct_iff]
      simp [Cbor.Every, Cbor.Regular, integer, hparameters]
    | Resume subscription_id generation token =>
      rw [serialize.command, regular_struct_iff]
      simp [Cbor.Every, Cbor.Regular, integer]
    | Cancel subscription_id generation =>
      rw [serialize.command, regular_struct_iff]
      simp [Cbor.Every, Cbor.Regular, integer]
  rw [serialize.request, regular_struct_iff]
  simp [Cbor.Every, Cbor.Regular, integer, hcommand]

theorem regular_change (change : MembershipChange CanonicalValue) :
    (serialize.change (change_to_cbor change)).Every Cbor.Regular := by
  cases change with
  | Upsert row =>
    have hrow : (serialize.row (row_to_cbor row)).Every Cbor.Regular := by
      have hvalue := regular_to_cbor row.value.tree
      have hsort := regular_scalar row.sort_key
      rw [serialize.row, regular_struct_iff]
      simp [Cbor.Every, Cbor.Regular, integer, row_to_cbor, hvalue, hsort]
    rw [change_to_cbor, serialize.change, regular_struct_iff]
    simp [Cbor.Every, Cbor.Regular, hrow]
  | Leave record_id =>
    rw [change_to_cbor, serialize.change, regular_struct_iff]
    simp [Cbor.Every, Cbor.Regular]
  | Delete record_id version =>
    rw [change_to_cbor, serialize.change, regular_struct_iff]
    simp [Cbor.Every, Cbor.Regular, integer]

theorem regular_response (response : SubscriptionResponse CanonicalValue) :
    (serialize.response (response_to_cbor response)).Every Cbor.Regular := by
  have hscope : (serialize.scope response.scope).Every Cbor.Regular := by
    rw [serialize.scope, regular_struct_iff]
    simp [Cbor.Every, Cbor.Regular, integer]
  have hfrontier : (serialize.cursor response.frontier).Every Cbor.Regular := by
    rw [serialize.cursor, regular_struct_iff]
    simp [Cbor.Every, Cbor.Regular, integer]
  have hcoverage : (serialize.coverage response.coverage).Every Cbor.Regular := by
    rw [serialize.coverage, regular_struct_iff]
    cases response.coverage.order_kind <;> cases response.coverage.direction <;>
      simp [Cbor.Every, Cbor.Regular, integer, serialize.scalar_kind, serialize.direction]
  have hkind : (serialize.response_kind response.response).Every Cbor.Regular := by
    cases response.response with
    | Snapshot reason =>
      rw [serialize.response_kind, regular_struct_iff]
      cases reason <;> simp [Cbor.Every, Cbor.Regular, serialize.reset_reason]
    | Delta before_revision =>
      rw [serialize.response_kind, regular_struct_iff]
      simp [Cbor.Every, Cbor.Regular, integer]
    | Cancelled =>
      rw [serialize.response_kind, regular_struct_iff]
      simp [Cbor.Every, Cbor.Regular]
  have htoken : (serialize.token response.token).Every Cbor.Regular := by
    cases response.token <;> trivial
  have hids : (Cbor.Array (response.ordered_ids.map fun id => .Text id.val)).Every Cbor.Regular := by
    rw [Cbor.Every_Array_iff, List.forall_mem_map]
    exact ⟨trivial, fun _ _ => trivial⟩
  have hchanges : (Cbor.Array ((response_to_cbor response).changes.map serialize.change)).Every Cbor.Regular := by
    rw [Cbor.Every_Array_iff, List.forall_mem_map, response_to_cbor, List.forall_mem_map]
    exact ⟨trivial, fun change _ => regular_change change⟩
  rw [serialize.response, regular_struct_iff]
  simp only [List.forall_mem_cons, List.not_mem_nil, false_imp_iff, implies_true, and_true]
  exact ⟨trivial, trivial, trivial, trivial, trivial, hscope, hfrontier, trivial, hcoverage, hkind, htoken, hids,
    hchanges⟩

/-- The decoder of an encoded envelope gives what its reader makes of the sorted item. -/
theorem decode_of_encode {α : Type} {kind : String} {tree : Cbor} {bytes : List UInt8} {read : Cbor → Option α}
    {value : Option α} (hregular : tree.Every Cbor.Regular) (hread : Reads ciborium read tree value)
    (h : encode ciborium kind tree = .ok bytes) : decode ciborium kind read bytes = okOr value .InvalidEnvelope := by
  simp only [encode, bind_eq_ok_iff, refuse_eq_ok_iff, gt_iff_lt, Nat.not_lt, exists_const, pure, Except.pure,
    ok.injEq] at h
  obtain ⟨item, hsorted, _, hencode, hlimit, _, hpreflight, rfl⟩ := h
  have henvelope : (Cbor.Array [.Text SUBSCRIPTION_PROTOCOL, .Text kind, tree]).Every Cbor.Regular :=
    ⟨trivial, trivial, trivial, hregular, trivial⟩
  have hpassed := hpreflight
  rw [(encode_cbor_value_eq_ok_iff.mp hencode).1, preflight_encode_iff (fits_of_encode_cbor_value hencode)] at hpassed
  have hitem := (read_cbor_value_iff (regular_sorted henvelope hsorted) hencode hlimit).mpr ⟨hpassed, rfl⟩
  obtain ⟨items, rfl, hitems⟩ := sorted_Array hsorted
  simp only [List.forall₂_cons_left_iff, List.forall₂_nil_left_iff] at hitems
  obtain ⟨_, _, hprotocol, ⟨_, _, hkind, ⟨payload, _, hpayload, rfl, rfl⟩, rfl⟩, rfl⟩ := hitems
  cases hprotocol
  cases hkind
  simp [decode, hitem, refuse, hread payload hpayload]

theorem decode_request_of_encode {request : SubscriptionRequest} {bytes : List UInt8}
    (h : encode_subscription_request ciborium request = .ok bytes) :
    decode_subscription_request ciborium bytes = .ok request := by
  have hencode := h
  simp only [encode_subscription_request, bind_eq_ok_iff] at hencode
  obtain ⟨_, _, hencode⟩ := hencode
  have hdecode := decode_of_encode (regular_request request) (reads_request request) hencode
  simp [decode_subscription_request, hdecode, okOr, h, refuse, pure, Except.pure]

/-- The decoder gives back exactly the responses without a tagged row value; the
others it refuses as an invalid envelope. -/
theorem decode_response_of_encode {response : SubscriptionResponse CanonicalValue} {bytes : List UInt8}
    (h : encode_subscription_response ciborium response = .ok bytes) :
    ((∀ change ∈ response.changes, UntaggedChange change) →
      decode_subscription_response ciborium bytes = .ok response) ∧
    (¬ (∀ change ∈ response.changes, UntaggedChange change) →
      decode_subscription_response ciborium bytes = .error .InvalidEnvelope) := by
  have hencode := h
  simp only [encode_subscription_response, map_response_to_cbor, ok_bind, bind_eq_ok_iff] at hencode
  obtain ⟨_, _, hencode⟩ := hencode
  have hdecode := decode_of_encode (regular_response response) (reads_response response) hencode
  constructor
  · intro huntagged
    rw [if_pos huntagged] at hdecode
    simp [decode_subscription_response, hdecode, okOr, map_response_from_cbor huntagged, h, refuse, pure, Except.pure]
  · intro htagged
    rw [if_neg htagged] at hdecode
    rw [decode_subscription_response, hdecode]
    rfl

/-- Every encoded request is decoded again, and an encoded response exactly when none
of its rows holds a none or a record link. -/
theorem subscription_codec_round_trip (ciborium : Ciborium) :
    (∀ request bytes, encode_subscription_request ciborium request = .ok bytes →
      decode_subscription_request ciborium bytes = .ok request) ∧
    (∀ response bytes, encode_subscription_response ciborium response = .ok bytes →
      (decode_subscription_response ciborium bytes = .ok response ↔
        ∀ change ∈ response.changes, ∀ row, change.row = some row → EachValue Untagged row.value.tree)) := by
  refine ⟨fun request bytes => decode_request_of_encode, fun response bytes hencode => ?_⟩
  obtain ⟨hholds, hfails⟩ := decode_response_of_encode hencode
  constructor
  · intro hdecode
    by_contra htagged
    rw [hfails htagged] at hdecode
    cases hdecode
  · exact hholds

/-- A snapshot of one row with this value. -/
def one_row_snapshot (value : CanonicalValue) : SubscriptionResponse CanonicalValue where
  partition_id := ⟨"p"⟩
  client_id := ⟨"c"⟩
  subscription_id := "s"
  generation := 1
  plan_fingerprint := "f"
  scope := ⟨⟨"s"⟩, 1, 1⟩
  frontier := ⟨1, 1⟩
  view_revision := 1
  coverage := ⟨"d", 1, "o", .Int, .Ascending⟩
  response := .Snapshot .Initial
  token := some ⟨"t"⟩
  ordered_ids := [⟨"t:1"⟩]
  changes := [.Upsert ⟨⟨"t:1"⟩, value, 1, .Int 0⟩]

/-- A request with two parameters. -/
def start_request : SubscriptionRequest where
  partition_id := ⟨"p"⟩
  client_id := ⟨"c"⟩
  requested_scope := ⟨"s"⟩
  subscription_revision := 0
  command := .Start "s" 1 "d" (ExtTreeMap.ofList [("bb", .Int (-1)), ("a", .Text "")] compare) 1

theorem subscription_codec_round_trip_null :
    (∃ bytes, encode_subscription_request Cbor.deterministic start_request = .ok bytes ∧
      decode_subscription_request Cbor.deterministic bytes = .ok start_request) ∧
    (∃ bytes, encode_subscription_response Cbor.deterministic (one_row_snapshot ⟨.Null, trivial⟩) = .ok bytes ∧
      decode_subscription_response Cbor.deterministic bytes = .ok (one_row_snapshot ⟨.Null, trivial⟩)) := by
  obtain ⟨hrequest, hresponse⟩ := subscription_codec_round_trip Cbor.deterministic
  constructor
  · have hencodes : (encode_subscription_request Cbor.deterministic start_request).isOk = true := by decide +kernel
    obtain ⟨bytes, hbytes⟩ := isOk_eq_true_iff.mp hencodes
    exact ⟨bytes, hbytes, hrequest _ _ hbytes⟩
  · have hencodes : (encode_subscription_response Cbor.deterministic (one_row_snapshot ⟨.Null, trivial⟩)).isOk =
        true := by decide +kernel
    obtain ⟨bytes, hbytes⟩ := isOk_eq_true_iff.mp hencodes
    refine ⟨bytes, hbytes, (hresponse _ _ hbytes).mpr ?_⟩
    intro change hchange row hrow
    rw [one_row_snapshot, List.mem_singleton] at hchange
    cases hchange
    cases hrow
    trivial

/-- The encoder emits a row without a value, and the decoder refuses the bytes. -/
theorem decode_none_snapshot :
    ∃ bytes, encode_subscription_response Cbor.deterministic (one_row_snapshot ⟨.None, trivial⟩) = .ok bytes ∧
      decode_subscription_response Cbor.deterministic bytes = .error .InvalidEnvelope := by
  have hencodes : (encode_subscription_response Cbor.deterministic (one_row_snapshot ⟨.None, trivial⟩)).isOk =
      true := by decide +kernel
  obtain ⟨bytes, hbytes⟩ := isOk_eq_true_iff.mp hencodes
  refine ⟨bytes, hbytes, (decode_response_of_encode hbytes).2 ?_⟩
  intro huntagged
  exact huntagged _ List.mem_cons_self _ rfl

end surrealdb_sync_protocol.subscription_codec
