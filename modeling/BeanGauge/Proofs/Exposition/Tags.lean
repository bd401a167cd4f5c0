import BeanGauge.Proofs.Exposition.Labels
/-!
# Tags as labels

The tags of a metric are written as texts behind those of the caller, and read again when they
become labels. A tag is cut at its first colon and a later label replaces an earlier one, so every
tag of the metric keeps its value as long as no key has a colon and no two keys become one label.
What the caller adds is seen under all other labels.
-/

namespace BeanGauge.Exposition

/-- The key and the value of a tag: what stands on both sides of its first colon. A tag without one
is a key with the value `true`. -/
inductive ReadsAs : String → String → String → Prop
  | pair {key : String} (h : ':' ∉ key.toList) (value : String) :
    ReadsAs (key ++ ":" ++ value) key value
  | bare {key : String} (h : ':' ∉ key.toList) : ReadsAs key key "true"

theorem splitTag_eq_iff {tag key value : String} :
    splitTag tag = (key, value) ↔ ReadsAs tag key value := by
  constructor
  · intro h
    cases hcut : Text.splitOnce ':' tag.toList with
    | none =>
      rw [splitTag, hcut] at h
      obtain ⟨rfl, rfl⟩ := Prod.mk.inj h
      exact .bare (Text.splitOnce_eq_none_iff.1 hcut)
    | some parts =>
      rw [splitTag, hcut] at h
      obtain ⟨rfl, rfl⟩ := Prod.mk.inj h
      obtain ⟨htag, hkey⟩ := Text.splitOnce_eq_some_iff.1 hcut
      have hjoin : tag = String.ofList parts.1 ++ ":" ++ String.ofList parts.2 := by
        apply String.toList_injective
        simp [String.toList_append, htag]
      rw [hjoin]
      exact .pair (by rwa [String.toList_ofList]) _
  · intro h
    cases h with
    | pair hkey value => exact splitTag_colon hkey value
    | bare hkey => rw [splitTag, Text.splitOnce_eq_none_iff.2 hkey]

/-! ## The last tag of a label -/

def says? (label tag : String) : Option String :=
  if sanitizeLabel (splitTag tag).1 = label then some (splitTag tag).2 else none

def lastSays? (label : String) (tags : List String) : Option String :=
  tags.reverse.findSome? (says? label)

theorem says?_eq_some_iff {label tag value : String} :
    says? label tag = some value ↔ ∃ key, ReadsAs tag key value ∧ sanitizeLabel key = label := by
  rw [says?]
  constructor
  · intro h
    split at h
    · rename_i hkey
      obtain rfl := Option.some.inj h
      exact ⟨_, splitTag_eq_iff.1 rfl, hkey⟩
    · cases h
  · rintro ⟨key, hreads, hkey⟩
    rw [splitTag_eq_iff.2 hreads, if_pos hkey]

theorem says?_eq_none_iff {label tag : String} :
    says? label tag = none ↔ ∀ key value, ReadsAs tag key value → sanitizeLabel key ≠ label := by
  rw [Option.eq_none_iff_forall_ne_some]
  constructor
  · intro h key value hreads hkey
    exact h value (says?_eq_some_iff.2 ⟨key, hreads, hkey⟩)
  · intro h value hsays
    obtain ⟨key, hreads, hkey⟩ := says?_eq_some_iff.1 hsays
    exact h key value hreads hkey

/-- Later tags win. -/
theorem lastSays?_append (label : String) (tags tags' : List String) :
    lastSays? label (tags ++ tags') = (lastSays? label tags').or (lastSays? label tags) := by
  rw [lastSays?, List.reverse_append, List.findSome?_append]
  rfl

/-- Setting a label sets the one that its key is sanitized to. -/
theorem get?_withLabel (e : Exposition) (key value label : String) :
    (e.withLabel key value).labels.get? label =
      if sanitizeLabel key = label then some value else e.labels.get? label := by
  rw [withLabel]
  split
  · rename_i hkey
    rw [hkey, Dict.get?_insert_self]
  · rename_i hkey
    exact Dict.get?_insert_ne _ _ (Ne.symm hkey)

/-- A label has what the last of its tags says, and what it had before if no tag says anything. -/
theorem get?_labels_withTags (e : Exposition) (tags : List String) (label : String) :
    (e.withTags tags).labels.get? label = (lastSays? label tags).or (e.labels.get? label) := by
  induction tags using List.reverseRecOn with
  | nil => rfl
  | append_singleton tags tag ih =>
    rw [withTags, List.foldl_append, lastSays?_append]
    have hlast : lastSays? label [tag] = says? label tag := by
      rw [lastSays?, List.reverse_singleton, List.findSome?_singleton]
    show ((e.withTags tags).withLabel _ _).labels.get? label = _
    rw [get?_withLabel, ih, hlast, says?]
    split
    · rfl
    · rw [Option.none_or]

/-- Whether the last tag that becomes a label gives it a value. -/
def LastGives (label value : String) (tags : List String) : Prop :=
  ∃ before tag after key, tags = before ++ tag :: after ∧ ReadsAs tag key value ∧
    sanitizeLabel key = label ∧
    ∀ other ∈ after, ∀ key value, ReadsAs other key value → sanitizeLabel key ≠ label

theorem lastSays?_eq_some_iff {label value : String} {tags : List String} :
    lastSays? label tags = some value ↔ LastGives label value tags := by
  rw [lastSays?, List.findSome?_eq_some_iff]
  constructor
  · rintro ⟨after, tag, before, htags, hsays, hnone⟩
    obtain ⟨key, hreads, hkey⟩ := says?_eq_some_iff.1 hsays
    refine ⟨before.reverse, tag, after.reverse, key, ?_, hreads, hkey, ?_⟩
    · rw [← List.reverse_reverse tags, htags]
      simp
    · intro other hother
      exact says?_eq_none_iff.1 (hnone other (List.mem_reverse.1 hother))
  · rintro ⟨before, tag, after, key, rfl, hreads, hkey, hnone⟩
    refine ⟨after.reverse, tag, before.reverse, by simp,
      says?_eq_some_iff.2 ⟨key, hreads, hkey⟩, ?_⟩
    intro other hother
    exact says?_eq_none_iff.2 (hnone other (List.mem_reverse.1 hother))

/-! ## The tags of a metric -/

/-- Whether the tags of a metric become labels of their own: no key has a colon, no two keys become
one label, and none becomes the label of the device if there is one. -/
structure KeepsApart (m : Metric) : Prop where
  colons : ∀ key ∈ m.tags.keys, ':' ∉ key.toList
  labels : ∀ key ∈ m.tags.keys, ∀ key' ∈ m.tags.keys,
    sanitizeLabel key = sanitizeLabel key' → key = key'
  device : m.device.isSome → ∀ key ∈ m.tags.keys, sanitizeLabel key ≠ "device"

/-- The labels of a metric that was given some tags by its caller: one for each tag of the metric,
one for the device, and under all other labels what the last tag of the caller gives. -/
inductive Binds (callers : List String) (m : Metric) : String → String → Prop
  | tag {key value : String} : m.tags.get? key = some value →
    Binds callers m (sanitizeLabel key) value
  | device {device : String} : m.device = some device → Binds callers m "device" device
  | caller {label value : String} : (∀ key ∈ m.tags.keys, sanitizeLabel key ≠ label) →
    (m.device.isSome → label ≠ "device") → LastGives label value callers →
    Binds callers m label value

variable {m : Metric} {label value : String}

theorem splitTag_of_mem (hm : KeepsApart m) {t : String × String} (h : t ∈ m.tags.entries) :
    splitTag (t.1 ++ ":" ++ t.2) = t :=
  splitTag_colon (hm.colons t.1 (List.mem_map_of_mem h)) t.2

/-- A tag of the metric says what it says, since no other tag of the metric becomes its label. -/
theorem lastSays?_tagList_of_get? (hm : KeepsApart m) {key : String}
    (h : m.tags.get? key = some value) : lastSays? (sanitizeLabel key) m.tagList = some value := by
  have hmem := Dict.get?_eq_some_iff.1 h
  have hkey : key ∈ m.tags.keys := List.mem_map_of_mem hmem
  obtain ⟨left, right, hentries⟩ := List.append_of_mem hmem
  have hnodup := m.tags.nodup_keys
  rw [Dict.keys, hentries, List.map_append, List.map_cons, List.nodup_append, List.nodup_cons]
    at hnodup
  refine lastSays?_eq_some_iff.2 ⟨left.map fun t => t.1 ++ ":" ++ t.2, key ++ ":" ++ value,
    right.map fun t => t.1 ++ ":" ++ t.2, key, ?_, .pair (hm.colons key hkey) value, rfl, ?_⟩
  · rw [Metric.tagList, hentries, List.map_append, List.map_cons]
  · intro other hother key' value' hreads hsame
    obtain ⟨t, ht, rfl⟩ := List.mem_map.1 hother
    have hmem' : t ∈ m.tags.entries := by
      rw [hentries]
      exact List.mem_append_right _ (List.mem_cons_of_mem _ ht)
    have hcut := splitTag_of_mem hm hmem'
    rw [splitTag_eq_iff.2 hreads] at hcut
    obtain rfl := hcut
    have heq := hm.labels key' (List.mem_map_of_mem hmem') key hkey hsame
    have hagain : key ∈ right.map Prod.fst := heq ▸ List.mem_map_of_mem ht
    exact hnodup.2.1.1 hagain

theorem lastSays?_tagList_eq_none_iff (hm : KeepsApart m) :
    lastSays? label m.tagList = none ↔ ∀ key ∈ m.tags.keys, sanitizeLabel key ≠ label := by
  constructor
  · rintro hnone key hkey rfl
    obtain ⟨value, hvalue⟩ := Option.isSome_iff_exists.1 (Dict.mem_keys_iff.1 hkey)
    rw [lastSays?_tagList_of_get? hm hvalue] at hnone
    cases hnone
  · intro h
    rw [lastSays?, List.findSome?_eq_none_iff]
    intro tag htag
    obtain ⟨t, ht, rfl⟩ := List.mem_map.1 (List.mem_reverse.1 htag)
    rw [says?, splitTag_of_mem hm ht, if_neg (h t.1 (List.mem_map_of_mem ht))]

/-- If no two keys meet after sanitizing, a label has the value of the tag that is written so. -/
theorem lastSays?_tagList_eq_some_iff (hm : KeepsApart m) :
    lastSays? label m.tagList = some value ↔
      ∃ key, m.tags.get? key = some value ∧ sanitizeLabel key = label := by
  constructor
  · intro h
    have hsome : ¬∀ key ∈ m.tags.keys, sanitizeLabel key ≠ label := by
      rw [← lastSays?_tagList_eq_none_iff hm, h]
      exact Option.some_ne_none value
    simp only [not_forall, not_not] at hsome
    obtain ⟨key, hkey, hlabel⟩ := hsome
    obtain ⟨value', hvalue'⟩ := Option.isSome_iff_exists.1 (Dict.mem_keys_iff.1 hkey)
    have hlast := lastSays?_tagList_of_get? hm hvalue'
    rw [hlabel, h] at hlast
    exact ⟨key, hvalue'.trans hlast.symm, hlabel⟩
  · rintro ⟨key, hkey, rfl⟩
    exact lastSays?_tagList_of_get? hm hkey

theorem sanitizeLabel_device : sanitizeLabel "device" = "device" := by decide

/-- The labels of a sample whose tags are those of the caller and those of the metric. -/
theorem get?_labels_ofSample (callers : List String) (m : Metric) (name : String) (x : Float)
    (kind : MetricKind) (label : String) :
    (ofSample ⟨name, x, callers ++ m.tagList, m.device, kind⟩).labels.get? label =
      (if label = "device" then m.device else none).or
        ((lastSays? label m.tagList).or (lastSays? label callers)) := by
  have htags : (({ ofValue name x with kind := kind } : Exposition).withTags
      (callers ++ m.tagList)).labels.get? label =
      (lastSays? label m.tagList).or (lastSays? label callers) := by
    rw [get?_labels_withTags, lastSays?_append]
    exact Option.or_none
  rw [ofSample]
  cases m.device with
  | none =>
    rw [ite_self, Option.none_or]
    exact htags
  | some device =>
    show (withLabel _ "device" device).labels.get? label = _
    rw [get?_withLabel, sanitizeLabel_device]
    by_cases hlabel : label = "device"
    · rw [if_pos hlabel.symm, if_pos hlabel, Option.some_or]
    · rw [if_neg (Ne.symm hlabel), if_neg hlabel, Option.none_or]
      exact htags

/-- Every tag of a metric is a label with its own value, the device is one, and all other labels
are those of the last tags of the caller. -/
theorem labels_ofSample_iff (hm : KeepsApart m) (callers : List String) (name : String) (x : Float)
    (kind : MetricKind) (label value : String) :
    (ofSample ⟨name, x, callers ++ m.tagList, m.device, kind⟩).labels.get? label = some value ↔
      Binds callers m label value := by
  rw [get?_labels_ofSample, Option.or_eq_some_iff, Option.or_eq_some_iff,
    lastSays?_tagList_eq_some_iff hm, lastSays?_tagList_eq_none_iff hm, lastSays?_eq_some_iff]
  constructor
  · rintro (hdevice | ⟨hother, ⟨key, hkey, rfl⟩ | ⟨hkeys, hgives⟩⟩)
    · split at hdevice
      · rename_i hlabel
        rw [hlabel]
        exact .device hdevice
      · cases hdevice
    · exact .tag hkey
    · refine .caller hkeys ?_ hgives
      rintro hdevice rfl
      rw [if_pos rfl] at hother
      rw [hother] at hdevice
      cases hdevice
  · intro h
    cases h with
    | @tag key _ hkey =>
      refine .inr ⟨?_, .inl ⟨key, hkey, rfl⟩⟩
      split
      · rename_i hlabel
        by_contra hdevice
        have hmem := Dict.mem_keys_iff.2 (Option.isSome_of_mem hkey)
        exact hm.device (Option.isSome_iff_ne_none.2 hdevice) key hmem hlabel
      · rfl
    | device hdevice => exact .inl (by rw [if_pos rfl, hdevice])
    | caller hkeys hdevice hgives =>
      refine .inr ⟨?_, .inr ⟨hkeys, hgives⟩⟩
      split
      · rename_i hlabel
        by_contra hsome
        exact hdevice (Option.isSome_iff_ne_none.2 hsome) hlabel
      · rfl

/-- A queue whose tags have colons, a bare value and a key that is no label. -/
def queue : Metric where
  domain := "org.apache.activemq"
  bean := "org.apache.activemq:Broker-Name=b:1,Destination=,Type=Queue"
  leaf := "QueueSize"
  value := 5
  tags := Dict.ofList [("Broker-Name", "b:1"), ("Destination", ""), ("Type", "Queue")]
  namePrefix := "activemq"
  nameOverride := none
  kind := .gauge
  device := some "b:1:"
  send := true

/-- Its labels, with a caller that has tags for some of them, one tag twice and one without a
value. -/
theorem queue_labels : KeepsApart queue ∧
    ∃ labels, labels = (ofSample ⟨"size", 5,
        ["Type:Topic", "env:a", "device:none", "paged", "env:b"] ++ queue.tagList,
        queue.device, .gauge⟩).labels ∧
      labels.get? "Broker_Name" = some "b:1" ∧ labels.get? "Destination" = some "" ∧
      labels.get? "Type" = some "Queue" ∧ labels.get? "device" = some "b:1:" ∧
      labels.get? "env" = some "b" ∧ labels.get? "paged" = some "true" := by
  have hapart : KeepsApart queue := by
    constructor
    · decide
    · decide
    · intro _
      decide
  have hlabels := labels_ofSample_iff hapart
    ["Type:Topic", "env:a", "device:none", "paged", "env:b"] "size" 5 .gauge
  have hothers : ∀ label, label = "env" ∨ label = "paged" →
      ∀ key ∈ queue.tags.keys, sanitizeLabel key ≠ label := by
    rintro label (rfl | rfl)
    · decide
    · decide
  refine ⟨hapart, _, rfl, ?_, ?_, ?_, ?_, ?_, ?_⟩
  · exact (hlabels _ _).2 (@Binds.tag _ _ "Broker-Name" _ (by decide))
  · exact (hlabels _ _).2 (@Binds.tag _ _ "Destination" _ (by decide))
  · exact (hlabels _ _).2 (@Binds.tag _ _ "Type" _ (by decide))
  · exact (hlabels _ _).2 (.device rfl)
  · refine (hlabels _ _).2 (.caller (hothers _ (.inl rfl)) (fun _ => by decide) ?_)
    exact lastSays?_eq_some_iff.1 (by decide)
  · refine (hlabels _ _).2 (.caller (hothers _ (.inr rfl)) (fun _ => by decide) ?_)
    exact lastSays?_eq_some_iff.1 (by decide)

end BeanGauge.Exposition
