import BeanGauge.BeanName
import BeanGauge.Proofs.Dict
import BeanGauge.Proofs.Except
import BeanGauge.Proofs.Text.Blank
import BeanGauge.Proofs.Text.Split
/-!
# Bean names and their canonical identifiers

Reading an identifier and writing it canonically are inverse to each other on the names that
identifiers spell. These are the names with a domain before the first colon and at least one tag,
in which no separator and no blank at an end is lost.
-/

namespace BeanGauge.BeanName

/-- What a name must be like to be spelled by an identifier. -/
structure Spellable (b : BeanName) : Prop where
  domain : ':' ∉ b.domain.toList
  tagged : b.tags.entries ≠ []
  keys : ∀ k v, b.tags.get? k = some v → Text.trim k = k ∧ ',' ∉ k.toList ∧ '=' ∉ k.toList
  values : ∀ k v, b.tags.get? k = some v → Text.trim v = v ∧ ',' ∉ v.toList

def segmentOf (tag : String × String) : List Char := tag.1.toList ++ '=' :: tag.2.toList

theorem toList_canonical (b : BeanName) : b.canonical.toList =
    b.domain.toList ++ ':' :: [','].intercalate (b.tags.entries.map segmentOf) := by
  have hcolon : ":".toList = [':'] := by decide
  have hcomma : ",".toList = [','] := by decide
  have hequals : "=".toList = ['='] := by decide
  have hsegment : ∀ t : String × String, (t.1 ++ "=" ++ t.2).toList = segmentOf t := by
    intro t
    simp only [String.toList_append, hequals, List.append_assoc, List.singleton_append, segmentOf]
  simp only [canonical, String.toList_append, String.toList_intercalate, hcolon, hcomma,
    List.map_map, Function.comp_def, hsegment, List.append_assoc, List.singleton_append]

/-- The segment of a tag is read as that tag. -/
theorem tagOfSegment_segmentOf {key value : String} (hequals : '=' ∉ key.toList)
    (hkey : Text.trim key = key) (hvalue : Text.trim value = value) :
    tagOfSegment (segmentOf (key, value)) = .ok (key, value) := by
  have hsplit : Text.splitOnce '=' (segmentOf (key, value)) = some (key.toList, value.toList) :=
    Text.splitOnce_eq_some_iff.2 ⟨rfl, hequals⟩
  rw [tagOfSegment, hsplit]
  show Except.ok (Text.trim key, Text.trim value) = .ok (key, value)
  rw [hkey, hvalue]

/-- A segment has a trimmed key before its first equals sign and a trimmed value behind it. -/
theorem tagOfSegment_eq_ok {segment : List Char} {tag : String × String}
    (h : tagOfSegment segment = .ok tag) :
    Text.trim tag.1 = tag.1 ∧ Text.trim tag.2 = tag.2 ∧ '=' ∉ tag.1.toList ∧
      (∀ c ∈ tag.1.toList, c ∈ segment) ∧ ∀ c ∈ tag.2.toList, c ∈ segment := by
  unfold tagOfSegment at h
  split at h
  · cases h
  rename_i key value hsplit
  cases h
  obtain ⟨rfl, hequals⟩ := Text.splitOnce_eq_some_iff.1 hsplit
  have htrim : ∀ cs, Text.trim (String.ofList (Text.trimChars cs)) =
      String.ofList (Text.trimChars cs) := by
    intro cs
    rw [Text.trim, String.toList_ofList, Text.trimChars_trimChars]
  simp only [String.toList_ofList]
  refine ⟨htrim key, htrim value, ?_, ?_, ?_⟩
  · intro hmem
    exact hequals (Text.mem_of_mem_trimChars hmem)
  · intro c hc
    exact List.mem_append_left _ (Text.mem_of_mem_trimChars hc)
  · intro c hc
    exact List.mem_append_right _ (List.mem_cons_of_mem _ (Text.mem_of_mem_trimChars hc))

/-- An identifier is read by cutting it at the first colon, then at commas, and reading each
segment. -/
theorem parse_eq_ok_iff {identifier : String} {b : BeanName} :
    parse identifier = .ok b ↔ ∃ domain rest tags,
      Text.splitOnce ':' identifier.toList = some (domain, rest) ∧
      (Text.splitAll ',' rest).mapM tagOfSegment = .ok tags ∧
      b = ⟨String.ofList domain, Dict.ofList tags⟩ := by
  rw [parse, mapError_eq_ok_iff, parseChars]
  cases hsplit : Text.splitOnce ':' identifier.toList with
  | none => simp
  | some parts =>
    obtain ⟨domain, rest⟩ := parts
    simp only [bind_eq_ok_iff]
    constructor
    · rintro ⟨tags, htags, hb⟩
      cases hb
      exact ⟨domain, rest, tags, rfl, htags, rfl⟩
    · rintro ⟨_, _, tags, hparts, htags, rfl⟩
      cases hparts
      exact ⟨tags, htags, rfl⟩

/-- The domain of an identifier is what stands before the first colon, or all of it. -/
theorem domainOf_eq_takeWhile (identifier : String) :
    domainOf identifier = String.ofList (identifier.toList.takeWhile (· != ':')) := by
  have hkeep : ∀ cs : List Char, ':' ∉ cs → ∀ c ∈ cs, (c != ':') = true := by
    intro cs hcs c hc
    rw [bne_iff_ne]
    rintro rfl
    exact hcs hc
  rw [domainOf]
  split
  · rename_i hsplit
    have hnone := Text.splitOnce_eq_none_iff.1 hsplit
    rw [List.takeWhile_eq_self_iff.2 (hkeep _ hnone), String.ofList_toList]
  · rename_i domain rest hsplit
    obtain ⟨htext, hdomain⟩ := Text.splitOnce_eq_some_iff.1 hsplit
    rw [htext, List.takeWhile_append_of_pos (hkeep _ hdomain), List.takeWhile_cons]
    simp

/-- The domain that is told apart and the domain of the name that is read are the same. -/
theorem domainOf_of_parse {identifier : String} {b : BeanName} (h : parse identifier = .ok b) :
    domainOf identifier = b.domain := by
  obtain ⟨domain, rest, tags, hsplit, -, rfl⟩ := parse_eq_ok_iff.1 h
  rw [domainOf, hsplit]

/-- Whatever an identifier spells can be spelled again. -/
theorem spellable_of_parse {identifier : String} {b : BeanName}
    (h : parse identifier = .ok b) : b.Spellable := by
  obtain ⟨domain, rest, tags, hsplit, htags, rfl⟩ := parse_eq_ok_iff.1 h
  have hsegment : ∀ k v, (Dict.ofList tags).get? k = some v → ∃ segment,
      ',' ∉ segment ∧ tagOfSegment segment = .ok (k, v) := by
    intro k v hget
    have hmem : (k, v) ∈ tags := Entries.mem_of_mem_ofList (Dict.get?_eq_some_iff.1 hget)
    obtain ⟨segment, hpart, htag⟩ := exists_of_mem_mapM htags _ hmem
    exact ⟨segment, Text.not_mem_of_mem_splitAll hpart, htag⟩
  constructor
  · rw [String.toList_ofList]
    exact (Text.splitOnce_eq_some_iff.1 hsplit).2
  · exact Entries.ofList_ne_nil (ne_nil_of_mapM htags (Text.splitAll_ne_nil ',' rest))
  · intro k v hget
    obtain ⟨segment, hcomma, htag⟩ := hsegment k v hget
    obtain ⟨htrim, -, hequals, hkey, -⟩ := tagOfSegment_eq_ok htag
    exact ⟨htrim, fun hc => hcomma (hkey _ hc), hequals⟩
  · intro k v hget
    obtain ⟨segment, hcomma, htag⟩ := hsegment k v hget
    obtain ⟨-, htrim, -, -, hvalue⟩ := tagOfSegment_eq_ok htag
    exact ⟨htrim, fun hc => hcomma (hvalue _ hc)⟩

theorem Spellable.parse_canonical {b : BeanName} (h : b.Spellable) :
    parse b.canonical = .ok b := by
  have hdomain : Text.splitOnce ':' b.canonical.toList =
      some (b.domain.toList, [','].intercalate (b.tags.entries.map segmentOf)) := by
    rw [toList_canonical]
    exact Text.splitOnce_eq_some_iff.2 ⟨rfl, h.domain⟩
  have hcomma : ∀ part ∈ b.tags.entries.map segmentOf, ',' ∉ part := by
    intro part hpart
    obtain ⟨⟨k, v⟩, hmem, rfl⟩ := List.mem_map.1 hpart
    have hget := Dict.get?_eq_some_iff.2 hmem
    obtain ⟨-, hkey, -⟩ := h.keys k v hget
    obtain ⟨-, hvalue⟩ := h.values k v hget
    simp [segmentOf, hkey, hvalue]
  have hsegments : Text.splitAll ',' ([','].intercalate (b.tags.entries.map segmentOf)) =
      b.tags.entries.map segmentOf :=
    Text.splitAll_intercalate (mt List.map_eq_nil_iff.1 h.tagged) hcomma
  have htags : (b.tags.entries.map segmentOf).mapM tagOfSegment = .ok b.tags.entries := by
    have hread : ∀ t ∈ b.tags.entries, (tagOfSegment ∘ segmentOf) t = .ok (id t) := by
      rintro ⟨k, v⟩ hmem
      have hget := Dict.get?_eq_some_iff.2 hmem
      obtain ⟨hkey, -, hequals⟩ := h.keys k v hget
      exact tagOfSegment_segmentOf hequals hkey (h.values k v hget).1
    rw [List.mapM_map, mapM_eq_pure_map hread, List.map_id]
    rfl
  refine parse_eq_ok_iff.2 ⟨_, _, b.tags.entries, hdomain, ?_, ?_⟩
  · rw [hsegments, htags]
  · rw [String.ofList_toList, Dict.ofList_entries]

/-- The canonical identifier of a name reads back as that name exactly if the name is spellable, and
every name that is read from an identifier is. -/
theorem parse_canonical_iff :
    (∀ b : BeanName, parse b.canonical = .ok b ↔ b.Spellable) ∧
      ∀ (identifier : String) (b : BeanName), parse identifier = .ok b →
        b.Spellable ∧ parse b.canonical = .ok b := by
  constructor
  · intro b
    exact ⟨spellable_of_parse, Spellable.parse_canonical⟩
  · intro identifier b h
    have hb := spellable_of_parse h
    exact ⟨hb, hb.parse_canonical⟩

/-- A name with a key that was given twice, an empty one, and separators in a value. -/
def crowded : BeanName := ⟨"java.lang", Dict.ofList [("", ""), ("a", "2"), ("host", "h:80=x")]⟩

theorem parse_crowded :
    parse "java.lang:host = h:80=x ,a=1,=,a=\u00a02 " = .ok crowded ∧
      crowded.Spellable ∧ parse crowded.canonical = .ok crowded := by
  have hread : parse "java.lang:host = h:80=x ,a=1,=,a=\u00a02 " = .ok crowded :=
    toOption_eq_some_iff.1 (by decide)
  exact ⟨hread, parse_canonical_iff.2 _ crowded hread⟩

end BeanGauge.BeanName
